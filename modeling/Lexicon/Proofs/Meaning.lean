import Lexicon.Proofs.Parsing
import Lexicon.Proofs.Texts
import Lexicon.Script.Filter

/-!
# What scripts mean

The meaning of an expression is a proposition about an entry, given by the tree alone. Compiling a
script keeps it: the filter holds exactly of the entries of which the expression does. Compiling
fails for the form of the script first, and then for the leftmost of its patterns that is refused.
-/

namespace Lexicon.Script

open Search (TextTest QueryError)

/-- A text is a pattern. -/
def IsPattern (s : String) : Prop := ∃ p, Pattern.compile s = .ok p

/-- The entry carries the text at one of the locations of the field. -/
def Field.Carries (f : Field) (entry : Entry) (s : String) : Prop :=
  ∃ l ∈ f.locations, l.Carries entry s

/-- What a relation with a literal says of all the texts of a field together. -/
def TextRelation.Holds (carries : String → Prop) (literal : String) : TextRelation → Prop
  | .startsWith => ∃ s, carries s ∧ literal.toList <+: s.toList
  | .endsWith => ∃ s, carries s ∧ literal.toList <:+ s.toList
  | .contains => ∃ s, carries s ∧ literal.toList <:+: s.toList
  | .regexp => ∃ s, carries s ∧ ∃ p, Pattern.compile literal = .ok p ∧ p.isFoundIn s = true
  | .eq => ∃ s, carries s ∧ s = literal
  | .ne => ¬ ∃ s, carries s ∧ s = literal

/-- What a comparison says of two whole numbers. -/
def Comparison.Holds (a b : Int) : Comparison → Prop
  | .eq => a = b
  | .ne => a ≠ b
  | .lt => a < b
  | .le => a ≤ b
  | .gt => a > b
  | .ge => a ≥ b

mutual

/-- What an expression says of an entry. -/
def Expr.Holds (entry : Entry) : Expr → Prop
  | .const value => value = true
  | .all parts => AllHold entry parts
  | .any parts => SomeHolds entry parts
  | .not part => ¬ part.Holds entry
  | .test field relation literal => relation.Holds (field.Carries entry) literal
  | .present field => ∃ s, field.Carries entry s
  | .compareId comparison value => comparison.Holds entry.headword.id.toInt value.toInt

/-- Every expression holds of the entry. -/
def AllHold (entry : Entry) : List Expr → Prop
  | [] => True
  | part :: parts => part.Holds entry ∧ AllHold entry parts

/-- Some expression holds of the entry. -/
def SomeHolds (entry : Entry) : List Expr → Prop
  | [] => False
  | part :: parts => part.Holds entry ∨ SomeHolds entry parts

end

theorem Expr.holds_all_iff {entry : Entry} {parts : List Expr} :
    (Expr.all parts).Holds entry ↔ ∀ part ∈ parts, part.Holds entry := by
  rw [Expr.Holds]
  induction parts with
  | nil => simp [AllHold]
  | cons part parts ih => rw [AllHold, ih, List.forall_mem_cons]

theorem Expr.holds_any_iff {entry : Entry} {parts : List Expr} :
    (Expr.any parts).Holds entry ↔ ∃ part ∈ parts, part.Holds entry := by
  rw [Expr.Holds]
  induction parts with
  | nil => simp [SomeHolds]
  | cons part parts ih => simp only [SomeHolds, ih, List.mem_cons, exists_eq_or_imp]

/-- Induction over an expression, with a hypothesis for each of its parts. -/
@[elab_as_elim, induction_eliminator]
theorem Expr.ind {motive : Expr → Prop} (const : ∀ value, motive (.const value))
    (all : ∀ parts, (∀ part ∈ parts, motive part) → motive (.all parts))
    (any : ∀ parts, (∀ part ∈ parts, motive part) → motive (.any parts))
    (not : ∀ part, motive part → motive (.not part))
    (test : ∀ field relation literal, motive (.test field relation literal))
    (present : ∀ field, motive (.present field))
    (compareId : ∀ comparison value, motive (.compareId comparison value)) (e : Expr) :
    motive e :=
  @Expr.rec motive (fun parts => ∀ part ∈ parts, motive part) const all any not test present
    compareId (by simp) (fun _ _ h hs => List.forall_mem_cons.mpr ⟨h, hs⟩) e

section Patterns

mutual

/-- The patterns of an expression, from left to right. -/
def Expr.patterns : Expr → List String
  | .test _ .regexp literal => [literal]
  | .all parts | .any parts => patternsOf parts
  | .not part => part.patterns
  | .const _ | .test _ _ _ | .present _ | .compareId _ _ => []

/-- The patterns of expressions, from left to right. -/
def patternsOf : List Expr → List String
  | [] => []
  | part :: parts => part.patterns ++ patternsOf parts

end

/-- The texts that stand behind the operator for patterns, from left to right. -/
def patternTokens : List Token → List String
  | .operator .regexp :: .text s :: ts => s :: patternTokens ts
  | _ :: ts => patternTokens ts
  | [] => []

/-- No pattern is torn apart where the second part does not begin with a text. -/
theorem patternTokens_append {us vs : List Token} (h : ∀ s, vs.head? ≠ some (.text s)) :
    patternTokens (us ++ vs) = patternTokens us ++ patternTokens vs := by
  fun_induction patternTokens us with
  | case1 s ts ih => simp only [List.cons_append, patternTokens, ih]
  | case2 t ts hne ih =>
      rw [List.cons_append, patternTokens, ih]
      rintro s ts' rfl hts
      cases ts with
      | nil => exact h s (by simpa using congrArg List.head? hts)
      | cons u us =>
          obtain ⟨rfl, -⟩ := List.cons.inj hts
          exact hne s us rfl rfl
  | case3 => rfl

theorem patternTokens_chain {separator : Token}
    (hs : ∀ us, patternTokens (separator :: us) = patternTokens us)
    (ht : ∀ s, separator ≠ .text s) {more : List (List Token × Expr)}
    (hall : ∀ m ∈ more, m.2.patterns = patternTokens m.1) (ts : List Token) :
    patternTokens (ts ++ more.flatMap fun m => separator :: m.1) =
      patternTokens ts ++ patternsOf (more.map Prod.snd) := by
  induction more generalizing ts with
  | nil => simp [patternsOf]
  | cons m more ih =>
      obtain ⟨hm, hrest⟩ := List.forall_mem_cons.mp hall
      rw [List.flatMap_cons, patternTokens_append (by simpa using fun s => ht s), List.cons_append,
        hs, ih hrest, List.map_cons, patternsOf, hm]

/-- The patterns of a tree are those of its tokens, in the same order. -/
theorem Derives.patterns_eq {limit n : Nat} {c : Category} {ts : List Token} {e : Expr}
    (h : Derives limit n c ts e) : e.patterns = patternTokens ts := by
  induction h with
  | disjunct _ ih | conjunct _ ih | primary _ ih | test _ ih => exact ih
  | disjunction _ _ _ ih ihm =>
      rw [patternTokens_chain (fun _ => rfl) (by simp) ihm, ← ih]
      rfl
  | conjunction _ _ _ ih ihm =>
      rw [patternTokens_chain (fun _ => rfl) (by simp) ihm, ← ih]
      rfl
  | negation _ _ ih => exact ih
  | group _ _ ih =>
      rw [List.cons_append, patternTokens, patternTokens_append (by simp), ih]
      · exact (List.append_nil _).symm
      · simp
  | constant => rfl
  | @compareId _ _ comparison => cases comparison <;> rfl
  | @compareText _ _ _ relation => cases relation <;> rfl
  | present => rfl

/-- From left to right, the pattern is the first one that is refused. -/
inductive FirstRefused : List String → String → Pattern.Refusal → Prop
  | here {s ss refusal} (h : Pattern.compile s = .error refusal) : FirstRefused (s :: ss) s refusal
  | later {t ss s refusal} (h : IsPattern t) (tail : FirstRefused ss s refusal) :
      FirstRefused (t :: ss) s refusal

variable {ss ss' : List String} {s : String} {refusal : Pattern.Refusal}

theorem FirstRefused.not_forall (h : FirstRefused ss s refusal) : ¬ ∀ t ∈ ss, IsPattern t := by
  induction h with
  | here h => simp [IsPattern, h]
  | later h _ ih => exact fun hall => ih (List.forall_mem_cons.mp hall).2

theorem FirstRefused.functional (h : FirstRefused ss s refusal) {s' : String}
    {refusal' : Pattern.Refusal} (h' : FirstRefused ss s' refusal') :
    s = s' ∧ refusal = refusal' := by
  induction h with
  | here h =>
      cases h' with
      | here h' => exact ⟨rfl, by simpa [h] using h'⟩
      | later h' => simp [IsPattern, h] at h'
  | later h _ ih =>
      cases h' with
      | here h' => simp [IsPattern, h'] at h
      | later _ tail => exact ih tail

theorem FirstRefused.append_right (h : FirstRefused ss s refusal) (ss' : List String) :
    FirstRefused (ss ++ ss') s refusal := by
  induction h with
  | here h => exact .here h
  | later h _ ih => exact .later h ih

theorem FirstRefused.append_left (h : FirstRefused ss' s refusal) (hss : ∀ t ∈ ss, IsPattern t) :
    FirstRefused (ss ++ ss') s refusal := by
  induction ss with
  | nil => exact h
  | cons t ss ih =>
      obtain ⟨ht, hss⟩ := List.forall_mem_cons.mp hss
      exact .later ht (ih hss)

end Patterns

section Compilation
variable {entry : Entry}

theorem Field.mem_textsAt {f : Field} {s : String} :
    s ∈ Location.textsAt f.locations entry ↔ f.Carries entry s := by
  simp only [Location.mem_textsAt, Location.mem_texts, Field.Carries]

theorem holds_test_iff {f : Field} {t : TextTest} :
    (Filter.test f.locations t).holds entry = true ↔
      ∃ s, f.Carries entry s ∧ t.passes s = true := by
  simp only [Filter.holds, List.any_eq_true, Field.mem_textsAt]

theorem Comparison.holds_iff {c : Comparison} {a b : Int64} :
    c.holds a b = true ↔ c.Holds a.toInt b.toInt := by
  cases c <;> simp [Comparison.holds, Comparison.Holds, Int64.lt_iff_toInt_lt,
    Int64.le_iff_toInt_le, ← Int64.toInt_inj]

theorem Filter.holds_all_iff {fs : List Filter} :
    (Filter.all fs).holds entry = true ↔ ∀ f ∈ fs, f.holds entry = true := by
  rw [Filter.holds]
  induction fs with
  | nil => simp [Filter.holds.allHold]
  | cons f fs ih => rw [Filter.holds.allHold, Bool.and_eq_true, ih, List.forall_mem_cons]

theorem Filter.holds_any_iff {fs : List Filter} :
    (Filter.any fs).holds entry = true ↔ ∃ f ∈ fs, f.holds entry = true := by
  rw [Filter.holds]
  induction fs with
  | nil => simp [Filter.holds.anyHolds]
  | cons f fs ih =>
      rw [Filter.holds.anyHolds, Bool.or_eq_true, ih]
      simp only [List.mem_cons, exists_eq_or_imp]

theorem Filter.holds_not_iff {f : Filter} :
    (Filter.not f).holds entry = true ↔ ¬ f.holds entry = true := by
  rw [Filter.holds, Bool.not_eq_true', Bool.not_eq_true]

/-- What becomes of something with the patterns and the meaning: a filter of the same meaning if
there is no refused pattern, else the first refusal. -/
inductive Compiled (patterns : List String) (holds : Entry → Prop) :
    Except QueryError Filter → Prop
  | ok {f} (hp : ∀ s ∈ patterns, IsPattern s) (hf : ∀ entry, f.holds entry = true ↔ holds entry) :
      Compiled patterns holds (.ok f)
  | error {s refusal} (h : FirstRefused patterns s refusal) :
      Compiled patterns holds (.error (.pattern s refusal))

/-- The filter of a test means that some text of the field passes. -/
theorem compiled_test {f : Field} {t : TextTest} {patterns : List String} {passes : String → Prop}
    (hp : ∀ s ∈ patterns, IsPattern s) (ht : ∀ {s}, t.passes s = true ↔ passes s) :
    Compiled patterns (fun entry => ∃ s, f.Carries entry s ∧ passes s)
      (.ok (.test f.locations t)) := by
  apply Compiled.ok hp
  intro entry
  simp only [holds_test_iff, ht]

theorem TextRelation.toFilter_compiled (f : Field) (relation : TextRelation) (literal : String) :
    Compiled (Expr.test f relation literal).patterns
      (fun entry => (Expr.test f relation literal).Holds entry)
      (relation.toFilter f.locations literal) := by
  cases relation with
  | startsWith => exact compiled_test (by simp [Expr.patterns]) TextTest.passes_startsWith
  | endsWith => exact compiled_test (by simp [Expr.patterns]) TextTest.passes_endsWith
  | contains => exact compiled_test (by simp [Expr.patterns]) TextTest.passes_contains
  | eq => exact compiled_test (by simp [Expr.patterns]) TextTest.passes_equals
  | ne =>
      apply Compiled.ok (by simp [Expr.patterns])
      intro entry
      simp only [Filter.holds_not_iff, holds_test_iff, TextTest.passes_equals, Expr.Holds,
        TextRelation.Holds]
  | regexp =>
      cases hc : Pattern.compile literal with
      | ok p =>
          simp only [TextRelation.toFilter, TextTest.ofPattern, hc]
          apply compiled_test (by simp [Expr.patterns, IsPattern, hc])
          simp [TextTest.passes_found, hc]
      | error refusal =>
          simp only [TextRelation.toFilter, TextTest.ofPattern, hc]
          exact .error (.here hc)

/-- What becomes of a list of parts: filters that hold together, and one by one, of the entries of
which the parts do, or the first refusal. -/
inductive CompiledAll (parts : List Expr) : Except QueryError (List Filter) → Prop
  | ok {fs} (hp : ∀ s ∈ patternsOf parts, IsPattern s)
      (hall : ∀ entry, (Filter.all fs).holds entry = true ↔ (Expr.all parts).Holds entry)
      (hany : ∀ entry, (Filter.any fs).holds entry = true ↔ (Expr.any parts).Holds entry) :
      CompiledAll parts (.ok fs)
  | error {s refusal} (h : FirstRefused (patternsOf parts) s refusal) :
      CompiledAll parts (.error (.pattern s refusal))

theorem toFilters_compiled {parts : List Expr}
    (h : ∀ part ∈ parts, Compiled part.patterns (fun entry => part.Holds entry) part.toFilter) :
    CompiledAll parts (toFilters parts) := by
  induction parts with
  | nil =>
      apply CompiledAll.ok (by simp [patternsOf])
      · intro entry
        simp [Filter.holds_all_iff, Expr.holds_all_iff]
      · intro entry
        simp [Filter.holds_any_iff, Expr.holds_any_iff]
  | cons part parts ih =>
      obtain ⟨hpart, hparts⟩ := List.forall_mem_cons.mp h
      -- A refusal in the first part hides those of the others; without one the others decide.
      rw [toFilters]
      generalize part.toFilter = r at hpart
      cases hpart with
      | error h => exact .error (h.append_right _)
      | ok hp hf =>
          have ih := ih hparts
          generalize toFilters parts = r at ih
          cases ih with
          | error h => exact .error (h.append_left hp)
          | ok hps hall hany =>
              apply CompiledAll.ok
              · intro s hs
                exact (List.mem_append.mp hs).elim (hp s) (hps s)
              · intro entry
                simp only [Filter.holds_all_iff, Expr.holds_all_iff] at hall ⊢
                rw [List.forall_mem_cons, List.forall_mem_cons, hf, hall]
              · intro entry
                simp only [Filter.holds_any_iff, Expr.holds_any_iff] at hany ⊢
                simp only [List.mem_cons, exists_eq_or_imp, hf, hany]

/-- Making a filter of an expression keeps its meaning, and fails for its first refusal. -/
theorem Expr.toFilter_compiled (e : Expr) :
    Compiled e.patterns (fun entry => e.Holds entry) e.toFilter := by
  induction e with
  | const value => exact .ok (by simp [Expr.patterns]) fun _ => Iff.rfl
  | all parts ih =>
      rw [Expr.toFilter]
      have h := toFilters_compiled ih
      generalize toFilters parts = r at h
      cases h with
      | error h => exact .error h
      | ok hp hall _ => exact .ok hp hall
  | any parts ih =>
      rw [Expr.toFilter]
      have h := toFilters_compiled ih
      generalize toFilters parts = r at h
      cases h with
      | error h => exact .error h
      | ok hp _ hany => exact .ok hp hany
  | not part ih =>
      rw [Expr.toFilter]
      generalize part.toFilter = r at ih
      cases ih with
      | error h => exact .error h
      | ok hp hf =>
          apply Compiled.ok hp
          intro entry
          rw [Filter.holds_not_iff, hf, Expr.Holds]
  | test f relation literal => exact TextRelation.toFilter_compiled f relation literal
  | present f =>
      apply Compiled.ok (by simp [Expr.patterns])
      intro entry
      simp only [Filter.holds, List.any_eq_true, Location.isPresent_iff, Expr.Holds, Field.Carries]
      constructor
      · rintro ⟨l, hl, s, hs⟩
        exact ⟨s, l, hl, hs⟩
      · rintro ⟨s, l, hl, hs⟩
        exact ⟨l, hl, s, hs⟩
  | compareId c value => exact .ok (by simp [Expr.patterns]) fun entry => Comparison.holds_iff

end Compilation

theorem compile_eq_of_parse_eq_ok {source : String} {e : Expr} (h : parse source = .ok e) :
    compile source = e.toFilter.map (Program.mk source) := by
  rw [compile, h]

theorem compile_eq_of_parse_eq_error {source : String} {problem : CompileError}
    (h : parse source = .error problem) : compile source = .error (.compile problem) := by
  rw [compile, h]

/-- A script compiles exactly when it has a tree and all its patterns are patterns, and then the
program holds of the entries of which the tree does. A script without a tree fails for its form,
whatever its patterns are; any other fails for the leftmost of its patterns that is refused. -/
theorem compile_means_tree (source : String) :
    ((∃ program, compile source = .ok program) ↔
        ∃ e, parse source = .ok e ∧ ∀ s ∈ e.patterns, IsPattern s) ∧
      (∀ program, compile source = .ok program → program.source = source ∧
        ∃ e, parse source = .ok e ∧ ∀ entry, program.holds entry = true ↔ e.Holds entry) ∧
      (∀ problem, compile source = .error (.compile problem) ↔ parse source = .error problem) ∧
      (∀ s refusal, compile source = .error (.pattern s refusal) ↔
        ∃ tokens e, tokenize source = .ok tokens ∧ parse source = .ok e ∧
          FirstRefused (patternTokens (tokens.map Placed.token)) s refusal) ∧
      compile source ≠ .error .hostDisabled := by
  cases hparse : parse source with
  | error problem => simp [compile_eq_of_parse_eq_error hparse]
  | ok e =>
      obtain ⟨tokens, htokens, hd⟩ := tokenize_of_parse hparse
      rw [compile_eq_of_parse_eq_ok hparse]
      have hc := e.toFilter_compiled
      generalize e.toFilter = r at hc
      have hfirst (s : String) (refusal : Pattern.Refusal) :
          (∃ tokens e', tokenize source = .ok tokens ∧ (Except.ok e : Except CompileError Expr) =
            .ok e' ∧ FirstRefused (patternTokens (tokens.map Placed.token)) s refusal) ↔
          FirstRefused e.patterns s refusal := by
        simp [htokens, hd.patterns_eq]
      simp only [hfirst]
      cases hc with
      | ok hp hf =>
          refine ⟨⟨fun _ => ⟨e, rfl, hp⟩, fun _ => ⟨_, rfl⟩⟩, ?_, by simp [Except.map], ?_,
            by simp [Except.map]⟩
          · rintro program ⟨⟩
            exact ⟨rfl, e, rfl, hf⟩
          · exact fun s refusal =>
              ⟨fun h => by simp [Except.map] at h, fun h => absurd hp h.not_forall⟩
      | @error s refusal h =>
          refine ⟨⟨fun ⟨_, h⟩ => by simp [Except.map] at h, ?_⟩, by simp [Except.map],
            by simp [Except.map], ?_, by simp [Except.map]⟩
          · rintro ⟨_, ⟨⟩, hp⟩
            exact absurd hp h.not_forall
          · intro s' refusal'
            constructor
            · rintro ⟨⟩
              exact h
            · intro h'
              obtain ⟨rfl, rfl⟩ := h.functional h'
              rfl

/-- A script with a pattern and a test that no text equals a literal, on an entry without tags. -/
theorem compile_banana :
    ∃ program, compile "tag != 'x' and word ~= 'an'" = .ok program ∧
      program.source = "tag != 'x' and word ~= 'an'" ∧
      program.holds (.ofForm 0 "banana") = true := by
  obtain ⟨hok, hmeans, -⟩ := compile_means_tree "tag != 'x' and word ~= 'an'"
  have htokens : tokenize "tag != 'x' and word ~= 'an'" = .ok
      [⟨0, .name "tag"⟩, ⟨4, .operator .ne⟩, ⟨7, .text "x"⟩, ⟨11, .conj⟩, ⟨15, .name "word"⟩,
        ⟨20, .operator .regexp⟩, ⟨23, .text "an"⟩] := by decide +kernel
  have htag : Field.Named .tag "tag" := ofName?_eq_some_iff.mp (by decide)
  have hword : Field.Named .headword "word" := ofName?_eq_some_iff.mp (by decide)
  have hparse : parse "tag != 'x' and word ~= 'an'" =
      .ok (.all [.test .tag .ne "x", .test .headword .regexp "an"]) := by
    rw [parse_eq_parseTokens htokens, parseTokens_eq_ok_iff]
    exact .disjunct (@Derives.conjunction _ 0 _ _ [(_, _)] (by simp)
      (.primary (.test (@Derives.compareText _ 0 _ _ .ne "x" htag)))
      (List.forall_mem_singleton.mpr
        (.primary (.test (@Derives.compareText _ 0 _ _ .regexp "an" hword)))))
  have hfound : ∃ p, Pattern.compile "an" = .ok p ∧ p.isFoundIn "banana" = true := by
    have h : (Pattern.compile "an").toOption.any (·.isFoundIn "banana") = true := by decide +kernel
    cases hc : Pattern.compile "an" with
    | ok p => exact ⟨p, rfl, by simpa [hc, Except.toOption] using h⟩
    | error refusal => simp [hc, Except.toOption] at h
  obtain ⟨p, hp, hin⟩ := hfound
  obtain ⟨program, hprogram⟩ :=
    hok.mpr ⟨_, hparse, by simp [Expr.patterns, patternsOf, IsPattern, hp]⟩
  obtain ⟨hsource, e, he, hholds⟩ := hmeans program hprogram
  obtain rfl : _ = e := by simpa [hparse] using he
  refine ⟨program, hprogram, hsource, (hholds _).mpr (Expr.holds_all_iff.mpr ?_)⟩
  simp only [List.forall_mem_cons, List.not_mem_nil, false_implies, implies_true, and_true]
  refine ⟨?_, "banana", ⟨.headwordForm, by simp [Field.locations], .headwordForm⟩, p, hp, hin⟩
  rintro ⟨s, ⟨l, hl, hs⟩, -⟩
  obtain rfl := List.mem_singleton.mp hl
  cases hs with
  | tag h => simp [Entry.ofForm] at h

end Lexicon.Script
