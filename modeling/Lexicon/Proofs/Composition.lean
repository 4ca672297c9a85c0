import Lexicon.Proofs.Lexing
import Lexicon.Proofs.Meaning
import Lexicon.Proofs.Nesting

/-!
# Scripts made of scripts

Scripts are put together as texts. The tokens of both parts stay what they are, a chain that is
continued by a disjunction becomes one longer chain of the same meaning, and a part in parentheses
lies one level deeper than it did alone. So a combination of two scripts means the combination of
what they mean, unless it nests too deeply.
-/

namespace Lexicon.Script

/-- The source is cut into the tokens, within some limit they have the tree, and its patterns are
patterns. Only its depth can keep such a script from being compiled. -/
structure Scripted (source : String) (ts : List Token) (e : Expr) : Prop where
  yields : Yields source.toList ts
  derived : ∃ limit, Derives limit 0 .disjunction ts e
  patterns : ∀ s ∈ e.patterns, IsPattern s

section Compiling
variable {source : String} {ts : List Token} {e : Expr}

theorem Scripted.nesting_eq (h : Scripted source ts e) : nesting source = deepest [] ts := by
  obtain ⟨ps, hps, rfl⟩ := h.yields.tokenize
  rw [nesting, hps]

theorem Scripted.derives (h : Scripted source ts e) {limit n : Nat}
    (hn : n + nesting source ≤ limit) : Derives limit n .disjunction ts e := by
  obtain ⟨_, d⟩ := h.derived
  exact d.within (h.nesting_eq ▸ hn)

/-- A script that compiles does not nest too deeply, and its program means what its tree does. -/
theorem scripted_of_compile {p : Program} (h : compile source = .ok p) :
    ∃ ts e, Scripted source ts e ∧ nesting source ≤ maxNesting ∧
      ∀ entry, p.holds entry = true ↔ e.Holds entry := by
  cases hparse : parse source with
  | error problem => simp [compile_eq_of_parse_eq_error hparse] at h
  | ok e =>
      obtain ⟨ps, hps, hd⟩ := tokenize_of_parse hparse
      rw [compile_eq_of_parse_eq_ok hparse] at h
      have hc := e.toFilter_compiled
      generalize e.toFilter = r at h hc
      cases hc with
      | error _ => cases h
      | ok hp hf =>
          cases h
          have hs : Scripted source _ e := ⟨(tokenize_eq_ok_iff.mp hps).yields, ⟨_, hd⟩, hp⟩
          exact ⟨_, e, hs, hs.nesting_eq ▸ hd.deepest_le (Nat.zero_le _), hf⟩

/-- A script that does not nest too deeply compiles, and its program means what its tree does. -/
theorem Scripted.compile_eq_ok (h : Scripted source ts e) (hn : nesting source ≤ maxNesting) :
    ∃ p, compile source = .ok p ∧ ∀ entry, p.holds entry = true ↔ e.Holds entry := by
  obtain ⟨ps, hps, rfl⟩ := h.yields.tokenize
  have hparse : parse source = .ok e := by
    rw [parse_eq_parseTokens hps]
    exact parseTokens_eq_ok_iff.mpr (h.derives (by omega))
  rw [compile_eq_of_parse_eq_ok hparse]
  have hc := e.toFilter_compiled
  generalize e.toFilter = r at hc
  cases hc with
  | error hr => exact absurd h.patterns hr.not_forall
  | ok _ hf => exact ⟨_, rfl, hf⟩

/-- A script that nests too deeply is refused for its form. -/
theorem Scripted.compile_eq_error (h : Scripted source ts e) (hn : maxNesting < nesting source) :
    ∃ problem, compile source = .error (.compile problem) := by
  obtain ⟨ps, hps, rfl⟩ := h.yields.tokenize
  cases hparse : parse source with
  | error problem => exact ⟨problem, compile_eq_of_parse_eq_error hparse⟩
  | ok e' =>
      rw [parse_eq_parseTokens hps] at hparse
      have hle := (parseTokens_eq_ok_iff.mp hparse).deepest_le (Nat.zero_le _)
      rw [h.nesting_eq] at hn
      omega

end Compiling

section Chains
variable {limit n : Nat} {ts us : List Token} {e f : Expr}

/-- A disjunction is a chain of conjunctions, and means that one of them holds. -/
theorem Derives.members (d : Derives limit n .disjunction ts e) :
    ∃ vs first, ∃ more : List (List Token × Expr),
      ts = (vs ++ more.flatMap fun m => .disj :: m.1) ∧
      Derives limit n .conjunction vs first ∧
      (∀ m ∈ more, Derives limit n .conjunction m.1 m.2) ∧
      ∀ entry, e.Holds entry ↔ ∃ g ∈ first :: more.map Prod.snd, g.Holds entry := by
  cases d with
  | disjunct d => exact ⟨ts, e, [], by simp, d, by simp, by simp⟩
  | @disjunction _ vs first more _ hf hm =>
      exact ⟨vs, first, more, rfl, hf, hm, fun _ => Expr.holds_any_iff⟩

/-- Two disjunctions with a separator between them are one disjunction. -/
theorem Derives.append (d : Derives limit n .disjunction ts e)
    (d' : Derives limit n .disjunction us f) :
    ∃ g, Derives limit n .disjunction (ts ++ .disj :: us) g ∧
      ∀ entry, g.Holds entry ↔ e.Holds entry ∨ f.Holds entry := by
  obtain ⟨vs, first, more, rfl, hd, hm, he⟩ := d.members
  obtain ⟨vs', first', more', rfl, hd', hm', hf⟩ := d'.members
  have hall : ∀ m ∈ more ++ (vs', first') :: more', Derives limit n .conjunction m.1 m.2 := by
    intro m h
    rcases List.mem_append.mp h with h | h
    · exact hm m h
    · rcases List.mem_cons.mp h with rfl | h
      · exact hd'
      · exact hm' m h
  refine ⟨_, by simpa using Derives.disjunction (by simp) hd hall, ?_⟩
  intro entry
  rw [he, hf, Expr.holds_any_iff, ← List.cons_append]
  simp only [List.mem_append, or_and_right, exists_or]

end Chains

section Combinations
variable {a b : String} {ts us : List Token} {e f : Expr}

/-- The tokens of a text in parentheses. -/
abbrev inParens (ts : List Token) : List Token := .leftParen :: ts ++ [.rightParen]

/-- A source in parentheses, in front of more text. -/
theorem yields_inParens {rest : List Char} {vs : List Token} (h : Yields a.toList ts)
    (hrest : Yields rest vs) :
    Yields ('(' :: (a.toList ++ ')' :: rest)) (inParens ts ++ vs) := by
  have hclose : Yields (')' :: rest) (.rightParen :: vs) :=
    @Yields.lexeme ')' rest ⟨.rightParen, 1, rest⟩ vs hrest (by decide) rfl
  have hopen := @Yields.lexeme '(' _ ⟨.leftParen, 1, _⟩ _ (h.append separates_rightParen hclose)
    (by decide) rfl
  simpa using hopen

/-- A keyword between blanks, in front of more text. -/
theorem yields_keyword {c : Char} {w rest : List Char} {vs : List Token} (h : Yields rest vs)
    (hc : isNameStart c = true) (hw : w.all isNamePart = true) :
    Yields (' ' :: c :: (w ++ ' ' :: rest)) (wordToken (c :: w) :: vs) :=
  ((h.blank (by decide)).word hc hw (by simp; decide)).blank (by decide)

/-- The tokens of a disjunction of two scripts. -/
theorem yields_or (h : Yields a.toList ts) (h' : Yields b.toList us) :
    Yields (a ++ " or " ++ b).toList (ts ++ .disj :: us) := by
  have hword : wordToken ['o', 'r'] = .disj := by decide
  have hor := @yields_keyword 'o' ['r'] _ _ h' (by decide) (by decide)
  rw [hword] at hor
  simpa using h.append separates_space hor

/-- The tokens of a conjunction of two scripts in parentheses. -/
theorem yields_and (h : Yields a.toList ts) (h' : Yields b.toList us) :
    Yields ("(" ++ a ++ ") and (" ++ b ++ ")").toList (inParens ts ++ .conj :: inParens us) := by
  have hword : wordToken ['a', 'n', 'd'] = .conj := by decide
  have hand := @yields_keyword 'a' ['n', 'd'] _ _ (yields_inParens h' yields_nil) (by decide)
    (by decide)
  rw [hword] at hand
  simpa using yields_inParens h hand

/-- The tokens of the negation of a script in parentheses. -/
theorem yields_not (h : Yields a.toList ts) :
    Yields ("not (" ++ a ++ ")").toList (.neg :: inParens ts) := by
  have hword : wordToken ['n', 'o', 't'] = .neg := by decide
  have hblank := (yields_inParens h yields_nil).blank (by decide : Unicode.isBlank ' ' = true)
  have hnot := @Yields.word 'n' ['o', 't'] _ _ hblank (by decide) (by decide) (by simp; decide)
  rw [hword] at hnot
  simpa using hnot

theorem Scripted.spans (h : Scripted a ts e) : Spans .disjunction ts := by
  obtain ⟨_, d⟩ := h.derived
  exact d.spans

/-- A script in parentheses is a primary phrase if its levels and one more fit. -/
theorem Scripted.group (h : Scripted a ts e) {limit n : Nat} (hn : n + nesting a < limit) :
    Derives limit n .primary (inParens ts) e :=
  .group (by omega) (h.derives (by omega))

/-- A disjunction of scripts nests as deep as the deeper one of them. -/
theorem Scripted.or (h : Scripted a ts e) (h' : Scripted b us f) :
    ∃ g, Scripted (a ++ " or " ++ b) (ts ++ .disj :: us) g ∧
      nesting (a ++ " or " ++ b) = max (nesting a) (nesting b) ∧
      ∀ entry, g.Holds entry ↔ e.Holds entry ∨ f.Holds entry := by
  obtain ⟨g, hd, hg⟩ := (h.derives (by simp : 0 + nesting a ≤ max (nesting a) (nesting b))).append
    (h'.derives (by simp))
  have hpatterns : g.patterns = e.patterns ++ f.patterns := by
    obtain ⟨_, d⟩ := h.derived
    obtain ⟨_, d'⟩ := h'.derived
    rw [hd.patterns_eq, patternTokens_append (by simp), d.patterns_eq, d'.patterns_eq]
    rfl
  have hs : Scripted (a ++ " or " ++ b) (ts ++ .disj :: us) g := by
    refine ⟨yields_or h.yields h'.yields, ⟨_, hd⟩, ?_⟩
    rw [hpatterns]
    exact List.forall_mem_append.mpr ⟨h.patterns, h'.patterns⟩
  refine ⟨g, hs, ?_, hg⟩
  rw [hs.nesting_eq, h.nesting_eq, h'.nesting_eq, deepest_append, (h.spans [] rfl).1]
  simp [deepest, afterOperand, afterToken]

/-- A conjunction of scripts in parentheses nests one level deeper than the deeper one of them. -/
theorem Scripted.and (h : Scripted a ts e) (h' : Scripted b us f) :
    Scripted ("(" ++ a ++ ") and (" ++ b ++ ")") (inParens ts ++ .conj :: inParens us)
        (.all [e, f]) ∧
      nesting ("(" ++ a ++ ") and (" ++ b ++ ")") = max (nesting a) (nesting b) + 1 := by
  have hs : Scripted ("(" ++ a ++ ") and (" ++ b ++ ")") (inParens ts ++ .conj :: inParens us)
      (.all [e, f]) := by
    refine ⟨yields_and h.yields h'.yields, ⟨max (nesting a) (nesting b) + 1, ?_⟩, ?_⟩
    · have hfits : 0 + nesting a < max (nesting a) (nesting b) + 1 := by omega
      have hboth := @Derives.conjunction _ 0 _ _ [(_, f)] (by simp) (.primary (h.group hfits))
        (List.forall_mem_singleton.mpr (.primary (h'.group (by omega))))
      simpa using Derives.disjunct hboth
    · simpa [Expr.patterns, patternsOf, or_imp, forall_and] using ⟨h.patterns, h'.patterns⟩
  refine ⟨hs, ?_⟩
  obtain ⟨hleft, hdeep⟩ := h.spans.parens
  obtain ⟨-, hdeep'⟩ := h'.spans.parens
  have hconj : deepest (afterOperand []) (.conj :: inParens us) = deepest [] us + 1 :=
    (Nat.zero_max _).trans hdeep'
  rw [hs.nesting_eq, h.nesting_eq, h'.nesting_eq, deepest_append, (hleft [] trivial).1, hdeep,
    hconj]
  omega

/-- The negation of a script in parentheses nests two levels deeper than the script. -/
theorem Scripted.not (h : Scripted a ts e) :
    Scripted ("not (" ++ a ++ ")") (.neg :: inParens ts) (.not e) ∧
      nesting ("not (" ++ a ++ ")") = nesting a + 2 := by
  have hs : Scripted ("not (" ++ a ++ ")") (.neg :: inParens ts) (.not e) := by
    refine ⟨yields_not h.yields, ⟨nesting a + 2, ?_⟩, h.patterns⟩
    exact .disjunct (.conjunct (.negation (by omega) (.primary (h.group (by omega)))))
  refine ⟨hs, ?_⟩
  obtain ⟨hspans, hdeep⟩ := h.spans.parens
  have hneg : deepest [] (.neg :: inParens ts) = deepest [] (inParens ts) + 1 :=
    (Spans.neg fun levels _ => hspans levels trivial).2
  rw [hs.nesting_eq, hneg, hdeep, h.nesting_eq]

end Combinations

/-- Scripts compose as texts. A disjunction of two scripts that compile compiles, and its program
holds where one of theirs does. A conjunction of both in parentheses nests one level deeper than
the deeper one, and a negation of one in parentheses two levels deeper than it; where that is at
most 128, they compile to programs that hold where both do, and where the one does not, and
otherwise they are refused for their form. -/
theorem compile_compose {a b : String} {p q : Program} (ha : compile a = .ok p)
    (hb : compile b = .ok q) :
    (∃ r, compile (a ++ " or " ++ b) = .ok r ∧
        ∀ entry, r.holds entry = (p.holds entry || q.holds entry)) ∧
      nesting ("(" ++ a ++ ") and (" ++ b ++ ")") = max (nesting a) (nesting b) + 1 ∧
      (nesting ("(" ++ a ++ ") and (" ++ b ++ ")") ≤ 128 →
        ∃ r, compile ("(" ++ a ++ ") and (" ++ b ++ ")") = .ok r ∧
          ∀ entry, r.holds entry = (p.holds entry && q.holds entry)) ∧
      (128 < nesting ("(" ++ a ++ ") and (" ++ b ++ ")") →
        ∃ problem, compile ("(" ++ a ++ ") and (" ++ b ++ ")") = .error (.compile problem)) ∧
      nesting ("not (" ++ a ++ ")") = nesting a + 2 ∧
      (nesting ("not (" ++ a ++ ")") ≤ 128 →
        ∃ r, compile ("not (" ++ a ++ ")") = .ok r ∧ ∀ entry, r.holds entry = !p.holds entry) ∧
      (128 < nesting ("not (" ++ a ++ ")") →
        ∃ problem, compile ("not (" ++ a ++ ")") = .error (.compile problem)) := by
  obtain ⟨ts, e, hs, hn, he⟩ := scripted_of_compile ha
  obtain ⟨us, f, hs', hn', hf⟩ := scripted_of_compile hb
  refine ⟨?_, (hs.and hs').2, ?_, (hs.and hs').1.compile_eq_error, hs.not.2, ?_,
    hs.not.1.compile_eq_error⟩
  · obtain ⟨g, hor, hnest, hg⟩ := hs.or hs'
    obtain ⟨r, hr, hholds⟩ := hor.compile_eq_ok (hnest ▸ max_le hn hn')
    refine ⟨r, hr, ?_⟩
    intro entry
    rw [Bool.eq_iff_iff, hholds, hg, Bool.or_eq_true, he, hf]
  · intro hle
    obtain ⟨r, hr, hholds⟩ := (hs.and hs').1.compile_eq_ok hle
    refine ⟨r, hr, ?_⟩
    intro entry
    rw [Bool.eq_iff_iff, hholds, Bool.and_eq_true, he, hf, Expr.holds_all_iff]
    simp
  · intro hle
    obtain ⟨r, hr, hholds⟩ := hs.not.1.compile_eq_ok hle
    refine ⟨r, hr, ?_⟩
    intro entry
    rw [Bool.eq_iff_iff, hholds, Bool.not_eq_true', ← Bool.not_eq_true, he, Expr.Holds]

/-- A chain is continued, a script under a negation is put under another one. -/
theorem compile_tags :
    ∃ p q, compile "not tag" = .ok p ∧ compile "tag or word" = .ok q ∧
      (∃ r, compile ("not tag" ++ " or " ++ "tag or word") = .ok r ∧
        ∀ entry, r.holds entry = (p.holds entry || q.holds entry)) ∧
      nesting ("not (" ++ "not tag" ++ ")") = 3 ∧
      ∃ r, compile ("not (" ++ "not tag" ++ ")") = .ok r ∧
        ∀ entry, r.holds entry = !p.holds entry := by
  have htag {n : Nat} : Derives maxNesting n .unary [.name "tag"] (.present .tag) :=
    .primary (.test (.present (ofName?_eq_some_iff.mp (by decide))))
  have hword : Derives maxNesting 0 .unary [.name "word"] (.present .headword) :=
    .primary (.test (.present (ofName?_eq_some_iff.mp (by decide))))
  have htokens : tokenize "not tag" = .ok [⟨0, .neg⟩, ⟨4, .name "tag"⟩] := by decide +kernel
  have hparse : parse "not tag" = .ok (.not (.present .tag)) := by
    rw [parse_eq_parseTokens htokens, parseTokens_eq_ok_iff]
    exact .disjunct (.conjunct (.negation (by decide) htag))
  have hp : compile "not tag" = .ok ⟨"not tag", .not (.present [.tag])⟩ := by
    rw [compile_eq_of_parse_eq_ok hparse]
    rfl
  have htokens' : tokenize "tag or word" =
      .ok [⟨0, .name "tag"⟩, ⟨4, .disj⟩, ⟨7, .name "word"⟩] := by decide +kernel
  have hparse' : parse "tag or word" = .ok (.any [.present .tag, .present .headword]) := by
    rw [parse_eq_parseTokens htokens', parseTokens_eq_ok_iff]
    exact @Derives.disjunction _ 0 _ _ [(_, _)] (by simp) (.conjunct htag)
      (List.forall_mem_singleton.mpr (.conjunct hword))
  have hq : compile "tag or word" =
      .ok ⟨"tag or word", .any [.present [.tag], .present [.headwordForm]]⟩ := by
    rw [compile_eq_of_parse_eq_ok hparse']
    rfl
  have hnesting : nesting "not tag" = 1 := by
    rw [nesting, htokens]
    rfl
  obtain ⟨hor, -, -, -, hnot, hcompile, -⟩ := compile_compose hp hq
  rw [hnesting] at hnot
  exact ⟨_, _, hp, hq, hor, hnot, hcompile (by omega)⟩

end Lexicon.Script
