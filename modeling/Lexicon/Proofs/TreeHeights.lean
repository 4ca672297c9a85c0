import Lexicon.Proofs.LevelCounter
import Lexicon.Proofs.Meaning

/-!
# How high trees grow

A negation and a group each spend a level of nesting. A negation adds one node to a way down the tree,
and a group at most two, a disjunction and a conjunction; chains are flat. So the limit on nesting
bounds every way down the tree of a script, however long the script is. The filter of a script is at
most one node higher, and compiling and running it recurse no deeper than that.
-/

namespace Lexicon.Script

open Search (QueryError)

/-- The parts of a tree right below its root. -/
def Expr.parts : Expr → List Expr
  | .all parts | .any parts => parts
  | .not part => [part]
  | .const _ | .test .. | .present _ | .compareId .. => []

/-- The parts of a filter right below its root. -/
def Filter.parts : Filter → List Filter
  | .all parts | .any parts => parts
  | .not part => [part]
  | .const _ | .test .. | .present _ | .compareId .. => []

/-- A conjunction or a disjunction has at least two parts. -/
def Expr.Branches : Expr → Prop
  | .all parts | .any parts => 2 ≤ parts.length
  | .const _ | .not _ | .test .. | .present _ | .compareId .. => True

section Ways
variable {α : Type} {parts : α → List α} {p : α → Prop} {a b : α} {below : List α} {m n : Nat}

/-- The nodes are met one after the other on a way down a tree. -/
def IsWay (parts : α → List α) (nodes : List α) : Prop :=
  nodes.IsChain fun a b => b ∈ parts a

/-- No way down from the root meets more nodes than that. -/
def HeightLe (parts : α → List α) (n : Nat) (a : α) : Prop :=
  ∀ below, IsWay parts (a :: below) → (a :: below).length ≤ n

/-- All nodes that are met on some way down from the root have a property. -/
def Everywhere (parts : α → List α) (p : α → Prop) (a : α) : Prop :=
  ∀ below, IsWay parts (a :: below) → ∀ b ∈ a :: below, p b

theorem isWay_cons_cons : IsWay parts (a :: b :: below) ↔ b ∈ parts a ∧ IsWay parts (b :: below) :=
  List.isChain_cons_cons

theorem HeightLe.mono (h : HeightLe parts m a) (hmn : m ≤ n) : HeightLe parts n a :=
  fun below hway => (h below hway).trans hmn

theorem heightLe_succ_iff :
    HeightLe parts (n + 1) a ↔ ∀ b ∈ parts a, HeightLe parts n b := by
  constructor
  · intro h b hb below hway
    exact Nat.le_of_succ_le_succ (h (b :: below) (isWay_cons_cons.mpr ⟨hb, hway⟩))
  · intro h below hway
    cases below with
    | nil => exact Nat.le_add_left 1 n
    | cons b below =>
        obtain ⟨hb, hway⟩ := isWay_cons_cons.mp hway
        exact Nat.succ_le_succ (h b hb below hway)

theorem not_heightLe_zero : ¬ HeightLe parts 0 a :=
  fun h => absurd (h [] (.singleton a)) (by simp)

theorem heightLe_of_leaf (h : parts a = []) : HeightLe parts (n + 1) a :=
  heightLe_succ_iff.mpr (by simp [h])

theorem HeightLe.exists_succ (h : HeightLe parts n a) :
    ∃ m, n = m + 1 ∧ ∀ b ∈ parts a, HeightLe parts m b := by
  cases n with
  | zero => exact absurd h not_heightLe_zero
  | succ m => exact ⟨m, rfl, heightLe_succ_iff.mp h⟩

theorem everywhere_of_parts (ha : p a) (h : ∀ b ∈ parts a, Everywhere parts p b) :
    Everywhere parts p a := by
  intro below hway
  cases below with
  | nil => exact List.forall_mem_singleton.mpr ha
  | cons b below =>
      obtain ⟨hb, hway⟩ := isWay_cons_cons.mp hway
      exact List.forall_mem_cons.mpr ⟨ha, h b hb below hway⟩

end Ways

section Trees
variable {limit n : Nat} {c : Category} {ts : List Token} {e : Expr}

/-- The greatest height of a phrase of a category within which so many levels may open. -/
def Category.height (levels : Nat) : Category → Nat
  | .disjunction => 2 * levels + 3
  | .conjunction => 2 * levels + 2
  | .unary | .primary => 2 * levels + 1
  | .test => 1

/-- The tree of a phrase is no higher than its category and the levels that are left allow. -/
theorem Derives.heightLe (d : Derives limit n c ts e) :
    HeightLe Expr.parts (c.height (limit - n)) e := by
  induction d with
  | disjunct _ ih | conjunct _ ih => exact ih.mono (Nat.le_succ _)
  | disjunction _ _ _ ihf ihm | conjunction _ _ _ ihf ihm =>
      apply heightLe_succ_iff.mpr
      simp only [Expr.parts, List.forall_mem_cons, List.forall_mem_map]
      exact ⟨ihf, ihm⟩
  | negation room _ ih =>
      apply HeightLe.mono (heightLe_succ_iff.mpr (List.forall_mem_singleton.mpr ih))
      simp only [Category.height]
      omega
  | primary _ ih => exact ih
  | group room _ ih =>
      -- A group adds no node itself. Its level pays for the disjunction and the conjunction inside.
      apply ih.mono
      simp only [Category.height]
      omega
  | test _ ih => exact ih.mono (by simp only [Category.height]; omega)
  | constant | compareId | compareText | present => exact heightLe_of_leaf rfl

/-- Every conjunction and disjunction in the tree of a phrase has at least two parts. -/
theorem Derives.branches (d : Derives limit n c ts e) :
    Everywhere Expr.parts Expr.Branches e := by
  induction d with
  | disjunct _ ih | conjunct _ ih | primary _ ih | group _ _ ih | test _ ih => exact ih
  | disjunction ne _ _ ihf ihm | conjunction ne _ _ ihf ihm =>
      apply everywhere_of_parts
      · simpa [Expr.Branches, Nat.one_le_iff_ne_zero] using ne
      · simp only [Expr.parts, List.forall_mem_cons, List.forall_mem_map]
        exact ⟨ihf, ihm⟩
  | negation _ _ ih => exact everywhere_of_parts trivial (List.forall_mem_singleton.mpr ih)
  | constant | compareId | compareText | present =>
      exact everywhere_of_parts trivial (by simp [Expr.parts])

end Trees

section Filters
variable {e : Expr} {f : Filter} {es : List Expr} {fs : List Filter} {n : Nat}

theorem map_eq_ok {ε α β : Type} {r : Except ε α} {g : α → β} {b : β} (h : r.map g = .ok b) :
    ∃ a, r = .ok a ∧ b = g a := by
  cases r with
  | error e => cases h
  | ok a => exact ⟨a, rfl, (Except.ok.inj h).symm⟩

/-- Every filter of several expressions is that of one of them. -/
theorem exists_of_mem_toFilters (h : toFilters es = .ok fs) (hf : f ∈ fs) :
    ∃ e ∈ es, e.toFilter = .ok f := by
  induction es generalizing fs with
  | nil =>
      cases h
      cases hf
  | cons e es ih =>
      rw [toFilters] at h
      cases he : e.toFilter with
      | error refusal => simp [he, bind, Except.bind] at h
      | ok g =>
          cases hes : toFilters es with
          | error refusal => simp [he, hes, bind, Except.bind] at h
          | ok gs =>
              simp only [he, hes, bind, Except.bind, pure, Except.pure, Except.ok.injEq] at h
              subst h
              rcases List.mem_cons.mp hf with rfl | hf
              · exact ⟨e, List.mem_cons_self, he⟩
              · obtain ⟨e', he', hef⟩ := ih hes hf
                exact ⟨e', List.mem_cons_of_mem _ he', hef⟩

theorem heightLe_toFilter_of_relation {locations : List Location} {literal : String}
    {relation : TextRelation} (h : relation.toFilter locations literal = .ok f) :
    HeightLe Filter.parts (n + 2) f := by
  cases relation with
  | startsWith | endsWith | contains | eq =>
      cases h
      exact heightLe_of_leaf rfl
  | ne =>
      cases h
      exact heightLe_succ_iff.mpr (List.forall_mem_singleton.mpr (heightLe_of_leaf rfl))
  | regexp =>
      obtain ⟨t, -, rfl⟩ := map_eq_ok h
      exact heightLe_of_leaf rfl

theorem heightLe_toFilters (h : toFilters es = .ok fs)
    (hes : ∀ e ∈ es, ∀ f, e.toFilter = .ok f → HeightLe Filter.parts n f) :
    ∀ f ∈ fs, HeightLe Filter.parts n f := by
  intro f hf
  obtain ⟨e, he, hef⟩ := exists_of_mem_toFilters h hf
  exact hes e he f hef

/-- The filter of a tree is at most one node higher: below a test whether texts differ. -/
theorem heightLe_toFilter (he : HeightLe Expr.parts n e) (h : e.toFilter = .ok f) :
    HeightLe Filter.parts (n + 1) f := by
  induction e generalizing n f with
  | const | present | compareId =>
      cases h
      exact heightLe_of_leaf rfl
  | all parts ih | any parts ih =>
      obtain ⟨m, rfl, hparts⟩ := he.exists_succ
      obtain ⟨fs, hfs, rfl⟩ := map_eq_ok h
      apply heightLe_succ_iff.mpr
      exact heightLe_toFilters hfs fun part hpart f hf => ih part hpart (hparts part hpart) hf
  | not part ih =>
      obtain ⟨m, rfl, hpart⟩ := he.exists_succ
      obtain ⟨g, hg, rfl⟩ := map_eq_ok h
      apply heightLe_succ_iff.mpr
      exact List.forall_mem_singleton.mpr (ih (List.forall_mem_singleton.mp hpart) hg)
  | test field relation literal =>
      obtain ⟨m, rfl, -⟩ := he.exists_succ
      exact heightLe_toFilter_of_relation h

end Filters

section Calls
variable {e : Expr} {es : List Expr} {f : Filter} {fs : List Filter} {entry : Entry} {n : Nat}

/-- Makes a filter of an expression with room for so many calls inside each other. Without room for
one more there is no answer. -/
def Expr.toFilterWithin : (calls : Nat) → Expr → ExceptT QueryError Option Filter
  | 0, _ => (none : Option (Except QueryError Filter))
  | n + 1, .all parts => return .all (← parts.mapM (toFilterWithin n))
  | n + 1, .any parts => return .any (← parts.mapM (toFilterWithin n))
  | n + 1, .not part => return .not (← toFilterWithin n part)
  | _ + 1, .const value => return .const value
  | _ + 1, .test field relation literal => liftExcept (relation.toFilter field.locations literal)
  | _ + 1, .present field => return .present field.locations
  | _ + 1, .compareId comparison value => return .compareId comparison value
where
  /-- An answer that needs no more calls. -/
  liftExcept (r : Except QueryError Filter) : ExceptT QueryError Option Filter := some r

/-- Whether an entry meets a filter, with room for so many calls inside each other. -/
def Filter.holdsWithin (entry : Entry) : (calls : Nat) → Filter → Option Bool
  | 0, _ => none
  | n + 1, .all parts => parts.allM (holdsWithin entry n)
  | n + 1, .any parts => parts.anyM (holdsWithin entry n)
  | n + 1, .not part => (!·) <$> holdsWithin entry n part
  | _ + 1, .const value => some value
  | _ + 1, .test locations t => some ((Filter.test locations t).holds entry)
  | _ + 1, .present locations => some ((Filter.present locations).holds entry)
  | _ + 1, .compareId comparison value => some (comparison.holds entry.id value)

theorem mapM_toFilterWithin (h : ∀ e ∈ es, e.toFilterWithin n = some e.toFilter) :
    es.mapM (Expr.toFilterWithin n) = (some (toFilters es) : Option _) := by
  induction es with
  | nil => rfl
  | cons e es ih =>
      obtain ⟨he, hes⟩ := List.forall_mem_cons.mp h
      rw [List.mapM_cons, ih hes, he, toFilters]
      cases e.toFilter with
      | error refusal => rfl
      | ok f => cases toFilters es <;> rfl

/-- Making a filter of a tree takes no more calls inside each other than the tree is high. -/
theorem toFilterWithin_eq (h : HeightLe Expr.parts n e) : e.toFilterWithin n = some e.toFilter := by
  induction e generalizing n with
  | all parts ih | any parts ih =>
      obtain ⟨m, rfl, hparts⟩ := h.exists_succ
      have hmap := mapM_toFilterWithin fun part hpart => ih part hpart (hparts part hpart)
      rw [Expr.toFilterWithin, hmap, Expr.toFilter]
      cases toFilters parts <;> rfl
  | not part ih =>
      obtain ⟨m, rfl, hpart⟩ := h.exists_succ
      rw [Expr.toFilterWithin, ih (List.forall_mem_singleton.mp hpart), Expr.toFilter]
      cases part.toFilter <;> rfl
  | const | test | present | compareId =>
      obtain ⟨m, rfl, -⟩ := h.exists_succ
      rfl

theorem allM_holdsWithin (h : ∀ f ∈ fs, f.holdsWithin entry n = some (f.holds entry)) :
    fs.allM (Filter.holdsWithin entry n) = some (Filter.holds.allHold entry fs) := by
  induction fs with
  | nil => rfl
  | cons f fs ih =>
      obtain ⟨hf, hfs⟩ := List.forall_mem_cons.mp h
      rw [List.allM, hf, ih hfs, Filter.holds.allHold]
      cases f.holds entry <;> rfl

theorem anyM_holdsWithin (h : ∀ f ∈ fs, f.holdsWithin entry n = some (f.holds entry)) :
    fs.anyM (Filter.holdsWithin entry n) = some (Filter.holds.anyHolds entry fs) := by
  induction fs with
  | nil => rfl
  | cons f fs ih =>
      obtain ⟨hf, hfs⟩ := List.forall_mem_cons.mp h
      rw [List.anyM, hf, ih hfs, Filter.holds.anyHolds]
      cases f.holds entry <;> rfl

/-- Running a filter takes no more calls inside each other than the filter is high. -/
theorem holdsWithin_eq (h : HeightLe Filter.parts n f) :
    f.holdsWithin entry n = some (f.holds entry) := by
  -- The induction is on the calls that are left: the parts of a filter are less high than it.
  induction n generalizing f with
  | zero => exact absurd h not_heightLe_zero
  | succ n ih =>
      have hparts := heightLe_succ_iff.mp h
      cases f with
      | all parts =>
          rw [Filter.holdsWithin, Filter.holds]
          exact allM_holdsWithin fun part hpart => ih (hparts part hpart)
      | any parts =>
          rw [Filter.holdsWithin, Filter.holds]
          exact anyM_holdsWithin fun part hpart => ih (hparts part hpart)
      | not part =>
          rw [Filter.holdsWithin, ih (List.forall_mem_singleton.mp hparts), Filter.holds]
          rfl
      | const | test | present | compareId => rfl

end Calls

/-- The limit on nesting bounds the tree of every script, however long the script is. No way down the
tree meets more than 2 * 128 + 3 nodes, and every conjunction and disjunction on it has at least two
parts. No way down the filter meets more than one node more. So compiling and running the script
recurse no deeper than that. The same tree is read with a counter of the open levels, which is back
at zero at the end and never above the limit; behind every phrase, in any script, it is back at its
value in front of the phrase. -/
theorem nesting_bounds_tree {source : String} {e : Expr} (h : parse source = .ok e) :
    HeightLe Expr.parts (2 * maxNesting + 3) e ∧ Everywhere Expr.parts Expr.Branches e ∧
      e.toFilterWithin (2 * maxNesting + 3) = some e.toFilter ∧
      (∀ p, compile source = .ok p → HeightLe Filter.parts (2 * maxNesting + 4) p.filter ∧
        ∀ entry, p.filter.holdsWithin entry (2 * maxNesting + 4) = some (p.holds entry)) ∧
      (∃ k, LevelCounter.parse source = .ok (e, k) ∧ k.depth = 0 ∧ k.peak ≤ maxNesting) ∧
      ∀ fin, LevelCounter.KeepsCount fin := by
  obtain ⟨tokens, -, hderives⟩ := tokenize_of_parse h
  have hheight : HeightLe Expr.parts (2 * maxNesting + 3) e := hderives.heightLe
  refine ⟨hheight, hderives.branches, toFilterWithin_eq hheight, ?_, ?_, LevelCounter.keepsCount⟩
  · intro p hp
    rw [compile_eq_of_parse_eq_ok h] at hp
    obtain ⟨f, hf, rfl⟩ := map_eq_ok hp
    have hfilter := heightLe_toFilter hheight hf
    exact ⟨hfilter, fun entry => holdsWithin_eq hfilter⟩
  · obtain ⟨k, hparse, hdepth, hpeak⟩ :=
      LevelCounter.returns_ok_iff.mp (h ▸ LevelCounter.returns_parse source)
    exact ⟨k, hparse, hdepth, by simpa using hpeak⟩

/-- A negation and two groups inside it open and close again, and the test whether texts differ is a
negation in the filter. -/
theorem nesting_bounds_tree_groups :
    parse "not (tag != 'x' and (tag or id < 3))" =
        .ok (.not (.all [.test .tag .ne "x", .any [.present .tag, .compareId .lt 3]])) ∧
      (∃ p, compile "not (tag != 'x' and (tag or id < 3))" = .ok p ∧
        HeightLe Filter.parts (2 * maxNesting + 4) p.filter) ∧
      ∃ k, LevelCounter.parse "not (tag != 'x' and (tag or id < 3))" =
          .ok (.not (.all [.test .tag .ne "x", .any [.present .tag, .compareId .lt 3]]), k) ∧
        k.depth = 0 ∧ k.peak ≤ maxNesting := by
  have htokens : tokenize "not (tag != 'x' and (tag or id < 3))" = .ok
      [⟨0, .neg⟩, ⟨4, .leftParen⟩, ⟨5, .name "tag"⟩, ⟨9, .operator .ne⟩, ⟨12, .text "x"⟩, ⟨16, .conj⟩,
        ⟨20, .leftParen⟩, ⟨21, .name "tag"⟩, ⟨25, .disj⟩, ⟨28, .name "id"⟩, ⟨31, .operator .lt⟩,
        ⟨33, .integer 3⟩, ⟨34, .rightParen⟩, ⟨35, .rightParen⟩] := by decide +kernel
  have htag : Field.Named .tag "tag" := ofName?_eq_some_iff.mp (by decide)
  have hid : Derives maxNesting 3 .unary [.name "id", .operator .lt, .integer 3] (.compareId .lt 3) :=
    .primary (.test (@Derives.compareId _ 3 _ .lt _ (isIdName_iff.mp (by decide))))
  have hor := @Derives.disjunction maxNesting 3 _ _ [(_, _)] (by simp)
    (.conjunct (.primary (.test (.present htag)))) (List.forall_mem_singleton.mpr (.conjunct hid))
  have hand := @Derives.conjunction maxNesting 2 _ _ [(_, _)] (by simp)
    (.primary (.test (@Derives.compareText _ 2 _ _ .ne "x" htag)))
    (List.forall_mem_singleton.mpr (.primary (.group (by decide) hor)))
  have hparse : parse "not (tag != 'x' and (tag or id < 3))" =
      .ok (.not (.all [.test .tag .ne "x", .any [.present .tag, .compareId .lt 3]])) := by
    rw [parse_eq_parseTokens htokens, parseTokens_eq_ok_iff]
    exact .disjunct (.conjunct
      (.negation (by decide) (.primary (.group (by decide) (.disjunct hand)))))
  obtain ⟨-, -, -, hfilter, hcounter, -⟩ := nesting_bounds_tree hparse
  have hcompile := compile_eq_of_parse_eq_ok hparse
  exact ⟨hparse, ⟨_, hcompile, (hfilter _ hcompile).1⟩, hcounter⟩

end Lexicon.Script
