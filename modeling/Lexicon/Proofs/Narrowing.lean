import Lexicon.Proofs.FieldTests

/-!
# Narrowing a search

A predicate that asks for more finds fewer hits, and finds them in the order in which they stand
among the others. A longer needle asks for more, and so do a needle at the beginning or at the end
than the same needle anywhere, and equality than any of these.
-/

namespace Lexicon.Search

open Script (testScript)

/-- Whenever the one predicate answers yes, the other one does. -/
def Predicate.Narrows (p' p : Predicate) : Prop :=
  ∀ e, p'.accepts e = true → p.accepts e = true

section Hits
variable {p p' : Predicate}

/-- A narrower predicate finds those hits of the other one that it accepts. -/
theorem Predicate.Narrows.hits_eq (h : p'.Narrows p) (s : Snapshot) :
    (execute p' s).hits = (execute p s).hits.filter fun x => p'.accepts x.entry := by
  simp only [execute_eq, rank_filter, found, List.filter_filter]
  congr 1
  apply List.filter_congr
  intro x _
  cases hx : p'.accepts x.entry with
  | false => rfl
  | true => rw [h x.entry hx, Bool.true_and]

theorem Predicate.Narrows.sublist (h : p'.Narrows p) (s : Snapshot) :
    (execute p' s).hits.Sublist (execute p s).hits := by
  rw [h.hits_eq s]
  exact List.filter_sublist

/-- A test that texts pass less often is narrower, on the same field. -/
theorem narrows_field {f : Field} {t t' : TextTest}
    (h : ∀ s, t'.passes s = true → t.passes s = true) :
    (Predicate.field ⟨f, t'⟩).Narrows (.field ⟨f, t⟩) := by
  intro e he
  obtain ⟨s, hs, hpasses⟩ := FieldTest.holds_iff.mp he
  exact FieldTest.holds_iff.mpr ⟨s, hs, h s hpasses⟩

/-- The same in scripts. -/
theorem narrows_script {locations : List Location} {t t' : TextTest} {source source' : String}
    (h : ∀ s, t'.passes s = true → t.passes s = true) :
    (Predicate.script ⟨source', .test locations t'⟩).Narrows
      (.script ⟨source, .test locations t⟩) := by
  intro e he
  obtain ⟨s, hs, hpasses⟩ := List.any_eq_true.mp he
  exact List.any_eq_true.mpr ⟨s, hs, h s hpasses⟩

end Hits

namespace Strategy
variable {α : Type} {needle needle' text : List α} {strategy : Strategy}

theorem Locates.ne_regexp (h : strategy.Locates needle text) : strategy ≠ .regexp := by
  rintro rfl
  cases h

theorem Locates.trans (h : strategy.Locates needle needle') (h' : strategy.Locates needle' text) :
    strategy.Locates needle text := by
  cases strategy with
  | startsWith =>
      rw [locates_startsWith_iff] at *
      exact h.trans h'
  | endsWith =>
      rw [locates_endsWith_iff] at *
      exact h.trans h'
  | contains =>
      rw [locates_contains_iff] at *
      exact h.trans h'
  | regexp => cases h

/-- What stands at the beginning or at the end stands somewhere. -/
theorem Locates.contains_of (h : strategy.Locates needle text) :
    Strategy.contains.Locates needle text := by
  cases h with
  | @startsWith v => exact @Locates.contains _ _ [] v
  | @endsWith u => simpa using @Locates.contains _ needle u []
  | contains => exact .contains

/-- A needle stands in itself, wherever it is asked for. -/
theorem locates_self (h : strategy ≠ .regexp) : strategy.Locates needle needle := by
  cases strategy with
  | startsWith => exact locates_startsWith_iff.mpr List.prefix_rfl
  | endsWith => exact locates_endsWith_iff.mpr List.suffix_rfl
  | contains => exact locates_contains_iff.mpr List.infix_rfl
  | regexp => exact absurd rfl h

end Strategy

theorem run_eq {q : Query} {t : TextTest} (h : TextTest.ofStrategy q.strategy q.needle = .ok t)
    (s : Snapshot) : run q s = .ok (execute (.field ⟨q.field, t⟩) s) := by
  rw [run, FieldTest.ofQuery, h]
  rfl

/-- The script that asks for a text of the field equal to the needle finds some of the hits of the
script that asks for the needle at a place. -/
theorem exists_scripts {g : Script.Field} {name : String} (hname : g.Named name)
    {strategy : Strategy} (hstrategy : strategy ≠ .regexp) (needle : String) (s : Snapshot) :
    ∃ p q, Script.compile (testScript name .eq needle) = .ok p ∧
      Script.compile (testScript name strategy.relation needle) = .ok q ∧
      (execute (.script p) s).hits.Sublist (execute (.script q) s).hits := by
  obtain ⟨t, ht, hpasses⟩ := exists_ofStrategy hstrategy needle
  refine ⟨⟨testScript name .eq needle, .test g.locations (.equals needle)⟩,
    ⟨testScript name strategy.relation needle, .test g.locations t⟩, ?_, ?_, ?_⟩
  · rw [Script.compile_testScript hname]
    rfl
  · rw [Script.compile_testScript hname, toFilter_relation, ht]
    rfl
  · refine Predicate.Narrows.sublist (narrows_script fun text htext => ?_) s
    rw [TextTest.passes_equals.mp htext, hpasses]
    exact Strategy.locates_self hstrategy

/-- A query whose needle stands in a longer one where the strategy asks for it returns, together with
others, what the query with the longer needle returns, and in the same order: leaving out the hits of
which the longer query does not hold gives the hits of the longer query. A query for the beginning
and one for the end return some of the hits of the query for any part, in their order, and so does a
script that asks for equality compared with the script for the beginning, the end or any part. -/
theorem run_narrows (f : Field) {strategy : Strategy} {needle needle' : String}
    (hneedle : strategy.Locates needle.toList needle'.toList) {g : Script.Field} {name : String}
    (hname : g.Named name) (s : Snapshot) :
    (∃ t' o o', FieldTest.ofQuery ⟨f, strategy, needle'⟩ = .ok t' ∧
        run ⟨f, strategy, needle⟩ s = .ok o ∧ run ⟨f, strategy, needle'⟩ s = .ok o' ∧
        o'.hits = (o.hits.filter fun x => t'.holds x.entry) ∧ o'.hits.Sublist o.hits) ∧
      (∃ begun ended some, run ⟨f, .startsWith, needle⟩ s = .ok begun ∧
        run ⟨f, .endsWith, needle⟩ s = .ok ended ∧ run ⟨f, .contains, needle⟩ s = .ok some ∧
        begun.hits.Sublist some.hits ∧ ended.hits.Sublist some.hits) ∧
      ∀ place ∈ [Strategy.startsWith, .endsWith, .contains],
        ∃ p q, Script.compile (testScript name .eq needle) = .ok p ∧
          Script.compile (testScript name place.relation needle) = .ok q ∧
          (execute (.script p) s).hits.Sublist (execute (.script q) s).hits := by
  refine ⟨?_, ?_, fun place hplace => ?_⟩
  · obtain ⟨t, ht, hpasses⟩ := exists_ofStrategy hneedle.ne_regexp needle
    obtain ⟨t', ht', hpasses'⟩ := exists_ofStrategy hneedle.ne_regexp needle'
    have hnarrows : (Predicate.field ⟨f, t'⟩).Narrows (.field ⟨f, t⟩) := by
      refine narrows_field fun text htext => ?_
      rw [hpasses'] at htext
      rw [hpasses]
      exact hneedle.trans htext
    exact ⟨⟨f, t'⟩, _, _, by rw [FieldTest.ofQuery, ht']; rfl, run_eq ht s, run_eq ht' s,
      hnarrows.hits_eq s, hnarrows.sublist s⟩
  · obtain ⟨b, hb, hbegun⟩ := @exists_ofStrategy .startsWith (by decide) needle
    obtain ⟨e, he, hended⟩ := @exists_ofStrategy .endsWith (by decide) needle
    obtain ⟨t, ht, hpasses⟩ := @exists_ofStrategy .contains (by decide) needle
    refine ⟨_, _, _, run_eq hb s, run_eq he s, run_eq ht s, ?_, ?_⟩
    · refine Predicate.Narrows.sublist (narrows_field fun text htext => ?_) s
      exact (hpasses text).mpr ((hbegun text).mp htext).contains_of
    · refine Predicate.Narrows.sublist (narrows_field fun text htext => ?_) s
      exact (hpasses text).mpr ((hended text).mp htext).contains_of
  · exact exists_scripts hname (by rintro rfl; simp at hplace) needle s

/-- Two words that begin alike, of which a longer needle finds one. -/
theorem run_narrows_cards :
    let s : Snapshot := ⟨[⟨⟨0⟩, "Dict1", [⟨0, .ofForm 1 "cat"⟩, ⟨1, .ofForm 2 "car"⟩], true⟩,
      ⟨⟨1⟩, "Dict2", [⟨2, .ofForm 1 "care"⟩], true⟩]⟩
    Strategy.startsWith.Locates "ca".toList "car".toList ∧ Script.Field.headword.Named "word" ∧
      ∃ t' o o', FieldTest.ofQuery ⟨.headword, .startsWith, "car"⟩ = .ok t' ∧
        run ⟨.headword, .startsWith, "ca"⟩ s = .ok o ∧
        run ⟨.headword, .startsWith, "car"⟩ s = .ok o' ∧
        o'.hits = (o.hits.filter fun x => t'.holds x.entry) ∧ o'.hits.Sublist o.hits := by
  intro s
  have hneedle : Strategy.startsWith.Locates "ca".toList "car".toList :=
    @Strategy.Locates.startsWith _ _ ['r']
  have hname : Script.Field.headword.Named "word" := Script.ofName?_eq_some_iff.mp (by decide)
  exact ⟨hneedle, hname, (run_narrows .headword hneedle hname s).1⟩

end Lexicon.Search
