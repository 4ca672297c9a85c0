import Lexicon.Proofs.Exclusion
import Mathlib.Data.List.Sort

/-!
# The order in which dictionaries arrive

The dictionaries of a snapshot may stand in any order, which depends on the order in which their
files were read. Another order gives the same hits and the same failures. It shows only where hits of
one form come from several dictionaries: those of one dictionary keep the order of its entries.
-/

namespace Lexicon

/-- No two dictionaries of the snapshot go by the number. -/
def Snapshot.Identifies (s : Snapshot) (id : DictionaryId) : Prop :=
  ∀ d ∈ s.dictionaries, ∀ d' ∈ s.dictionaries, d.id = id → d'.id = id → d = d'

/-- As long as a store does not hold more dictionaries than there are numbers, its numbers identify
them. -/
theorem Store.identifies_run {ops : List Store.Operation} (hsize : (run {} ops).size ≤ 2 ^ 32)
    (id : DictionaryId) : (run {} ops).snapshot.Identifies id := by
  intro d hd d' hd' hid hid'
  obtain ⟨first, hnumbers⟩ := isNumbered_run ops
  exact List.inj_on_of_nodup_map (hnumbers.nodup hsize) hd hd' (hid.trans hid'.symm)

namespace Search

/-- The outcome has the hits of every form, and the failures, dictionary by dictionary, and those of a
dictionary as they are found in it alone. -/
structure IsByDictionary (p : Predicate) (s : Snapshot) (o : Outcome) : Prop where
  hits : ∀ form, (o.hits.filter fun x => x.form = form) =
    s.dictionaries.flatMap fun d => (execute p ⟨[d]⟩).hits.filter fun x => x.form = form
  failures : o.failures = s.dictionaries.flatMap fun d => (execute p ⟨[d]⟩).failures

section Arrival
variable {s s' : Snapshot} {p : Predicate}

theorem places_eq_flatMap (s : Snapshot) :
    places s = s.dictionaries.flatMap fun d => places ⟨[d]⟩ := by
  obtain ⟨ds⟩ := s
  induction ds with
  | nil => rfl
  | cons d ds ih =>
      rw [List.flatMap_cons, ← ih]
      cases hd : d.isIncluded <;> simp [places, hd]

theorem isByDictionary_execute (p : Predicate) (s : Snapshot) :
    IsByDictionary p s (execute p s) where
  hits form := by
    simp only [execute_eq, filter_rank, found]
    rw [places_eq_flatMap, List.filter_flatMap, List.filter_flatMap]
  failures := by
    simp only [execute_eq, failing]
    rw [places_eq_flatMap, List.filterMap_flatMap, List.map_flatMap]

theorem places_perm_of_perm (h : s.dictionaries.Perm s'.dictionaries) :
    (places s).Perm (places s') :=
  (h.filter _).flatMap_right _

theorem hits_perm (h : s.dictionaries.Perm s'.dictionaries) (p : Predicate) :
    (execute p s).hits.Perm (execute p s').hits := by
  rw [execute_eq, execute_eq]
  calc
    (rank (found p (places s))).Perm (found p (places s)) := (isRanking_rank _).perm
    (found p (places s)).Perm (found p (places s')) := (places_perm_of_perm h).filter _
    (found p (places s')).Perm (rank (found p (places s'))) := (isRanking_rank _).perm.symm

theorem failures_perm (h : s.dictionaries.Perm s'.dictionaries) (p : Predicate) :
    (execute p s).failures.Perm (execute p s').failures := by
  rw [execute_eq, execute_eq]
  exact ((places_perm_of_perm h).filterMap _).map _

/-- The forms of hits come in the one order in which they can stand. -/
theorem forms_eq (h : s.dictionaries.Perm s'.dictionaries) (p : Predicate) :
    (execute p s).hits.map Hit.form = (execute p s').hits.map Hit.form := by
  have hsorted (s : Snapshot) : ((execute p s).hits.map Hit.form).Pairwise (· ≤ ·) := by
    rw [execute_eq, List.pairwise_map]
    exact sorted_rank _
  exact List.Perm.eq_of_pairwise' (hsorted s) (hsorted s') ((hits_perm h p).map _)

/-- The dictionary of a number stands as often in the one order as in the other. -/
theorem filter_id_eq {id : DictionaryId} (h : s.dictionaries.Perm s'.dictionaries)
    (hid : s.Identifies id) :
    (s.dictionaries.filter fun d => d.id = id) = s'.dictionaries.filter fun d => d.id = id := by
  have hperm := h.filter fun d => decide (d.id = id)
  cases hds : s.dictionaries.filter fun d => decide (d.id = id) with
  | nil =>
      rw [hds] at hperm
      exact hperm.nil_eq
  | cons d ds =>
      have hmem : ∀ x ∈ d :: ds, x ∈ s.dictionaries ∧ x.id = id := by
        intro x hx
        rw [← hds, List.mem_filter, decide_eq_true_eq] at hx
        exact hx
      have hsame : ∀ x ∈ d :: ds, x = d := by
        intro x hx
        obtain ⟨hd, hdid⟩ := hmem d List.mem_cons_self
        exact hid x (hmem x hx).1 d hd (hmem x hx).2 hdid
      rw [hds] at hperm
      rw [List.eq_replicate_of_mem hsame]
      rw [List.eq_replicate_of_mem hsame] at hperm
      exact (List.perm_replicate.mp hperm.symm).symm

theorem places_of_dictionary {id : DictionaryId} (h : s.dictionaries.Perm s'.dictionaries)
    (hid : s.Identifies id) : ((places s).filter fun x => x.dictionary = id) =
      (places s').filter fun x => x.dictionary = id := by
  have hplaces (s : Snapshot) := filter_places (fun x => decide (x = id)) s.dictionaries
  rw [hplaces s, hplaces s', filter_id_eq h hid]

theorem hits_of_dictionary {id : DictionaryId} (h : s.dictionaries.Perm s'.dictionaries)
    (hid : s.Identifies id) (p : Predicate) (form : String) :
    ((execute p s).hits.filter fun x => x.dictionary = id && x.form = form) =
      (execute p s').hits.filter fun x => x.dictionary = id && x.form = form := by
  have hhits (s : Snapshot) : ((execute p s).hits.filter fun x => x.dictionary = id && x.form = form) =
      (found p ((places s).filter fun x => x.dictionary = id)).filter fun x => x.form = form := by
    rw [execute_eq, ← List.filter_filter, filter_rank, List.filter_comm, filter_found]
  rw [hhits s, hhits s', places_of_dictionary h hid]

theorem failures_of_dictionary {id : DictionaryId} (h : s.dictionaries.Perm s'.dictionaries)
    (hid : s.Identifies id) (p : Predicate) :
    ((execute p s).failures.filter fun x => x.dictionary = id) =
      (execute p s').failures.filter fun x => x.dictionary = id := by
  have hfailures (s : Snapshot) : ((execute p s).failures.filter fun x => x.dictionary = id) =
      (failing p ((places s).filter fun x => x.dictionary = id)).map EntryFailure.ofPlace := by
    rw [execute_eq, List.filter_map, ← filter_failing]
    rfl
  rw [hfailures s, hfailures s', places_of_dictionary h hid]

/-- Snapshots of the same dictionaries in different orders have outcomes with the same hits and the
same failures, and the forms of the hits come in the same order. Hits of one form, and failures, come
dictionary by dictionary, and each dictionary has the same ones in the same order as if it were
alone. So the number of a dictionary picks the same hits of one form, and the same failures, from
both outcomes. -/
theorem arrival_affects_ties (h : s.dictionaries.Perm s'.dictionaries) (p : Predicate) :
    let outcome := execute p s
    let outcome' := execute p s'
    outcome.hits.map Hit.form = outcome'.hits.map Hit.form ∧
      outcome.hits.Perm outcome'.hits ∧ outcome.failures.Perm outcome'.failures ∧
      IsByDictionary p s outcome ∧ IsByDictionary p s' outcome' ∧
      ∀ id, s.Identifies id →
        (∀ form, (outcome.hits.filter fun x => x.dictionary = id && x.form = form) =
          outcome'.hits.filter fun x => x.dictionary = id && x.form = form) ∧
        (outcome.failures.filter fun x => x.dictionary = id) =
          outcome'.failures.filter fun x => x.dictionary = id := by
  intro outcome outcome'
  refine ⟨forms_eq h p, hits_perm h p, failures_perm h p, isByDictionary_execute p s,
    isByDictionary_execute p s', ?_⟩
  intro id hid
  exact ⟨hits_of_dictionary h hid p, failures_of_dictionary h hid p⟩

/-- Two dictionaries of one name, with entries of one form and a failure each, in both orders. -/
theorem arrival_of_twins :
    let store := Store.run {}
      [.insert "a" [⟨0, .ofForm 1 "x"⟩, ⟨1, .ofForm 2 "y"⟩, ⟨2, .ofForm 3 "x"⟩],
        .insert "a" [⟨3, .ofForm 4 "x"⟩, ⟨1, .ofForm 2 "y"⟩]]
    let p := Predicate.host ⟨"no y", fun e => if e.form = "y" then .failure "y" else .answer true⟩
    let arrived : Snapshot := ⟨store.snapshot.dictionaries.reverse⟩
    store.snapshot.dictionaries.Perm arrived.dictionaries ∧ store.snapshot.Identifies ⟨0⟩ ∧
      (execute p store.snapshot).hits.map Hit.form = (execute p arrived).hits.map Hit.form ∧
      ((execute p store.snapshot).hits.filter fun x => x.dictionary = ⟨0⟩ && x.form = "x") =
        (execute p arrived).hits.filter fun x => x.dictionary = ⟨0⟩ && x.form = "x" := by
  intro store p arrived
  have hperm : store.snapshot.dictionaries.Perm arrived.dictionaries :=
    (List.reverse_perm _).symm
  have hidentifies : store.snapshot.Identifies ⟨0⟩ := Store.identifies_run (by decide) ⟨0⟩
  obtain ⟨hforms, -, -, -, -, hdictionary⟩ := arrival_affects_ties hperm p
  exact ⟨hperm, hidentifies, hforms, (hdictionary ⟨0⟩ hidentifies).1 "x"⟩

end Arrival

end Search

end Lexicon
