import Lexicon.Proofs.Outcomes
import Lexicon.Proofs.StoreRuns

/-!
# Dictionaries left out of searches

To leave dictionaries out of searches is to search as if they were not there: the outcome is that
over the other dictionaries, and it is the whole outcome less what belongs to those left out. Once
they have the flags that they had before, everything is as it was.
-/

namespace Lexicon

open Search

/-- The snapshot with the dictionaries of some numbers left out of searches. -/
def Snapshot.excluding (ids : List DictionaryId) (s : Snapshot) : Snapshot :=
  ⟨s.dictionaries.map fun d => if d.id ∈ ids then d.including false else d⟩

/-- The flags of the dictionaries. -/
def Snapshot.flags (s : Snapshot) : List Bool := s.dictionaries.map Dictionary.isIncluded

/-- The snapshot with other flags for its dictionaries. -/
def Snapshot.withFlags (flags : List Bool) (s : Snapshot) : Snapshot :=
  ⟨List.zipWith Dictionary.including flags s.dictionaries⟩

/-- The snapshot without the dictionaries of some numbers, which are taken out one by one. -/
def Snapshot.withoutAll (ids : List DictionaryId) (s : Snapshot) : Snapshot :=
  ids.foldl (fun s id => s.without id) s

/-- The outcome less what belongs to the dictionaries of some numbers. -/
def Search.Outcome.withoutAll (ids : List DictionaryId) (o : Outcome) : Outcome :=
  ⟨o.hits.filter fun x => x.dictionary ∉ ids, o.failures.filter fun x => x.dictionary ∉ ids⟩

namespace Store

/-- The store after the dictionaries of some numbers were given flags, one after the other. -/
def switch (flag : DictionaryId → Bool) (ids : List DictionaryId) (s : Store) : Store :=
  ids.foldl (fun s id => (s.setIncluded id (flag id)).1) s

/-- The flag of the dictionary of a number. -/
def flag (s : Store) (id : DictionaryId) : Bool := (s.get? id).any Dictionary.isIncluded

/-- The numbers of the dictionaries of a name. -/
def idsNamed (s : Store) (name : String) : List DictionaryId :=
  (s.dictionaries.filter fun d => d.name = name).map Dictionary.id

end Store

namespace Search

section Snapshots
variable {p : Predicate} {s : Snapshot}

theorem filter_placesOf (keep : DictionaryId → Bool) (d : Dictionary) :
    ((placesOf d).filter fun x => keep x.dictionary) = if keep d.id then placesOf d else [] := by
  simp only [placesOf, List.filter_map, Function.comp_def, Hit.ofRecord]
  cases keep d.id <;> simp

/-- The places in some of the dictionaries. -/
theorem filter_places (keep : DictionaryId → Bool) (ds : List Dictionary) :
    ((places ⟨ds⟩).filter fun x => keep x.dictionary) = places ⟨ds.filter fun d => keep d.id⟩ := by
  induction ds with
  | nil => rfl
  | cons d ds ih =>
      simp only [places, List.filter_cons] at ih ⊢
      cases hd : d.isIncluded <;> cases hk : keep d.id <;>
        simp [hd, hk, ih, filter_placesOf]

/-- A search of some of the dictionaries finds of the whole outcome what belongs to them. -/
theorem execute_filter (p : Predicate) (keep : DictionaryId → Bool) (s : Snapshot) :
    execute p ⟨s.dictionaries.filter fun d => keep d.id⟩ =
      ⟨(execute p s).hits.filter fun x => keep x.dictionary,
        (execute p s).failures.filter fun x => keep x.dictionary⟩ := by
  have hfailing := filter_failing (p := p) (fun x => keep x.dictionary) (places s)
  simp only [execute_eq, rank_filter, filter_found, List.filter_map, Function.comp_def,
    EntryFailure.ofPlace]
  rw [hfailing, filter_places]

theorem withoutAll_eq (ids : List DictionaryId) (s : Snapshot) :
    s.withoutAll ids = ⟨s.dictionaries.filter fun d => d.id ∉ ids⟩ := by
  induction ids generalizing s with
  | nil => simp [Snapshot.withoutAll]
  | cons id ids ih =>
      rw [Snapshot.withoutAll, List.foldl_cons, ← Snapshot.withoutAll, ih, Snapshot.without,
        List.filter_filter]
      congr 2
      funext d
      simp [Bool.and_comm]

theorem included_excluding (ids : List DictionaryId) (s : Snapshot) :
    (s.excluding ids).included = s.included.filter fun d => d.id ∉ ids := by
  have hflag (d : Dictionary) : (if d.id ∈ ids then d.including false else d).isIncluded =
      (decide (d.id ∉ ids) && d.isIncluded) := by
    by_cases hd : d.id ∈ ids <;> simp [hd, Dictionary.including]
  have hsame : ∀ d ∈ s.dictionaries.filter fun d => decide (d.id ∉ ids) && d.isIncluded,
      (if d.id ∈ ids then d.including false else d) = d := by
    intro d hd
    have hkept := (List.mem_filter.mp hd).2
    rw [Bool.and_eq_true, decide_eq_true_eq] at hkept
    rw [if_neg hkept.1]
  simp only [Snapshot.included, Snapshot.excluding, List.filter_map, Function.comp_def, hflag,
    List.filter_filter]
  rw [List.map_congr_left hsame, List.map_id']

theorem withFlags_flags (ids : List DictionaryId) (s : Snapshot) :
    (s.excluding ids).withFlags s.flags = s := by
  have hback (d : Dictionary) : Dictionary.including d.isIncluded
      (if d.id ∈ ids then d.including false else d) = d := by
    by_cases hd : d.id ∈ ids <;> simp [hd, Dictionary.including]
  simp [Snapshot.withFlags, Snapshot.flags, Snapshot.excluding, List.zipWith_map, hback]

/-- A search that leaves dictionaries out finds the whole outcome less what belongs to them. -/
theorem execute_excluding (p : Predicate) (ids : List DictionaryId) (s : Snapshot) :
    execute p (s.excluding ids) = (execute p s).withoutAll ids := by
  have hplaces : places (s.excluding ids) =
      places ⟨s.dictionaries.filter fun d => d.id ∉ ids⟩ := by
    change (s.excluding ids).included.flatMap _ = _
    rw [included_excluding, Snapshot.included, List.filter_comm]
    rfl
  rw [execute_eq, hplaces, ← execute_eq]
  exact execute_filter p (fun id => id ∉ ids) s

end Snapshots

end Search

namespace Store

section Switches
variable {s : Store}

theorem ids_setIncluded (s : Store) (id : DictionaryId) (isIncluded : Bool) :
    (s.setIncluded id isIncluded).1.dictionaries.map Dictionary.id =
      s.dictionaries.map Dictionary.id :=
  map_setIncluded id isIncluded (fun _ => rfl) s

theorem nextNumber_setIncluded (s : Store) (id : DictionaryId) (isIncluded : Bool) :
    (s.setIncluded id isIncluded).1.nextNumber = s.nextNumber :=
  nextNumber_apply s (.changedById id isIncluded)

theorem nextReference_setIncluded (s : Store) (id : DictionaryId) (isIncluded : Bool) :
    (s.setIncluded id isIncluded).1.nextReference = s.nextReference :=
  nextReference_apply s (.changedById id isIncluded)

/-- If the numbers differ, a switch reaches the dictionaries of its numbers and no others, in
whatever order and however often the numbers are given. -/
theorem switch_eq (hs : (s.dictionaries.map Dictionary.id).Nodup) (flag : DictionaryId → Bool)
    (ids : List DictionaryId) :
    s.switch flag ids = { s with dictionaries := s.dictionaries.map fun d =>
      if d.id ∈ ids then d.including (flag d.id) else d } := by
  induction ids generalizing s with
  | nil => simp [switch]
  | cons id ids ih =>
      have hs' : ((s.setIncluded id (flag id)).1.dictionaries.map Dictionary.id).Nodup := by
        rwa [ids_setIncluded]
      rw [switch, List.foldl_cons, ← switch, ih hs', nextNumber_setIncluded,
        nextReference_setIncluded, setIncluded_dictionaries hs, List.map_map]
      congr 2
      funext d
      simp only [Function.comp_apply, change_changedById]
      by_cases hd : d.id = id
      · subst hd
        by_cases hids : d.id ∈ ids <;> simp [hids, Dictionary.including]
      · simp [hd]

theorem flag_eq (hs : (s.dictionaries.map Dictionary.id).Nodup) {d : Dictionary}
    (hd : d ∈ s.dictionaries) : s.flag d.id = d.isIncluded := by
  rw [flag, ((shows_dictionaries hs).get_iff d.id d).mpr ⟨hd, rfl⟩]
  rfl

/-- Dictionaries that were left out and get back their flags are as they were. -/
theorem switch_flag_switch (hs : (s.dictionaries.map Dictionary.id).Nodup)
    (other : DictionaryId → Bool) (ids : List DictionaryId) :
    (s.switch other ids).switch s.flag ids = s := by
  have hids : ((s.switch other ids).dictionaries.map Dictionary.id) =
      s.dictionaries.map Dictionary.id := by
    rw [switch_eq hs, List.map_map]
    apply List.map_congr_left
    intro d _
    by_cases hd : d.id ∈ ids <;> simp [hd, Dictionary.including]
  rw [switch_eq (hids ▸ hs), switch_eq hs, List.map_map]
  have hback : ∀ d ∈ s.dictionaries,
      ((fun d => if d.id ∈ ids then d.including (s.flag d.id) else d) ∘
        fun d => if d.id ∈ ids then d.including (other d.id) else d) d = d := by
    intro d hd
    by_cases hmem : d.id ∈ ids
    · simp [hmem, Dictionary.including, flag_eq hs hd]
    · simp [hmem]
  rw [List.map_congr_left hback, List.map_id']

theorem mem_idsNamed_iff (hs : (s.dictionaries.map Dictionary.id).Nodup) {d : Dictionary}
    (hd : d ∈ s.dictionaries) (name : String) : d.id ∈ s.idsNamed name ↔ d.name = name := by
  simp only [idsNamed, List.mem_map, List.mem_filter, decide_eq_true_eq]
  constructor
  · rintro ⟨d', ⟨hd', hname⟩, hid⟩
    rw [← List.inj_on_of_nodup_map hs hd' hd hid, hname]
  · intro hname
    exact ⟨d, ⟨hd, hname⟩, rfl⟩

/-- To change the dictionaries of a name is to change those of their numbers. -/
theorem setIncludedByName_eq_switch (hs : (s.dictionaries.map Dictionary.id).Nodup) (name : String)
    (isIncluded : Bool) :
    (s.setIncludedByName name isIncluded).1 = s.switch (fun _ => isIncluded) (s.idsNamed name) := by
  rw [switch_eq hs, setIncludedByName]
  refine congrArg (Store.mk · s.nextNumber s.nextReference) (List.map_congr_left ?_)
  intro d hd
  simp only [mem_idsNamed_iff hs hd]

end Switches

end Store

namespace Search

/-- Leaving dictionaries out of searches, taking them out of the snapshot, and passing over what
belongs to them in the whole outcome all come to the same; with the flags that they had before, the
search finds again what it had found. The calls that change flags do just this, while the store does
not hold more dictionaries than there are numbers. -/
theorem excluded_as_absent (ops : List Store.Operation) (ids : List DictionaryId) (p : Predicate) :
    let s := Store.run {} ops
    let outcome := execute p s.snapshot
    execute p (s.snapshot.excluding ids) = outcome.withoutAll ids ∧
      execute p (s.snapshot.withoutAll ids) = outcome.withoutAll ids ∧
      execute p ((s.snapshot.excluding ids).withFlags s.snapshot.flags) = outcome ∧
      (s.size ≤ 2 ^ 32 →
        (s.switch (fun _ => false) ids).snapshot = s.snapshot.excluding ids ∧
        (∀ name, (s.setIncludedByName name false).1.snapshot =
          s.snapshot.excluding (s.idsNamed name)) ∧
        execute p ((s.switch (fun _ => false) ids).switch s.flag ids).snapshot = outcome) := by
  intro s outcome
  refine ⟨execute_excluding p ids s.snapshot, ?_, ?_, fun hsize => ?_⟩
  · rw [withoutAll_eq]
    exact execute_filter p (fun id => id ∉ ids) s.snapshot
  · rw [withFlags_flags]
  · obtain ⟨first, hnumbers⟩ := Store.isNumbered_run ops
    have hs : (s.dictionaries.map Dictionary.id).Nodup := hnumbers.nodup hsize
    refine ⟨?_, fun name => ?_, ?_⟩
    · rw [Store.switch_eq hs]
      rfl
    · rw [Store.setIncludedByName_eq_switch hs, Store.switch_eq hs]
      rfl
    · rw [Store.switch_flag_switch hs]

/-- The second of two dictionaries with one name and one record is left out and comes back. -/
theorem excluded_twin :
    let record : Record := ⟨0, .ofForm 1 "x"⟩
    let s := Store.run {} [.insert "a" [record], .insert "a" [record]]
    let p := Predicate.host ⟨"all", fun _ => .answer true⟩
    s.size ≤ 2 ^ 32 ∧
      (s.switch (fun _ => false) [⟨1⟩]).snapshot = s.snapshot.excluding [⟨1⟩] ∧
      execute p (s.snapshot.excluding [⟨1⟩]) = (execute p s.snapshot).withoutAll [⟨1⟩] ∧
      execute p ((s.switch (fun _ => false) [⟨1⟩]).switch s.flag [⟨1⟩]).snapshot =
        execute p s.snapshot := by
  intro record s p
  have hsize : s.size ≤ 2 ^ 32 := by decide
  obtain ⟨hexcluding, -, -, hcalls⟩ := excluded_as_absent
    [.insert "a" [record], .insert "a" [record]] [⟨1⟩] p
  obtain ⟨hswitch, -, hback⟩ := hcalls hsize
  exact ⟨hsize, hswitch, hexcluding, hback⟩

end Search

end Lexicon
