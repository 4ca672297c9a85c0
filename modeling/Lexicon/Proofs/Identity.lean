import Lexicon.Proofs.Loading
import Lexicon.Proofs.Outcomes

/-!
# What numbers stand for

In a run that does not add more dictionaries than there are numbers, each addition is given a number
above all that were given out before, also across clears, loads and files that cannot be read. A
number then stands for one addition for good. It finds the dictionary of this addition or none. Hits
are the same if they share one record of one addition, whenever they were found. The entries of a text
become a record each, so there this is to stand at the same position. A caller that inserts one record
at two positions gets hits that are the same at both of them.
-/

namespace Lexicon.Store

open Search (Hit Predicate)

/-- Numbers that follow each other. -/
def numbers (first : UInt32) (count : Nat) : List DictionaryId :=
  (List.range count).map fun i => ⟨first + UInt32.ofNat i⟩

/-- What an event adds, if it adds a dictionary. -/
def Event.addition? : Event → Option (String × Origin)
  | added name origin => some (name, origin)
  | _ => none

/-- The numbers that an operation gives out, as it answers them. -/
def Operation.given (s : Store) : Operation → List DictionaryId
  | load files => (s.load files).2.loaded
  | ingest name text => (s.ingest name text).2.toOption.toList
  | insert name records => [(s.insert name records).2]
  | clear | setIncluded _ _ | setIncludedByName _ _ => []

/-- The numbers that operations give out, one after the other. -/
def given : Store → List Operation → List DictionaryId
  | _, [] => []
  | s, op :: ops => op.given s ++ given (op.apply s) ops

/-- What the operations of a run add, in order. -/
def added (ops : List Operation) : List (String × Origin) :=
  (history ops).filterMap Event.addition?

/-- The records of additions, one after the other, given the reference of the next record. -/
def recordsFrom : (next : Nat) → List (String × Origin) → List (String × List Record)
  | _, [] => []
  | k, (name, origin) :: later =>
    (name, origin.records k) :: recordsFrom (Record.above k (origin.records k)) later

/-- The additions of a run that begins with a new store: the number that was given out for each, and
what was added under it. -/
def ledger (ops : List Operation) : List (DictionaryId × String × List Record) :=
  (given {} ops).zip (recordsFrom 0 (added ops))

/-- The additions of a history, given the number of the first one and the reference of the first
record. -/
def entered : (number : UInt32) → (next : Nat) → List Event →
    List (DictionaryId × String × List Record)
  | _, _, [] => []
  | n, k, .added name origin :: later =>
    (⟨n⟩, name, origin.records k) :: entered (n + 1) (Record.above k (origin.records k)) later
  | n, k, _ :: later => entered n k later

/-- Holds of an operation after which nothing is left of what was in the store. -/
def Operation.empties : Operation → Bool
  | load _ | clear => true
  | _ => false

section Numbers

theorem numbers_succ (n : UInt32) (k : Nat) : numbers n (k + 1) = ⟨n⟩ :: numbers (n + 1) k := by
  simp [numbers, List.range_succ_eq_map, UInt32.add_assoc, UInt32.add_comm 1]

theorem numbers_add (n : UInt32) (j k : Nat) :
    numbers n (j + k) = numbers n j ++ numbers (n + UInt32.ofNat j) k := by
  simp [numbers, List.range_add, UInt32.add_assoc]

/-- Numbers from zero on grow as long as they do not come round. -/
theorem pairwise_numbers {k : Nat} (hk : k ≤ 2 ^ 32) :
    (numbers 0 k).Pairwise fun a b => a.number < b.number := by
  rw [numbers, List.pairwise_map]
  refine List.pairwise_lt_range.imp_of_mem ?_
  intro i j hi hj hij
  rw [List.mem_range] at hi hj
  simp only [UInt32.zero_add, UInt32.lt_iff_toNat_lt, UInt32.toNat_ofNat']
  omega

theorem Consecutive.ids_eq {n m : UInt32} {ds : List Dictionary} (h : Consecutive n ds m) :
    ds.map Dictionary.id = numbers n ds.length := by
  induction h with
  | nil => rfl
  | cons hd _ ih => rw [List.map_cons, hd, ih, List.length_cons, numbers_succ]

end Numbers

section Records

theorem map_reference_allocate (next : Nat) (entries : List Entry) :
    (Record.allocate next entries).map Record.reference = List.range' next entries.length := by
  induction entries generalizing next with
  | nil => rfl
  | cons e es ih => rw [Record.allocate, List.map_cons, ih, List.length_cons, List.range'_succ]

theorem le_above (next : Nat) (records : List Record) : next ≤ Record.above next records := by
  induction records generalizing next with
  | nil => exact Nat.le_refl next
  | cons r rs ih => exact (Nat.le_max_left ..).trans (ih _)

/-- No record that is in use has a reference from the next one on. -/
theorem reference_lt_above {next : Nat} {records : List Record} {r : Record} (hr : r ∈ records) :
    r.reference < Record.above next records := by
  induction records generalizing next with
  | nil => cases hr
  | cons r' rs ih =>
      rcases List.mem_cons.mp hr with rfl | hr
      · exact (Nat.le_max_right ..).trans (le_above _ rs)
      · exact ih hr

/-- The records of an addition come from its origin, and no earlier addition has used a reference from
the next one on. -/
theorem exists_of_getElem?_recordsFrom {next l : Nat} {additions : List (String × Origin)}
    {name : String} {records : List Record}
    (hl : (recordsFrom next additions)[l]? = some (name, records)) :
    ∃ origin k, additions[l]? = some (name, origin) ∧ records = origin.records k ∧ next ≤ k ∧
      ∀ j < l, ∀ name' records', (recordsFrom next additions)[j]? = some (name', records') →
        ∀ r ∈ records', r.reference < k := by
  induction additions generalizing next l with
  | nil => simp [recordsFrom] at hl
  | cons a later ih =>
      obtain ⟨first, origin⟩ := a
      cases l with
      | zero =>
          simp only [recordsFrom, List.getElem?_cons_zero, Option.some.injEq, Prod.mk.injEq] at hl
          obtain ⟨rfl, rfl⟩ := hl
          exact ⟨origin, next, rfl, rfl, Nat.le_refl next, fun j hj => absurd hj (Nat.not_lt_zero j)⟩
      | succ l =>
          rw [recordsFrom, List.getElem?_cons_succ] at hl
          obtain ⟨origin', k, hl, hrecords, hk, hearlier⟩ := ih hl
          refine ⟨origin', k, hl, hrecords, (le_above ..).trans hk, ?_⟩
          intro j hj name' records' hj' r hr
          cases j with
          | zero =>
              simp only [recordsFrom, List.getElem?_cons_zero, Option.some.injEq,
                Prod.mk.injEq] at hj'
              obtain ⟨-, rfl⟩ := hj'
              exact (reference_lt_above hr).trans_le hk
          | succ j =>
              rw [recordsFrom, List.getElem?_cons_succ] at hj'
              exact hearlier j (Nat.lt_of_succ_lt_succ hj) name' records' hj' r hr

end Records

section Steps

theorem filterMap_added (name : String) (origin : Origin) (later : List Event) :
    (Event.added name origin :: later).filterMap Event.addition? =
      (name, origin) :: later.filterMap Event.addition? :=
  rfl

theorem ingested_of_ok {text : String} {entries : List Entry}
    (h : Document.layout.decode text = .ok entries) (name : String) :
    ingested name text = [.added name (.text entries)] := by
  unfold ingested
  rw [Document.read, h]
  rfl

theorem ingested_of_error {text : String} {e : Json.ReadError}
    (h : Document.layout.decode text = .error e) (name : String) : ingested name text = [] := by
  unfold ingested
  rw [Document.read, h]
  rfl

theorem Becomes.added_eq {n m : UInt32} {k l : Nat} {files : List (String × String)}
    {ds : List Dictionary} {report : LoadReport} (h : Becomes n k files ds report m l) :
    (files.flatMap fun (name, text) => ingested name text).filterMap Event.addition? =
      ds.map fun d => (d.name, .text d.entries) := by
  induction h with
  | nil => rfl
  | dictionary hread _ ih =>
      simp only [List.flatMap_cons, ingested_of_ok hread, List.filterMap_append, ih, List.map_cons,
        Dictionary.entries, Record.map_entry_allocate]
      rfl
  | failure hread _ ih =>
      simp only [List.flatMap_cons, ingested_of_error hread, List.nil_append, ih]

/-- An operation gives out as many numbers as it adds dictionaries, from the next number on. -/
theorem Operation.given_eq (s : Store) (op : Operation) :
    op.given s = numbers s.nextNumber (op.events.filterMap Event.addition?).length := by
  cases op with
  | load files =>
      have h := becomes_load s files
      rw [given, h.loaded_eq, h.consecutive.ids_eq, events, List.filterMap_cons_none rfl,
        h.added_eq, List.length_map]
  | ingest name text =>
      rw [given, events]
      cases hread : Document.layout.decode text with
      | ok entries =>
          rw [ingest_of_ok hread, ingested_of_ok hread, filterMap_added, List.length_cons,
            numbers_succ]
          rfl
      | error e =>
          rw [ingest_of_error hread, ingested_of_error hread]
          rfl
  | insert name records =>
      rw [events, filterMap_added, List.length_cons, numbers_succ]
      rfl
  | clear | setIncluded | setIncludedByName => rfl

theorem numberAfter_eq (n : UInt32) (es : List Event) :
    numberAfter n es = n + UInt32.ofNat (es.filterMap Event.addition?).length := by
  induction es generalizing n with
  | nil => simp [numberAfter]
  | cons e later ih =>
      cases e with
      | added name origin =>
          rw [numberAfter, ih, filterMap_added, List.length_cons, UInt32.ofNat_add,
            UInt32.add_assoc, UInt32.add_comm 1]
          rfl
      | emptied | changedById | changedByName => exact ih n

theorem nextNumber_foldl (s : Store) (es : List Event) :
    (es.foldl Event.apply s).nextNumber = numberAfter s.nextNumber es := by
  induction es generalizing s with
  | nil => rfl
  | cons e later ih =>
      rw [List.foldl_cons, ih, nextNumber_apply]
      cases e <;> rfl

theorem added_cons (op : Operation) (ops : List Operation) :
    added (op :: ops) = op.events.filterMap Event.addition? ++ added ops :=
  List.filterMap_append

/-- A run gives out as many numbers as it adds dictionaries, each the one after the one before. -/
theorem given_eq (s : Store) (ops : List Operation) :
    given s ops = numbers s.nextNumber (added ops).length := by
  induction ops generalizing s with
  | nil => rfl
  | cons op ops ih =>
      rw [given, ih, op.given_eq, op.apply_eq, nextNumber_foldl, numberAfter_eq, ← numbers_add,
        added_cons, List.length_append]

theorem map_fst_entered (n : UInt32) (k : Nat) (es : List Event) :
    (entered n k es).map Prod.fst = numbers n (es.filterMap Event.addition?).length := by
  induction es generalizing n k with
  | nil => rfl
  | cons e later ih =>
      cases e with
      | added name origin =>
          rw [entered, List.map_cons, ih, filterMap_added, List.length_cons, numbers_succ]
      | emptied | changedById | changedByName => exact ih n k

theorem map_snd_entered (n : UInt32) (k : Nat) (es : List Event) :
    (entered n k es).map Prod.snd = recordsFrom k (es.filterMap Event.addition?) := by
  induction es generalizing n k with
  | nil => rfl
  | cons e later ih =>
      cases e with
      | added name origin => exact congrArg ((name, origin.records k) :: ·) (ih (n + 1) _)
      | emptied | changedById | changedByName => exact ih n k

theorem ledger_eq (ops : List Operation) : ledger ops = entered 0 0 (history ops) := by
  rw [ledger, given_eq, added, ← map_fst_entered 0 0, ← map_snd_entered 0 0 (history ops)]
  exact (List.zip_of_prod rfl rfl).symm

theorem entered_append (n : UInt32) (k : Nat) (es es' : List Event) :
    entered n k (es ++ es') =
      entered n k es ++ entered (numberAfter n es) (referenceAfter k es) es' := by
  induction es generalizing n k with
  | nil => rfl
  | cons e later ih =>
      cases e with
      | added name origin => exact congrArg ((⟨n⟩, name, origin.records k) :: ·) (ih (n + 1) _)
      | emptied | changedById | changedByName => exact ih n k

/-- What a history leaves are some of its additions, in their order. -/
theorem content_remaining_sublist (n : UInt32) (k : Nat) (es : List Event) :
    ((remaining n k es).map content).Sublist (entered n k es) := by
  induction es generalizing n k with
  | nil => exact .slnil
  | cons e later ih =>
      cases e with
      | added name origin =>
          rw [remaining, entered]
          split
          · exact (ih (n + 1) _).cons _
          · exact (ih (n + 1) _).cons_cons _
      | emptied | changedById | changedByName => exact ih n k

/-- Nothing is left of what was added before the store was emptied. -/
theorem remaining_emptied (n : UInt32) (k : Nat) (es es' : List Event) :
    remaining n k (es ++ .emptied :: es') =
      remaining (numberAfter n es) (referenceAfter k es) es' := by
  induction es generalizing n k with
  | nil => rfl
  | cons e later ih =>
      cases e with
      | added name origin =>
          rw [List.cons_append, remaining]
          exact (if_pos (by simp)).trans (ih (n + 1) _)
      | emptied | changedById | changedByName => exact ih n k

end Steps

/-- A hit is the record at a position of an addition of a run. Additions are counted from zero. -/
def IsRecord (ops : List Operation) (k i : Nat) (x : Hit) : Prop :=
  ∃ records, (ledger ops)[k]? = some (x.dictionary, x.dictionaryName, records) ∧
    records[i]? = some ⟨x.reference, x.entry⟩

/-- An addition of a run has some record at more than one position: that of a caller who gave one
reference several times. -/
def Repeats (ops : List Operation) (k : Nat) : Prop :=
  ∃ name records, (added ops)[k]? = some (name, .caller records) ∧
    ¬ (records.map Record.reference).Nodup

/-- A hit was found in the course of a run: by a search of what the store held at some moment. -/
def Finds (ops : List Operation) (x : Hit) : Prop :=
  ∃ before p, before <+: ops ∧ x ∈ (Search.execute p (run {} before).snapshot).hits

section Ledger
variable {ops before after : List Operation} {op : Operation}

theorem length_added (ops : List Operation) : (added ops).length = additions ops := by
  rw [added, List.length_filterMap_eq_countP, additions]
  apply List.countP_congr
  intro e _
  cases e <;> simp [Event.addition?, Event.isAdded]

theorem map_fst_ledger (ops : List Operation) : (ledger ops).map Prod.fst = given {} ops := by
  rw [ledger_eq, map_fst_entered, given_eq]
  rfl

theorem pairwise_given (hops : additions ops ≤ 2 ^ 32) :
    (given {} ops).Pairwise fun a b => a.number < b.number := by
  rw [given_eq, length_added]
  exact pairwise_numbers hops

theorem pairwise_ledger (hops : additions ops ≤ 2 ^ 32) :
    (ledger ops).Pairwise fun a b => a.1.number < b.1.number := by
  have h := pairwise_given hops
  rwa [← map_fst_ledger, List.pairwise_map] at h

theorem nodup_ledger (hops : additions ops ≤ 2 ^ 32) : ((ledger ops).map Prod.fst).Nodup := by
  rw [map_fst_ledger]
  refine List.Pairwise.imp ?_ (pairwise_given hops)
  rintro a b h rfl
  exact UInt32.lt_irrefl _ h

/-- What the store holds are some of the additions, in their order. -/
theorem content_sublist (ops : List Operation) :
    ((run {} ops).dictionaries.map content).Sublist (ledger ops) := by
  rw [(followsContent_run ops).content_eq, ledger_eq]
  exact content_remaining_sublist 0 0 (history ops)

theorem ledger_mono (h : before <+: ops) : ledger before <+: ledger ops := by
  obtain ⟨after, rfl⟩ := h
  rw [ledger_eq, ledger_eq, history_append, entered_append]
  exact List.prefix_append _ _

/-- Behind an operation that empties the store, the store holds some of the later additions. -/
theorem exists_later (hop : op.empties = true) (before after : List Operation) :
    ∃ later, ledger (before ++ op :: after) = ledger before ++ later ∧
      ((run {} (before ++ op :: after)).dictionaries.map content).Sublist later := by
  obtain ⟨rest, hrest⟩ : ∃ rest, op.events = .emptied :: rest := by
    cases op with
    | load | clear => exact ⟨_, rfl⟩
    | ingest | insert | setIncluded | setIncludedByName => cases hop
  have hhistory : history (before ++ op :: after) =
      history before ++ .emptied :: (rest ++ history after) := by
    rw [history_append, history, history, List.flatMap_cons, hrest]
    rfl
  refine ⟨entered (numberAfter 0 (history before)) (referenceAfter 0 (history before))
    (rest ++ history after), ?_, ?_⟩
  · rw [ledger_eq, ledger_eq, hhistory, entered_append]
    rfl
  · rw [(followsContent_run _).content_eq, hhistory, remaining_emptied]
    exact content_remaining_sublist _ _ _

/-- A number that was given out before the store was emptied stands for nothing in it. -/
theorem ne_of_mem_given (hops : additions (before ++ op :: after) ≤ 2 ^ 32)
    (hop : op.empties = true) {id : DictionaryId} (hid : id ∈ given {} before) {d : Dictionary}
    (hd : d ∈ (run {} (before ++ op :: after)).dictionaries) : d.id ≠ id := by
  obtain ⟨later, hledger, hsublist⟩ := exists_later hop before after
  have hpairwise := pairwise_ledger hops
  rw [hledger, List.pairwise_append] at hpairwise
  rw [← map_fst_ledger, List.mem_map] at hid
  obtain ⟨a, ha, rfl⟩ := hid
  have hlater : content d ∈ later := hsublist.subset (List.mem_map_of_mem hd)
  intro heq
  have hlt : a.1.number < d.id.number := hpairwise.2.2 a ha (content d) hlater
  exact UInt32.lt_irrefl _ (heq ▸ hlt)

end Ledger

section Hits
variable {ops : List Operation} {a b x : Hit} {id : DictionaryId} {name : String}
  {records : List Record} {i j k l : Nat}

theorem isSame_iff : a.isSame b = true ↔ a.dictionary = b.dictionary ∧ a.reference = b.reference := by
  simp [Hit.isSame]

theorem getElem?_ledger (h : (ledger ops)[k]? = some (id, name, records)) :
    (given {} ops)[k]? = some id ∧ (recordsFrom 0 (added ops))[k]? = some (name, records) :=
  List.getElem?_zip_eq_some.mp h

/-- An addition that repeats no record has references that differ, be they new or the caller's. -/
theorem nodup_of_not_repeats (h : (ledger ops)[k]? = some (id, name, records))
    (hk : ¬ Repeats ops k) : (records.map Record.reference).Nodup := by
  obtain ⟨origin, next, hadded, rfl, -⟩ := exists_of_getElem?_recordsFrom (getElem?_ledger h).2
  cases origin with
  | text entries =>
      rw [Origin.records, map_reference_allocate]
      exact List.nodup_range' 1
  | caller records =>
      by_contra hrepeats
      exact hk ⟨name, records, hadded, hrepeats⟩

/-- A hit is a record of a dictionary that was searched. -/
theorem exists_of_mem_hits {p : Predicate} {s : Snapshot} (hx : x ∈ (Search.execute p s).hits) :
    ∃ d ∈ s.dictionaries, x.dictionary = d.id ∧ x.dictionaryName = d.name ∧
      ⟨x.reference, x.entry⟩ ∈ d.records := by
  obtain ⟨d, hd, hplace⟩ := Search.mem_places_iff.mp (Search.mem_hits_iff.mp hx).1
  exact ⟨d, (List.mem_filter.mp hd).1, Search.mem_placesOf_iff.mp hplace⟩

/-- Whatever a search finds in the course of a run is a record of an addition. -/
theorem Finds.exists_isRecord (h : Finds ops x) : ∃ k i, IsRecord ops k i x := by
  obtain ⟨before, p, hbefore, hx⟩ := h
  obtain ⟨d, hd, hid, hname, hrecord⟩ := exists_of_mem_hits hx
  have hmem : content d ∈ ledger ops :=
    (ledger_mono hbefore).subset ((content_sublist before).subset (List.mem_map_of_mem hd))
  obtain ⟨k, hk⟩ := List.mem_iff_getElem?.mp hmem
  obtain ⟨i, hi⟩ := List.mem_iff_getElem?.mp hrecord
  refine ⟨k, i, d.records, ?_, hi⟩
  rw [hk, content, hid, hname]

theorem IsRecord.getElem?_eq (h : IsRecord ops k i x) :
    ((ledger ops).map Prod.fst)[k]? = some x.dictionary := by
  obtain ⟨records, hk, -⟩ := h
  rw [List.getElem?_map, hk]
  rfl

/-- Records are of one addition if their dictionaries have one number. -/
theorem IsRecord.dictionary_eq_iff (hops : additions ops ≤ 2 ^ 32) (ha : IsRecord ops k i a)
    (hb : IsRecord ops l j b) : a.dictionary = b.dictionary ↔ k = l := by
  have hk := ha.getElem?_eq
  have hl := hb.getElem?_eq
  obtain ⟨hlt, -⟩ := List.getElem?_eq_some_iff.mp hk
  rw [← List.getElem?_inj hlt (nodup_ledger hops), hk, hl, Option.some.injEq]

/-- In an addition that repeats no record, a reference stands for a position. -/
theorem IsRecord.reference_eq_iff (hk : ¬ Repeats ops k) (ha : IsRecord ops k i a)
    (hb : IsRecord ops k j b) : a.reference = b.reference ↔ i = j := by
  obtain ⟨records, hrecords, hi⟩ := ha
  obtain ⟨records', hrecords', hj⟩ := hb
  obtain ⟨-, -, rfl⟩ : a.dictionary = b.dictionary ∧ a.dictionaryName = b.dictionaryName ∧
      records = records' := by
    simpa only [Option.some.injEq, Prod.mk.injEq] using hrecords.symm.trans hrecords'
  have hi' : (records.map Record.reference)[i]? = some a.reference := by
    rw [List.getElem?_map, hi]
    rfl
  have hj' : (records.map Record.reference)[j]? = some b.reference := by
    rw [List.getElem?_map, hj]
    rfl
  obtain ⟨hlt, -⟩ := List.getElem?_eq_some_iff.mp hi'
  rw [← List.getElem?_inj hlt (nodup_of_not_repeats hrecords hk), hi', hj', Option.some.injEq]

theorem pairwise_placesOf {d : Dictionary} (hd : (d.records.map Record.reference).Nodup) :
    (Search.placesOf d).Pairwise fun a b => a.isSame b = false := by
  rw [Search.placesOf, List.pairwise_map]
  refine (List.pairwise_map.mp hd).imp ?_
  intro r r' hne
  simp [Hit.isSame, Hit.ofRecord, hne]

/-- A dictionary of the number was added with some record at more than one position. -/
def RepeatsIn (ops : List Operation) (id : DictionaryId) : Prop :=
  ∃ k, (given {} ops)[k]? = some id ∧ Repeats ops k

/-- Places in the store are the same only where a record was repeated. -/
theorem pairwise_places (hops : additions ops ≤ 2 ^ 32) :
    (Search.places (run {} ops).snapshot).Pairwise fun a b =>
      a.isSame b = true → RepeatsIn ops a.dictionary := by
  rw [Search.places, List.pairwise_flatMap]
  constructor
  · intro d hd
    obtain ⟨k, hk⟩ := List.mem_iff_getElem?.mp
      ((content_sublist ops).subset (List.mem_map_of_mem (List.mem_filter.mp hd).1))
    by_cases hrepeats : Repeats ops k
    · apply List.pairwise_of_forall_mem_list
      intro a ha b _ _
      rw [(Search.mem_placesOf_iff.mp ha).1]
      exact ⟨k, (getElem?_ledger hk).1, hrepeats⟩
    · refine (pairwise_placesOf (nodup_of_not_repeats hk hrepeats)).imp ?_
      intro a b hne hsame
      rw [hsame] at hne
      cases hne
  · have hids := (List.pairwise_map.mp
      (nodup_of_staysWithin (staysWithin_of_additions hops))).filter fun d => d.isIncluded
    refine hids.imp ?_
    intro d d' hne a ha b hb hsame
    rw [isSame_iff, (Search.mem_placesOf_iff.mp ha).1, (Search.mem_placesOf_iff.mp hb).1] at hsame
    exact absurd hsame.1 hne

theorem pairwise_hits (hops : additions ops ≤ 2 ^ 32) (p : Predicate) :
    (Search.execute p (run {} ops).snapshot).hits.Pairwise fun a b =>
      a.isSame b = true → RepeatsIn ops a.dictionary := by
  have hsymm : ∀ {a b : Hit}, (a.isSame b = true → RepeatsIn ops a.dictionary) →
      b.isSame a = true → RepeatsIn ops b.dictionary := by
    intro a b h hsame
    rw [isSame_iff] at h hsame
    rw [hsame.1]
    exact h ⟨hsame.1.symm, hsame.2.symm⟩
  rw [Search.execute_eq, (Search.isRanking_rank _).perm.pairwise_iff hsymm]
  exact (pairwise_places hops).filter _

end Hits

/-- Numbers stand for the additions of a run, and hits for their records. -/
structure Identifies (ops : List Operation) : Prop where
  /-- Each number given out is above all that were given out before. -/
  given_increase : (given {} ops).Pairwise fun a b => a.number < b.number
  given_length : (given {} ops).length = (added ops).length
  numbers_increase : (run {} ops).dictionaries.Pairwise fun a b => a.id.number < b.id.number
  /-- A number finds what was added under it. -/
  get_added (id : DictionaryId) (d : Dictionary) : (run {} ops).get? id = some d →
    d.id = id ∧ content d ∈ ledger ops ∧ ∀ a ∈ ledger ops, a.1 = id → a = content d
  setIncluded_only (id : DictionaryId) (isIncluded : Bool) :
    ((run {} ops).setIncluded id isIncluded).1.dictionaries = (run {} ops).dictionaries.map
      fun d => if d.id = id then d.including isIncluded else d
  /-- A number from before the store was emptied finds and changes nothing. -/
  forgotten (before : List Operation) (op : Operation) (after : List Operation) :
    ops = before ++ op :: after → op.empties = true → ∀ id ∈ given {} before,
      (run {} ops).get? id = none ∧
        ∀ isIncluded, (run {} ops).setIncluded id isIncluded = (run {} ops, false)
  /-- The entries of a text become records that no addition before it has. -/
  text_fresh (j k : Nat) (id id' : DictionaryId) (name name' : String) (entries : List Entry)
    (records records' : List Record) :
    j < k → (ledger ops)[j]? = some (id', name', records') →
    (ledger ops)[k]? = some (id, name, records) → (added ops)[k]? = some (name, .text entries) →
      records.map Record.entry = entries ∧
        ∀ r ∈ records, ∀ r' ∈ records', r.reference ≠ r'.reference
  finds_record (x : Hit) : Finds ops x → ∃ k i, IsRecord ops k i x
  /-- Hits are the same if they share a record of one addition. -/
  isSame_record (a b : Hit) (k l i j : Nat) : IsRecord ops k i a → IsRecord ops l j b →
    (a.isSame b = true ↔ k = l ∧ a.reference = b.reference)
  /-- This is to be at the same position, unless a caller has repeated a record. -/
  isSame_position (a b : Hit) (k l i j : Nat) : IsRecord ops k i a → IsRecord ops l j b →
    ¬ Repeats ops k → (a.isSame b = true ↔ k = l ∧ i = j)
  /-- No two hits of one search are the same, but where a caller has repeated a record. -/
  hits_differ (p : Predicate) : (Search.execute p (run {} ops).snapshot).hits.Pairwise fun a b =>
    a.isSame b = true → RepeatsIn ops a.dictionary
  /-- A hit from before the store was emptied is none of those found afterwards. -/
  emptied_differ (before : List Operation) (op : Operation) (after : List Operation) :
    ops = before ++ op :: after → op.empties = true → ∀ a, Finds before a → ∀ p,
      ∀ b ∈ (Search.execute p (run {} ops).snapshot).hits, a.isSame b = false

section Runs
variable {ops : List Operation}

theorem pairwise_dictionaries (hops : additions ops ≤ 2 ^ 32) :
    (run {} ops).dictionaries.Pairwise fun a b => a.id.number < b.id.number := by
  have h := (pairwise_ledger hops).sublist (content_sublist ops)
  rwa [List.pairwise_map] at h

theorem get?_eq_some (hops : additions ops ≤ 2 ^ 32) {id : DictionaryId} {d : Dictionary}
    (hd : (run {} ops).get? id = some d) :
    d.id = id ∧ content d ∈ ledger ops ∧ ∀ a ∈ ledger ops, a.1 = id → a = content d := by
  have hid : d.id = id := by simpa using List.find?_some hd
  have hmem : content d ∈ ledger ops :=
    (content_sublist ops).subset (List.mem_map_of_mem (List.mem_of_find?_eq_some hd))
  refine ⟨hid, hmem, ?_⟩
  intro a ha heq
  exact List.inj_on_of_nodup_map (nodup_ledger hops) ha hmem (heq.trans hid.symm)

/-- A number under which the store holds nothing finds nothing and changes nothing. -/
theorem unknown_of_forall_ne {s : Store} {id : DictionaryId} (h : ∀ d ∈ s.dictionaries, d.id ≠ id) :
    s.get? id = none ∧ ∀ isIncluded, s.setIncluded id isIncluded = (s, false) := by
  refine ⟨List.find?_eq_none.mpr fun d hd => by simpa using h d hd, fun isIncluded => ?_⟩
  refine Prod.ext ((answers s).setIncluded_unknown id isIncluded h) ?_
  rw [← Bool.not_eq_true, (answers s).setIncluded_iff]
  rintro ⟨d, hd, hid⟩
  exact h d hd hid

/-- As long as a run adds fewer dictionaries than there are numbers, numbers stand for what was
added under them, and hits for the records that were found. -/
theorem run_identifies (ops : List Operation) (hops : additions ops < 2 ^ 32) :
    Identifies ops where
  given_increase := pairwise_given hops.le
  given_length := by rw [given_eq, numbers, List.length_map, List.length_range]
  numbers_increase := pairwise_dictionaries hops.le
  get_added _ _ hd := get?_eq_some hops.le hd
  setIncluded_only id isIncluded := by
    have hids := nodup_of_staysWithin (staysWithin_of_additions hops.le)
    rw [setIncluded_dictionaries hids]
    exact List.map_congr_left fun d _ => change_changedById id isIncluded d
  forgotten before op after heq hop id hid := by
    subst heq
    exact unknown_of_forall_ne fun d hd => ne_of_mem_given hops.le hop hid hd
  text_fresh j k id id' name name' entries records records' hjk hj hk htext := by
    obtain ⟨origin, next, hadded, rfl, -, hbefore⟩ :=
      exists_of_getElem?_recordsFrom (getElem?_ledger hk).2
    obtain rfl : origin = .text entries := by simpa [htext] using hadded.symm
    refine ⟨Record.map_entry_allocate next entries, ?_⟩
    intro r hr r' hr'
    have hle : next ≤ r.reference := by
      have hmem := List.mem_map_of_mem (f := Record.reference) hr
      rw [Origin.records, map_reference_allocate] at hmem
      exact (List.mem_range'_1.mp hmem).1
    exact ((hbefore j hjk name' records' (getElem?_ledger hj).2 r' hr').trans_le hle).ne'
  finds_record _ hx := hx.exists_isRecord
  isSame_record a b k l i j ha hb := by rw [isSame_iff, ha.dictionary_eq_iff hops.le hb]
  isSame_position a b k l i j ha hb hk := by
    rw [isSame_iff, ha.dictionary_eq_iff hops.le hb]
    refine and_congr_right ?_
    rintro rfl
    exact ha.reference_eq_iff hk hb
  hits_differ p := pairwise_hits hops.le p
  emptied_differ before op after heq hop a ha p b hb := by
    subst heq
    obtain ⟨k, i, hk⟩ := ha.exists_isRecord
    obtain ⟨d, hd, hid, -⟩ := exists_of_mem_hits hb
    have hgiven : a.dictionary ∈ given {} before := by
      rw [← map_fst_ledger]
      exact List.mem_of_getElem? hk.getElem?_eq
    have hne := ne_of_mem_given hops.le hop hgiven hd
    rw [← Bool.not_eq_true, isSame_iff]
    exact fun h => hne (hid.symm.trans h.1.symm)

/-- One file is loaded twice. What is found in it before is not what is found in it afterwards. -/
theorem run_identifies_reload :
    let text := "\x7b\"words\":[\x7b\"entry\":\x7b\"id\":1,\"form\":\"x\"\x7d\x7d]\x7d"
    let load : Operation := .load [("a", text)]
    let all : Predicate := .host ⟨"all", fun _ => .answer true⟩
    let first : Hit := ⟨⟨0⟩, "a", 0, .ofForm 1 "x"⟩
    let second : Hit := ⟨⟨1⟩, "a", 1, .ofForm 1 "x"⟩
    additions [load, load] < 2 ^ 32 ∧
      (Search.execute all (run {} [load]).snapshot).hits = [first] ∧
      (Search.execute all (run {} [load, load]).snapshot).hits = [second] ∧
      first.isSame second = false := by
  intro text load all first second
  have hops : additions [load, load] < 2 ^ 32 := by decide +kernel
  have hfirst : (Search.execute all (run {} [load]).snapshot).hits = [first] := by decide +kernel
  have hsecond : (Search.execute all (run {} [load, load]).snapshot).hits = [second] := by
    decide +kernel
  have hfinds : Finds [load] first := ⟨[load], all, List.prefix_rfl, by rw [hfirst]; simp⟩
  refine ⟨hops, hfirst, hsecond, ?_⟩
  apply (run_identifies [load, load] hops).emptied_differ [load] load [] rfl rfl first hfinds all
  rw [hsecond]
  exact List.mem_singleton_self second

/-- A record that a caller inserts at two positions is found at both, and the hits are the same. -/
theorem isSame_of_repeated :
    let record : Record := ⟨0, .ofForm 1 "x"⟩
    let ops : List Operation := [.insert "a" [record, record]]
    let all : Predicate := .host ⟨"all", fun _ => .answer true⟩
    let x : Hit := ⟨⟨0⟩, "a", 0, .ofForm 1 "x"⟩
    additions ops < 2 ^ 32 ∧ (Search.execute all (run {} ops).snapshot).hits = [x, x] ∧
      IsRecord ops 0 0 x ∧ IsRecord ops 0 1 x ∧ x.isSame x = true ∧
      ¬ ∀ a b k l i j, IsRecord ops k i a → IsRecord ops l j b → a.isSame b = true →
        k = l ∧ i = j := by
  intro record ops all x
  have hledger : ledger ops = [(⟨0⟩, "a", [record, record])] := by decide +kernel
  have hfirst : IsRecord ops 0 0 x := ⟨[record, record], by rw [hledger]; rfl, rfl⟩
  have hsecond : IsRecord ops 0 1 x := ⟨[record, record], by rw [hledger]; rfl, rfl⟩
  have hfound : Search.found all (Search.places (run {} ops).snapshot) = [x, x] := by
    decide +kernel
  have hranking : Search.IsRanking [x, x] [x, x] :=
    ⟨.refl _, List.pairwise_pair.mpr (le_refl _), fun _ => rfl⟩
  have hhits : (Search.execute all (run {} ops).snapshot).hits = [x, x] := by
    rw [Search.execute_eq, hfound]
    exact (Search.isRanking_iff.mp hranking).symm
  refine ⟨by decide +kernel, hhits, hfirst, hsecond, by decide, ?_⟩
  intro h
  have hposition := (h x x 0 0 0 1 hfirst hsecond (by decide)).2
  exact absurd hposition (by decide)

end Runs

end Lexicon.Store
