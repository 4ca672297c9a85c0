import Lexicon.Dictionary.Store
import Mathlib.Algebra.Group.Nat.Defs
import Mathlib.Data.List.Induction
import Mathlib.Data.List.Nodup

/-!
# Runs of a store

What a store shows after a run of operations follows from their history: the dictionaries that were
added since the store was last emptied, in order, each with what it was added with, and each with
the value of the latest change that reached it. Entries that are read from a text become records that
were not in use; a caller inserts its own records. Numbers have 32 bits and come round, so a change
by number reaches every dictionary of the number only as long as the store does not hold more of them
than there are numbers.
-/

namespace Lexicon.Store

/-- A call that may change a store. -/
inductive Operation where
  | load (files : List (String × String))
  | ingest (name text : String)
  | insert (name : String) (records : List Record)
  | clear
  | setIncluded (id : DictionaryId) (isIncluded : Bool)
  | setIncludedByName (name : String) (isIncluded : Bool)

/-- The store after an operation. -/
def Operation.apply (s : Store) : Operation → Store
  | load files => (s.load files).1
  | ingest name text => (s.ingest name text).1
  | insert name records => (s.insert name records).1
  | clear => s.clear
  | setIncluded id isIncluded => (s.setIncluded id isIncluded).1
  | setIncludedByName name isIncluded => (s.setIncludedByName name isIncluded).1

/-- The store after operations, one after the other. -/
def run (s : Store) (ops : List Operation) : Store := ops.foldl Operation.apply s

/-- Where the records of a dictionary come from. -/
inductive Origin where
  /-- They are made for entries that were read. -/
  | text (entries : List Entry)
  /-- They are those of the caller. -/
  | caller (records : List Record)
deriving DecidableEq

/-- The records, given the reference of the next one. -/
def Origin.records (next : Nat) : Origin → List Record
  | text entries => Record.allocate next entries
  | caller records => records

/-- What becomes of the content of a store. -/
inductive Event where
  | emptied
  | added (name : String) (origin : Origin)
  | changedById (id : DictionaryId) (isIncluded : Bool)
  | changedByName (name : String) (isIncluded : Bool)
deriving DecidableEq

/-- A text adds a dictionary if it can be read. -/
def ingested (name text : String) : List Event :=
  match Document.read name text with
  | .ok entries => [.added name (.text entries)]
  | .error _ => []

/-- The events of an operation. -/
def Operation.events : Operation → List Event
  | load files => .emptied :: files.flatMap fun (name, text) => ingested name text
  | ingest name text => ingested name text
  | insert name records => [.added name (.caller records)]
  | clear => [.emptied]
  | setIncluded id isIncluded => [.changedById id isIncluded]
  | setIncludedByName name isIncluded => [.changedByName name isIncluded]

/-- The events of a run. -/
def history (ops : List Operation) : List Event := ops.flatMap Operation.events

/-- The value that an event gives to a dictionary, if it reaches it. -/
def Event.flag? (id : DictionaryId) (name : String) : Event → Option Bool
  | changedById id' isIncluded => if id = id' then some isIncluded else none
  | changedByName name' isIncluded => if name = name' then some isIncluded else none
  | _ => none

/-- The value of the latest event that reaches a dictionary. If there is none, it takes part. -/
def latestFlag (id : DictionaryId) (name : String) (later : List Event) : Bool :=
  (later.reverse.findSome? (Event.flag? id name)).getD true

/-- The reference of the next record after a history, given that of the first one. -/
def referenceAfter : (next : Nat) → List Event → Nat
  | k, [] => k
  | k, .added _ origin :: later => referenceAfter (Record.above k (origin.records k)) later
  | k, _ :: later => referenceAfter k later

/-- The dictionaries that a history leaves, in the order in which they were added, given the number
of the first one and the reference of the first record. -/
def remaining : (number : UInt32) → (next : Nat) → List Event → List Dictionary
  | _, _, [] => []
  | n, k, .added name origin :: later =>
    let ds := remaining (n + 1) (Record.above k (origin.records k)) later
    if .emptied ∈ later then ds
    else ⟨⟨n⟩, name, origin.records k, latestFlag ⟨n⟩ name later⟩ :: ds
  | n, k, _ :: later => remaining n k later

/-- The number of the next dictionary after a history, given that of the first one. -/
def numberAfter : (number : UInt32) → List Event → UInt32
  | n, [] => n
  | n, .added _ _ :: later => numberAfter (n + 1) later
  | n, _ :: later => numberAfter n later

/-- What a dictionary was added with. -/
def content (d : Dictionary) : DictionaryId × String × List Record := (d.id, d.name, d.records)

/-- The dictionaries that a run leaves in a store that was new. -/
def shown (ops : List Operation) : List Dictionary := remaining 0 0 (history ops)

namespace Event

/-- The store after an event. -/
def apply (s : Store) : Event → Store
  | emptied => s.clear
  | added name origin => (s.insert name (origin.records s.nextReference)).1
  | changedById id isIncluded => (s.setIncluded id isIncluded).1
  | changedByName name isIncluded => (s.setIncludedByName name isIncluded).1

/-- Holds of a change by number. -/
def isById : Event → Bool
  | changedById _ _ => true
  | _ => false

/-- The dictionary with the value that an event gives to it. -/
def change (e : Event) (d : Dictionary) : Dictionary :=
  match e.flag? d.id d.name with
  | some isIncluded => d.including isIncluded
  | none => d

/-- What an event makes of dictionaries, given the number of the next one and the reference of the
next record. -/
def edit (n : UInt32) (k : Nat) (ds : List Dictionary) : Event → List Dictionary
  | emptied => []
  | added name origin => ds ++ [⟨⟨n⟩, name, origin.records k, true⟩]
  | e => ds.map e.change

end Event

section Operations

theorem ingest_fst (s : Store) (name text : String) :
    (s.ingest name text).1 = (ingested name text).foldl Event.apply s := by
  unfold ingest ingested
  cases Document.read name text <;> rfl

theorem ingestAll_fst (s : Store) (files : List (String × String)) :
    (s.ingestAll files).1 =
      (files.flatMap fun (name, text) => ingested name text).foldl Event.apply s := by
  induction files generalizing s with
  | nil => rfl
  | cons file files ih =>
      obtain ⟨name, text⟩ := file
      rw [List.flatMap_cons, List.foldl_append, ← ingest_fst]
      exact ih _

/-- An operation does what its events do. -/
theorem Operation.apply_eq (s : Store) (op : Operation) :
    op.apply s = op.events.foldl Event.apply s := by
  cases op with
  | load files => exact ingestAll_fst s.clear files
  | ingest name text => exact ingest_fst s name text
  | insert | clear | setIncluded | setIncludedByName => rfl

theorem run_append (s : Store) (ops ops' : List Operation) :
    s.run (ops ++ ops') = (s.run ops).run ops' :=
  List.foldl_append

theorem history_append (ops ops' : List Operation) :
    history (ops ++ ops') = history ops ++ history ops' :=
  List.flatMap_append

end Operations

section Histories
variable {n : UInt32} {k : Nat} {e : Event}

theorem latestFlag_append (id : DictionaryId) (name : String) (later : List Event) (e : Event) :
    latestFlag id name (later ++ [e]) = (e.flag? id name).getD (latestFlag id name later) := by
  unfold latestFlag
  rw [List.reverse_concat, List.findSome?_cons]
  cases e.flag? id name <;> rfl

theorem edit_cons (he : e ≠ .emptied) (d : Dictionary) (ds : List Dictionary) :
    e.edit n k (d :: ds) = e.change d :: e.edit n k ds := by
  cases e with
  | emptied => exact absurd rfl he
  | added | changedById | changedByName => rfl

/-- The latest event that reaches a dictionary gives it its value. -/
theorem change_latestFlag (e : Event) (id : DictionaryId) (name : String) (records : List Record)
    (later : List Event) :
    e.change ⟨id, name, records, latestFlag id name later⟩ =
      ⟨id, name, records, latestFlag id name (later ++ [e])⟩ := by
  rw [latestFlag_append]
  unfold Event.change
  cases e.flag? id name <;> rfl

/-- With one event more, what a history leaves is edited by the event. -/
theorem remaining_append (n : UInt32) (k : Nat) (es : List Event) (e : Event) :
    remaining n k (es ++ [e]) =
      e.edit (numberAfter n es) (referenceAfter k es) (remaining n k es) := by
  induction es generalizing n k with
  | nil => cases e <;> rfl
  | cons first later ih =>
      cases first with
      | emptied | changedById | changedByName => exact ih n k
      | added name origin =>
          simp only [List.cons_append, remaining, numberAfter, referenceAfter, ih (n + 1)]
          by_cases he : e = .emptied
          · subst he
            simp [Event.edit]
          · have hmem : .emptied ∈ later ++ [e] ↔ .emptied ∈ later := by
              simp [Ne.symm he]
            by_cases hlater : .emptied ∈ later
            · rw [if_pos (hmem.mpr hlater), if_pos hlater]
            · rw [if_neg (mt hmem.mp hlater), if_neg hlater, edit_cons he, change_latestFlag]

theorem numberAfter_append (n : UInt32) (es : List Event) (e : Event) :
    numberAfter n (es ++ [e]) = numberAfter (numberAfter n es) [e] := by
  induction es generalizing n with
  | nil => rfl
  | cons first later ih =>
      cases first <;> exact ih _

theorem referenceAfter_append (k : Nat) (es : List Event) (e : Event) :
    referenceAfter k (es ++ [e]) = referenceAfter (referenceAfter k es) [e] := by
  induction es generalizing k with
  | nil => rfl
  | cons first later ih =>
      cases first <;> exact ih _

end Histories

section Numbers

/-- The numbers of the dictionaries follow each other, from the first one up to one that is next. -/
inductive Consecutive : (first : UInt32) → List Dictionary → (next : UInt32) → Prop
  | nil {n} : Consecutive n [] n
  | cons {n m d ds} (hd : d.id = ⟨n⟩) (h : Consecutive (n + 1) ds m) : Consecutive n (d :: ds) m

variable {n m : UInt32} {ds : List Dictionary}

theorem Consecutive.append_singleton (h : Consecutive n ds m) {d : Dictionary} (hd : d.id = ⟨m⟩) :
    Consecutive n (ds ++ [d]) (m + 1) := by
  induction h with
  | nil => exact .cons hd .nil
  | cons hd' _ ih => exact .cons hd' (ih hd)

/-- The numbers are those of any dictionaries that go by the same ones. -/
theorem Consecutive.congr (h : Consecutive n ds m) {ds' : List Dictionary}
    (hids : ds'.map Dictionary.id = ds.map Dictionary.id) : Consecutive n ds' m := by
  induction h generalizing ds' with
  | nil =>
      obtain rfl := List.map_eq_nil_iff.mp hids
      exact .nil
  | cons hd _ ih =>
      obtain ⟨d', ds', rfl, hd', hids⟩ := List.map_eq_cons_iff.mp hids
      exact .cons (hd'.trans hd) (ih hids)

theorem Consecutive.exists_offset (h : Consecutive n ds m) {d : Dictionary} (hd : d ∈ ds) :
    ∃ i < ds.length, d.id = ⟨n + UInt32.ofNat i⟩ := by
  induction h with
  | nil => cases hd
  | @cons n m first ds hfirst _ ih =>
      rcases List.mem_cons.mp hd with rfl | hd
      · exact ⟨0, by simp, by simpa using hfirst⟩
      · obtain ⟨i, hi, hid⟩ := ih hd
        refine ⟨i + 1, by simpa using hi, ?_⟩
        rw [hid, UInt32.ofNat_add, UInt32.add_assoc, UInt32.add_comm 1]
        rfl

/-- As long as there are not more of them than numbers, no two of the dictionaries have the same
one. -/
theorem Consecutive.nodup (h : Consecutive n ds m) (hsize : ds.length ≤ 2 ^ 32) :
    (ds.map Dictionary.id).Nodup := by
  induction h with
  | nil => exact List.nodup_nil
  | @cons n m first ds hfirst h ih =>
      rw [List.length_cons] at hsize
      refine List.nodup_cons.mpr ⟨?_, ih (by omega)⟩
      intro hmem
      obtain ⟨d, hd, hid⟩ := List.mem_map.mp hmem
      obtain ⟨i, hi, hoffset⟩ := h.exists_offset hd
      rw [hid, hfirst] at hoffset
      have hnumber := congrArg (fun id => id.number.toNat) hoffset
      have hn := n.toNat_lt
      simp only [UInt32.toNat_add, UInt32.toNat_ofNat', UInt32.reduceToNat] at hnumber
      omega

end Numbers

section Steps
variable {s : Store} {es : List Event} {e : Event} {ds ds' : List Dictionary}

/-- A change at one place keeps whatever it keeps of a single value. -/
theorem map_modify_of_keeps {α β : Type} {f : α → α} {g : α → β} (h : ∀ a, g (f a) = g a)
    (as : List α) (i : Nat) : (as.modify i f).map g = as.map g := by
  induction as generalizing i with
  | nil => simp
  | cons a as ih => cases i <;> simp [h, ih]

theorem id_change (e : Event) (d : Dictionary) : (e.change d).id = d.id := by
  unfold Event.change
  cases e.flag? d.id d.name <;> rfl

theorem content_change (e : Event) (d : Dictionary) : content (e.change d) = content d := by
  unfold Event.change
  cases e.flag? d.id d.name <;> rfl

theorem change_changedById (id : DictionaryId) (isIncluded : Bool) (d : Dictionary) :
    (Event.changedById id isIncluded).change d =
      if d.id = id then d.including isIncluded else d := by
  simp only [Event.change, Event.flag?]
  by_cases hd : d.id = id <;> simp [hd]

theorem change_changedByName (name : String) (isIncluded : Bool) (d : Dictionary) :
    (Event.changedByName name isIncluded).change d =
      if d.name = name then d.including isIncluded else d := by
  simp only [Event.change, Event.flag?]
  by_cases hd : d.name = name <;> simp [hd]

/-- If the numbers differ, changing the first dictionary of a number changes all of them. -/
theorem modify_first_eq_map (hds : (ds.map Dictionary.id).Nodup) {id : DictionaryId}
    {isIncluded : Bool} {i : Nat} (hi : ds.findIdx? (fun d => d.id = id) = some i) :
    ds.modify i (.including isIncluded) = ds.map (Event.changedById id isIncluded).change := by
  obtain ⟨hlt, hid, -⟩ := List.findIdx?_eq_some_iff_getElem.mp hi
  rw [decide_eq_true_eq] at hid
  apply List.ext_getElem
  · simp
  · intro j hj hj'
    rw [List.length_modify] at hj
    rw [List.getElem_modify, List.getElem_map, change_changedById]
    have hsame : i = j ↔ ds[j].id = id := by
      constructor
      · rintro rfl
        exact hid
      · intro hjd
        have heq : ds[i] = ds[j] := List.inj_on_of_nodup_map hds (List.getElem_mem hlt)
          (List.getElem_mem hj) (hid.trans hjd.symm)
        exact (List.Nodup.getElem_inj_iff (hds.of_map _)).mp heq
    simp only [hsame]

theorem setIncluded_dictionaries (hs : (s.dictionaries.map Dictionary.id).Nodup)
    (id : DictionaryId) (isIncluded : Bool) :
    (s.setIncluded id isIncluded).1.dictionaries =
      s.dictionaries.map (Event.changedById id isIncluded).change := by
  unfold setIncluded
  split
  · rename_i i hi
    exact modify_first_eq_map hs hi
  · rename_i hnone
    have hids : ∀ d ∈ s.dictionaries, (Event.changedById id isIncluded).change d = d := by
      intro d hd
      have hne := List.findIdx?_eq_none_iff.mp hnone d hd
      rw [change_changedById, if_neg (of_decide_eq_false hne)]
    rw [List.map_congr_left hids, List.map_id']

/-- What a change of the first dictionary of a number keeps, even if there are more of them. -/
theorem map_setIncluded {β : Type} {g : Dictionary → β} (id : DictionaryId) (isIncluded : Bool)
    (hg : ∀ d, g (d.including isIncluded) = g d) (s : Store) :
    (s.setIncluded id isIncluded).1.dictionaries.map g = s.dictionaries.map g := by
  unfold setIncluded
  split
  · exact map_modify_of_keeps hg _ _
  · rfl

theorem nextNumber_apply (s : Store) (e : Event) :
    (e.apply s).nextNumber = numberAfter s.nextNumber [e] := by
  cases e with
  | changedById id isIncluded =>
      change (s.setIncluded id isIncluded).1.nextNumber = s.nextNumber
      unfold setIncluded
      split <;> rfl
  | emptied | added | changedByName => rfl

theorem nextReference_apply (s : Store) (e : Event) :
    (e.apply s).nextReference = referenceAfter s.nextReference [e] := by
  cases e with
  | changedById id isIncluded =>
      change (s.setIncluded id isIncluded).1.nextReference = s.nextReference
      unfold setIncluded
      split <;> rfl
  | emptied | added | changedByName => rfl

/-- As long as the numbers differ, a store does what events do to a list of dictionaries. -/
theorem dictionaries_apply (s : Store) (e : Event)
    (hs : e.isById = true → (s.dictionaries.map Dictionary.id).Nodup) :
    (e.apply s).dictionaries = e.edit s.nextNumber s.nextReference s.dictionaries := by
  cases e with
  | changedById id isIncluded => exact setIncluded_dictionaries (hs rfl) id isIncluded
  | emptied | added => rfl
  | changedByName name isIncluded =>
      exact List.map_congr_left fun d _ => (change_changedByName name isIncluded d).symm

/-- All but the values of dictionaries changes by events as it does in a list, whatever the
numbers. -/
theorem content_apply (s : Store) (e : Event) :
    (e.apply s).dictionaries.map content =
      (e.edit s.nextNumber s.nextReference s.dictionaries).map content := by
  cases e with
  | changedById id isIncluded =>
      have hstore := map_setIncluded (g := content) id isIncluded (fun _ => rfl) s
      refine hstore.trans ?_
      simp [Event.edit, Function.comp_def, content_change]
  | emptied | added | changedByName => rw [dictionaries_apply s _ (by simp [Event.isById])]

theorem content_edit {n : UInt32} {k : Nat} (e : Event) (h : ds.map content = ds'.map content) :
    (e.edit n k ds).map content = (e.edit n k ds').map content := by
  cases e with
  | emptied => rfl
  | added name origin => simp [Event.edit, h]
  | changedById | changedByName => simpa [Event.edit, Function.comp_def, content_change] using h

/-- The numbers of the dictionaries of a store follow each other up to the next one. -/
def IsNumbered (s : Store) : Prop := ∃ first, Consecutive first s.dictionaries s.nextNumber

theorem IsNumbered.apply (hs : s.IsNumbered) (e : Event) : (e.apply s).IsNumbered := by
  obtain ⟨first, hs⟩ := hs
  cases e with
  | emptied => exact ⟨s.nextNumber, .nil⟩
  | added name origin => exact ⟨first, hs.append_singleton rfl⟩
  | changedById id isIncluded =>
      refine ⟨first, ?_⟩
      rw [nextNumber_apply]
      exact hs.congr (map_setIncluded id isIncluded (fun _ => rfl) s)
  | changedByName name isIncluded =>
      refine ⟨first, hs.congr ?_⟩
      rw [dictionaries_apply s _ (by simp [Event.isById])]
      simp [Event.edit, Function.comp_def, id_change]

end Steps

section Runs
variable {s : Store} {es : List Event} {ops : List Operation}

theorem IsNumbered.foldl (hs : s.IsNumbered) (es : List Event) :
    (es.foldl Event.apply s).IsNumbered := by
  induction es generalizing s with
  | nil => exact hs
  | cons e es ih => exact ih (hs.apply e)

theorem IsNumbered.run (hs : s.IsNumbered) (ops : List Operation) : (s.run ops).IsNumbered := by
  induction ops generalizing s with
  | nil => exact hs
  | cons op ops ih =>
      have hop : (op.apply s).IsNumbered := by
        rw [op.apply_eq]
        exact hs.foldl op.events
      exact ih hop

theorem isNumbered_run (ops : List Operation) : (run {} ops).IsNumbered := by
  have hnew : IsNumbered {} := ⟨0, .nil⟩
  exact hnew.run ops

/-- The store is what the history says, with the values of its dictionaries. -/
structure Follows (s : Store) (es : List Event) : Prop where
  dictionaries_eq : s.dictionaries = remaining 0 0 es
  nextNumber_eq : s.nextNumber = numberAfter 0 es
  nextReference_eq : s.nextReference = referenceAfter 0 es

/-- The store is what the history says, up to the values of its dictionaries. -/
structure FollowsContent (s : Store) (es : List Event) : Prop where
  content_eq : s.dictionaries.map content = (remaining 0 0 es).map content
  nextNumber_eq : s.nextNumber = numberAfter 0 es
  nextReference_eq : s.nextReference = referenceAfter 0 es

theorem FollowsContent.apply (h : s.FollowsContent es) (e : Event) :
    (e.apply s).FollowsContent (es ++ [e]) where
  content_eq := by
    rw [content_apply, remaining_append, h.nextNumber_eq, h.nextReference_eq]
    exact content_edit e h.content_eq
  nextNumber_eq := by rw [nextNumber_apply, numberAfter_append, h.nextNumber_eq]
  nextReference_eq := by rw [nextReference_apply, referenceAfter_append, h.nextReference_eq]

theorem Follows.apply (h : s.Follows es) (e : Event)
    (hs : e.isById = true → (s.dictionaries.map Dictionary.id).Nodup) :
    (e.apply s).Follows (es ++ [e]) where
  dictionaries_eq := by
    rw [dictionaries_apply s e hs, remaining_append, h.nextNumber_eq, h.nextReference_eq,
      h.dictionaries_eq]
  nextNumber_eq := by rw [nextNumber_apply, numberAfter_append, h.nextNumber_eq]
  nextReference_eq := by rw [nextReference_apply, referenceAfter_append, h.nextReference_eq]

theorem FollowsContent.foldl (h : s.FollowsContent es) (es' : List Event) :
    (es'.foldl Event.apply s).FollowsContent (es ++ es') := by
  induction es' generalizing s es with
  | nil => simpa using h
  | cons e es' ih => simpa using ih (h.apply e)

theorem Follows.foldl (h : s.Follows es) (es' : List Event)
    (hes' : ∀ e ∈ es', e.isById = false) :
    (es'.foldl Event.apply s).Follows (es ++ es') := by
  induction es' generalizing s es with
  | nil => simpa using h
  | cons e es' ih =>
      obtain ⟨he, hes'⟩ := List.forall_mem_cons.mp hes'
      have hstep := h.apply e fun hid => absurd hid (by simp [he])
      simpa using ih hstep hes'

theorem isById_of_mem_ingested {name text : String} {e : Event} (he : e ∈ ingested name text) :
    e.isById = false := by
  unfold ingested at he
  split at he
  · rw [List.mem_singleton.mp he]
    rfl
  · cases he

/-- An operation keeps a store to its history while the numbers of the store differ. -/
theorem Follows.operation (h : s.Follows es) (op : Operation)
    (hs : (s.dictionaries.map Dictionary.id).Nodup) : (op.apply s).Follows (es ++ op.events) := by
  rw [op.apply_eq]
  cases op with
  | setIncluded id isIncluded => exact h.apply (.changedById id isIncluded) fun _ => hs
  | load files =>
      refine h.foldl _ fun e he => ?_
      rcases List.mem_cons.mp he with rfl | he
      · rfl
      · obtain ⟨file, -, he⟩ := List.mem_flatMap.mp he
        exact isById_of_mem_ingested he
  | ingest name text => exact h.foldl _ fun e he => isById_of_mem_ingested he
  | insert | clear | setIncludedByName =>
      refine h.foldl _ fun e he => ?_
      rw [List.mem_singleton.mp he]
      rfl

theorem FollowsContent.run (h : s.FollowsContent es) (ops : List Operation) :
    (s.run ops).FollowsContent (es ++ history ops) := by
  induction ops generalizing s es with
  | nil => simpa [history, Store.run] using h
  | cons op ops ih =>
      have hop : (op.apply s).FollowsContent (es ++ op.events) := by
        rw [op.apply_eq]
        exact h.foldl op.events
      simpa [history, Store.run] using ih hop

theorem followsContent_run (ops : List Operation) : (run {} ops).FollowsContent (history ops) := by
  have hnew : FollowsContent {} [] := ⟨rfl, rfl, rfl⟩
  simpa using hnew.run ops

/-- In no state of the run does the store hold more dictionaries than there are numbers. -/
def StaysWithin (ops : List Operation) : Prop :=
  ∀ before, before <+: ops → (run {} before).size ≤ 2 ^ 32

theorem follows_run (hops : StaysWithin ops) : (run {} ops).Follows (history ops) := by
  induction ops using List.reverseRecOn with
  | nil => exact ⟨rfl, rfl, rfl⟩
  | append_singleton ops op ih =>
      have hearlier : ∀ before, before <+: ops → (run {} before).size ≤ 2 ^ 32 :=
        fun before h => hops before (h.trans (List.prefix_append ops [op]))
      obtain ⟨first, hnumbers⟩ := isNumbered_run ops
      have hnodup := hnumbers.nodup (hearlier ops List.prefix_rfl)
      have hrun := (ih hearlier).operation op hnodup
      rw [run_append, history_append]
      simpa [run, history] using hrun

theorem nodup_of_staysWithin (hops : StaysWithin ops) :
    ((run {} ops).dictionaries.map Dictionary.id).Nodup := by
  obtain ⟨first, hnumbers⟩ := isNumbered_run ops
  exact hnumbers.nodup (hops ops List.prefix_rfl)

/-- Holds of an addition. -/
def Event.isAdded : Event → Bool
  | added _ _ => true
  | _ => false

/-- The number of dictionaries that a run adds. -/
def additions (ops : List Operation) : Nat := (history ops).countP Event.isAdded

theorem length_remaining_le (n : UInt32) (k : Nat) (es : List Event) :
    (remaining n k es).length ≤ es.countP Event.isAdded := by
  induction es generalizing n k with
  | nil => simp [remaining]
  | cons e later ih =>
      cases e with
      | added name origin =>
          have hlater := ih (n + 1) (Record.above k (origin.records k))
          rw [remaining, List.countP_cons_of_pos rfl]
          split
          · exact Nat.le_succ_of_le hlater
          · exact Nat.succ_le_succ hlater
      | emptied | changedById | changedByName => exact ih n k

/-- A run that does not add more dictionaries than there are numbers stays within them. -/
theorem staysWithin_of_additions (hops : additions ops ≤ 2 ^ 32) : StaysWithin ops := by
  rintro before ⟨later, rfl⟩
  have hlength := congrArg List.length (followsContent_run before).content_eq
  have hle := length_remaining_le 0 0 (history before)
  rw [additions, history_append, List.countP_append] at hops
  simp only [List.length_map] at hlength
  rw [size, hlength]
  omega

/-- A store shows the dictionaries, in their order, and no others. -/
structure Shows (s : Store) (ds : List Dictionary) : Prop where
  snapshot_eq : s.snapshot = ⟨ds⟩
  summaries_eq : s.summaries = ds.map Dictionary.summary
  get_iff (id : DictionaryId) (d : Dictionary) : s.get? id = some d ↔ d ∈ ds ∧ d.id = id
  findByName_iff (name : String) (d : Dictionary) : s.findByName? name = some d ↔
    ∃ before after, ds = before ++ d :: after ∧ d.name = name ∧ ∀ e ∈ before, e.name ≠ name

/-- What calls of a store answer, and what they leave as it is. -/
structure Answers (s : Store) : Prop where
  setIncluded_iff (id : DictionaryId) (isIncluded : Bool) :
    (s.setIncluded id isIncluded).2 = true ↔ ∃ d ∈ s.dictionaries, d.id = id
  setIncluded_unknown (id : DictionaryId) (isIncluded : Bool) :
    (∀ d ∈ s.dictionaries, d.id ≠ id) → (s.setIncluded id isIncluded).1 = s
  setIncludedByName_eq (name : String) (isIncluded : Bool) :
    (s.setIncludedByName name isIncluded).1.dictionaries =
      s.dictionaries.map fun d => if d.name = name then d.including isIncluded else d
  setIncludedByName_count (name : String) (isIncluded : Bool) :
    (s.setIncludedByName name isIncluded).2 =
      (s.dictionaries.filter fun d => d.name = name).length
  ingest_failed (name text : String) (e : ParseError) :
    (s.ingest name text).2 = .error e → (s.ingest name text).1 = s

theorem shows_dictionaries (hs : (s.dictionaries.map Dictionary.id).Nodup) :
    s.Shows s.dictionaries where
  snapshot_eq := rfl
  summaries_eq := rfl
  get_iff id d := by
    constructor
    · intro h
      exact ⟨List.mem_of_find?_eq_some h, by simpa using List.find?_some h⟩
    · rintro ⟨hd, rfl⟩
      have hfound : (s.get? d.id).isSome = true := by
        rw [get?, List.find?_isSome]
        exact ⟨d, hd, by simp⟩
      obtain ⟨d', hd'⟩ := Option.isSome_iff_exists.mp hfound
      have hid : d'.id = d.id := by simpa using List.find?_some hd'
      have hmem : d' ∈ s.dictionaries := List.mem_of_find?_eq_some hd'
      rw [hd', List.inj_on_of_nodup_map hs hmem hd hid]
  findByName_iff name d := by
    rw [findByName?, List.find?_eq_some_iff_append]
    simp only [decide_eq_true_eq, Bool.not_eq_true', decide_eq_false_iff_not]
    constructor
    · rintro ⟨hd, before, after, heq, hbefore⟩
      exact ⟨before, after, heq, hd, hbefore⟩
    · rintro ⟨before, after, heq, hd, hbefore⟩
      exact ⟨hd, before, after, heq, hbefore⟩

theorem answers (s : Store) : s.Answers where
  setIncluded_iff id isIncluded := by
    have hfound : (s.setIncluded id isIncluded).2 =
        (s.dictionaries.findIdx? fun d => d.id = id).isSome := by
      unfold setIncluded
      split <;> simp [*]
    rw [hfound, List.findIdx?_isSome]
    simp
  setIncluded_unknown id isIncluded h := by
    have hnone : (s.dictionaries.findIdx? fun d => d.id = id) = none := by
      rw [List.findIdx?_eq_none_iff]
      exact fun d hd => decide_eq_false (h d hd)
    rw [setIncluded, hnone]
  setIncludedByName_eq name isIncluded := rfl
  setIncludedByName_count name isIncluded := List.countP_eq_length_filter
  ingest_failed name text e h := by
    unfold ingest at h ⊢
    cases hread : Document.read name text with
    | ok entries =>
        rw [hread] at h
        cases h
    | error e' => rfl

/-- What a run leaves in a store that was new: the dictionaries that its history leaves, with all
that they were added with; and, while their numbers differ, with the values of the latest changes
that reached them. -/
theorem run_shows (ops : List Operation) :
    (run {} ops).dictionaries.map content = (shown ops).map content ∧
      (StaysWithin ops → (run {} ops).Shows (shown ops)) ∧ (run {} ops).Answers := by
  refine ⟨(followsContent_run ops).content_eq, fun hops => ?_, answers _⟩
  have hshown : (run {} ops).dictionaries = shown ops := (follows_run hops).dictionaries_eq
  rw [← hshown]
  exact shows_dictionaries (nodup_of_staysWithin hops)

/-- Two dictionaries of one name, of which the first is changed once more by its number. -/
theorem run_shows_changes :
    (run {} [.insert "old" [], .clear, .insert "a" [], .insert "a" [],
      .setIncludedByName "a" false, .setIncluded ⟨1⟩ true]).Shows
      [⟨⟨1⟩, "a", [], true⟩, ⟨⟨2⟩, "a", [], false⟩] :=
  (run_shows _).2.1 (staysWithin_of_additions (by decide))

end Runs

end Lexicon.Store
