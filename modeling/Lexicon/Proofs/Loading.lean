import Lexicon.Proofs.StoreRuns

/-!
# Loads of files

A load takes its files one after the other. A file whose text can be read becomes the next
dictionary; any other becomes an error in the report and leaves no trace in the store. What a load
ends in is therefore what the readable files alone end in.
-/

namespace Lexicon.Store

/-- What the text of a file writes, under the name of the file. -/
def reading (file : String × String) : String × Except Json.ReadError (List Entry) :=
  (file.1, Document.layout.decode file.2)

/-- Holds of a file whose text writes a document. -/
def isReadable (file : String × String) : Bool := (reading file).2.isOk

/-- What files become, from the number of the next dictionary and the reference of the next record
on: dictionaries of new records, a report, and the number and the reference that are next
afterwards. -/
inductive Becomes : UInt32 → Nat → List (String × String) → List Dictionary → LoadReport → UInt32 →
    Nat → Prop
  | nil {n k} : Becomes n k [] [] {} n k
  | dictionary {n k m l name text entries files ds report}
      (hread : Document.layout.decode text = .ok entries)
      (h : Becomes (n + 1) (k + entries.length) files ds report m l) :
      Becomes n k ((name, text) :: files) (⟨⟨n⟩, name, Record.allocate k entries, true⟩ :: ds)
        (report.cons (.ok ⟨n⟩)) m l
  | failure {n k m l name text e files ds report}
      (hread : Document.layout.decode text = .error e) (h : Becomes n k files ds report m l) :
      Becomes n k ((name, text) :: files) ds (report.cons (.error ⟨name, e⟩)) m l

section Becomes
variable {n m : UInt32} {k l : Nat} {files : List (String × String)} {ds : List Dictionary}
  {report : LoadReport}

theorem isReadable_of_ok {name text : String} {entries : List Entry}
    (h : Document.layout.decode text = .ok entries) : isReadable (name, text) = true := by
  rw [isReadable, reading, h]
  rfl

theorem isReadable_of_error {name text : String} {e : Json.ReadError}
    (h : Document.layout.decode text = .error e) : isReadable (name, text) = false := by
  rw [isReadable, reading, h]
  rfl

/-- Files become one thing only. -/
theorem Becomes.unique (h : Becomes n k files ds report m l) {ds' report' m' l'}
    (h' : Becomes n k files ds' report' m' l') :
    ds = ds' ∧ report = report' ∧ m = m' ∧ l = l' := by
  induction h generalizing ds' report' m' l' with
  | nil =>
      cases h'
      exact ⟨rfl, rfl, rfl, rfl⟩
  | dictionary hread _ ih =>
      cases h' with
      | dictionary hread' h' =>
          obtain rfl := Except.ok.inj (hread.symm.trans hread')
          obtain ⟨rfl, rfl, rfl, rfl⟩ := ih h'
          exact ⟨rfl, rfl, rfl, rfl⟩
      | failure hread' _ => cases hread.symm.trans hread'
  | failure hread _ ih =>
      cases h' with
      | dictionary hread' _ => cases hread.symm.trans hread'
      | failure hread' h' =>
          obtain rfl := Except.error.inj (hread.symm.trans hread')
          obtain ⟨rfl, rfl, rfl, rfl⟩ := ih h'
          exact ⟨rfl, rfl, rfl, rfl⟩

/-- The readable files alone become the same dictionaries, of the same numbers. -/
theorem Becomes.readable (h : Becomes n k files ds report m l) :
    Becomes n k (files.filter isReadable) ds ⟨report.loaded, []⟩ m l := by
  induction h with
  | nil => exact .nil
  | dictionary hread _ ih =>
      rw [List.filter_cons_of_pos (isReadable_of_ok hread)]
      exact .dictionary hread ih
  | failure hread _ ih =>
      rw [List.filter_cons_of_neg (by simp [isReadable_of_error hread])]
      exact ih

/-- The dictionaries are what the readable files write. -/
theorem Becomes.dictionaries_eq (h : Becomes n k files ds report m l) :
    (ds.map fun d => (d.name, Except.ok d.entries)) = (files.filter isReadable).map reading := by
  induction h with
  | nil => rfl
  | dictionary hread _ ih =>
      rw [List.filter_cons_of_pos (isReadable_of_ok hread), List.map_cons, List.map_cons, ih,
        reading, hread, Dictionary.entries, Record.map_entry_allocate]
  | failure hread _ ih =>
      rw [List.filter_cons_of_neg (by simp [isReadable_of_error hread]), ih]

/-- The errors say of the other files why they cannot be read. -/
theorem Becomes.failures_eq (h : Becomes n k files ds report m l) :
    (report.failures.map fun e => (e.name, Except.error e.error)) =
      (files.filter fun file => !isReadable file).map reading := by
  induction h with
  | nil => rfl
  | dictionary hread _ ih =>
      rw [List.filter_cons_of_neg (by simp [isReadable_of_ok hread])]
      exact ih
  | failure hread _ ih =>
      rw [List.filter_cons_of_pos (by simp [isReadable_of_error hread]), List.map_cons, ← ih,
        reading, hread]
      rfl

theorem Becomes.loaded_eq (h : Becomes n k files ds report m l) :
    report.loaded = ds.map Dictionary.id := by
  induction h with
  | nil => rfl
  | dictionary _ _ ih => exact congrArg (_ :: ·) ih
  | failure _ _ ih => exact ih

theorem Becomes.consecutive (h : Becomes n k files ds report m l) : Consecutive n ds m := by
  induction h with
  | nil => exact .nil
  | dictionary _ _ ih => exact .cons rfl ih
  | failure _ _ ih => exact ih

theorem Becomes.included (h : Becomes n k files ds report m l) :
    ds.filter Dictionary.isIncluded = ds := by
  induction h with
  | nil => rfl
  | dictionary _ _ ih => rw [List.filter_cons_of_pos rfl, ih]
  | failure _ _ ih => exact ih

end Becomes

theorem ingest_of_ok {text : String} {entries : List Entry}
    (h : Document.layout.decode text = .ok entries) (s : Store) (name : String) :
    s.ingest name text = ((s.insert name (s.allocate entries)).1, .ok ⟨s.nextNumber⟩) := by
  rw [ingest, Document.read, h]
  rfl

theorem ingest_of_error {text : String} {e : Json.ReadError}
    (h : Document.layout.decode text = .error e) (s : Store) (name : String) :
    s.ingest name text = (s, .error ⟨name, e⟩) := by
  rw [ingest, Document.read, h]
  rfl

/-- Files are taken in behind what is there already. -/
theorem becomes_ingestAll (s : Store) (files : List (String × String)) :
    ∃ ds, (s.ingestAll files).1.dictionaries = s.dictionaries ++ ds ∧
      Becomes s.nextNumber s.nextReference files ds (s.ingestAll files).2
        (s.ingestAll files).1.nextNumber (s.ingestAll files).1.nextReference := by
  induction files generalizing s with
  | nil => exact ⟨[], (List.append_nil _).symm, .nil⟩
  | cons file files ih =>
      obtain ⟨name, text⟩ := file
      cases hread : Document.layout.decode text with
      | ok entries =>
          obtain ⟨ds, hds, h⟩ := ih (s.insert name (s.allocate entries)).1
          have hnext : (s.insert name (s.allocate entries)).1.nextReference =
              s.nextReference + entries.length := Record.above_allocate _ _
          rw [hnext] at h
          simp only [ingestAll, ingest_of_ok hread]
          refine ⟨_, ?_, .dictionary hread h⟩
          rw [hds]
          exact List.append_assoc ..
      | error e =>
          obtain ⟨ds, hds, h⟩ := ih s
          simp only [ingestAll, ingest_of_error hread]
          exact ⟨ds, hds, .failure hread h⟩

theorem becomes_load (s : Store) (files : List (String × String)) :
    Becomes s.nextNumber s.nextReference files (s.load files).1.dictionaries (s.load files).2
      (s.load files).1.nextNumber (s.load files).1.nextReference := by
  obtain ⟨ds, hds, h⟩ := becomes_ingestAll s.clear files
  have hload : (s.load files).1.dictionaries = ds := hds
  rw [hload]
  exact h

/-- Only the readable files make a difference to the store. -/
theorem load_filter_isReadable (s : Store) (files : List (String × String)) :
    s.load (files.filter isReadable) = ((s.load files).1, ⟨(s.load files).2.loaded, []⟩) := by
  obtain ⟨hds, hreport, hnumber, hreference⟩ :=
    (becomes_load s (files.filter isReadable)).unique (becomes_load s files).readable
  exact Prod.ext (Store.ext hds hnumber hreference) hreport

/-- A load leaves the dictionaries of the readable files, in their order, and reports the other
files, in their order, each with its name and with why it cannot be read. The numbers follow each
other from the one that was next, and are those reported. The unreadable files, and what was in the
store before, make no difference to any of it. -/
theorem load_keeps_readable (s : Store) (files : List (String × String)) :
    let after := (s.load files).1
    let report := (s.load files).2
    (after.dictionaries.map fun d => (d.name, Except.ok d.entries)) =
        (files.filter isReadable).map reading ∧
      (report.failures.map fun e => (e.name, Except.error e.error)) =
        (files.filter fun file => !isReadable file).map reading ∧
      report.loaded = after.dictionaries.map Dictionary.id ∧
      Consecutive s.nextNumber after.dictionaries after.nextNumber ∧
      after.snapshot.included = after.dictionaries ∧
      s.load (files.filter isReadable) = (after, ⟨report.loaded, []⟩) ∧
      ∀ before, load ⟨before, s.nextNumber, s.nextReference⟩ files = s.load files := by
  have h := becomes_load s files
  exact ⟨h.dictionaries_eq, h.failures_eq, h.loaded_eq, h.consecutive, h.included,
    load_filter_isReadable s files, fun _ => rfl⟩

end Lexicon.Store
