import Lexicon.Dictionary.Basic
import Lexicon.Dictionary.Document

/-!
# The store of dictionaries

A store holds dictionaries in the order in which they were added, and the number that the next one
gets. Numbers are not given out again when dictionaries go. Entries that are read from a text become
new records; those that a caller inserts are the records of the caller, who may share them. A search
looks at a snapshot, which is what the store held at one moment.
-/

namespace Lexicon

/-- The dictionaries that a store held at one moment. -/
structure Snapshot where
  dictionaries : List Dictionary
deriving Repr, DecidableEq

namespace Snapshot

/-- The dictionaries that take part in searches. -/
def included (s : Snapshot) : List Dictionary := s.dictionaries.filter Dictionary.isIncluded

/-- The number of dictionaries. -/
def size (s : Snapshot) : Nat := s.dictionaries.length

/-- Holds if there are no dictionaries. -/
def isEmpty (s : Snapshot) : Bool := s.dictionaries.isEmpty

/-- The snapshot without the dictionaries of a number. -/
def without (id : DictionaryId) (s : Snapshot) : Snapshot :=
  ⟨s.dictionaries.filter fun d => d.id ≠ id⟩

end Snapshot

/-- The loaded dictionaries, the number of the next one, and the reference of the next record. -/
@[ext]
structure Store where
  dictionaries : List Dictionary := []
  nextNumber : UInt32 := 0
  nextReference : Nat := 0
deriving Repr, DecidableEq

/-- Which files of a load became dictionaries, and which could not be read. -/
structure LoadReport where
  loaded : List DictionaryId := []
  failures : List ParseError := []
deriving Repr, DecidableEq

namespace LoadReport

/-- Holds if every file could be read. -/
def isClean (r : LoadReport) : Bool := r.failures.isEmpty

/-- The report with what became of one more file in front. -/
def cons (r : Except ParseError DictionaryId) (report : LoadReport) : LoadReport :=
  match r with
  | .ok id => { report with loaded := id :: report.loaded }
  | .error e => { report with failures := e :: report.failures }

/-- The event that a load is finished. -/
def event (r : LoadReport) : LogEvent where
  level := .debug
  message := "dictionary load finished"
  fields := [("loaded", s!"{r.loaded.length}"), ("failed", s!"{r.failures.length}")]

end LoadReport

namespace Store

/-- The number of dictionaries. -/
def size (s : Store) : Nat := s.dictionaries.length

/-- Holds if there are no dictionaries. -/
def isEmpty (s : Store) : Bool := s.dictionaries.isEmpty

/-- The store without its dictionaries. Numbers and references go on from where they were. -/
def clear (s : Store) : Store := { s with dictionaries := [] }

/-- New records of entries, as a caller or the store itself makes them. -/
def allocate (s : Store) (entries : List Entry) : List Record :=
  Record.allocate s.nextReference entries

/-- Adds a dictionary of records behind the others. It takes part in searches. -/
def insert (s : Store) (name : String) (records : List Record) : Store × DictionaryId :=
  let id : DictionaryId := ⟨s.nextNumber⟩
  (⟨s.dictionaries ++ [⟨id, name, records, true⟩], s.nextNumber + 1,
    Record.above s.nextReference records⟩, id)

/-- Adds the dictionary that a text writes, if it can be read. -/
def ingest (s : Store) (name text : String) : Store × Except ParseError DictionaryId :=
  match Document.read name text with
  | .ok entries =>
    let (s', id) := s.insert name (s.allocate entries)
    (s', .ok id)
  | .error e => (s, .error e)

/-- Adds the dictionaries of files, given by name and text, that can be read. -/
def ingestAll (s : Store) : List (String × String) → Store × LoadReport
  | [] => (s, {})
  | (name, text) :: files =>
    let (s₁, r) := s.ingest name text
    let (s₂, report) := s₁.ingestAll files
    (s₂, report.cons r)

/-- Replaces all dictionaries by those of files. -/
def load (s : Store) (files : List (String × String)) : Store × LoadReport :=
  s.clear.ingestAll files

/-- The event that a dictionary of records is added. -/
def insertEvent (s : Store) (name : String) (records : List Record) : LogEvent where
  level := .info
  message := "loaded dictionary"
  fields := [("dictionary", name), ("id", DictionaryId.label ⟨s.nextNumber⟩),
    ("entries", s!"{records.length}")]

/-- The event that a text is read, or is passed over. -/
def ingestEvent (s : Store) (name text : String) : LogEvent :=
  match Document.read name text with
  | .ok entries => s.insertEvent name (s.allocate entries)
  | .error e => e.event

/-- The events of files that are read one after the other. -/
def ingestAllEvents (s : Store) : List (String × String) → List LogEvent
  | [] => []
  | (name, text) :: files =>
    s.ingestEvent name text :: (s.ingest name text).1.ingestAllEvents files

/-- The events of a load. -/
def loadEvents (s : Store) (files : List (String × String)) : List LogEvent :=
  s.clear.ingestAllEvents files ++ [(s.load files).2.event]

/-- Changes the first dictionary of a number, and tells whether there is one. -/
def setIncluded (s : Store) (id : DictionaryId) (isIncluded : Bool) : Store × Bool :=
  match s.dictionaries.findIdx? fun d => d.id = id with
  | some i => ({ s with dictionaries := s.dictionaries.modify i (.including isIncluded) }, true)
  | none => (s, false)

/-- Changes every dictionary of a name, and tells how many there are. -/
def setIncludedByName (s : Store) (name : String) (isIncluded : Bool) : Store × Nat :=
  let change (d : Dictionary) := if d.name = name then d.including isIncluded else d
  ({ s with dictionaries := s.dictionaries.map change },
    s.dictionaries.countP fun d => d.name = name)

/-- The dictionary of a number. -/
def get? (s : Store) (id : DictionaryId) : Option Dictionary :=
  s.dictionaries.find? fun d => d.id = id

/-- The first dictionary of a name. -/
def findByName? (s : Store) (name : String) : Option Dictionary :=
  s.dictionaries.find? fun d => d.name = name

/-- What the store holds at this moment. -/
def snapshot (s : Store) : Snapshot := ⟨s.dictionaries⟩

/-- What a listing tells about the dictionaries. -/
def summaries (s : Store) : List Summary := s.dictionaries.map Dictionary.summary

end Store

end Lexicon
