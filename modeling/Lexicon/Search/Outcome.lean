import Lexicon.Dictionary.Store
import Lexicon.Search.Predicate
import Lexicon.Text.Utf8

/-!
# Outcomes of searches

A search goes through the included dictionaries in order, and through the entries of each in order.
It keeps the entries of which the predicate holds, ranked by the forms of their headwords, and the
entries on which the predicate fails, as they come.
-/

namespace Lexicon.Search

/-- A record that was found, and its dictionary. -/
structure Hit where
  dictionary : DictionaryId
  dictionaryName : String
  reference : Nat
  entry : Entry
deriving Repr, DecidableEq

namespace Hit

/-- The form of the headword. -/
def form (h : Hit) : String := h.entry.form

/-- A record of a dictionary, as a hit. -/
def ofRecord (d : Dictionary) (r : Record) : Hit := ⟨d.id, d.name, r.reference, r.entry⟩

/-- Holds of two hits in the same dictionary that share the very same record. Equal content is not
enough. -/
def isSame (a b : Hit) : Bool :=
  a.dictionary = b.dictionary && a.reference = b.reference

end Hit

/-- Holds of two lists of the same records in the same order. -/
def sameHits : List Hit → List Hit → Bool
  | [], [] => true
  | a :: as, b :: bs => a.isSame b && sameHits as bs
  | _, _ => false

/-- An entry on which a predicate failed, and why. -/
structure EntryFailure where
  dictionary : DictionaryId
  dictionaryName : String
  entryId : Int64
  message : String
deriving Repr, DecidableEq

/-- The event that a predicate fails on an entry. -/
def EntryFailure.event (f : EntryFailure) : LogEvent where
  level := .warning
  message := "script failed on entry"
  fields := [("dictionary", f.dictionaryName), ("entry", s!"{f.entryId.toInt}"), ("error", f.message)]

/-- What a search found, and where it failed. -/
structure Outcome where
  hits : List Hit := []
  failures : List EntryFailure := []
deriving Repr, DecidableEq

namespace Outcome

/-- The number of entries found. -/
def count (o : Outcome) : Nat := o.hits.length

/-- Holds if nothing was found. -/
def isEmpty (o : Outcome) : Bool := o.hits.isEmpty

/-- The outcome with the predicate's verdict on one more entry in front. -/
def note (verdict : Except String Bool) (h : Hit) (o : Outcome) : Outcome :=
  match verdict with
  | .ok true => { o with hits := h :: o.hits }
  | .ok false => o
  | .error message =>
    let failure := ⟨h.dictionary, h.dictionaryName, h.entry.id, message⟩
    { o with failures := failure :: o.failures }

/-- The outcome in the opposite order. -/
def reverse (o : Outcome) : Outcome := ⟨o.hits.reverse, o.failures.reverse⟩

/-- The events of a search with a predicate. They tell of its failures only. -/
def events (p : Predicate) (o : Outcome) : List LogEvent :=
  o.failures.map EntryFailure.event ++
    if o.failures.isEmpty then [] else
      [{ level := .warning
         message := "entries skipped after script errors"
         fields := [("predicate", Text.quoted p.kind), ("failed", s!"{o.failures.length}")] }]

end Outcome

/-- Whether a text comes before another, or is the same: the bytes of UTF-8 are compared. -/
def ranksBefore (a b : String) : Bool :=
  Text.encode a.toList ≤ Text.encode b.toList

/-- Hits in the order of the forms of their headwords. Hits of one form keep their order. -/
def rank (hits : List Hit) : List Hit :=
  hits.mergeSort fun a b => ranksBefore a.form b.form

/-- Goes through the records of a dictionary. The outcome so far, and what is returned, are in the
opposite order. -/
def scan (p : Predicate) (o : Outcome) (d : Dictionary) : Outcome :=
  d.records.foldl (fun o r => o.note (p.verdict r.entry) (.ofRecord d r)) o

/-- The outcome of a search with a predicate. -/
def execute (p : Predicate) (s : Snapshot) : Outcome :=
  let found := (s.included.foldl (scan p) {}).reverse
  { found with hits := rank found.hits }

/-- The outcome of a built-in search. -/
def run (q : Query) (s : Snapshot) : Except QueryError Outcome := do
  return execute (.field (← FieldTest.ofQuery q)) s

end Lexicon.Search
