import Lexicon.Entry.Basic

/-!
# Dictionaries

A dictionary is a named list of entries. It goes by a number, because two dictionaries may have the
same name, and it takes part in searches or is left out of them. It shares its entries with the
results of searches, and perhaps with other dictionaries. So an entry in memory goes by a reference:
two entries of equal content need not be the same record.
-/

namespace Lexicon

/-- The number by which a dictionary goes. -/
structure DictionaryId where
  number : UInt32
deriving Repr, DecidableEq

/-- How the number of a dictionary is shown. -/
def DictionaryId.label (id : DictionaryId) : String := s!"#{id.number.toNat}"

/-- An entry in memory. All who share the record hold its reference. -/
structure Record where
  reference : Nat
  entry : Entry
deriving Repr, DecidableEq

namespace Record

/-- Puts entries into memory. They get references of their own, from one on. -/
def allocate : (next : Nat) → List Entry → List Record
  | _, [] => []
  | n, e :: es => ⟨n, e⟩ :: allocate (n + 1) es

/-- The next reference once some records are in use. -/
def above : (next : Nat) → List Record → Nat
  | n, [] => n
  | n, r :: rs => above (max n (r.reference + 1)) rs

theorem map_entry_allocate (next : Nat) (entries : List Entry) :
    (allocate next entries).map entry = entries := by
  induction entries generalizing next with
  | nil => rfl
  | cons e es ih => rw [allocate, List.map_cons, ih]

/-- New records take up as many references as there are entries. -/
theorem above_allocate (next : Nat) (entries : List Entry) :
    above next (allocate next entries) = next + entries.length := by
  induction entries generalizing next with
  | nil => rfl
  | cons e es ih =>
      rw [allocate, above, Nat.max_eq_right (Nat.le_succ next), ih, List.length_cons]
      omega

end Record

/-- A loaded dictionary. -/
structure Dictionary where
  id : DictionaryId
  name : String
  records : List Record
  isIncluded : Bool
deriving Repr, DecidableEq

/-- What a listing tells about a dictionary. -/
structure Summary where
  id : DictionaryId
  name : String
  size : Nat
  isIncluded : Bool
deriving Repr, DecidableEq

namespace Dictionary

/-- The entries, without their references. -/
def entries (d : Dictionary) : List Entry := d.records.map Record.entry

/-- The number of entries. -/
def size (d : Dictionary) : Nat := d.records.length

/-- Holds if there are no entries. -/
def isEmpty (d : Dictionary) : Bool := d.records.isEmpty

/-- The dictionary, taking part in searches or left out of them. -/
def including (isIncluded : Bool) (d : Dictionary) : Dictionary := { d with isIncluded }

/-- What a listing tells about the dictionary. -/
def summary (d : Dictionary) : Summary := ⟨d.id, d.name, d.size, d.isIncluded⟩

end Dictionary

end Lexicon
