import Lexicon.Json.Tree

/-!
# Shapes of JSON values

A shape says what values a place in a document takes: texts, flags, numbers, names out of a list,
lists and records. A record has members in a fixed order, each of which is required or may be left
out. For every shape there is a type of the values that have it.
-/

namespace Lexicon.Json

mutual

/-- A shape of values. -/
inductive Shape where
  | text
  /-- A flag, and its value where it is left out. -/
  | flag (fallback : Bool)
  /-- A number that is an integer of 64 bits with a sign. -/
  | id
  /-- An integer of 32 bits without a sign. -/
  | word
  /-- One of several names, of which the first stands where none is given. -/
  | choice (first : String) (others : List String)
  | list (item : Shape)
  | record (name : String) (members : Members)

/-- The members of a record. -/
inductive Members where
  | nil
  | cons (key : String) (isRequired : Bool) (shape : Shape) (rest : Members)

end

mutual

/-- The type of the values of a shape. A name is given by its index. -/
def Shape.Value : Shape → Type
  | .text => String
  | .flag _ => Bool
  | .id => Int64
  | .word => UInt32
  | .choice _ others => Fin (others.length + 1)
  | .list item => List item.Value
  | .record _ members => members.Values

/-- The type of the values of members, one after the other. -/
def Members.Values : Members → Type
  | .nil => Unit
  | .cons _ _ shape rest => shape.Value × rest.Values

end

/-- The type of what is known of members while a record is read. -/
def Members.Slots : Members → Type
  | .nil => Unit
  | .cons _ _ shape rest => Option shape.Value × rest.Slots

mutual

/-- The value of a shape where none is given. -/
def Shape.fallback : (shape : Shape) → shape.Value
  | .text => ""
  | .flag value => value
  | .id => (0 : Int64)
  | .word => (0 : UInt32)
  | .choice _ others => (0 : Fin (others.length + 1))
  | .list item => ([] : List item.Value)
  | .record _ members => members.fallbacks

/-- The values of members where none are given. -/
def Members.fallbacks : (members : Members) → members.Values
  | .nil => ()
  | .cons _ _ shape rest => (shape.fallback, rest.fallbacks)

end

namespace Members

/-- Nothing is known of any member. -/
def unknown : (members : Members) → members.Slots
  | .nil => ()
  | .cons _ _ _ rest => (none, rest.unknown)

/-- The number of members. -/
def count : Members → Nat
  | .nil => 0
  | .cons _ _ _ rest => rest.count + 1

/-- The values of members, or the key of the first required one that is missing. -/
def complete : (members : Members) → members.Slots → Except String members.Values
  | .nil, () => .ok ()
  | .cons key isRequired shape rest, (slot, slots) =>
    match slot with
    | some value => (rest.complete slots).map fun values => (value, values)
    | none =>
      if isRequired then .error key
      else (rest.complete slots).map fun values => (shape.fallback, values)

end Members

/-- The names of a choice. -/
def choiceNames (first : String) (others : List String) : List String := first :: others

/-- The name of an index. -/
def choiceName (first : String) (others : List String) (i : Fin (others.length + 1)) : String :=
  (choiceNames first others).get i

/-- The index of a name. -/
def choiceIndex? (name : String) : (first : String) → (others : List String) →
    Option (Fin (others.length + 1))
  | first, [] => if name = first then some 0 else none
  | first, second :: others =>
    if name = first then some 0 else (choiceIndex? name second others).map Fin.succ

mutual

/-- The JSON value of a value. Every member of a record is written, in order. -/
def Shape.toTree : (shape : Shape) → shape.Value → Tree
  | .text, (value : String) => .text value
  | .flag _, (value : Bool) => .flag value
  | .id, (value : Int64) => .number (.integer value.toInt)
  | .word, (value : UInt32) => .number (.integer value.toNat)
  | .choice first others, i => .text (choiceName first others i)
  | .list item, (values : List item.Value) => .list (values.map item.toTree)
  | .record _ members, values => .record (members.toTrees values)

/-- The keys and the JSON values of members. -/
def Members.toTrees : (members : Members) → members.Values → List (String × Tree)
  | .nil, _ => []
  | .cons key _ shape rest, (value, values) => (key, shape.toTree value) :: rest.toTrees values

end

end Lexicon.Json
