import Lexicon.Json.Decode
import Lexicon.Json.Printer

/-!
# Layouts

A layout says how a type of the domain is laid out in JSON: the shape of its values, and how a
value of the shape and a value of the type become each other. What is laid out and taken back is
what it was.
-/

namespace Lexicon.Json

/-- How the values of a type are laid out in JSON. -/
structure Layout (α : Type) where
  shape : Shape
  ofValue : shape.Value → α
  toValue : α → shape.Value
  ofValue_toValue (a : α) : ofValue (toValue a) = a

namespace Layout

variable {α : Type}

/-- Reads a value from a text with nothing but blanks around it. -/
def decode (l : Layout α) (text : String) : Except ReadError α :=
  (l.shape.decode text).map l.ofValue

/-- The JSON value of a value. -/
def toTree (l : Layout α) (a : α) : Tree := l.shape.toTree (l.toValue a)

theorem map_ofValue_toValue (l : Layout α) (as : List α) :
    (as.map l.toValue).map l.ofValue = as := by
  induction as with
  | nil => rfl
  | cons a as ih => simp [l.ofValue_toValue, ih]

/-- A text as it is. -/
def text : Layout String := ⟨.text, id, id, fun _ => rfl⟩

/-- A number without a sign as it is. -/
def word : Layout UInt32 := ⟨.word, id, id, fun _ => rfl⟩

/-- A list of values that are laid out alike. -/
def list (l : Layout α) : Layout (List α) where
  shape := .list l.shape
  ofValue := fun vs : List l.shape.Value => vs.map l.ofValue
  toValue := fun as => as.map l.toValue
  ofValue_toValue := l.map_ofValue_toValue

/-- One of several values, each by its name. The first stands where none is given. -/
def choice [DecidableEq α] (name : α → String) (first : α) (others : List α)
    (complete : ∀ a, a ∈ first :: others) : Layout α where
  shape := .choice (name first) (others.map name)
  ofValue := fun i : Fin ((others.map name).length + 1) =>
    (first :: others).get ⟨i.val, by simpa only [List.length_cons, List.length_map] using i.isLt⟩
  toValue := fun a => (⟨(first :: others).idxOf a, by
    simpa only [List.length_cons, List.length_map] using List.idxOf_lt_length_of_mem (complete a)⟩ :
      Fin ((others.map name).length + 1))
  ofValue_toValue a := List.getElem_idxOf (List.idxOf_lt_length_of_mem (complete a))

end Layout

end Lexicon.Json
