import Lexicon.Decimal.Shortest

/-!
# JSON values

A JSON value as a tree. The members of a record keep their order, and a number is an integer where
its spelling and its size allow it.
-/

namespace Lexicon.Json

open Decimal (Binary64)

/-- A number: an integer of 64 bits with or without a sign, else a binary number with a sign. -/
inductive Number where
  | integer (value : Int)
  | real (negative : Bool) (magnitude : Binary64)
deriving Repr, DecidableEq

/-- The notation of a number. -/
def Number.notated : Number → String
  | .integer n => toString n
  | .real negative x => (if negative then "-" else "") ++ x.toDecimal

/-- The integer of 64 bits with a sign that a number is, if it is one. -/
def Number.toInt64? : Number → Option Int64
  | .integer n => ofInt n
  | .real negative x =>
    match x.toNat? with
    | some n => ofInt (if negative then -(n : Int) else n)
    | none => none
where
  ofInt (n : Int) : Option Int64 :=
    if Int64.minValue.toInt ≤ n && n ≤ Int64.maxValue.toInt then some (Int64.ofInt n) else none

/-- A JSON value. -/
inductive Tree where
  | null
  | flag (value : Bool)
  | number (value : Number)
  | text (value : String)
  | list (items : List Tree)
  | record (members : List (String × Tree))
deriving Inhabited

end Lexicon.Json
