import Lexicon.Json.Layout

/-!
# Modes of a session

The mode of a session says where the predicate of its next search comes from.
-/

namespace Lexicon.Session

open Json (Layout)

/-- Where the predicate of the next search comes from. -/
inductive Mode where
  /-- A field, a strategy and a needle. -/
  | matrix
  | expression
  /-- A function of the host program. -/
  | host
deriving Repr, DecidableEq

namespace Mode

/-- The name of a mode. -/
def name : Mode → String
  | matrix => "matrix"
  | expression => "expression"
  | host => "raw"

/-- The name of a mode in the log. -/
def caption : Mode → String
  | matrix => "Matrix"
  | expression => "Expression"
  | host => "Raw"

/-- The layout of a mode: its name. -/
def layout : Layout Mode :=
  .choice name matrix [expression, host] fun m => by cases m <;> decide

end Mode

end Lexicon.Session
