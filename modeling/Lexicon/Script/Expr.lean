import Lexicon.Script.Field
import Lexicon.Script.Token

/-!
# Expressions

The tree of a script: constants, connectives over any number of parts, tests of texts against a
literal, tests for the presence of texts, and comparisons of the entry's number.
-/

namespace Lexicon.Script

/-- How a text is tested against a literal. -/
inductive TextRelation where
  | startsWith
  | endsWith
  | contains
  | regexp
  | eq
  | ne
deriving Repr, DecidableEq

/-- How the number of an entry is compared. -/
inductive Comparison where
  | eq
  | ne
  | lt
  | le
  | gt
  | ge
deriving Repr, DecidableEq

/-- The test of texts that an operator stands for. -/
def Operator.textRelation? : Operator → Option TextRelation
  | .startsWith => some .startsWith
  | .endsWith => some .endsWith
  | .contains => some .contains
  | .regexp => some .regexp
  | .eq => some .eq
  | .ne => some .ne
  | .lt | .le | .gt | .ge => none

/-- The comparison of numbers that an operator stands for. -/
def Operator.comparison? : Operator → Option Comparison
  | .eq => some .eq
  | .ne => some .ne
  | .lt => some .lt
  | .le => some .le
  | .gt => some .gt
  | .ge => some .ge
  | .startsWith | .endsWith | .contains | .regexp => none

/-- Whether a comparison holds of two numbers. -/
def Comparison.holds (a b : Int64) : Comparison → Bool
  | .eq => a == b
  | .ne => a != b
  | .lt => a < b
  | .le => a ≤ b
  | .gt => b < a
  | .ge => b ≤ a

/-- The tree of a script. -/
inductive Expr where
  | const (value : Bool)
  | all (parts : List Expr)
  | any (parts : List Expr)
  | not (part : Expr)
  | test (field : Field) (relation : TextRelation) (literal : String)
  | present (field : Field)
  | compareId (comparison : Comparison) (value : Int64)
deriving Repr

end Lexicon.Script
