/-!
# Tokens of the expression language

A script is a sequence of parentheses, connectives, constants, names, literals and operators. A
token read from a script is placed: it carries the byte offset at which its spelling starts.
-/

namespace Lexicon.Script

/-- What stands between a field and a literal. -/
inductive Operator where
  | startsWith
  | endsWith
  | contains
  | regexp
  | eq
  | ne
  | lt
  | le
  | gt
  | ge
deriving Repr, DecidableEq

/-- The canonical spelling of an operator. -/
def Operator.symbol : Operator → String
  | .startsWith => "startswith"
  | .endsWith => "endswith"
  | .contains => "contains"
  | .regexp => "matches"
  | .eq => "=="
  | .ne => "!="
  | .lt => "<"
  | .le => "<="
  | .gt => ">"
  | .ge => ">="

/-- The smallest units of a script. -/
inductive Token where
  | leftParen
  | rightParen
  | conj
  | disj
  | neg
  | constant (value : Bool)
  | name (text : String)
  | text (value : String)
  | integer (value : Int64)
  | operator (op : Operator)
deriving Repr, DecidableEq

/-- How an error message names a token. -/
def Token.describe : Token → String
  | .leftParen => "'('"
  | .rightParen => "')'"
  | .conj => "'and'"
  | .disj => "'or'"
  | .neg => "'not'"
  | .constant true => "'true'"
  | .constant false => "'false'"
  | .name spelling => s!"identifier '{spelling}'"
  | .text _ => "string literal"
  | .integer value => s!"integer {value.toInt}"
  | .operator op => s!"operator '{op.symbol}'"

/-- A token and the byte offset of its first character. -/
structure Placed where
  offset : Nat
  token : Token
deriving Repr, DecidableEq

end Lexicon.Script
