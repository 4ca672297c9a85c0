import Lexicon.Script.Token

/-!
# Errors of scripts

A script that does not fit the expression language is refused with the byte offset at which the
problem shows and its cause.
-/

namespace Lexicon.Script

/-- What the grammar wants where something else stands. -/
inductive Wanted where
  | expression
  | closingParen
  | textLiteral
  | comparison
  | integer
deriving Repr, DecidableEq

/-- How an error message names what is wanted. -/
def Wanted.describe : Wanted → String
  | .expression => "expression"
  | .closingParen => "')'"
  | .textLiteral => "string literal"
  | .comparison => "comparison operator"
  | .integer => "integer"

/-- Why a script is refused. -/
inductive Problem where
  | unexpectedCharacter (c : Char)
  | unfinishedSymbol (symbol : String)
  | unterminatedText
  | unknownEscape (c : Char)
  | invalidInteger (spelling : String)
  | emptyScript
  | trailing (found : Token)
  | missing (wanted : Wanted)
  | mismatch (wanted : Wanted) (found : Token)
  | unknownField (name : String)
  | numericOperator (op : Operator)
  | textOperatorOnId (op : Operator)
  | idNotCompared (found : Token)
  | tooDeep
  | noHostPredicate
deriving Repr, DecidableEq

/-- The wording of a problem. -/
def Problem.message : Problem → String
  | .unexpectedCharacter c => s!"unexpected character '{c}'"
  | .unfinishedSymbol symbol => s!"expected '{symbol}'"
  | .unterminatedText => "unterminated string literal"
  | .unknownEscape c => s!"unknown escape '\\{c}'"
  | .invalidInteger spelling => s!"invalid integer '{spelling}'"
  | .emptyScript => "empty script"
  | .trailing found => s!"unexpected {found.describe}"
  | .missing wanted => s!"expected {wanted.describe}, found end of script"
  | .mismatch wanted found => s!"expected {wanted.describe}, found {found.describe}"
  | .unknownField name => s!"unknown field '{name}'"
  | .numericOperator op => s!"operator '{op.symbol}' needs a numeric field"
  | .textOperatorOnId op => s!"operator '{op.symbol}' does not apply to 'id'"
  | .idNotCompared found => s!"'id' must be compared, found {found.describe}"
  | .tooDeep => "expression nested too deeply"
  | .noHostPredicate => "no raw script set"

/-- A problem and the byte offset at which it shows. -/
structure CompileError where
  offset : Nat
  problem : Problem
deriving Repr, DecidableEq

/-- The text of a compile error. -/
def CompileError.message (e : CompileError) : String :=
  s!"compile error at offset {e.offset}: {e.problem.message}"

end Lexicon.Script
