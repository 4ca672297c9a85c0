import Lexicon.Pattern.Compile
import Lexicon.Script.CompileError

/-!
# Errors of queries

A query fails before any entry is looked at: for a pattern or a script that is refused, or for a
host predicate that was not allowed.
-/

namespace Lexicon.Search

/-- Why a query fails. -/
inductive QueryError where
  | pattern (text : String) (refusal : Pattern.Refusal)
  | compile (error : Script.CompileError)
  | hostDisabled
deriving DecidableEq

/-- The text of a query error. -/
def QueryError.message : QueryError → String
  | .pattern text refusal => s!"invalid pattern '{text}': {refusal.text text}"
  | .compile error => error.message
  | .hostDisabled =>
    "raw script predicates are disabled; enable them explicitly to run host code"

end Lexicon.Search
