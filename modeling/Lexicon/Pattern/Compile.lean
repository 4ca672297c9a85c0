import Lexicon.Pattern.Diagram
import Lexicon.Pattern.Matching
import Lexicon.Pattern.Meaning
import Lexicon.Pattern.Reading
import Lexicon.Pattern.Size

/-!
# Compiling patterns

The text of a pattern is read, given its meaning under the standard flags, and measured. Each step
can refuse it.
-/

namespace Lexicon.Pattern

/-- Why the text of a pattern is refused. -/
inductive Refusal where
  | malformed (complaint : Complaint)
  | tooBig
deriving DecidableEq

/-- The wording of a refusal, in one line. -/
def Refusal.summary : Refusal → String
  | .malformed c => c.fault.message
  | .tooBig => s!"Compiled regex exceeds size limit of {sizeLimit} bytes."

/-- The wording of a refusal, with a drawing of the pattern where it helps. -/
def Refusal.text (pattern : String) : Refusal → String
  | .malformed c => c.draw pattern.toList
  | .tooBig => Refusal.tooBig.summary

/-- The pattern that a text writes. -/
def compile (text : String) : Except Refusal Pattern :=
  match readPattern text.toList with
  | .error c => .error (.malformed c)
  | .ok ast =>
    match ast.meaning .standard with
    | .error c => .error (.malformed c)
    | .ok (p, _) => if p.fits then .ok p else .error .tooBig

end Lexicon.Pattern
