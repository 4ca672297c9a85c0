/-!
# Colored text

Output is a sequence of segments, each of which is plain or painted. It is written with colors, when
every painted segment stands between the escape sequences that set its paint and take it back, or
without them.
-/

namespace Lexicon.Display

/-- A color of the terminal. -/
inductive Color where
  | red
  | green
  | magenta
  | cyan
deriving Repr, DecidableEq

/-- The digits that select a color. -/
def Color.code : Color → List Char
  | red => ['3', '1']
  | green => ['3', '2']
  | magenta => ['3', '5']
  | cyan => ['3', '6']

/-- A color, bold or not. -/
structure Paint where
  color : Color
  isBold : Bool := false
deriving Repr, DecidableEq

/-- A piece of output. -/
structure Segment where
  paint : Option Paint
  text : String
deriving Repr, DecidableEq

/-- An escape sequence that changes how text looks. -/
def escapeSequence (code : List Char) : List Char := '\x1b' :: '[' :: code ++ ['m']

/-- What takes back every paint. -/
def resetSequence : List Char := escapeSequence ['0']

/-- What sets a paint, whatever was set before. -/
def Paint.sequence (p : Paint) : List Char :=
  resetSequence ++ (if p.isBold then escapeSequence ['1'] else []) ++ escapeSequence p.color.code

namespace Segment

/-- A piece of output without paint. -/
def plain (text : String) : Segment := ⟨none, text⟩

/-- A piece of output in a color. -/
def painted (color : Color) (text : String) : Segment := ⟨some { color }, text⟩

/-- The end of a line. -/
def newLine : Segment := plain "\n"

/-- What is written for a segment. -/
def written (isColored : Bool) (s : Segment) : List Char :=
  match isColored, s.paint with
  | true, some paint => paint.sequence ++ s.text.toList ++ resetSequence
  | _, _ => s.text.toList

end Segment

/-- What is written for segments. -/
def render (isColored : Bool) (segments : List Segment) : String :=
  String.ofList (segments.flatMap (Segment.written isColored))

end Lexicon.Display
