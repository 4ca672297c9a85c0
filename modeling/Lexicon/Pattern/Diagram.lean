import Lexicon.Pattern.Fault

/-!
# Drawings of complaints

A complaint is shown under the pattern: carets mark the stretches that it is about. Patterns of
several lines are shown with line numbers between two rules, and a stretch over several lines is
described in words.
-/

namespace Lexicon.Pattern

/-- The lines of a pattern without the characters that end them. A last line without characters is
none. -/
def linesOf (pattern : List Char) : List String :=
  go [] pattern
where
  go (line : List Char) : List Char → List String
    | [] => if line.isEmpty then [] else [String.ofList line.reverse]
    | '\n' :: rest =>
      let line := match line with
        | '\x0D' :: before => before
        | line => line
      String.ofList line.reverse :: go [] rest
    | c :: rest => go (c :: line) rest

/-- So many copies of a character. -/
def copies (n : Nat) (c : Char) : String := String.ofList (List.replicate n c)

/-- The carets under a line, which begin after so many columns of margin. -/
def caretLine (margin : Nat) (spans : List Span) : String :=
  copies margin ' ' ++ go 0 spans
where
  go (column : Nat) : List Span → String
    | [] => ""
    | s :: rest =>
      let from_ := s.start.column - 1
      let width := max 1 (s.stop.column - s.start.column)
      copies (from_ - column) ' ' ++ copies width '^' ++ go (max column from_ + width) rest

/-- The stretches that a complaint is about, in the order of the pattern. -/
def Complaint.spans (c : Complaint) : List Span :=
  match c.earlier with
  | none => [c.span]
  | some e => if c.span.precedes e then [c.span, e] else [e, c.span]

/-- The lines of a pattern, each with the carets below it. -/
def Complaint.notated (c : Complaint) (pattern : List Char) : String :=
  let lines := linesOf pattern
  let count := lines.length + if pattern.getLast? = some '\n' then 1 else 0
  let width := if count ≤ 1 then 0 else (toString count).length
  let spans := c.spans.filter Span.isOneLine
  let label (i : Nat) : String :=
    if width = 0 then "    "
    else
      let number := toString (i + 1)
      copies (width - number.length) ' ' ++ number ++ ": "
  let margin := if width = 0 then 4 else width + 2
  String.join <| lines.mapIdx fun i line =>
    let here := spans.filter fun s => s.start.line = i + 1
    label i ++ line ++ "\n" ++ if here.isEmpty then "" else caretLine margin here ++ "\n"

/-- Describes a stretch over several lines. -/
def Span.describe (s : Span) : String :=
  s!"on line {s.start.line} (column {s.start.column}) " ++
    s!"through line {s.stop.line} (column {s.stop.column - 1})"

/-- The drawing of a complaint about a pattern, with its wording. -/
def Complaint.draw (c : Complaint) (pattern : List Char) : String :=
  let notated := c.notated pattern
  let picture :=
    if pattern.contains '\n' then
      let rule := copies 79 '~' ++ "\n"
      let long := c.spans.filter (!·.isOneLine)
      let notes := if long.isEmpty then ""
        else String.intercalate "\n" (long.map Span.describe) ++ "\n"
      rule ++ notated ++ rule ++ notes
    else notated
  "regex parse error:\n" ++ picture ++ "error: " ++ c.fault.message

end Lexicon.Pattern
