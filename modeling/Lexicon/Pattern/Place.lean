/-!
# Places in a pattern

A place lies before a character of a pattern or at its end. It counts bytes from zero, and lines and
columns from one; a column is one character.
-/

namespace Lexicon.Pattern

/-- A place in a pattern. -/
structure Place where
  offset : Nat
  line : Nat
  column : Nat
deriving Repr, DecidableEq, Inhabited

/-- The place before the first character. -/
def Place.first : Place := ⟨0, 1, 1⟩

/-- The place after a character that stands at a place. -/
def Place.after (p : Place) (c : Char) : Place :=
  if c = '\n' then ⟨p.offset + c.utf8Size, p.line + 1, 1⟩
  else ⟨p.offset + c.utf8Size, p.line, p.column + 1⟩

/-- A stretch of a pattern. -/
structure Span where
  start : Place
  stop : Place
deriving Repr, DecidableEq, Inhabited

namespace Span

/-- The empty stretch at a place. -/
def point (p : Place) : Span := ⟨p, p⟩

/-- Holds of stretches that begin and end on one line. -/
def isOneLine (s : Span) : Bool := s.start.line = s.stop.line

/-- Stretches in the order of their starts, then of their ends. -/
def precedes (s t : Span) : Bool :=
  s.start.offset < t.start.offset ||
    (s.start.offset = t.start.offset && s.stop.offset ≤ t.stop.offset)

end Span

end Lexicon.Pattern
