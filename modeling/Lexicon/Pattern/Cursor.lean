import Lexicon.Pattern.Fault
import Lexicon.Unicode.Class

/-!
# Reading positions in a pattern

A cursor is a place in a pattern with the characters from there on. Where blanks are ignored, a move
also passes over blanks and over comments, which start with a number sign and end with their line.
-/

namespace Lexicon.Pattern

/-- A reading position. -/
structure Cursor where
  place : Place
  rest : List Char
  /-- Blanks and comments are ignored. -/
  ignoresSpace : Bool
deriving Repr, Inhabited

namespace Cursor

/-- The position before a pattern. -/
def first (pattern : List Char) : Cursor := ⟨.first, pattern, false⟩

/-- Holds at the end of the pattern. -/
def atEnd (c : Cursor) : Bool := c.rest.isEmpty

/-- The character at the cursor. -/
def peek? (c : Cursor) : Option Char := c.rest.head?

/-- The character after the one at the cursor. -/
def peekSecond? (c : Cursor) : Option Char := c.rest.tail.head?

/-- Holds if the character at the cursor is the given one. -/
def isAt (c : Cursor) (x : Char) : Bool := c.peek? == some x

/-- The empty stretch at the cursor. -/
def here (c : Cursor) : Span := .point c.place

/-- The stretch of the character at the cursor. -/
def charSpan (c : Cursor) : Span :=
  match c.rest with
  | [] => c.here
  | x :: _ => ⟨c.place, c.place.after x⟩

/-- The stretch from a place to the cursor. -/
def since (c : Cursor) (start : Place) : Span := ⟨start, c.place⟩

/-- The cursor after the next character. -/
def bump (c : Cursor) : Cursor :=
  match c.rest with
  | [] => c
  | x :: rest => { c with place := c.place.after x, rest }

/-- The place and the characters after blanks and comments. -/
def passSpace (inComment : Bool) (p : Place) : List Char → Place × List Char
  | [] => (p, [])
  | c :: rest =>
    if inComment then passSpace (c != '\n') (p.after c) rest
    else if Unicode.isBlank c then passSpace false (p.after c) rest
    else if c = '#' then passSpace true (p.after c) rest
    else (p, c :: rest)

/-- The cursor after blanks and comments, where they are ignored. -/
def skipSpace (c : Cursor) : Cursor :=
  if c.ignoresSpace then
    let (place, rest) := passSpace false c.place c.rest
    { c with place, rest }
  else c

/-- The cursor after the next character and what is ignored behind it. -/
def advance (c : Cursor) : Cursor := c.bump.skipSpace

/-- The cursor after given characters, if it is at them. -/
def bumpText? (text : List Char) (c : Cursor) : Option Cursor :=
  if text.isPrefixOf c.rest then some (text.foldl (fun c _ => c.bump) c) else none

/-- The character after the one at the cursor, past blanks where they are ignored. Of a comment only
the number signs before its first other character are passed over. -/
def peekPastSpace? (c : Cursor) : Option Char :=
  if c.ignoresSpace then
    match look false c.rest.tail with
    | some x => some x
    | none => c.peekSecond?
  else c.peekSecond?
where
  look (inComment : Bool) : List Char → Option Char
    | [] => none
    | x :: rest =>
      if Unicode.isBlank x then look inComment rest
      else if x = '#' && !inComment then look true rest
      else some x

end Cursor

/-- A complaint about a stretch. -/
def complain {α : Type} (fault : Fault) (span : Span) : Except Complaint α :=
  .error ⟨fault, span, none⟩

end Lexicon.Pattern
