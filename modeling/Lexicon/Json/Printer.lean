import Lexicon.Json.Tree

/-!
# Writing JSON

A tree is written without blanks, or over several lines with an indentation of two blanks. In texts
the quote, the backslash and the control characters of ASCII are escaped, and nothing else.
-/

namespace Lexicon.Json

/-- A digit of base sixteen, in lower case. -/
def lowerHexDigit (n : Nat) : Char := Nat.digitChar n

/-- How a character is written in a text. -/
def escapedChar : Char → List Char
  | '"' => ['\\', '"']
  | '\\' => ['\\', '\\']
  | '\x08' => ['\\', 'b']
  | '\t' => ['\\', 't']
  | '\n' => ['\\', 'n']
  | '\x0C' => ['\\', 'f']
  | '\x0D' => ['\\', 'r']
  | c =>
    if c.toNat < 0x20 then
      ['\\', 'u', '0', '0', lowerHexDigit (c.toNat / 16), lowerHexDigit (c.toNat % 16)]
    else [c]

/-- A text between quotes. -/
def writeText (s : String) : List Char :=
  '"' :: s.toList.flatMap escapedChar ++ ['"']

/-- Pieces with a separator between them. -/
def joinWith (separator : List Char) : List (List Char) → List Char
  | [] => []
  | [piece] => piece
  | piece :: pieces => piece ++ separator ++ joinWith separator pieces

/-- A value that is no list and no record, or an empty one. -/
def Tree.writeFlat : Tree → List Char
  | .null => "null".toList
  | .flag b => (if b then "true" else "false").toList
  | .number n => n.notated.toList
  | .text s => writeText s
  | .list _ => ['[', ']']
  | .record _ => ['\x7b', '\x7d']

/-- The JSON text of a value, without blanks. -/
def Tree.compact : Tree → List Char
  | .list items => '[' :: joinWith [','] (compacts items) ++ [']']
  | .record members => '\x7b' :: joinWith [','] (compactMembers members) ++ ['\x7d']
  | t => t.writeFlat
where
  compacts : List Tree → List (List Char)
    | [] => []
    | t :: rest => t.compact :: compacts rest
  compactMembers : List (String × Tree) → List (List Char)
    | [] => []
    | (key, t) :: rest => (writeText key ++ ':' :: t.compact) :: compactMembers rest

/-- The end of a line, and the indentation of the next. -/
def newLine (depth : Nat) : List Char := '\n' :: List.replicate (2 * depth) ' '

/-- The JSON text of a value over several lines, the first of which is indented already. -/
def Tree.pretty (depth : Nat) : Tree → List Char
  | .list [] => ['[', ']']
  | .list (t :: ts) =>
    '[' :: newLine (depth + 1) ++
      joinWith (',' :: newLine (depth + 1)) (t.pretty (depth + 1) :: prettyItems (depth + 1) ts) ++
      newLine depth ++ [']']
  | .record [] => ['\x7b', '\x7d']
  | .record ((key, t) :: ms) =>
    '\x7b' :: newLine (depth + 1) ++
      joinWith (',' :: newLine (depth + 1))
        ((writeText key ++ ':' :: ' ' :: t.pretty (depth + 1)) :: prettyMembers (depth + 1) ms) ++
      newLine depth ++ ['\x7d']
  | t => t.writeFlat
where
  prettyItems (depth : Nat) : List Tree → List (List Char)
    | [] => []
    | t :: rest => t.pretty depth :: prettyItems depth rest
  prettyMembers (depth : Nat) : List (String × Tree) → List (List Char)
    | [] => []
    | (key, t) :: rest =>
      (writeText key ++ ':' :: ' ' :: t.pretty depth) :: prettyMembers depth rest

/-- The JSON text of a value, without blanks. -/
def Tree.toCompactText (t : Tree) : String := String.ofList t.compact

/-- The JSON text of a value over several lines. -/
def Tree.toPrettyText (t : Tree) : String := String.ofList (t.pretty 0)

end Lexicon.Json
