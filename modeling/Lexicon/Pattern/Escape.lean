import Lexicon.Pattern.Ast
import Lexicon.Pattern.Cursor

/-!
# Escapes

What a backslash starts: a literal character, an assertion, a short class or a class by property.
The readers here are given the cursor at the backslash or at the character after it, as each says.
-/

namespace Lexicon.Pattern

/-- A part of a pattern that no operator joins. -/
inductive Primitive where
  | literal (l : Literal)
  | assertion (span : Span) (kind : Assertion)
  | short (span : Span) (negated : Bool) (name : ShortClass)
  | property (span : Span) (negated : Bool) (query : PropertyQuery)

namespace Primitive

/-- The stretch of a primitive. -/
def span : Primitive → Span
  | literal l => l.span
  | assertion s _ => s
  | short s _ _ => s
  | property s _ _ => s

/-- The pattern that a primitive is. -/
def toAst : Primitive → Ast
  | literal l => .literal l
  | assertion s k => .assertion s k
  | short s n k => .short s n k
  | property s n q => .property s n q

/-- The set that a primitive is between brackets. -/
def toClassSet : Primitive → Except Complaint ClassSet
  | literal l => .ok (.literal l)
  | short s n k => .ok (.short s n k)
  | property s n q => .ok (.property s n q)
  | assertion s _ => complain .classEscapeInvalid s

/-- The literal that a primitive is as an end of a range. -/
def toLiteral (p : Primitive) : Except Complaint Literal :=
  match p with
  | literal l => .ok l
  | _ => complain .classRangeLiteral p.span

end Primitive

/-- The value of a hexadecimal digit. -/
def hexValue? (c : Char) : Option Nat :=
  if '0' ≤ c && c ≤ '9' then some (c.toNat - '0'.toNat)
  else if 'a' ≤ c && c ≤ 'f' then some (c.toNat - 'a'.toNat + 10)
  else if 'A' ≤ c && c ≤ 'F' then some (c.toNat - 'A'.toNat + 10)
  else none

/-- The character of a code point, if it is one. -/
def charOfCode? (n : Nat) : Option Char :=
  if h : n.isValidChar then some (Char.ofNatAux n h) else none

/-- Reads a fixed number of hexadecimal digits with the cursor at the first, and leaves it at the
last. -/
def readHexDigits (c : Cursor) (value : Nat) : Nat → Except Complaint (Nat × Cursor)
  | 0 => .ok (value, c)
  | n + 1 =>
    match c.peek? with
    | none => complain .escapeUnexpectedEnd c.here
    | some x =>
      match hexValue? x with
      | none => complain .hexInvalidDigit c.charSpan
      | some d =>
        if n = 0 then .ok (value * 16 + d, c)
        else readHexDigits c.advance (value * 16 + d) n

/-- Reads hexadecimal digits up to a closing brace, with the cursor before the next digit. -/
def readHexUntilBrace (c : Cursor) (value : Option Nat) :
    (fuel : Nat) → Except Complaint (Option Nat × Cursor)
  | 0 => .ok (value, c)
  | fuel + 1 =>
    let c := c.advance
    match c.peek? with
    | none => .ok (value, c)
    | some '}' => .ok (value, c)
    | some x =>
      match hexValue? x with
      | none => complain .hexInvalidDigit c.charSpan
      | some d => readHexUntilBrace c (some (value.getD 0 * 16 + d)) fuel

/-- Reads a character by its code point, with the cursor at the letter after the backslash. -/
def readHex (start : Place) (c : Cursor) : Except Complaint (Primitive × Cursor) := do
  let isByte := c.isAt 'x'
  let digits := if isByte then 2 else if c.isAt 'u' then 4 else 8
  let c := c.advance
  if c.atEnd then complain .escapeUnexpectedEnd c.here
  else if c.isAt '{' then
    let brace := c.place
    let inside := c.charSpan.stop
    let (value, c) ← readHexUntilBrace c none c.rest.length
    if c.atEnd then complain .escapeUnexpectedEnd (c.since brace)
    else
      let close := c.place
      let c := c.advance
      match value with
      | none => complain .hexEmpty (c.since brace)
      | some n =>
        match charOfCode? n with
        | none => complain .hexInvalid ⟨inside, close⟩
        | some x => return (.literal ⟨c.since start, x, false⟩, c)
  else
    let from_ := c.place
    let (n, c) ← readHexDigits c 0 digits
    let c := c.advance
    match charOfCode? n with
    | none => complain .hexInvalid (c.since from_)
    | some x => return (.literal ⟨c.since start, x, isByte⟩, c)

/-- Splits text at the first place where a separator stands. -/
def splitAt? (separator : List Char) (before : List Char) : List Char → Option (String × String)
  | [] => none
  | c :: rest =>
    if separator.isPrefixOf (c :: rest) then
      some (String.ofList before.reverse, String.ofList ((c :: rest).drop separator.length))
    else splitAt? separator (c :: before) rest

/-- The question that the text between the braces of a property asks. -/
def PropertyQuery.ofText (text : List Char) : PropertyQuery :=
  match splitAt? ['!', '='] [] text with
  | some (name, value) => .unequal name value
  | none =>
    match splitAt? [':'] [] text with
    | some (name, value) => .valued name value
    | none =>
      match splitAt? ['='] [] text with
      | some (name, value) => .valued name value
      | none => .named (String.ofList text)

/-- Reads the text up to a closing brace, with the cursor before its next character. -/
def readUntilBrace (c : Cursor) (done : List Char) : (fuel : Nat) → List Char × Cursor
  | 0 => (done.reverse, c)
  | fuel + 1 =>
    let c := c.advance
    match c.peek? with
    | none => (done.reverse, c)
    | some '}' => (done.reverse, c)
    | some x => readUntilBrace c (x :: done) fuel

/-- Reads a class by property, with the cursor at the letter after the backslash. -/
def readProperty (start : Place) (c : Cursor) : Except Complaint (Primitive × Cursor) :=
  let negated := c.isAt 'P'
  let c := c.advance
  match c.peek? with
  | none => complain .escapeUnexpectedEnd c.here
  | some '{' =>
    let (text, c) := readUntilBrace c [] c.rest.length
    if c.atEnd then complain .escapeUnexpectedEnd c.here
    else
      let c := c.bump
      .ok (.property (c.since start) negated (.ofText text), c)
  | some '\\' => complain .unicodeClassInvalid c.charSpan
  | some x =>
    let c := c.advance
    .ok (.property (c.since start) negated (.named (String.singleton x)), c)

/-- Holds of the letters and hyphens that the name of a word boundary is made of. -/
def isBoundaryNamePart (c : Char) : Bool :=
  Unicode.isAsciiLetter c || c = '-'

/-- Reads the name of a word boundary, with the cursor at its next character. -/
def readBoundaryName (c : Cursor) (done : List Char) : (fuel : Nat) → String × Cursor
  | 0 => (String.ofList done.reverse, c)
  | fuel + 1 =>
    match c.peek? with
    | none => (String.ofList done.reverse, c)
    | some x =>
      if isBoundaryNamePart x then readBoundaryName c.advance (x :: done) fuel
      else (String.ofList done.reverse, c)

/-- The assertion of the name of a word boundary. -/
def boundaryOfName? : String → Option Assertion
  | "start" => some .wordStart
  | "end" => some .wordEnd
  | "start-half" => some .wordStartHalf
  | "end-half" => some .wordEndHalf
  | _ => none

/-- Reads the name of a special word boundary in braces, with the cursor at the opening brace. If
what the brace holds cannot be such a name, a repetition may follow instead. -/
def readSpecialBoundary? (start : Place) (c : Cursor) :
    Except Complaint (Option (Assertion × Cursor)) :=
  let brace := c.place
  let c := c.advance
  match c.peek? with
  | none => complain .wordBoundaryOrCountUnexpectedEnd (c.since start)
  | some x =>
    if isBoundaryNamePart x then
      let inside := c.place
      let (name, c) := readBoundaryName c [] (c.rest.length + 1)
      if c.isAt '}' then
        match boundaryOfName? name with
        | some kind => .ok (some (kind, c.bump))
        | none => complain .wordBoundaryUnrecognized ⟨inside, c.place⟩
      else complain .wordBoundaryUnclosed (c.since brace)
    else .ok none

/-- Holds of the characters that operators of patterns are written with. -/
def isMeta (c : Char) : Bool :=
  "\\.+*?()|[]\x7b\x7d^$#&-~".contains c

/-- Holds of the characters that a backslash may stand before without need. -/
def isEscapable (c : Char) : Bool :=
  isMeta c ||
    (Unicode.isAsciiCode c && !Unicode.isAsciiLetter c && !Unicode.isAsciiDigit c &&
      c != '<' && c != '>')

/-- The control characters that have an escape of their own. -/
def controlEscape? : Char → Option Char
  | 'a' => some '\x07'
  | 'f' => some '\x0C'
  | 't' => some '\t'
  | 'n' => some '\n'
  | 'r' => some '\r'
  | 'v' => some '\x0B'
  | _ => none

/-- The classes that have an escape of their own, and whether the escape negates them. -/
def shortEscape? : Char → Option (ShortClass × Bool)
  | 'd' => some (.digit, false)
  | 'D' => some (.digit, true)
  | 's' => some (.space, false)
  | 'S' => some (.space, true)
  | 'w' => some (.word, false)
  | 'W' => some (.word, true)
  | _ => none

/-- The assertions that have an escape of their own. -/
def assertionEscape? : Char → Option Assertion
  | 'A' => some .textStart
  | 'z' => some .textEnd
  | 'b' => some .wordBoundary
  | 'B' => some .notWordBoundary
  | '<' => some .wordStart
  | '>' => some .wordEnd
  | _ => none

/-- Reads what a backslash starts, with the cursor at the backslash. -/
def readEscape (c : Cursor) : Except Complaint (Primitive × Cursor) :=
  let start := c.place
  let c := c.bump
  match c.peek? with
  | none => complain .escapeUnexpectedEnd (c.since start)
  | some x =>
    if Unicode.isAsciiDigit x then complain .backreference ⟨start, c.charSpan.stop⟩
    else if x = 'x' || x = 'u' || x = 'U' then readHex start c
    else if x = 'p' || x = 'P' then readProperty start c
    else
      let c := c.bump
      let span := c.since start
      if let some (name, negated) := shortEscape? x then .ok (.short span negated name, c)
      else if isEscapable x then .ok (.literal ⟨span, x, false⟩, c)
      else if let some control := controlEscape? x then .ok (.literal ⟨span, control, false⟩, c)
      else
        match assertionEscape? x with
        | none => complain .escapeUnrecognized span
        | some kind =>
          if x = 'b' && c.isAt '\x7b' then do
            match ← readSpecialBoundary? start c with
            | some (kind, c) => return (.assertion (c.since start) kind, c)
            | none => return (.assertion span kind, c)
          else .ok (.assertion span kind, c)

end Lexicon.Pattern
