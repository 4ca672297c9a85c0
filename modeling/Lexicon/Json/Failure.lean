import Lexicon.Json.Tree
import Lexicon.Text.Quoted
import Lexicon.Text.Utf8

/-!
# Failures of reading JSON

Reading stops at the first problem: the text ends too early, it is no JSON, or its values are not
those that are wanted. A failure keeps the text from the place on at which it shows, from which its
line and its column follow.
-/

namespace Lexicon.Json

/-- What a value is, for a message that something else is wanted. -/
inductive Actual where
  | null
  | flag (value : Bool)
  | number (value : Number)
  | text (value : String)
  | list
  | record
deriving Repr, DecidableEq

/-- How a message names a value. -/
def Actual.describe : Actual → String
  | .null => "null"
  | .flag b => s!"boolean `{b}`"
  | .number (.integer n) => s!"integer `{n}`"
  | .number n => s!"floating point `{n.notated}`"
  | .text s => s!"string {Text.quoted s}"
  | .list => "sequence"
  | .record => "map"

/-- What went wrong. -/
inductive Cause where
  | endInValue
  | endInText
  | endInList
  | endInRecord
  | expectedValue
  | expectedWord
  | expectedColon
  | expectedListEnd
  | expectedRecordEnd
  | keyNotText
  | invalidNumber
  | numberOutOfRange
  | invalidEscape
  | unexpectedEndOfHexEscape
  | loneSurrogate
  | controlCharacter
  | trailingComma
  | trailingCharacters
  | wrongType (actual : Actual) (wanted : String)
  | wrongValue (actual : Actual) (wanted : String)
  | duplicateMember (key : String)
  | missingMember (key : String)
  | wrongLength (length : Nat) (record : String) (members : Nat)
  | unknownVariant (name : String) (variants : List String)
  | idNotInteger (value : Number)
deriving Repr, DecidableEq

/-- The kinds of failures. -/
inductive Category where
  | ending
  | form
  | data
deriving Repr, DecidableEq

namespace Cause

/-- The kind of a cause. -/
def category : Cause → Category
  | endInValue | endInText | endInList | endInRecord => .ending
  | wrongType .. | wrongValue .. | duplicateMember .. | missingMember .. | wrongLength ..
  | unknownVariant .. | idNotInteger .. => .data
  | _ => .form

/-- The wording of a cause. -/
def message : Cause → String
  | endInValue => "EOF while parsing a value"
  | endInText => "EOF while parsing a string"
  | endInList => "EOF while parsing a list"
  | endInRecord => "EOF while parsing an object"
  | expectedValue => "expected value"
  | expectedWord => "expected ident"
  | expectedColon => "expected `:`"
  | expectedListEnd => "expected `,` or `]`"
  | expectedRecordEnd => "expected `,` or `\x7d`"
  | keyNotText => "key must be a string"
  | invalidNumber => "invalid number"
  | numberOutOfRange => "number out of range"
  | invalidEscape => "invalid escape"
  | unexpectedEndOfHexEscape => "unexpected end of hex escape"
  | loneSurrogate => "lone leading surrogate in hex escape"
  | controlCharacter => "control character (\\u0000-\\u001F) found while parsing a string"
  | trailingComma => "trailing comma"
  | trailingCharacters => "trailing characters"
  | wrongType actual wanted => s!"invalid type: {actual.describe}, expected {wanted}"
  | wrongValue actual wanted => s!"invalid value: {actual.describe}, expected {wanted}"
  | duplicateMember key => s!"duplicate field `{key}`"
  | missingMember key => s!"missing field `{key}`"
  | wrongLength length record members =>
    let elements := if members = 1 then "1 element" else s!"{members} elements"
    s!"invalid length {length}, expected struct {record} with {elements}"
  | unknownVariant name variants =>
    let listed := String.intercalate ", " (variants.map fun v => s!"`{v}`")
    s!"unknown variant `{name}`, expected one of {listed}"
  | idNotInteger value => s!"headword id {value.notated} is not an integer"

end Cause

/-- A failure: its cause, the text from near the place on at which it shows, the bytes from there to
that place, and whether the place is final. A record still moves the place of a failure that is not
final behind its own end. -/
structure Failure where
  cause : Cause
  rest : List Char
  past : Nat
  isPlaced : Bool
deriving Repr, DecidableEq

namespace Failure

/-- A failure at the place that reading has come to. -/
def here (cause : Cause) (rest : List Char) : Failure := ⟨cause, rest, 0, true⟩

/-- A failure at the character that comes next. -/
def next (cause : Cause) (rest : List Char) : Failure :=
  ⟨cause, rest, if rest.isEmpty then 0 else 1, true⟩

/-- A failure in a record, whose place is not final. -/
def within (cause : Cause) (rest : List Char) : Failure := ⟨cause, rest, 0, false⟩

end Failure

/-- A failure to read a text, with its line and its column, both counted in bytes of UTF-8 up to the
place where it shows. -/
structure ReadError where
  cause : Cause
  line : Nat
  column : Nat
deriving Repr, DecidableEq

namespace ReadError

/-- The line and the column of a place after so many bytes. -/
def locate (offset : Nat) (line column : Nat) : List UInt8 → Nat × Nat
  | [] => (line, column)
  | b :: rest =>
    match offset with
    | 0 => (line, column)
    | n + 1 => if b = 10 then locate n (line + 1) 0 rest else locate n line (column + 1) rest

/-- The error that a failure to read a text is. -/
def ofFailure (text : List Char) (f : Failure) : ReadError :=
  let offset := Text.byteSize text - Text.byteSize f.rest + f.past
  let (line, column) := locate offset 1 0 (Text.encode text)
  ⟨f.cause, line, column⟩

/-- The text of an error. -/
def message (e : ReadError) : String :=
  s!"{e.cause.message} at line {e.line} column {e.column}"

end ReadError

end Lexicon.Json
