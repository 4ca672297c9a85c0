import Lexicon.Pattern.Fault
import Lexicon.Pattern.Flags
import Lexicon.Unicode.CaseFold
import Lexicon.Unicode.Word

/-!
# Sets of characters in patterns

What a class matches under the flags in force. Without the flag for Unicode a class is a set of
bytes, and it may hold bytes of ASCII only, since any other byte is no character.
-/

namespace Lexicon.Pattern

open Unicode

/-- The characters of a class of ASCII. -/
def AsciiClass.charSet : AsciiClass → CharSet
  | .alnum => ⟨[(0x30, 0x39), (0x41, 0x5A), (0x61, 0x7A)]⟩
  | .alpha => ⟨[(0x41, 0x5A), (0x61, 0x7A)]⟩
  | .ascii => ⟨[(0x00, 0x7F)]⟩
  | .blank => ⟨[(0x09, 0x09), (0x20, 0x20)]⟩
  | .cntrl => ⟨[(0x00, 0x1F), (0x7F, 0x7F)]⟩
  | .digit => ⟨[(0x30, 0x39)]⟩
  | .graph => ⟨[(0x21, 0x7E)]⟩
  | .lower => ⟨[(0x61, 0x7A)]⟩
  | .print => ⟨[(0x20, 0x7E)]⟩
  | .punct => ⟨[(0x21, 0x2F), (0x3A, 0x40), (0x5B, 0x60), (0x7B, 0x7E)]⟩
  | .space => ⟨[(0x09, 0x0D), (0x20, 0x20)]⟩
  | .upper => ⟨[(0x41, 0x5A)]⟩
  | .word => asciiWordCharacter
  | .xdigit => ⟨[(0x30, 0x39), (0x41, 0x46), (0x61, 0x66)]⟩

/-- The characters of a short class, in Unicode or in ASCII. -/
def ShortClass.charSet (unicode : Bool) : ShortClass → CharSet
  | .digit => if unicode then decimalDigit else AsciiClass.digit.charSet
  | .space => if unicode then whiteSpace else AsciiClass.space.charSet
  | .word => if unicode then wordCharacter else asciiWordCharacter

/-- The set closed under case, where case is ignored. -/
def Flags.fold (flags : Flags) (s : CharSet) : CharSet :=
  if flags.caseInsensitive then
    if flags.unicode then closeUnderCase s else closeUnderAsciiCase s
  else s

/-- A set as it is, or its complement; a set of bytes has to stay within ASCII. -/
def Flags.negate (flags : Flags) (span : Span) (negated : Bool) (s : CharSet) :
    Except Complaint CharSet :=
  let s := if negated then s.complement else s
  if flags.unicode || s.isAscii then .ok s else .error ⟨.invalidUtf8, span, none⟩

/-- The characters of a short class or of its complement. -/
def Flags.shortSet (flags : Flags) (span : Span) (negated : Bool) (name : ShortClass) :
    Except Complaint CharSet :=
  flags.negate span negated (name.charSet flags.unicode)

/-- The characters that a property and its value name. -/
def PropertyQuery.found : PropertyQuery → Except LookupFault CharSet
  | .named name => lookup name
  | .valued name value | .unequal name value => lookupValue name value

/-- Holds of questions for the characters whose property has another value. -/
def PropertyQuery.isUnequal : PropertyQuery → Bool
  | .unequal .. => true
  | _ => false

/-- The characters that have a property, or the others. Those with another value are the complement
of those with the value, closed under case first. -/
def Flags.propertySet (flags : Flags) (span : Span) (negated : Bool) (query : PropertyQuery) :
    Except Complaint CharSet :=
  if flags.unicode then
    match query.found with
    | .ok s => flags.negate span (negated != query.isUnequal) (flags.fold s)
    | .error .unknownProperty => .error ⟨.propertyNotFound, span, none⟩
    | .error .unknownValue => .error ⟨.propertyValueNotFound, span, none⟩
  else .error ⟨.unicodeNotAllowed, span, none⟩

/-- The character of a literal. Without Unicode, two hexadecimal digits mean a byte, and a byte
beyond ASCII is no character. -/
def Flags.literalChar (flags : Flags) (l : Literal) : Except Complaint Char :=
  if !flags.unicode && l.isByteEscape && !isAsciiCode l.char then
    .error ⟨.invalidUtf8, l.span, none⟩
  else .ok l.char

/-- The character of a literal in a class. Without Unicode it has to be in ASCII. -/
def Flags.memberChar (flags : Flags) (l : Literal) : Except Complaint Char := do
  let c ← flags.literalChar l
  if flags.unicode || isAsciiCode c then return c
  else .error ⟨.unicodeNotAllowed, l.span, none⟩

/-- The result of an operator on sets. -/
def SetOperator.apply (s t : CharSet) : SetOperator → CharSet
  | .intersection => s.inter t
  | .difference => s.difference t
  | .symmetricDifference => s.symmetricDifference t

/-- The characters of a set between brackets. -/
def Flags.charSet (flags : Flags) : ClassSet → Except Complaint CharSet
  | .empty _ => .ok .empty
  | .literal l => do return .single (← flags.memberChar l)
  | .range _ first last => do return .range (← flags.memberChar first) (← flags.memberChar last)
  | .ascii span negated name => flags.negate span negated (flags.fold name.charSet)
  | .short span negated name => flags.shortSet span negated name
  | .property span negated query => flags.propertySet span negated query
  | .bracketed span negated set => do
    flags.negate span negated (flags.fold (← flags.charSet set))
  | .union _ items => unionAll [] items
  | .binary _ op left right => do
    let s ← flags.charSet left
    let t ← flags.charSet right
    return op.apply (flags.fold s) (flags.fold t)
where
  unionAll (done : List CharSet) : List ClassSet → Except Complaint CharSet
    | [] => .ok (.unions done)
    | item :: rest =>
      match flags.charSet item with
      | .ok s => unionAll (s :: done) rest
      | .error e => .error e

end Lexicon.Pattern
