import Lexicon.Json.Failure
import Lexicon.Unicode.Class

/-!
# Words, texts and numbers of JSON

The readers for the smallest parts of JSON. Each takes the text in front of it and gives a value with
the text behind it, which is shorter, so that readers built from these come to an end.
-/

namespace Lexicon.Json

open Unicode (isAsciiDigit)
open Decimal (Binary64)

/-- A value read from a text, and the text behind it, whose length is below a bound. -/
structure Read (α : Type) (bound : Nat) where
  value : α
  rest : List Char
  shorter : rest.length < bound

/-- The same reading under a greater bound. -/
def Read.within {α : Type} {m n : Nat} (r : Read α m) (h : m ≤ n) : Read α n :=
  ⟨r.value, r.rest, Nat.lt_of_lt_of_le r.shorter h⟩

/-- A way to read a value from the front of a text. -/
abbrev Reader (α : Type) := (s : List Char) → Except Failure (Read α s.length)

/-- The characters that may stand between the parts of JSON. -/
def isSpace (c : Char) : Bool :=
  c = ' ' || c = '\t' || c = '\n' || c = '\x0D'

/-- The text behind blanks. -/
def skipSpace (s : List Char) : List Char := s.dropWhile isSpace

theorem skipSpace_length_le (s : List Char) : (skipSpace s).length ≤ s.length :=
  (List.dropWhile_sublist _).length_le

/-- What follows the first character behind blanks is shorter than the text. -/
theorem skipSpace_cons_lt {s rest : List Char} {c : Char} (h : skipSpace s = c :: rest) :
    rest.length < s.length := by
  have := skipSpace_length_le s
  rw [h] at this
  exact this

/-- So is what follows the second of two such characters. -/
theorem skipSpace_cons_cons_lt {s rest rest' : List Char} {c d : Char}
    (h : skipSpace s = c :: rest) (h' : skipSpace rest = d :: rest') :
    rest'.length < s.length :=
  Nat.lt_trans (skipSpace_cons_lt h') (skipSpace_cons_lt h)

/-- A text is not longer than itself. -/
theorem length_le_self (s : List Char) : s.length ≤ s.length := Nat.le_refl _

/-- The length of a text is a bound for what one character may still be added to. -/
theorem length_lt_succ (s : List Char) : s.length < s.length + 1 := Nat.lt_succ_self _

/-- Passes over the letters of a word whose first letter was read. -/
def readWord (word : List Char) (s : List Char) :
    Except Failure { r : List Char // r.length ≤ s.length } :=
  match word, s with
  | [], s => .ok ⟨s, Nat.le_refl _⟩
  | _ :: _, [] => .error (.here .endInValue [])
  | w :: word, c :: rest =>
    if c = w then
      match readWord word rest with
      | .ok ⟨r, h⟩ => .ok ⟨r, Nat.le_succ_of_le h⟩
      | .error e => .error e
    else .error (.next .expectedWord (c :: rest))

/-- The value of a hexadecimal digit. -/
def hexDigit? (c : Char) : Option Nat :=
  if isAsciiDigit c then some (c.toNat - '0'.toNat)
  else if 'a' ≤ c && c ≤ 'f' then some (c.toNat - 'a'.toNat + 10)
  else if 'A' ≤ c && c ≤ 'F' then some (c.toNat - 'A'.toNat + 10)
  else none

/-- The number of four hexadecimal digits. -/
def hexValue? (a b c d : Char) : Option Nat := do
  return (((← hexDigit? a) * 16 + (← hexDigit? b)) * 16 + (← hexDigit? c)) * 16 + (← hexDigit? d)

/-- Reads four hexadecimal digits. They are taken as bytes: four bytes that are no digits are
passed over before the failure shows. -/
def readHex (s : List Char) : Except Failure { r : Nat × List Char // r.2.length < s.length } :=
  match s with
  | a :: b :: c :: d :: rest =>
    match hexValue? a b c d with
    | some n => .ok ⟨(n, rest), by simp only [List.length_cons]; omega⟩
    | none => .error ⟨.invalidEscape, s, 4, true⟩
  | s =>
    if 4 ≤ Text.byteSize s then .error ⟨.invalidEscape, s, 4, true⟩
    else .error (.here .endInText [])

/-- The character that a short escape stands for. -/
def shortEscape? : Char → Option Char
  | '"' => some '"'
  | '\\' => some '\\'
  | '/' => some '/'
  | 'b' => some '\x08'
  | 'f' => some '\x0C'
  | 'n' => some '\n'
  | 'r' => some '\x0D'
  | 't' => some '\t'
  | _ => none

/-- Reads the digits of an escape by code point, of which the letter was read. Two escapes may write
the halves of one character; a half alone is none. -/
def readCodeEscape (s : List Char) :
    Except Failure { r : Char × List Char // r.2.length < s.length } :=
  match readHex s with
  | .error e => .error e
  | .ok ⟨(n, rest), h⟩ =>
    if 0xDC00 ≤ n && n ≤ 0xDFFF then .error (.here .loneSurrogate rest)
    else if n < 0xD800 || 0xDBFF < n then .ok ⟨(Char.ofNat n, rest), h⟩
    else
      match rest, h with
      | [], _ => .error (.here .endInText [])
      | '\\' :: [], _ => .error (.here .endInText [])
      | '\\' :: 'u' :: rest', h =>
        match readHex rest' with
        | .error e => .error e
        | .ok ⟨(m, rest''), h'⟩ =>
          if m < 0xDC00 || 0xDFFF < m then .error (.here .loneSurrogate rest'')
          else .ok ⟨(Char.ofNat ((n - 0xD800) * 0x400 + (m - 0xDC00) + 0x10000), rest''), by
            simp only [List.length_cons] at h h' ⊢; omega⟩
      | '\\' :: rest', _ => .error (.next .unexpectedEndOfHexEscape rest')
      | rest, _ => .error (.next .unexpectedEndOfHexEscape rest)

/-- What comes next in a text: the quote that closes it, or a character. -/
inductive TextPart (α : Type) (s : List Char) where
  | close (rest : List Char) (h : rest.length < s.length)
  | character (value : α) (rest : List Char) (h : rest.length < s.length)

/-- Reads an escape, of which the backslash was read. -/
def readEscape (s : List Char) : Except Failure { r : Char × List Char // r.2.length < s.length } :=
  match s with
  | [] => .error (.here .endInText [])
  | e :: rest =>
    if e = 'u' then
      match readCodeEscape rest with
      | .ok ⟨r, h⟩ => .ok ⟨r, Nat.lt_succ_of_lt h⟩
      | .error f => .error f
    else
      match shortEscape? e with
      | some c => .ok ⟨(c, rest), length_lt_succ rest⟩
      | none => .error (.next .invalidEscape (e :: rest))

/-- Reads the next part of a text. -/
def nextCharacter (s : List Char) : Except Failure (TextPart Char s) :=
  match s with
  | [] => .error (.here .endInText [])
  | c :: rest =>
    if c = '"' then .ok (.close rest (length_lt_succ rest))
    else if c = '\\' then
      match readEscape rest with
      | .ok ⟨(c, rest'), h⟩ => .ok (.character c rest' (Nat.lt_succ_of_lt h))
      | .error f => .error f
    else if c.toNat < 0x20 then .error (.next .controlCharacter (c :: rest))
    else .ok (.character c rest (length_lt_succ rest))

/-- Reads a text whose opening quote was read, given its characters so far in reverse. -/
def readCharacters (done : List Char) {bound : Nat} (s : List Char) (h : s.length < bound) :
    Except Failure (Read String bound) :=
  match nextCharacter s with
  | .error f => .error f
  | .ok (.close rest h') => .ok ⟨String.ofList done.reverse, rest, Nat.lt_trans h' h⟩
  | .ok (.character c rest h') => readCharacters (c :: done) rest (Nat.lt_trans h' h)
termination_by s.length

/-- Reads a text whose opening quote was read. -/
def readTextBody (s : List Char) : Except Failure (Read String (s.length + 1)) :=
  readCharacters [] s (length_lt_succ s)

/-- The greatest integer of 64 bits without a sign. -/
def maxUnsigned : Nat := 0xFFFFFFFFFFFFFFFF

/-- The digits of a number that fit in 64 bits, their value, how many there are, and the text from
the first digit on that does not. -/
def takeSignificand (value count : Nat) (s : List Char) :
    Nat × Nat × { r : List Char // r.length ≤ s.length } :=
  match s with
  | [] => (value, count, ⟨[], Nat.le_refl _⟩)
  | c :: rest =>
    let next := value * 10 + (c.toNat - '0'.toNat)
    if isAsciiDigit c && next ≤ maxUnsigned then
      let (v, n, ⟨r, h⟩) := takeSignificand next (count + 1) rest
      (v, n, ⟨r, Nat.le_succ_of_le h⟩)
    else (value, count, ⟨c :: rest, Nat.le_refl _⟩)

/-- The digits in front of a text: how many they are, and the text behind them. -/
structure DigitRun (s : List Char) where
  count : Nat
  rest : List Char
  length_eq : count + rest.length = s.length

/-- The digits in front of a text. -/
def skipDigits (s : List Char) : DigitRun s :=
  ⟨(s.takeWhile isAsciiDigit).length, s.dropWhile isAsciiDigit, by
    rw [← List.length_append, List.takeWhile_append_dropWhile]⟩

/-- A number with its sign from a significand and a power of ten. -/
def numberOfParts (negative : Bool) (significand : Nat) (exponent : Int) (rest : List Char) :
    Except Failure Number :=
  match (Binary64.ofNat significand).bind fun x => x.scaleByTen exponent with
  | some x => .ok (.real negative x)
  | none => .error (.here .numberOutOfRange rest)

/-- A number read from a text, and the text behind it, which is not longer. -/
abbrev NumberRead (s : List Char) := Except Failure { r : Number × List Char // r.2.length ≤ s.length }

/-- Reads an exponent, of which the letter was read. -/
def readExponent (negative : Bool) (significand : Nat) (scale : Int) (s : List Char) :
    NumberRead s :=
  let (shrinks, ⟨s', h⟩) : Bool × { r : List Char // r.length ≤ s.length } :=
    match s with
    | '+' :: rest => (false, ⟨rest, by simp⟩)
    | '-' :: rest => (true, ⟨rest, by simp⟩)
    | s => (false, ⟨s, Nat.le_refl _⟩)
  match s', h with
  | [], _ => .error (.here .endInValue [])
  | c :: rest, h =>
    if isAsciiDigit c then
      let digits := (c :: rest).takeWhile isAsciiDigit
      let behind := (c :: rest).dropWhile isAsciiDigit
      have short : behind.length ≤ s.length :=
        Nat.le_trans (List.dropWhile_sublist _).length_le h
      match exponentOf digits with
      | .inl e =>
        match numberOfParts negative significand (scale + if shrinks then -(e : Int) else e) behind with
        | .ok n => .ok ⟨(n, behind), short⟩
        | .error f => .error f
      | .inr unread =>
        if significand != 0 && !shrinks then
          .error (.here .numberOutOfRange (unread ++ behind))
        else .ok ⟨(.real negative .zero, behind), short⟩
    else .error (.next .invalidNumber (c :: rest))
where
  /-- The number that digits write, or the digits behind the first one that makes it too great for
  31 bits. -/
  exponentOf (digits : List Char) : Nat ⊕ List Char :=
    go 0 digits
  go (value : Nat) : List Char → Nat ⊕ List Char
    | [] => .inl value
    | d :: rest =>
      let next := value * 10 + (d.toNat - '0'.toNat)
      if next < 0x80000000 then go next rest else .inr rest

/-- Makes the number that ends here. -/
def finishNumber (negative : Bool) (significand : Nat) (scale : Int) (s : List Char) :
    NumberRead s :=
  match numberOfParts negative significand scale s with
  | .ok n => .ok ⟨(n, s), Nat.le_refl _⟩
  | .error f => .error f

/-- Reads an exponent, if one comes, and makes the number. -/
def readScale (negative : Bool) (significand : Nat) (scale : Int) (s : List Char) : NumberRead s :=
  match s with
  | c :: rest =>
    if c = 'e' || c = 'E' then
      match readExponent negative significand scale rest with
      | .ok ⟨r, h⟩ => .ok ⟨r, Nat.le_succ_of_le h⟩
      | .error f => .error f
    else finishNumber negative significand scale (c :: rest)
  | [] => finishNumber negative significand scale []

/-- Reads the digits behind a point. Those beyond 64 bits are dropped. -/
def readFraction (negative : Bool) (significand : Nat) (scale : Int) (s : List Char) :
    NumberRead s :=
  let (value, count, ⟨r, h⟩) := takeSignificand significand 0 s
  match r, h with
  | [], h =>
    if count = 0 then .error (.here .endInValue []) else finish value count [] h
  | c :: rest, h =>
    if isAsciiDigit c then
      let run := skipDigits (c :: rest)
      finish value count run.rest (by have := run.length_eq; omega)
    else if count = 0 then .error (.next .invalidNumber (c :: rest))
    else finish value count (c :: rest) h
where
  finish (value count : Nat) (r : List Char) (h : r.length ≤ s.length) : NumberRead s :=
    match readScale negative value (scale - count) r with
    | .ok ⟨n, h'⟩ => .ok ⟨n, Nat.le_trans h' h⟩
    | .error f => .error f

/-- Reads what follows the digits of an integer, of which so many more do not fit. -/
def readTail (negative : Bool) (significand dropped : Nat) (s : List Char) : NumberRead s :=
  match s with
  | '.' :: rest =>
    match readFraction negative significand dropped rest with
    | .ok ⟨n, h⟩ => .ok ⟨n, Nat.le_succ_of_le h⟩
    | .error f => .error f
  | s =>
    let isWhole := dropped = 0 && !(s.head?.any fun c => c = 'e' || c = 'E')
    if isWhole && !negative then .ok ⟨(.integer significand, s), Nat.le_refl _⟩
    else if isWhole && 0 < significand && significand ≤ 0x8000000000000000 then
      .ok ⟨(.integer (-(significand : Int)), s), Nat.le_refl _⟩
    else readScale negative significand dropped s

/-- Reads a number that starts with the given character behind its sign. -/
def readDigits (negative : Bool) (c : Char) (rest : List Char) : NumberRead rest :=
  if c = '0' then
    if rest.head?.any isAsciiDigit then .error (.next .invalidNumber rest)
    else readTail negative 0 0 rest
  else if isAsciiDigit c then
    let (value, _, ⟨r, h⟩) := takeSignificand (c.toNat - '0'.toNat) 1 rest
    let run := skipDigits r
    match readTail negative value run.count run.rest with
    | .ok ⟨n, h'⟩ => .ok ⟨n, by have := run.length_eq; omega⟩
    | .error f => .error f
  else .error (.next .invalidNumber (c :: rest))

/-- Reads a number behind its sign. -/
def readUnsigned (negative : Bool) (s : List Char) : NumberRead s :=
  match s with
  | [] => .error (.here .endInValue [])
  | c :: rest =>
    match readDigits negative c rest with
    | .ok ⟨n, h⟩ => .ok ⟨n, Nat.le_succ_of_le h⟩
    | .error f => .error f

/-- Passes over an exponent, of which the letter was read. -/
def skipExponent (s : List Char) : Except Failure { r : List Char // r.length ≤ s.length } :=
  let ⟨s', h⟩ : { r : List Char // r.length ≤ s.length } :=
    match s with
    | '+' :: rest | '-' :: rest => ⟨rest, by simp⟩
    | s => ⟨s, Nat.le_refl _⟩
  let run := skipDigits s'
  if run.count = 0 then .error (.next .invalidNumber s')
  else .ok ⟨run.rest, by have := run.length_eq; omega⟩

/-- Passes over an exponent, if one comes. -/
def skipScale (s : List Char) : Except Failure { r : List Char // r.length ≤ s.length } :=
  match s with
  | c :: rest =>
    if c = 'e' || c = 'E' then
      match skipExponent rest with
      | .ok ⟨r, h⟩ => .ok ⟨r, Nat.le_succ_of_le h⟩
      | .error f => .error f
    else .ok ⟨c :: rest, Nat.le_refl _⟩
  | [] => .ok ⟨[], Nat.le_refl _⟩

/-- Passes over a number behind its sign. -/
def skipNumber (s : List Char) : Except Failure { r : List Char // r.length < s.length } :=
  let run := skipDigits s
  if h₀ : run.count = 0 then .error (.next .invalidNumber s)
  else if s.head? = some '0' && 1 < run.count then .error (.next .invalidNumber s.tail)
  else
    have h₁ : run.rest.length < s.length := by have := run.length_eq; omega
    match run.rest, h₁ with
    | '.' :: rest, h₁ =>
      let fraction := skipDigits rest
      if fraction.count = 0 then .error (.next .invalidNumber rest)
      else
        match skipScale fraction.rest with
        | .ok ⟨r, h₂⟩ => .ok ⟨r, by
          have := fraction.length_eq
          simp only [List.length_cons] at h₁
          omega⟩
        | .error f => .error f
    | s₁, h₁ =>
      match skipScale s₁ with
      | .ok ⟨r, h₂⟩ => .ok ⟨r, Nat.lt_of_le_of_lt h₂ h₁⟩
      | .error f => .error f

/-- Passes over an escape, of which the backslash was read. By code point it need not name a
character. -/
def skipEscape (s : List Char) : Except Failure { r : List Char // r.length < s.length } :=
  match s with
  | [] => .error (.here .endInText [])
  | e :: rest =>
    if e = 'u' then
      match readHex rest with
      | .ok ⟨(_, rest'), h⟩ => .ok ⟨rest', Nat.lt_succ_of_lt h⟩
      | .error f => .error f
    else if (shortEscape? e).isSome then .ok ⟨rest, length_lt_succ rest⟩
    else .error (.next .invalidEscape (e :: rest))

/-- Passes over the next part of a text. -/
def skipCharacter (s : List Char) : Except Failure (TextPart Unit s) :=
  match s with
  | [] => .error (.here .endInText [])
  | c :: rest =>
    if c = '"' then .ok (.close rest (length_lt_succ rest))
    else if c = '\\' then
      match skipEscape rest with
      | .ok ⟨rest', h⟩ => .ok (.character () rest' (Nat.lt_succ_of_lt h))
      | .error f => .error f
    else if c.toNat < 0x20 then .error (.here .controlCharacter (c :: rest))
    else .ok (.character () rest (length_lt_succ rest))

/-- Passes over a text whose opening quote was read. -/
def skipCharacters {bound : Nat} (s : List Char) (h : s.length < bound) :
    Except Failure { r : List Char // r.length < bound } :=
  match skipCharacter s with
  | .error f => .error f
  | .ok (.close rest h') => .ok ⟨rest, Nat.lt_trans h' h⟩
  | .ok (.character () rest h') => skipCharacters rest (Nat.lt_trans h' h)
termination_by s.length

end Lexicon.Json
