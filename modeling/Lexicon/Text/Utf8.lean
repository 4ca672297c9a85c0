/-!
# UTF-8

Sizes of text in bytes, its encoding, and the decoding of bytes with the place and the kind of the
first fault.
-/

namespace Lexicon.Text

/-- The number of bytes that the characters take in UTF-8. -/
def byteSize : List Char → Nat
  | [] => 0
  | c :: rest => c.utf8Size + byteSize rest

@[simp] theorem byteSize_nil : byteSize [] = 0 := rfl

@[simp] theorem byteSize_cons (c : Char) (s : List Char) :
    byteSize (c :: s) = c.utf8Size + byteSize s := rfl

@[simp] theorem byteSize_append (s t : List Char) :
    byteSize (s ++ t) = byteSize s + byteSize t := by
  induction s with
  | nil => simp
  | cons c s ih => simp only [List.cons_append, byteSize_cons, ih, Nat.add_assoc]

/-- The number of characters that take so many bytes at the beginning of a text, if a character ends
there. -/
def charactersBefore? : (offset : Nat) → List Char → Option Nat
  | 0, _ => some 0
  | _ + 1, [] => none
  | n + 1, c :: rest =>
    if c.utf8Size ≤ n + 1 then (charactersBefore? (n + 1 - c.utf8Size) rest).map (· + 1) else none

/-- The bytes of the characters in UTF-8. -/
def encode (s : List Char) : List UInt8 :=
  s.flatMap String.utf8EncodeChar

@[simp] theorem encode_nil : encode [] = [] := rfl

@[simp] theorem encode_cons (c : Char) (s : List Char) :
    encode (c :: s) = String.utf8EncodeChar c ++ encode s := by
  simp [encode]

/-- What is wrong with a sequence of bytes. -/
inductive Malformed where
  /-- The bytes end inside a character. -/
  | incomplete
  /-- So many bytes are no character and no beginning of one. -/
  | invalid (length : Nat)
deriving Repr, DecidableEq

/-- The first fault of bytes that are not UTF-8, and how many bytes before it are valid. -/
structure DecodeError where
  validUpTo : Nat
  fault : Malformed
deriving Repr, DecidableEq

/-- The wording of a decoding error. -/
def DecodeError.message (e : DecodeError) : String :=
  match e.fault with
  | .incomplete => s!"incomplete utf-8 byte sequence from index {e.validUpTo}"
  | .invalid n => s!"invalid utf-8 sequence of {n} bytes from index {e.validUpTo}"

/-- Holds of bytes that continue a character. -/
def isContinuation (b : UInt8) : Bool := 0x80 ≤ b && b ≤ 0xBF

/-- The least and the greatest second byte after a leading byte of a long character. -/
def secondByteBounds (lead : UInt8) : UInt8 × UInt8 :=
  if lead = 0xE0 then (0xA0, 0xBF)
  else if lead = 0xED then (0x80, 0x9F)
  else if lead = 0xF0 then (0x90, 0xBF)
  else if lead = 0xF4 then (0x80, 0x8F)
  else (0x80, 0xBF)

/-- The number of bytes of the character that a leading byte begins. -/
def width (lead : UInt8) : Option Nat :=
  if lead < 0x80 then some 1
  else if 0xC2 ≤ lead && lead ≤ 0xDF then some 2
  else if 0xE0 ≤ lead && lead ≤ 0xEF then some 3
  else if 0xF0 ≤ lead && lead ≤ 0xF4 then some 4
  else none

/-- Checks the bytes that follow a leading byte: the second has bounds of its own, the later ones
are any continuation. -/
def takeContinuation (lead : UInt8) (wanted : Nat) (bytes : List UInt8) :
    Except Malformed (List UInt8) :=
  go 0 (secondByteBounds lead) wanted bytes
where
  go (seen : Nat) (bounds : UInt8 × UInt8) : Nat → List UInt8 → Except Malformed (List UInt8)
    | 0, _ => .ok []
    | _ + 1, [] => .error .incomplete
    | n + 1, b :: rest =>
      if bounds.1 ≤ b && b ≤ bounds.2 then (b :: ·) <$> go (seen + 1) (0x80, 0xBF) n rest
      else .error (.invalid (seen + 1))

/-- The character of a leading byte and the bytes that follow it. -/
def assemble (lead : UInt8) (tail : List UInt8) : Char :=
  let head := match tail.length with
    | 0 => lead.toNat
    | 1 => lead.toNat % 32
    | 2 => lead.toNat % 16
    | _ => lead.toNat % 8
  Char.ofNat (tail.foldl (fun n b => n * 64 + b.toNat % 64) head)

/-- Reads the characters of bytes. -/
def decode (bytes : List UInt8) : Except DecodeError (List Char) :=
  go 0 [] 0 bytes
where
  /-- Goes on after `before` bytes, skipping those that belong to the last character. -/
  go (before : Nat) (done : List Char) (skip : Nat) :
      List UInt8 → Except DecodeError (List Char)
    | [] => .ok done.reverse
    | lead :: rest =>
      match skip with
      | n + 1 => go before done n rest
      | 0 =>
        match width lead with
        | none => .error ⟨before, .invalid 1⟩
        | some w =>
          match takeContinuation lead (w - 1) rest with
          | .error fault => .error ⟨before, fault⟩
          | .ok tail => go (before + w) (assemble lead tail :: done) (w - 1) rest

end Lexicon.Text
