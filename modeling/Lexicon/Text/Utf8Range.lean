import Lexicon.Text.Utf8

/-!
# Ranges of code points in UTF-8

The encodings of a range of code points, as sequences of ranges of bytes. The range is cut until
all its encodings have the same length and each byte runs through its range whatever the bytes
before it are.
-/

namespace Lexicon.Text

/-- A range of bytes with both ends included. -/
structure ByteRange where
  first : Nat
  last : Nat
deriving DecidableEq

/-- The bytes of a code point in UTF-8. -/
def encodeCode (n : Nat) : List Nat :=
  (String.utf8EncodeChar (Char.ofNat n)).map UInt8.toNat

/-- The last code point of the first part, if a range has to be cut at the blocks of a size: first
behind a block that it does not begin, then before a block that it does not end. -/
def blockCut? (lo hi size : Nat) : Option Nat :=
  if lo / size = hi / size then none
  else if lo % size != 0 then some (lo / size * size + (size - 1))
  else if hi % size != size - 1 then some (hi / size * size - 1)
  else none

/-- Where a range has to be cut: the last code point of the first part and the first code point of
the second. Surrogates fall between the two, encodings of several lengths are kept apart, and so
are encodings whose later bytes do not run through all blocks. -/
def cut? (lo hi : Nat) : Option (Nat × Nat) :=
  if lo < 0xE000 && 0xD7FF < hi then some (0xD7FF, 0xE000)
  else
    let last :=
      match [0x7F, 0x7FF, 0xFFFF].find? fun m => lo ≤ m && m < hi with
      | some m => some m
      | none =>
        if hi ≤ 0x7F then none else [0x40, 0x1000, 0x40000].findSome? (blockCut? lo hi)
    last.map fun m => (m, m + 1)

/-- The encodings of a range of code points, in ascending order. -/
def byteSequences (lo hi : Nat) : List (List ByteRange) :=
  match cut? lo hi with
  | none => [List.zipWith ByteRange.mk (encodeCode lo) (encodeCode hi)]
  | some (m, n) =>
    if lo ≤ m ∧ m < hi ∧ lo < n then byteSequences lo m ++ byteSequences n hi else []
termination_by hi - lo
decreasing_by all_goals omega

end Lexicon.Text
