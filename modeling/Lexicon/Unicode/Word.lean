import Lexicon.Unicode.Lookup

/-!
# Characters of words

A word is made of letters, marks, decimal digits, connecting punctuation and the two controls that
join letters.
-/

namespace Lexicon.Unicode

/-- The characters that words are made of. -/
def wordCharacter : CharSet :=
  .unions <| alphabetic :: decimalDigit ::
    ["m", "pc"].filterMap generalCategory? ++ ["joinc"].filterMap binaryProperty?

/-- The characters of ASCII that words are made of. -/
def asciiWordCharacter : CharSet :=
  ⟨[(0x30, 0x39), (0x41, 0x5A), (0x5F, 0x5F), (0x61, 0x7A)]⟩

end Lexicon.Unicode
