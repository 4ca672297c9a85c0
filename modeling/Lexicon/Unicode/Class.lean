import Lexicon.Unicode.Addition
import Lexicon.Unicode.Alphabetic
import Lexicon.Unicode.Blank
import Lexicon.Unicode.Number

/-!
# Classes of characters

Letters, numbers and blanks by the properties of Unicode 17. An ASCII character is classified by
comparison, any other by its table; the two agree on ASCII.
-/

namespace Lexicon.Unicode

/-- Holds of the code points of ASCII. -/
def isAsciiCode (c : Char) : Bool := c.toNat < 128

/-- Holds of the letters of ASCII. -/
def isAsciiLetter (c : Char) : Bool :=
  ('a' ≤ c && c ≤ 'z') || ('A' ≤ c && c ≤ 'Z')

/-- Holds of the digits `0` to `9`. -/
def isAsciiDigit (c : Char) : Bool :=
  '0' ≤ c && c ≤ '9'

/-- Holds of letters: the property Alphabetic. -/
def isAlphabetic (c : Char) : Bool :=
  if isAsciiCode c then isAsciiLetter c else alphabetic.contains c || addedAlphabetic.contains c

/-- Holds of numbers: the categories Nd, Nl and No. -/
def isNumeric (c : Char) : Bool :=
  if isAsciiCode c then isAsciiDigit c
  else decimalDigit.contains c || letterNumber.contains c || otherNumber.contains c ||
    addedNumber.contains c

/-- Holds of letters and numbers. -/
def isAlphanumeric (c : Char) : Bool :=
  isAlphabetic c || isNumeric c

/-- Holds of blanks: the property White_Space. -/
def isBlank (c : Char) : Bool :=
  if isAsciiCode c then c = ' ' || (0x09 ≤ c.toNat && c.toNat ≤ 0x0D) else whiteSpace.contains c

end Lexicon.Unicode
