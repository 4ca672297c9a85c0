import Lexicon.Unicode.Lookup

/-!
# Quoted text

Text is shown between double quotes, on one line. A quote and a backslash get a backslash, common
control characters have short escapes, and characters that are not seen by themselves are shown by
their code points.
-/

namespace Lexicon.Text

/-- The sound marks of half width. They extend another character and are seen all the same. -/
def soundMark : CharSet := ⟨[(0xFF9E, 0xFF9F)]⟩

/-- The characters that are not seen by themselves: controls, formats, separators other than the
blank, characters that are not assigned or of private use, those that a reader may ignore, and marks
that extend another. -/
def unseen : CharSet :=
  let old := CharSet.unions <| ["cc", "cf", "cn", "co", "z"].filterMap Unicode.generalCategory? ++
    ["di", "grext"].filterMap Unicode.binaryProperty?
  (old.difference (Unicode.addedCharacter.union soundMark)).union Unicode.addedExtender

/-- Whether a character is not seen by itself. -/
def isUnseen (c : Char) : Bool :=
  if Unicode.isAsciiCode c then c.toNat < 0x20 || c.toNat = 0x7F else unseen.contains c

/-- The digits of a number in base sixteen, in lower case. -/
def hexadecimal (n : Nat) : List Char := Nat.toDigits 16 n

/-- How a character is shown between double quotes. -/
def quotedChar : Char → List Char
  | '\x00' => ['\\', '0']
  | '\t' => ['\\', 't']
  | '\n' => ['\\', 'n']
  | '\x0D' => ['\\', 'r']
  | '"' => ['\\', '"']
  | '\\' => ['\\', '\\']
  | c => if isUnseen c then ['\\', 'u', '\x7b'] ++ hexadecimal c.toNat ++ ['\x7d'] else [c]

/-- A text between double quotes. -/
def quoted (s : String) : String :=
  String.ofList ('"' :: s.toList.flatMap quotedChar ++ ['"'])

end Lexicon.Text
