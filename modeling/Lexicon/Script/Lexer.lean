import Lexicon.Script.CompileError
import Lexicon.Text.Case
import Lexicon.Text.Utf8
import Lexicon.Unicode.Class

/-!
# Lexing scripts

A script is cut into lexemes, one after the other, with blanks between them. A lexeme is decided by
its first character and by the characters after it; it reaches as far as it can. Each token carries
the byte offset of its lexeme.
-/

namespace Lexicon.Script

open Unicode Text

/-- A token read from the front of a text: the token, the bytes of its spelling, and the text after
it. -/
structure Lexeme where
  token : Token
  size : Nat
  rest : List Char
deriving DecidableEq

/-- A problem within a lexeme, with the bytes of the lexeme before it. -/
structure LexFault where
  before : Nat
  problem : Problem
deriving DecidableEq

/-- Holds of the characters that a name starts with. -/
def isNameStart (c : Char) : Bool :=
  isAlphabetic c || c = '_'

/-- Holds of the characters that a name goes on with. -/
def isNamePart (c : Char) : Bool :=
  isAlphanumeric c || c = '_' || c = '.'

/-- The token of a word: a keyword in any case of ASCII, else a name. -/
def wordToken (word : List Char) : Token :=
  let lower := lowerAscii word
  if lower = "and" then .conj
  else if lower = "or" then .disj
  else if lower = "not" then .neg
  else if lower = "true" then .constant true
  else if lower = "false" then .constant false
  else if lower = "startswith" then .operator .startsWith
  else if lower = "endswith" then .operator .endsWith
  else if lower = "contains" then .operator .contains
  else if lower = "matches" then .operator .regexp
  else .name (String.ofList word)

/-- Reads a word that starts with the given character. -/
def readWord (c : Char) (s : List Char) : Lexeme :=
  let word := c :: s.takeWhile isNamePart
  ⟨wordToken word, byteSize word, s.dropWhile isNamePart⟩

/-- The value of decimal digits. -/
def digitsValue (digits : List Char) : Nat :=
  digits.foldl (fun n c => n * 10 + (c.toNat - '0'.toNat)) 0

/-- The integer of a sign and digits, if there are digits and the integer has 64 bits. -/
def integer? (negative : Bool) (digits : List Char) : Option Int64 :=
  let value : Int := if negative then -digitsValue digits else digitsValue digits
  if digits.isEmpty || value < Int64.minValue.toInt || Int64.maxValue.toInt < value then none
  else some (Int64.ofInt value)

/-- Reads an integer that starts with the given minus or digit. -/
def readInteger (c : Char) (s : List Char) : Except LexFault Lexeme :=
  let spelling := c :: s.takeWhile isAsciiDigit
  let digits := if c = '-' then spelling.tail else spelling
  match integer? (c = '-') digits with
  | some value => .ok ⟨.integer value, byteSize spelling, s.dropWhile isAsciiDigit⟩
  | none => .error ⟨0, .invalidInteger (String.ofList spelling)⟩

/-- The character that an escape in a text literal stands for. -/
def unescape? : Char → Option Char
  | 'n' => some '\n'
  | 't' => some '\t'
  | '\\' => some '\\'
  | '"' => some '"'
  | '\'' => some '\''
  | _ => none

/-- Reads a text literal after its opening quote, given the characters read so far in reverse and
the bytes of the literal up to here. -/
def readText (quote : Char) (done : List Char) (size : Nat) :
    List Char → Except LexFault Lexeme
  | [] => .error ⟨0, .unterminatedText⟩
  | c :: rest =>
    if c = quote then .ok ⟨.text (String.ofList done.reverse), size + 1, rest⟩
    else if c = '\\' then
      match rest with
      | [] => .error ⟨0, .unterminatedText⟩
      | e :: rest' =>
        match unescape? e with
        | some d => readText quote (d :: done) (size + 2) rest'
        | none => .error ⟨size, .unknownEscape e⟩
    else readText quote (c :: done) (size + c.utf8Size) rest

/-- Reads a symbol of two characters, of which the first was met. -/
def readPair (second : Char) (token : Token) (symbol : String) :
    List Char → Except LexFault Lexeme
  | c :: rest => if c = second then .ok ⟨token, 2, rest⟩ else .error ⟨0, .unfinishedSymbol symbol⟩
  | [] => .error ⟨0, .unfinishedSymbol symbol⟩

/-- Reads an operator that ends in an equals sign, of which the first character was met. -/
def readOperator (op : Operator) (s : List Char) : Except LexFault Lexeme :=
  readPair '=' (.operator op) op.symbol s

/-- Reads a symbol of one character, or another one if an equals sign follows. -/
def readMaybeEq (token withEq : Token) : List Char → Lexeme
  | '=' :: rest => ⟨withEq, 2, rest⟩
  | s => ⟨token, 1, s⟩

/-- Reads the lexeme that starts with the given character. -/
def readLexeme (c : Char) (s : List Char) : Except LexFault Lexeme :=
  match c with
  | '(' => .ok ⟨.leftParen, 1, s⟩
  | ')' => .ok ⟨.rightParen, 1, s⟩
  | '"' => readText '"' [] 1 s
  | '\'' => readText '\'' [] 1 s
  | '&' => readPair '&' .conj "&&" s
  | '|' => readPair '|' .disj "||" s
  | '!' => .ok (readMaybeEq .neg (.operator .ne) s)
  | '=' => readOperator .eq s
  | '^' => readOperator .startsWith s
  | '$' => readOperator .endsWith s
  | '*' => readOperator .contains s
  | '~' => readOperator .regexp s
  | '<' => .ok (readMaybeEq (.operator .lt) (.operator .le) s)
  | '>' => .ok (readMaybeEq (.operator .gt) (.operator .ge) s)
  | c =>
    if c = '-' || isAsciiDigit c then readInteger c s
    else if isNameStart c then .ok (readWord c s)
    else .error ⟨0, .unexpectedCharacter c⟩

theorem readText_rest_le {quote : Char} {done : List Char} {size : Nat} {s : List Char}
    {l : Lexeme} (h : readText quote done size s = .ok l) : l.rest.length ≤ s.length := by
  fun_induction readText quote done size s with
  | case1 => cases h
  | case2 => cases h; simp
  | case3 => cases h
  | case4 _ _ _ _ _ _ _ ih => have := ih h; simp only [List.length_cons]; omega
  | case5 => cases h
  | case6 _ _ _ _ _ _ ih => have := ih h; simp only [List.length_cons]; omega

theorem readPair_rest_le {second : Char} {token : Token} {symbol : String} {s : List Char}
    {l : Lexeme} (h : readPair second token symbol s = .ok l) : l.rest.length ≤ s.length := by
  unfold readPair at h
  split at h
  · split at h
    · cases h; simp
    · cases h
  · cases h

theorem readMaybeEq_rest_le (token withEq : Token) (s : List Char) :
    (readMaybeEq token withEq s).rest.length ≤ s.length := by
  unfold readMaybeEq; split <;> simp

theorem readInteger_rest_le {c : Char} {s : List Char} {l : Lexeme}
    (h : readInteger c s = .ok l) : l.rest.length ≤ s.length := by
  simp only [readInteger] at h
  generalize integer? .. = value at h
  cases value with
  | some _ => cases h; exact (List.dropWhile_sublist _).length_le
  | none => cases h

theorem readLexeme_rest_le {c : Char} {s : List Char} {l : Lexeme}
    (h : readLexeme c s = .ok l) : l.rest.length ≤ s.length := by
  unfold readLexeme at h
  split at h
  case h_15 =>
    split at h
    · exact readInteger_rest_le h
    · split at h
      · cases h; exact (List.dropWhile_sublist _).length_le
      · cases h
  all_goals
    first
    | (cases h; first | exact Nat.le_refl _ | exact readMaybeEq_rest_le ..)
    | exact readText_rest_le h
    | exact readPair_rest_le h

/-- Reads the tokens of a text, given those before it in reverse and the bytes before it. -/
def scan (done : List Placed) (offset : Nat) (s : List Char) : Except CompileError (List Placed) :=
  match s with
  | [] => .ok done.reverse
  | c :: rest =>
    if isBlank c then scan done (offset + c.utf8Size) rest
    else
      match _h : readLexeme c rest with
      | .ok l => scan (⟨offset, l.token⟩ :: done) (offset + l.size) l.rest
      | .error f => .error ⟨offset + f.before, f.problem⟩
termination_by s.length
decreasing_by
  · simp
  · have := readLexeme_rest_le _h; simp only [List.length_cons]; omega

/-- The placed tokens of a script. -/
def tokenize (source : String) : Except CompileError (List Placed) :=
  scan [] 0 source.toList

end Lexicon.Script
