import Lexicon.Proofs.Grammar
import Lexicon.Proofs.Lexing

/-!
# Spellings of tokens

A token may be spelt in several ways: keywords in any case or by a symbol, integers with zeros in
front, text literals in two kinds of quotes and with escapes. Whatever spellings are chosen and
whatever blanks stand between them, the text is cut into just these tokens, each at the offset of its
spelling. An integer that is none, or that has more than 64 bits, is refused at its offset.
-/

namespace Lexicon.Script

open Unicode Text

/-- The symbols, with the tokens that they spell. -/
def symbols : List (String × Token) :=
  [("(", .leftParen), (")", .rightParen), ("&&", .conj), ("||", .disj), ("!", .neg),
   ("==", .operator .eq), ("!=", .operator .ne), ("<", .operator .lt), ("<=", .operator .le),
   (">", .operator .gt), (">=", .operator .ge), ("^=", .operator .startsWith),
   ("$=", .operator .endsWith), ("*=", .operator .contains), ("~=", .operator .regexp)]

/-- The keywords in lower case, with the tokens that they spell. -/
def keywords : List (String × Token) :=
  [("and", .conj), ("or", .disj), ("not", .neg), ("true", .constant true),
   ("false", .constant false), ("startswith", .operator .startsWith),
   ("endswith", .operator .endsWith), ("contains", .operator .contains),
   ("matches", .operator .regexp)]

/-- The characters that stand behind a backslash, with those that they stand for. -/
def escapes : List (Char × Char) :=
  [('n', '\n'), ('t', '\t'), ('\\', '\\'), ('"', '"'), ('\'', '\'')]

/-- A spelling of a character between quotes. -/
inductive SpellsChar (quote : Char) : Char → List Char → Prop
  | raw {c} (hq : c ≠ quote) (hb : c ≠ '\\') : SpellsChar quote c [c]
  | escaped {e c} (he : (e, c) ∈ escapes) : SpellsChar quote c ['\\', e]

/-- Digits behind a minus, or without one. -/
def signed (isNegative : Bool) (digits : List Char) : List Char :=
  if isNegative then '-' :: digits else digits

/-- The integer that digits write behind a minus, or without one. -/
def signedValue (isNegative : Bool) (digits : List Char) : Int :=
  let n : Int := Nat.ofDigitChars 10 digits 0
  if isNegative then -n else n

/-- The text is a spelling of the token. -/
inductive Spells : Token → List Char → Prop
  | symbol {s t} (h : (s, t) ∈ symbols) : Spells t s.toList
  | keyword {s t w} (h : (s, t) ∈ keywords) (hw : EqIgnoringCase (String.ofList w) s) : Spells t w
  | name {c w} (hc : isAlphabetic c = true ∨ c = '_')
      (hw : ∀ x ∈ w, isAlphanumeric x = true ∨ x = '_' ∨ x = '.')
      (hk : ∀ k ∈ keywords, ¬ EqIgnoringCase (String.ofList (c :: w)) k.1) :
      Spells (.name (String.ofList (c :: w))) (c :: w)
  | text {quote cs ws} (hq : quote = '"' ∨ quote = '\'')
      (hw : List.Forall₂ (SpellsChar quote) cs ws) :
      Spells (.text (String.ofList cs)) (quote :: (ws.flatten ++ [quote]))
  | integer {isNegative digits} {value : Int64} (hne : digits ≠ [])
      (hd : ∀ x ∈ digits, isAsciiDigit x = true)
      (hv : signedValue isNegative digits = value.toInt) :
      Spells (.integer value) (signed isNegative digits)

/-- A token in one of its spellings, with blanks in front of it. -/
structure Piece where
  gap : List Char
  token : Token
  spelling : List Char
  isBlank_gap : ∀ c ∈ gap, isBlank c = true
  spells : Spells token spelling

/-- The text of pieces. -/
def Piece.texts (pieces : List Piece) : List Char :=
  pieces.flatMap fun p => p.gap ++ p.spelling

/-- The tokens of pieces, from an offset on, each at the offset of its spelling. -/
def Piece.placed : (offset : Nat) → List Piece → List Placed
  | _, [] => []
  | offset, p :: pieces =>
    let start := offset + byteSize p.gap
    ⟨start, p.token⟩ :: placed (start + byteSize p.spelling) pieces

section Blanks

theorem numeric_apart :
    ∀ s ∈ [decimalDigit, letterNumber, otherNumber, addedNumber], ∀ p ∈ s.ranges,
      ∀ q ∈ whiteSpace.ranges, p.2 < q.1 ∨ q.2 < p.1 := by
  decide +kernel

/-- A digit is no blank. -/
theorem isBlank_of_isAsciiDigit {c : Char} (h : isAsciiDigit c = true) : isBlank c = false := by
  have hbounds := isAsciiDigit_bounds h
  have hascii : isAsciiCode c = true := decide_eq_true (by omega)
  rw [isBlank, if_pos hascii]
  simp only [Bool.or_eq_false_iff, Bool.and_eq_false_imp, decide_eq_false_iff_not,
    decide_eq_true_eq]
  refine ⟨?_, fun _ => by omega⟩
  rintro rfl
  exact absurd hbounds.1 (by decide)

/-- A number is no blank. -/
theorem isBlank_of_isNumeric {c : Char} (h : isNumeric c = true) : isBlank c = false := by
  rw [isNumeric] at h
  split at h
  · exact isBlank_of_isAsciiDigit h
  · rename_i hascii
    rw [isBlank, if_neg hascii]
    simp only [Bool.or_eq_true] at h
    obtain ((h | h) | h) | h := h
    all_goals exact not_contains_of_apart (numeric_apart _ (by simp)) h

theorem isBlank_of_isNamePart {c : Char} (h : isNamePart c = true) : isBlank c = false := by
  simp only [isNamePart, isAlphanumeric, Bool.or_eq_true, decide_eq_true_eq] at h
  obtain ((h | h) | rfl) | rfl := h
  · exact isBlank_of_isAlphabetic h
  · exact isBlank_of_isNumeric h
  · decide
  · decide

theorem isNamePart_of_isAsciiDigit {c : Char} (h : isAsciiDigit c = true) :
    isNamePart c = true := by
  have hbounds := isAsciiDigit_bounds h
  have hascii : isAsciiCode c = true := decide_eq_true (by omega)
  simp [isNamePart, isAlphanumeric, isNumeric, hascii, h]

end Blanks

section Lexemes

/-- What follows a spelling does not belong to it. -/
def Ends (w rest : List Char) : Prop :=
  ∀ x ∈ rest.head?, x ≠ '=' ∧ ∀ c ∈ w.getLast?, isNamePart c = true → isNamePart x = false

variable {w rest : List Char} {t : Token}

/-- Wherever the spelling stands, it is read as the token. -/
def IsLexeme (t : Token) (w rest : List Char) : Prop :=
  ∃ c s, w = c :: s ∧ isBlank c = false ∧ readLexeme c (s ++ rest) = .ok ⟨t, byteSize w, rest⟩

theorem readMaybeEq_of_ne (token withEq : Token) (h : ∀ x ∈ rest.head?, x ≠ '=') :
    readMaybeEq token withEq rest = ⟨token, 1, rest⟩ := by
  unfold readMaybeEq
  split
  · exact absurd rfl (h '=' rfl)
  · rfl

theorem isLexeme_symbol (hrest : ∀ x ∈ rest.head?, x ≠ '=') :
    ∀ p ∈ symbols, IsLexeme p.2 p.1.toList rest := by
  have hneg := readMaybeEq_of_ne .neg (.operator .ne) hrest
  have hlt := readMaybeEq_of_ne (.operator .lt) (.operator .le) hrest
  have hgt := readMaybeEq_of_ne (.operator .gt) (.operator .ge) hrest
  simp only [symbols, List.forall_mem_cons, List.not_mem_nil, false_imp_iff, implies_true, and_true]
  refine ⟨?_, ?_, ?_, ?_, ?_, ?_, ?_, ?_, ?_, ?_, ?_, ?_, ?_, ?_, ?_⟩
  case refine_5 => exact ⟨'!', [], rfl, by decide, congrArg Except.ok hneg⟩
  case refine_8 => exact ⟨'<', [], rfl, by decide, congrArg Except.ok hlt⟩
  case refine_10 => exact ⟨'>', [], rfl, by decide, congrArg Except.ok hgt⟩
  all_goals exact ⟨_, _, rfl, by decide, rfl⟩

theorem isAsciiLetter_of_toLower {c : Char} (h : isAsciiLetter c.toLower = true) :
    isAsciiLetter c = true := by
  by_cases hc : 'A' ≤ c ∧ c ≤ 'Z'
  · simp [isAsciiLetter, hc]
  · have hsame : c.toLower = c := dif_neg hc
    rwa [hsame] at h

theorem isNameStart_of_isAsciiLetter {c : Char} (h : isAsciiLetter c = true) :
    isNameStart c = true := by
  have hbounds := isAsciiLetter_bounds h
  have hascii : isAsciiCode c = true := decide_eq_true (by omega)
  simp [isNameStart, isAlphabetic, hascii, h]

theorem isNamePart_of_isNameStart {c : Char} (h : isNameStart c = true) : isNamePart c = true := by
  simp only [isNameStart, Bool.or_eq_true] at h
  simp only [isNamePart, isAlphanumeric, Bool.or_eq_true]
  obtain h | h := h
  · exact .inl (.inl (.inl h))
  · exact .inl (.inr h)

/-- A word that nothing goes on with is read whole. -/
theorem isLexeme_word {c : Char} (hc : isNameStart c = true) (hw : ∀ x ∈ w, isNamePart x = true)
    (hrest : Ends (c :: w) rest) : IsLexeme (wordToken (c :: w)) (c :: w) rest := by
  have hall : ∀ x ∈ c :: w, isNamePart x = true :=
    List.forall_mem_cons.mpr ⟨isNamePart_of_isNameStart hc, hw⟩
  have hstop : ∀ x ∈ rest.head?, isNamePart x = false := by
    intro x hx
    have hlast := List.getLast?_eq_getLast_of_ne_nil (List.cons_ne_nil c w)
    exact (hrest x hx).2 _ hlast (hall _ (List.getLast_mem _))
  refine ⟨c, w, rfl, isBlank_of_isNameStart hc, ?_⟩
  rw [readLexeme_of_isNameStart hc, readWord_append (List.all_eq_true.mpr hw) hstop]

theorem lowerAscii_keywords : ∀ k ∈ keywords, lowerAscii k.1.toList = k.1 := by
  decide

theorem lowerAscii_eq_keyword_iff {k : String × Token} (hk : k ∈ keywords) (w : List Char) :
    lowerAscii w = k.1 ↔ EqIgnoringCase (String.ofList w) k.1 := by
  rw [← lowerAscii_eq_iff (lowerAscii_keywords k hk), String.toList_ofList]

theorem wordToken_of_keyword (h : (lowerAscii w, t) ∈ keywords) : wordToken w = t := by
  simp only [keywords, List.mem_cons, Prod.mk.injEq, List.not_mem_nil, or_false] at h
  obtain h | h | h | h | h | h | h | h | h := h
  all_goals simp [wordToken, h.1, h.2]

theorem wordToken_of_forall_ne (h : ∀ k ∈ keywords, lowerAscii w ≠ k.1) :
    wordToken w = .name (String.ofList w) := by
  simp only [keywords, List.forall_mem_cons, List.not_mem_nil, false_imp_iff, implies_true,
    and_true] at h
  simp [wordToken, h]

theorem isAsciiLetter_keywords : ∀ k ∈ keywords, k.1.toList ≠ [] ∧
    ∀ c ∈ k.1.toList, isAsciiLetter c = true := by
  have hall : (keywords.all fun k =>
      !k.1.toList.isEmpty && k.1.toList.all isAsciiLetter) = true := by decide
  simpa only [List.all_eq_true, Bool.and_eq_true, Bool.not_eq_true', List.isEmpty_eq_false_iff]
    using hall

/-- A keyword in any case is read as its token. -/
theorem isLexeme_keyword {s : String} (h : (s, t) ∈ keywords)
    (hw : EqIgnoringCase (String.ofList w) s) (hrest : Ends w rest) : IsLexeme t w rest := by
  obtain ⟨hne, hletters⟩ := isAsciiLetter_keywords _ h
  obtain rfl : lowerAscii w = s := (lowerAscii_eq_keyword_iff h w).mpr hw
  rw [lowerAscii, String.toList_ofList] at hne hletters
  have hall : ∀ x ∈ w, isNameStart x = true := by
    intro x hx
    apply isNameStart_of_isAsciiLetter
    exact isAsciiLetter_of_toLower (hletters _ (List.mem_map_of_mem hx))
  cases w with
  | nil => exact absurd rfl hne
  | cons c w =>
      obtain ⟨hc, hw'⟩ := List.forall_mem_cons.mp hall
      have hlexeme := isLexeme_word hc (fun x hx => isNamePart_of_isNameStart (hw' x hx)) hrest
      rwa [wordToken_of_keyword h] at hlexeme

theorem isLexeme_name {c : Char} (hc : isAlphabetic c = true ∨ c = '_')
    (hw : ∀ x ∈ w, isAlphanumeric x = true ∨ x = '_' ∨ x = '.')
    (hk : ∀ k ∈ keywords, ¬ EqIgnoringCase (String.ofList (c :: w)) k.1)
    (hrest : Ends (c :: w) rest) :
    IsLexeme (.name (String.ofList (c :: w))) (c :: w) rest := by
  have hc' : isNameStart c = true := by
    simpa [isNameStart] using hc
  have hw' : ∀ x ∈ w, isNamePart x = true := by
    intro x hx
    simpa [isNamePart, or_assoc] using hw x hx
  have hlower : ∀ k ∈ keywords, lowerAscii (c :: w) ≠ k.1 := by
    intro k hk' heq
    exact hk k hk' ((lowerAscii_eq_keyword_iff hk' _).mp heq)
  have hlexeme := isLexeme_word hc' hw' hrest
  rwa [wordToken_of_forall_ne hlower] at hlexeme

theorem unescape?_of_mem {e c : Char} (h : (e, c) ∈ escapes) : unescape? e = some c := by
  have hall : ∀ p ∈ escapes, unescape? p.1 = some p.2 := by decide
  exact hall _ h

/-- Spellings of the characters, one after the other, spell the text. -/
theorem spellsText_flatten {quote : Char} {cs : List Char} {ws : List (List Char)}
    (h : List.Forall₂ (SpellsChar quote) cs ws) : SpellsText quote cs ws.flatten := by
  induction h with
  | nil => exact .nil
  | cons hw _ ih =>
      cases hw with
      | raw hq hb => exact .raw hq hb ih
      | escaped he => exact .escaped (unescape?_of_mem he) ih

theorem isLexeme_text {quote : Char} {cs : List Char} {ws : List (List Char)}
    (hq : quote = '"' ∨ quote = '\'') (hw : List.Forall₂ (SpellsChar quote) cs ws) :
    IsLexeme (.text (String.ofList cs)) (quote :: (ws.flatten ++ [quote])) rest := by
  refine ⟨quote, _, rfl, ?_, ?_⟩
  · obtain rfl | rfl := hq <;> decide
  · have hread : readLexeme quote (ws.flatten ++ quote :: rest) =
        readText quote [] 1 (ws.flatten ++ quote :: rest) := by
      obtain rfl | rfl := hq <;> rfl
    have hquote : quote ≠ '\\' ∧ quote.utf8Size = 1 := by
      obtain rfl | rfl := hq <;> decide
    rw [List.append_assoc, List.singleton_append, hread,
      (spellsText_flatten hw).readText_eq hquote.1]
    simp [hquote.2, Nat.add_assoc]

theorem digitsValue_eq (digits : List Char) :
    digitsValue digits = Nat.ofDigitChars 10 digits 0 := by
  simp only [digitsValue, Nat.ofDigitChars, Nat.mul_comm]

/-- Digits make an integer if there are digits and the integer has 64 bits. -/
theorem integer?_eq (isNegative : Bool) (digits : List Char) :
    integer? isNegative digits =
      if digits = [] ∨ signedValue isNegative digits < Int64.minValue.toInt ∨
        Int64.maxValue.toInt < signedValue isNegative digits then none
      else some (Int64.ofInt (signedValue isNegative digits)) := by
  have hvalue : (if isNegative then -(digitsValue digits : Int) else digitsValue digits) =
      signedValue isNegative digits := by
    rw [digitsValue_eq]
    rfl
  simp only [integer?, hvalue, Bool.or_eq_true, List.isEmpty_iff, decide_eq_true_eq, or_assoc]

/-- A minus and a digit begin no other lexeme. -/
theorem readLexeme_eq_readInteger {c : Char} (hc : c = '-' ∨ isAsciiDigit c = true)
    (s : List Char) : readLexeme c s = readInteger c s := by
  unfold readLexeme
  split
  case h_15 =>
    rw [if_pos]
    simpa using hc
  all_goals exact absurd hc (by decide)

/-- An integer is read up to where its digits end. -/
theorem readInteger_digits {c : Char} {w : List Char} (hw : ∀ x ∈ w, isAsciiDigit x = true)
    (hrest : ∀ x ∈ rest.head?, isAsciiDigit x = false) :
    readInteger c (w ++ rest) =
      match integer? (c = '-') (if c = '-' then w else c :: w) with
      | some value => .ok ⟨.integer value, byteSize (c :: w), rest⟩
      | none => .error ⟨0, .invalidInteger (String.ofList (c :: w))⟩ := by
  have htake := takeWhile_append_of_stops hw hrest
  have hdrop := dropWhile_append_of_stops hw hrest
  cases hvalue : integer? (c = '-') (if c = '-' then w else c :: w) with
  | some value => simp only [readInteger, htake, hdrop, List.tail_cons, hvalue]
  | none => simp only [readInteger, htake, List.tail_cons, hvalue]

/-- Digits behind a minus, or without one, are read as the integer that they write, if it has 64
bits, and are refused otherwise. -/
theorem readLexeme_signed {isNegative : Bool} {digits : List Char}
    (hne : signed isNegative digits ≠ []) (hd : ∀ x ∈ digits, isAsciiDigit x = true)
    (hrest : ∀ x ∈ rest.head?, isAsciiDigit x = false) :
    ∃ c s, signed isNegative digits = c :: s ∧ isBlank c = false ∧
      readLexeme c (s ++ rest) = match integer? isNegative digits with
        | some value => .ok ⟨.integer value, byteSize (signed isNegative digits), rest⟩
        | none => .error ⟨0, .invalidInteger (String.ofList (signed isNegative digits))⟩ := by
  cases isNegative with
  | true =>
      refine ⟨'-', digits, rfl, by decide, ?_⟩
      rw [readLexeme_eq_readInteger (.inl rfl), readInteger_digits hd hrest]
      rfl
  | false =>
      cases digits with
      | nil => exact absurd rfl hne
      | cons c w =>
          obtain ⟨hc, hw⟩ := List.forall_mem_cons.mp hd
          have hminus : c ≠ '-' := by
            rintro rfl
            exact absurd hc (by decide)
          refine ⟨c, w, rfl, isBlank_of_isAsciiDigit hc, ?_⟩
          rw [readLexeme_eq_readInteger (.inr hc), readInteger_digits hw hrest]
          simp only [hminus, decide_false, ↓reduceIte]
          rfl

theorem isLexeme_integer {isNegative : Bool} {digits : List Char} {value : Int64}
    (hne : digits ≠ []) (hd : ∀ x ∈ digits, isAsciiDigit x = true)
    (hv : signedValue isNegative digits = value.toInt)
    (hrest : Ends (signed isNegative digits) rest) :
    IsLexeme (.integer value) (signed isNegative digits) rest := by
  have hinteger : integer? isNegative digits = some value := by
    rw [integer?_eq, hv, if_neg, Int64.ofInt_toInt]
    rintro (h | h | h)
    · exact hne h
    · exact absurd value.minValue_le_toInt (Int.not_le.mpr h)
    · exact absurd value.toInt_le (Int.not_le.mpr h)
  have hsigned : signed isNegative digits ≠ [] := by
    cases isNegative
    · exact hne
    · exact List.cons_ne_nil _ _
  have hstop : ∀ x ∈ rest.head?, isAsciiDigit x = false := by
    intro x hx
    have hlast : (signed isNegative digits).getLast? = some (digits.getLast hne) := by
      cases isNegative
      · exact List.getLast?_eq_some_getLast hne
      · rw [signed, if_pos rfl, List.getLast?_cons, List.getLast?_eq_some_getLast hne]
        rfl
    have hpart := (hrest x hx).2 _ hlast (isNamePart_of_isAsciiDigit (hd _ (List.getLast_mem hne)))
    rw [← Bool.not_eq_true] at hpart ⊢
    exact mt isNamePart_of_isAsciiDigit hpart
  obtain ⟨c, s, hcs, hblank, hread⟩ := readLexeme_signed hsigned hd hstop
  rw [hinteger] at hread
  exact ⟨c, s, hcs, hblank, hread⟩

/-- A spelling of a token is read as the token, if what follows does not belong to it. -/
theorem Spells.isLexeme (h : Spells t w) (hrest : Ends w rest) : IsLexeme t w rest := by
  cases h with
  | symbol h => exact isLexeme_symbol (fun x hx => (hrest x hx).1) _ h
  | keyword h hw => exact isLexeme_keyword h hw hrest
  | name hc hw hk => exact isLexeme_name hc hw hk hrest
  | text hq hw => exact isLexeme_text hq hw
  | integer hne hd hv => exact isLexeme_integer hne hd hv hrest

end Lexemes

section Pieces
variable {w rest : List Char} {t : Token} {pieces : List Piece}

theorem ends_of_isBlank {c : Char} (hc : isBlank c = true) : Ends w (c :: rest) := by
  intro x hx
  obtain rfl := Option.some.inj hx
  refine ⟨?_, fun d _ _ => ?_⟩
  · rintro rfl
    exact absurd hc (by decide)
  · rw [← Bool.not_eq_true]
    intro hpart
    rw [isBlank_of_isNamePart hpart] at hc
    cases hc

theorem ends_of_blanks {gap : List Char} (hgap : ∀ c ∈ gap, isBlank c = true)
    (hrest : gap = [] → Ends w rest) : Ends w (gap ++ rest) := by
  cases gap with
  | nil => exact hrest rfl
  | cons c gap => exact ends_of_isBlank (hgap c List.mem_cons_self)

theorem scan_blanks {gap : List Char} (hgap : ∀ c ∈ gap, isBlank c = true) (done : List Placed)
    (offset : Nat) (rest : List Char) :
    scan done offset (gap ++ rest) = scan done (offset + byteSize gap) rest := by
  induction gap generalizing offset with
  | nil => rfl
  | cons c gap ih =>
      obtain ⟨hc, hgap⟩ := List.forall_mem_cons.mp hgap
      rw [List.cons_append, scan, if_pos hc, ih hgap, byteSize_cons, Nat.add_assoc]

theorem scan_lexeme (h : IsLexeme t w rest) (done : List Placed) (offset : Nat) :
    scan done offset (w ++ rest) = scan (⟨offset, t⟩ :: done) (offset + byteSize w) rest := by
  obtain ⟨c, s, rfl, hc, hread⟩ := h
  rw [List.cons_append, scan, if_neg (by simp [hc])]
  split
  · rename_i l hl
    obtain rfl := Except.ok.inj (hread.symm.trans hl)
    rfl
  · rename_i hl
    cases hread.symm.trans hl

theorem scan_fault {c : Char} {s : List Char} {f : LexFault} (hc : isBlank c = false)
    (hread : readLexeme c s = .error f) (done : List Placed) (offset : Nat) :
    scan done offset (c :: s) = .error ⟨offset + f.before, f.problem⟩ := by
  rw [scan, if_neg (by simp [hc])]
  split
  · rename_i hl
    cases hread.symm.trans hl
  · rename_i f' hl
    obtain rfl := Except.error.inj (hread.symm.trans hl)
    rfl

/-- Pieces are read as their tokens, if what follows does not belong to the last spelling. -/
theorem scan_texts (hgaps : ∀ p ∈ pieces.tail, p.gap ≠ [])
    (hrest : ∀ p ∈ pieces.getLast?, Ends p.spelling rest) (done : List Placed) (offset : Nat) :
    scan done offset (Piece.texts pieces ++ rest) =
      scan ((Piece.placed offset pieces).reverse ++ done)
        (offset + byteSize (Piece.texts pieces)) rest := by
  induction pieces generalizing done offset with
  | nil => rfl
  | cons p pieces ih =>
      have hends : Ends p.spelling (Piece.texts pieces ++ rest) := by
        cases pieces with
        | nil => exact hrest p rfl
        | cons q pieces =>
            have hgap : q.gap ≠ [] := hgaps q List.mem_cons_self
            rw [Piece.texts, List.flatMap_cons, List.append_assoc, List.append_assoc]
            exact ends_of_blanks q.isBlank_gap fun h => absurd h hgap
      have hrest' : ∀ q ∈ pieces.getLast?, Ends q.spelling rest := by
        intro q hq
        apply hrest q
        rw [List.getLast?_cons, Option.mem_def.mp hq]
        rfl
      rw [Piece.texts, List.flatMap_cons, List.append_assoc, List.append_assoc, ← Piece.texts,
        scan_blanks p.isBlank_gap, scan_lexeme (p.spells.isLexeme hends),
        ih (fun q hq => hgaps q (List.mem_of_mem_tail hq)) hrest']
      simp [Piece.placed, Nat.add_assoc]

/-- Digits behind a minus, or without one, that write no integer of 64 bits. -/
def IsRefused (isNegative : Bool) (digits : List Char) : Prop :=
  (digits = [] ∧ isNegative = true) ∨ (digits ≠ [] ∧
    (signedValue isNegative digits < Int64.minValue.toInt ∨
      Int64.maxValue.toInt < signedValue isNegative digits))

theorem scan_refused {isNegative : Bool} {digits : List Char}
    (hd : ∀ x ∈ digits, isAsciiDigit x = true) (h : IsRefused isNegative digits)
    (hrest : ∀ x ∈ rest.head?, isAsciiDigit x = false) (done : List Placed) (offset : Nat) :
    scan done offset (signed isNegative digits ++ rest) =
      .error ⟨offset, .invalidInteger (String.ofList (signed isNegative digits))⟩ := by
  have hnone : integer? isNegative digits = none := by
    rw [integer?_eq, if_pos]
    obtain ⟨hnil, -⟩ | ⟨-, hvalue⟩ := h
    · exact .inl hnil
    · exact .inr hvalue
  have hne : signed isNegative digits ≠ [] := by
    obtain ⟨-, rfl⟩ | ⟨hne, -⟩ := h
    · exact List.cons_ne_nil _ _
    · cases isNegative
      · exact hne
      · exact List.cons_ne_nil _ _
  obtain ⟨c, s, hcs, hblank, hread⟩ := readLexeme_signed hne hd hrest
  rw [hnone] at hread
  rw [hcs, List.cons_append, scan_fault hblank hread, ← hcs]
  rfl

theorem ends_signed {isNegative : Bool} {digits : List Char}
    (hd : ∀ x ∈ digits, isAsciiDigit x = true) (h : IsRefused isNegative digits)
    (hw : isNegative = false → ∀ c ∈ w.getLast?, isNamePart c = false) :
    Ends w (signed isNegative digits ++ rest) := by
  cases isNegative with
  | true =>
      intro x hx
      obtain rfl := Option.some.inj hx
      exact ⟨by decide, fun _ _ _ => by decide⟩
  | false =>
      cases digits with
      | nil => simp [IsRefused] at h
      | cons d digits =>
          intro x hx
          obtain rfl := Option.some.inj hx
          have hdigit := hd d List.mem_cons_self
          refine ⟨?_, fun c hc hpart => ?_⟩
          · rintro rfl
            exact absurd hdigit (by decide)
          · rw [hw rfl c hc] at hpart
            cases hpart

/-- Tokens in any of their spellings, with blanks between them, are read as just these tokens, each
at the offset of its spelling. If the digits of an integer come next, up to where they end, and the
integer has more than 64 bits, or if a minus without digits does, the script is refused there. Digits
without blanks before them come next if they do not go on a word or a number. -/
theorem tokenize_texts (hgaps : ∀ p ∈ pieces.tail, p.gap ≠ []) {after : List Char}
    (hafter : ∀ c ∈ after, isBlank c = true) :
    tokenize (String.ofList (Piece.texts pieces ++ after)) = .ok (Piece.placed 0 pieces) ∧
      ∀ isNegative digits rest, (∀ x ∈ digits, isAsciiDigit x = true) →
        (∀ x ∈ rest.head?, isAsciiDigit x = false) → IsRefused isNegative digits →
        (after = [] → isNegative = false →
          ∀ p ∈ pieces.getLast?, ∀ c ∈ p.spelling.getLast?, isNamePart c = false) →
        tokenize (String.ofList
            (Piece.texts pieces ++ after ++ signed isNegative digits ++ rest)) =
          .error ⟨byteSize (Piece.texts pieces ++ after),
            .invalidInteger (String.ofList (signed isNegative digits))⟩ := by
  refine ⟨?_, ?_⟩
  · have hends : ∀ p ∈ pieces.getLast?, Ends p.spelling (after ++ []) := by
      intro p _
      exact ends_of_blanks hafter fun _ => by simp [Ends]
    rw [tokenize, String.toList_ofList, ← List.append_nil after, scan_texts hgaps hends,
      scan_blanks hafter, scan]
    simp
  · intro isNegative digits rest hd hrest hrefused hnext
    have hends : ∀ p ∈ pieces.getLast?,
        Ends p.spelling (after ++ (signed isNegative digits ++ rest)) := by
      intro p hp
      refine ends_of_blanks hafter fun hnil => ?_
      exact ends_signed hd hrefused fun hpositive => hnext hnil hpositive p hp
    rw [tokenize, String.toList_ofList, List.append_assoc, List.append_assoc,
      scan_texts hgaps hends, scan_blanks hafter, scan_refused hd hrefused hrest]
    simp

/-- A keyword in capitals, a name, a literal with an escape and an integer with zeros in front, and
behind them the first integer that has more than 64 bits. -/
theorem tokenize_not_tag : ∃ pieces : List Piece,
    Piece.texts pieces = "NOT tag\t^= 'it\\'s' -007".toList ∧
      (∀ p ∈ pieces.tail, p.gap ≠ []) ∧ IsRefused false "9223372036854775808".toList ∧
      tokenize (String.ofList (Piece.texts pieces ++ [' '])) =
        .ok [⟨0, .neg⟩, ⟨4, .name "tag"⟩, ⟨8, .operator .startsWith⟩, ⟨11, .text "it's"⟩,
          ⟨19, .integer (-7)⟩] ∧
      tokenize (String.ofList (Piece.texts pieces ++ [' '] ++
          signed false "9223372036854775808".toList ++ [')'])) =
        .error ⟨24, .invalidInteger "9223372036854775808"⟩ := by
  have hneg : Spells .neg "NOT".toList :=
    .keyword (s := "not") (by decide) (by unfold EqIgnoringCase; decide)
  have hname : Spells (.name "tag") "tag".toList :=
    .name (c := 't') (by decide) (fun x hx => .inl (List.all_eq_true.mp rfl x hx))
      (by unfold EqIgnoringCase; decide)
  have hsymbol : Spells (.operator .startsWith) "^=".toList := .symbol (by decide)
  have htext : Spells (.text "it's") "'it\\'s'".toList := by
    have hi : SpellsChar '\'' 'i' ['i'] := .raw (by decide) (by decide)
    have ht : SpellsChar '\'' 't' ['t'] := .raw (by decide) (by decide)
    have hquote : SpellsChar '\'' '\'' ['\\', '\''] := .escaped (by decide)
    have hs : SpellsChar '\'' 's' ['s'] := .raw (by decide) (by decide)
    exact .text (.inr rfl) (.cons hi (.cons ht (.cons hquote (.cons hs .nil))))
  have hinteger : Spells (.integer (-7)) "-007".toList :=
    @Spells.integer true ['0', '0', '7'] (-7) (by decide) (List.all_eq_true.mp rfl) (by decide)
  have hspace : ∀ c ∈ [' '], isBlank c = true := List.all_eq_true.mp rfl
  have htab : ∀ c ∈ ['\t'], isBlank c = true := List.all_eq_true.mp rfl
  let pieces : List Piece :=
    [⟨[], _, _, List.forall_mem_nil _, hneg⟩, ⟨[' '], _, _, hspace, hname⟩,
      ⟨['\t'], _, _, htab, hsymbol⟩, ⟨[' '], _, _, hspace, htext⟩,
      ⟨[' '], _, _, hspace, hinteger⟩]
  have hgaps : ∀ p ∈ pieces.tail, p.gap ≠ [] := by simp [pieces]
  have hrefused : IsRefused false "9223372036854775808".toList :=
    .inr ⟨by decide, .inr (by decide)⟩
  have htexts : Piece.texts pieces = "NOT tag\t^= 'it\\'s' -007".toList := rfl
  have hsize : byteSize (Piece.texts pieces ++ [' ']) = 24 := by
    rw [htexts]
    decide
  have hplaced : Piece.placed 0 pieces = [⟨0, .neg⟩, ⟨4, .name "tag"⟩,
    ⟨8, .operator .startsWith⟩, ⟨11, .text "it's"⟩, ⟨19, .integer (-7)⟩] := rfl
  obtain ⟨hok, herror⟩ := tokenize_texts hgaps hspace
  rw [hplaced] at hok
  refine ⟨pieces, htexts, hgaps, hrefused, hok, ?_⟩
  have hdigits : ∀ x ∈ "9223372036854775808".toList, isAsciiDigit x = true :=
    List.all_eq_true.mp rfl
  have hparen : ∀ x ∈ [')'].head?, isAsciiDigit x = false := by simp [isAsciiDigit]
  have htoo := herror false "9223372036854775808".toList [')'] hdigits hparen hrefused (by simp)
  rwa [hsize] at htoo

end Pieces

end Lexicon.Script
