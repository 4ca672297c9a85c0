import Lexicon.Script.Lexer
import Mathlib.Data.List.Basic

/-!
# How a text is cut into tokens

The lexer without its accumulators: a text is a sequence of blanks and lexemes, and every lexeme
places its token. A spelling of a token is read back as that token wherever it stands, if what
follows does not belong to it. Texts keep their tokens side by side, if the second one begins with a
character with which no lexeme goes on.
-/

namespace Lexicon.Script

open Unicode Text

section Characters

/-- Sets whose ranges lie apart share no character. -/
theorem not_contains_of_apart {s t : CharSet}
    (h : ∀ p ∈ s.ranges, ∀ q ∈ t.ranges, p.2 < q.1 ∨ q.2 < p.1) {c : Char}
    (hc : s.contains c = true) : t.contains c = false := by
  obtain ⟨p, hp, hlow, hhigh⟩ := CharSet.containsCode_iff.mp hc
  apply Bool.eq_false_iff.mpr
  intro hd
  obtain ⟨q, hq, hlow', hhigh'⟩ := CharSet.containsCode_iff.mp hd
  have hapart := h p hp q hq
  omega

theorem alphabetic_apart : ∀ p ∈ alphabetic.ranges, ∀ q ∈ whiteSpace.ranges,
    p.2 < q.1 ∨ q.2 < p.1 := by
  decide +kernel

theorem addedAlphabetic_apart : ∀ p ∈ addedAlphabetic.ranges, ∀ q ∈ whiteSpace.ranges,
    p.2 < q.1 ∨ q.2 < p.1 := by
  decide +kernel

theorem isAsciiLetter_bounds {c : Char} (h : isAsciiLetter c = true) :
    65 ≤ c.toNat ∧ c.toNat ≤ 122 := by
  simp only [isAsciiLetter, Bool.or_eq_true, Bool.and_eq_true, decide_eq_true_eq, Char.le_def,
    UInt32.le_iff_toNat_le] at h
  have hbounds : 97 ≤ c.toNat ∧ c.toNat ≤ 122 ∨ 65 ≤ c.toNat ∧ c.toNat ≤ 90 := h
  omega

theorem isAsciiDigit_bounds {c : Char} (h : isAsciiDigit c = true) :
    48 ≤ c.toNat ∧ c.toNat ≤ 57 := by
  simp only [isAsciiDigit, Bool.and_eq_true, decide_eq_true_eq, Char.le_def,
    UInt32.le_iff_toNat_le] at h
  exact h

/-- A letter is no blank. -/
theorem isBlank_of_isAlphabetic {c : Char} (h : isAlphabetic c = true) : isBlank c = false := by
  rw [isAlphabetic] at h
  rw [isBlank]
  split at h
  · rename_i hascii
    have hbounds := isAsciiLetter_bounds h
    rw [if_pos hascii]
    simp only [Bool.or_eq_false_iff, Bool.and_eq_false_imp, decide_eq_false_iff_not,
      decide_eq_true_eq]
    refine ⟨?_, fun _ => by omega⟩
    rintro rfl
    exact absurd hbounds.1 (by decide)
  · rename_i hascii
    rw [if_neg hascii]
    obtain h | h := Bool.or_eq_true _ _ ▸ h
    · exact not_contains_of_apart alphabetic_apart h
    · exact not_contains_of_apart addedAlphabetic_apart h

theorem isBlank_of_isNameStart {c : Char} (h : isNameStart c = true) : isBlank c = false := by
  obtain h | h := Bool.or_eq_true _ _ ▸ h
  · exact isBlank_of_isAlphabetic h
  · rw [decide_eq_true_iff.mp h]
    decide

theorem not_isNameStart_of_isAsciiDigit {c : Char} (h : isAsciiDigit c = true) :
    isNameStart c = false := by
  have hbounds := isAsciiDigit_bounds h
  have hascii : isAsciiCode c = true := decide_eq_true (by omega)
  rw [isNameStart, isAlphabetic, if_pos hascii, Bool.eq_false_iff, ne_eq, Bool.or_eq_true]
  rintro (hletter | hunderscore)
  · have hbounds' := isAsciiLetter_bounds hletter
    omega
  · rw [decide_eq_true_iff.mp hunderscore] at hbounds
    exact absurd hbounds.2 (by decide)

end Characters

/-- From an offset on, the text is cut into these placed tokens. -/
inductive Lexes : Nat → List Char → List Placed → Prop
  | nil {offset} : Lexes offset [] []
  | blank {offset c s ps} (hc : isBlank c = true) (h : Lexes (offset + c.utf8Size) s ps) :
      Lexes offset (c :: s) ps
  | lexeme {offset c s l ps} (hc : isBlank c = false) (hl : readLexeme c s = .ok l)
      (h : Lexes (offset + l.size) l.rest ps) : Lexes offset (c :: s) (⟨offset, l.token⟩ :: ps)

theorem scan_eq_ok_iff {done : List Placed} {offset : Nat} {s : List Char} {ps : List Placed} :
    scan done offset s = .ok ps ↔ ∃ more, Lexes offset s more ∧ ps = done.reverse ++ more := by
  fun_induction scan done offset s with
  | case1 done offset =>
      constructor
      · intro h
        cases h
        exact ⟨[], .nil, by simp⟩
      · rintro ⟨more, h, rfl⟩
        cases h
        simp
  | case2 done offset c rest hc ih =>
      rw [ih]
      apply exists_congr
      intro more
      apply and_congr_left
      intro _
      constructor
      · exact .blank hc
      · intro h
        cases h with
        | blank _ h => exact h
        | lexeme hc' _ _ => rw [hc] at hc'; cases hc'
  | case3 done offset c rest hc l hl ih =>
      rw [ih]
      constructor
      · rintro ⟨more, h, rfl⟩
        exact ⟨_, .lexeme (by simpa using hc) hl h, by simp⟩
      · rintro ⟨more, h, rfl⟩
        cases h with
        | blank hc' => exact absurd hc' hc
        | lexeme _ hl' h =>
            cases hl.symm.trans hl'
            exact ⟨_, h, by simp⟩
  | case4 done offset c rest hc fault hl =>
      constructor
      · intro h
        cases h
      · rintro ⟨more, h, rfl⟩
        cases h with
        | blank hc' => exact absurd hc' hc
        | lexeme _ hl' _ => rw [hl] at hl'; cases hl'

/-- The tokens of a script are those that it is cut into. -/
theorem tokenize_eq_ok_iff {source : String} {ps : List Placed} :
    tokenize source = .ok ps ↔ Lexes 0 source.toList ps := by
  simp [tokenize, scan_eq_ok_iff]

/-- Wherever the text stands, it is cut into these tokens. -/
def Yields (s : List Char) (ts : List Token) : Prop :=
  ∀ offset, ∃ ps, Lexes offset s ps ∧ ps.map Placed.token = ts

theorem yields_nil : Yields [] [] :=
  fun _ => ⟨[], .nil, rfl⟩

theorem Yields.blank {c : Char} {s : List Char} {ts : List Token} (h : Yields s ts)
    (hc : isBlank c = true) : Yields (c :: s) ts := by
  intro offset
  obtain ⟨ps, hps, hts⟩ := h (offset + c.utf8Size)
  exact ⟨ps, .blank hc hps, hts⟩

theorem Yields.lexeme {c : Char} {s : List Char} {l : Lexeme} {ts : List Token}
    (h : Yields l.rest ts) (hc : isBlank c = false) (hl : readLexeme c s = .ok l) :
    Yields (c :: s) (l.token :: ts) := by
  intro offset
  obtain ⟨ps, hps, hts⟩ := h (offset + l.size)
  exact ⟨_, .lexeme hc hl hps, by simp [hts]⟩

theorem Yields.tokenize {source : String} {ts : List Token} (h : Yields source.toList ts) :
    ∃ ps, tokenize source = .ok ps ∧ ps.map Placed.token = ts := by
  obtain ⟨ps, hps, hts⟩ := h 0
  exact ⟨ps, tokenize_eq_ok_iff.mpr hps, hts⟩

/-- Between such quotes, the text is a spelling of the characters: each stands for itself unless it
is the quote or a backslash, or is written by an escape. -/
inductive SpellsText (quote : Char) : List Char → List Char → Prop
  | nil : SpellsText quote [] []
  | raw {c cs w} (hq : c ≠ quote) (hb : c ≠ '\\') (h : SpellsText quote cs w) :
      SpellsText quote (c :: cs) (c :: w)
  | escaped {e c cs w} (he : unescape? e = some c) (h : SpellsText quote cs w) :
      SpellsText quote (c :: cs) ('\\' :: e :: w)

theorem utf8Size_of_unescape {e c : Char} (h : unescape? e = some c) : e.utf8Size = 1 := by
  unfold unescape? at h
  split at h <;> first | rfl | cases h

/-- A spelling up to its closing quote is read as the characters it spells. -/
theorem SpellsText.readText_eq {quote : Char} {cs w : List Char} (h : SpellsText quote cs w)
    (hquote : quote ≠ '\\') (done : List Char) (size : Nat) (rest : List Char) :
    readText quote done size (w ++ quote :: rest) =
      .ok ⟨.text (String.ofList (done.reverse ++ cs)), size + byteSize w + 1, rest⟩ := by
  induction h generalizing done size with
  | nil =>
      rw [List.nil_append, readText.eq_def]
      simp
  | @raw c cs w hq hb _ ih =>
      rw [List.cons_append, readText.eq_def]
      simp only [if_neg hq, if_neg hb, ih]
      simp [Nat.add_assoc]
  | @escaped e c cs w he _ ih =>
      have hsize : '\\'.utf8Size = 1 := by decide
      rw [List.cons_append, List.cons_append, readText.eq_def]
      simp only [if_neg hquote.symm, he, ih, byteSize_cons, utf8Size_of_unescape he, hsize]
      simp only [↓reduceIte, List.reverse_cons, List.append_assoc, List.singleton_append,
        Nat.add_assoc, Except.ok.injEq, Lexeme.mk.injEq, true_and, and_true]
      omega

/-- The first character of a word begins no other lexeme. -/
theorem readLexeme_of_isNameStart {c : Char} (hc : isNameStart c = true) (s : List Char) :
    readLexeme c s = .ok (readWord c s) := by
  unfold readLexeme
  split
  case h_15 =>
    have hother : ¬ (c = '-' || isAsciiDigit c) = true := by
      intro h
      obtain h | h := Bool.or_eq_true _ _ ▸ h
      · rw [decide_eq_true_iff.mp h] at hc
        exact absurd hc (by decide)
      · exact absurd hc (by simp [not_isNameStart_of_isAsciiDigit h])
    rw [if_neg hother, if_pos hc]
  all_goals exact absurd hc (by decide)

section Stretches
variable {p : Char → Bool} {w rest : List Char}

theorem takeWhile_append_of_stops (hw : ∀ x ∈ w, p x = true) (hrest : ∀ x ∈ rest.head?, p x = false) :
    (w ++ rest).takeWhile p = w := by
  have hstop : rest.takeWhile p = [] := by
    cases rest with
    | nil => rfl
    | cons x xs => simp [hrest x rfl]
  rw [List.takeWhile_append_of_pos hw, hstop, List.append_nil]

theorem dropWhile_append_of_stops (hw : ∀ x ∈ w, p x = true) (hrest : ∀ x ∈ rest.head?, p x = false) :
    (w ++ rest).dropWhile p = rest := by
  rw [List.dropWhile_append_of_pos hw]
  cases rest with
  | nil => rfl
  | cons x xs => simp [hrest x rfl]

end Stretches

/-- A word is read up to the first character that a name does not go on with. -/
theorem readWord_append {c : Char} {w rest : List Char} (hw : w.all isNamePart = true)
    (hrest : ∀ x ∈ rest.head?, isNamePart x = false) :
    readWord c (w ++ rest) = ⟨wordToken (c :: w), byteSize (c :: w), rest⟩ := by
  have hall : ∀ x ∈ w, isNamePart x = true := List.all_eq_true.mp hw
  rw [readWord, takeWhile_append_of_stops hall hrest, dropWhile_append_of_stops hall hrest]

/-- A word in front of a text that does not go on with it. -/
theorem Yields.word {c : Char} {w rest : List Char} {ts : List Token} (h : Yields rest ts)
    (hc : isNameStart c = true) (hw : w.all isNamePart = true)
    (hrest : ∀ x ∈ rest.head?, isNamePart x = false) :
    Yields (c :: (w ++ rest)) (wordToken (c :: w) :: ts) := by
  have hread : readLexeme c (w ++ rest) = .ok ⟨wordToken (c :: w), byteSize (c :: w), rest⟩ := by
    rw [readLexeme_of_isNameStart hc, readWord_append hw hrest]
  exact @Yields.lexeme c _ ⟨_, _, rest⟩ ts h (isBlank_of_isNameStart hc) hread

/-- A text literal in front of any text. -/
theorem Yields.text {quote : Char} {cs w rest : List Char} {ts : List Token} (h : Yields rest ts)
    (hquote : quote = '"' ∨ quote = '\'') (hw : SpellsText quote cs w) :
    Yields (quote :: (w ++ quote :: rest)) (.text (String.ofList cs) :: ts) := by
  have hread : readLexeme quote (w ++ quote :: rest) =
      .ok ⟨.text (String.ofList cs), 1 + byteSize w + 1, rest⟩ := by
    rcases hquote with rfl | rfl
    · exact hw.readText_eq (by decide) [] 1 rest
    · exact hw.readText_eq (by decide) [] 1 rest
  have hblank : isBlank quote = false := by
    rcases hquote with rfl | rfl <;> decide
  exact @Yields.lexeme quote _ ⟨_, _, rest⟩ ts h hblank hread

/-- No lexeme goes on with the character, whatever it has come to. -/
structure Separates (x : Char) : Prop where
  namePart : isNamePart x = false
  digit : isAsciiDigit x = false
  equals : x ≠ '='

theorem separates_space : Separates ' ' := ⟨by decide, by decide, by decide⟩

theorem separates_rightParen : Separates ')' := ⟨by decide, by decide, by decide⟩

section Joints
variable {c x : Char} {s t : List Char} {l : Lexeme}

/-- The lexeme with more text behind it. -/
def Lexeme.before (l : Lexeme) (t : List Char) : Lexeme := { l with rest := l.rest ++ t }

theorem takeWhile_append_separator {p : Char → Bool} (hx : p x = false) :
    (s ++ x :: t).takeWhile p = s.takeWhile p := by
  induction s with
  | nil => simp [hx]
  | cons c s ih => simp only [List.cons_append, List.takeWhile_cons, ih]

theorem dropWhile_append_separator {p : Char → Bool} (hx : p x = false) :
    (s ++ x :: t).dropWhile p = s.dropWhile p ++ x :: t := by
  induction s with
  | nil => simp [hx]
  | cons c s ih =>
      simp only [List.cons_append, List.dropWhile_cons, ih]
      split <;> rfl

theorem readText_append {quote : Char} {done : List Char} {size : Nat}
    (h : readText quote done size s = .ok l) (t : List Char) :
    readText quote done size (s ++ t) = .ok (l.before t) := by
  fun_induction readText quote done size s with
  | case1 => cases h
  | case2 done size rest =>
      cases h
      rw [List.cons_append, readText.eq_def]
      simp [Lexeme.before]
  | case3 => cases h
  | case4 done size e rest d he hq ih =>
      rw [List.cons_append, List.cons_append, readText.eq_def]
      simp only [if_neg hq, he]
      exact ih h
  | case5 => cases h
  | case6 done size c rest hq hb ih =>
      rw [List.cons_append, readText.eq_def]
      simp only [if_neg hq, if_neg hb]
      exact ih h

theorem readPair_append {second : Char} {token : Token} {symbol : String}
    (h : readPair second token symbol s = .ok l) (t : List Char) :
    readPair second token symbol (s ++ t) = .ok (l.before t) := by
  cases s with
  | nil => cases h
  | cons c s =>
      rw [List.cons_append, readPair]
      rw [readPair] at h
      split at h
      · rename_i hc
        cases h
        rw [if_pos hc]
        rfl
      · cases h

theorem readMaybeEq_append (token withEq : Token) (hx : x ≠ '=') :
    readMaybeEq token withEq (s ++ x :: t) = (readMaybeEq token withEq s).before (x :: t) := by
  cases s with
  | nil =>
      simp [readMaybeEq, hx, Lexeme.before]
  | cons c s =>
      by_cases hc : c = '='
      · subst hc
        rfl
      · simp [readMaybeEq, hc, Lexeme.before]

theorem readInteger_append (hx : isAsciiDigit x = false) (h : readInteger c s = .ok l) :
    readInteger c (s ++ x :: t) = .ok (l.before (x :: t)) := by
  simp only [readInteger, takeWhile_append_separator hx, dropWhile_append_separator hx] at h ⊢
  split at h
  · cases h
    rfl
  · cases h

theorem readWord_append_separator (hx : isNamePart x = false) :
    readWord c (s ++ x :: t) = (readWord c s).before (x :: t) := by
  simp only [readWord, takeWhile_append_separator hx, dropWhile_append_separator hx, Lexeme.before]

/-- A lexeme stays what it is if a separating character comes behind its text. -/
theorem readLexeme_append (hx : Separates x) (h : readLexeme c s = .ok l) :
    readLexeme c (s ++ x :: t) = .ok (l.before (x :: t)) := by
  unfold readLexeme at h ⊢
  split at h
  case h_15 =>
    split at h
    · rename_i hc
      rw [if_pos hc]
      exact readInteger_append hx.digit h
    · rename_i hc
      rw [if_neg hc]
      split at h
      · rename_i hstart
        cases h
        rw [if_pos hstart, readWord_append_separator hx.namePart]
      · cases h
  case h_3 | h_4 => exact readText_append h _
  case h_5 | h_6 | h_8 | h_9 | h_10 | h_11 | h_12 => exact readPair_append h _
  case h_1 | h_2 => cases h; rfl
  all_goals
    cases h
    rw [readMaybeEq_append _ _ hx.equals]

end Joints

/-- A text keeps its tokens wherever it stands. -/
theorem Lexes.yields {offset : Nat} {s : List Char} {ps : List Placed} (h : Lexes offset s ps) :
    Yields s (ps.map Placed.token) := by
  induction h with
  | nil => exact yields_nil
  | blank hc _ ih => exact ih.blank hc
  | lexeme hc hl _ ih => exact ih.lexeme hc hl

/-- Two texts keep their tokens side by side if the second one begins with a separating
character. -/
theorem Yields.append {x : Char} {s t : List Char} {ts us : List Token} (hs : Yields s ts)
    (hx : Separates x) (ht : Yields (x :: t) us) : Yields (s ++ x :: t) (ts ++ us) := by
  obtain ⟨ps, hlex, rfl⟩ := hs 0
  clear hs
  generalize 0 = offset at hlex
  induction hlex with
  | nil => exact ht
  | blank hc _ ih => exact ih.blank hc
  | lexeme hc hl _ ih => exact @Yields.lexeme _ _ (Lexeme.before _ _) _ ih hc (readLexeme_append hx hl)

end Lexicon.Script
