import Lexicon.Json.Layout
import Lexicon.Proofs.Notation
import Mathlib.Tactic.IntervalCases

/-!
# Reading what is written

The reader for a shape reads every notation of a value of the shape as that value, whatever blanks
stand in it, and leaves what follows. Each reader is described by the notations that it takes; those
for lists and records follow the parts of the notation one by one.
-/

namespace Lexicon.Json

open Unicode (isAsciiDigit)

/-- From the front of the text a reader reads the value, and it leaves the rest. -/
def Reads {α : Type} (read : Reader α) (s : List Char) (a : α) (rest : List Char) : Prop :=
  ∃ h, read s = .ok ⟨a, rest, h⟩

/-- No number goes on with the text. -/
def Ends (rest : List Char) : Prop :=
  ∀ c ∈ rest.head?, isAsciiDigit c = false ∧ c ≠ '.' ∧ c ≠ 'e' ∧ c ≠ 'E'

/-- The reader reads the value from the notation, behind blanks and in front of a text that ends a
number. -/
def Takes {α : Type} (read : Reader α) (a : α) (w : List Char) : Prop :=
  ∀ ⦃pre rest⦄, Blanks pre → Ends rest → Reads read (pre ++ w ++ rest) a rest

section Blanks
variable {pre s rest : List Char} {c : Char}

theorem skipSpace_append (hpre : Blanks pre) : skipSpace (pre ++ s) = skipSpace s :=
  List.dropWhile_append_of_pos hpre

theorem skipSpace_cons (hc : isSpace c = false) : skipSpace (c :: s) = c :: s := by
  simp [skipSpace, hc]

theorem skipSpace_behind (hpre : Blanks pre) (hc : isSpace c = false) :
    skipSpace (pre ++ c :: s) = c :: s := by
  rw [skipSpace_append hpre, skipSpace_cons hc]

theorem skipSpace_blanks (hpre : Blanks pre) : skipSpace pre = [] := by
  simpa [skipSpace] using @skipSpace_append pre [] hpre

/-- A reader that goes by the first character reads what it does behind blanks. -/
theorem reads_onFirst {α : Type} {a : α}
    {read : (c : Char) → (s : List Char) → Except Failure (Read α (s.length + 1))}
    (hpre : Blanks pre) (hc : isSpace c = false) (h : ∃ h, read c s = .ok ⟨a, rest, h⟩) :
    Reads (onFirst read) (pre ++ c :: s) a rest := by
  obtain ⟨hlt, h⟩ := h
  refine ⟨Nat.lt_of_lt_of_le hlt (by simp), ?_⟩
  unfold onFirst
  split
  · rename_i hskip
    rw [skipSpace_behind hpre hc] at hskip
    cases hskip
  · rename_i d s' hskip
    rw [skipSpace_behind hpre hc] at hskip
    cases hskip
    rw [h]
    rfl

/-- So does it take a notation that it reads by its first character. -/
theorem takes_onFirst {α : Type} {a : α} {w : List Char}
    {read : (c : Char) → (s : List Char) → Except Failure (Read α (s.length + 1))}
    (hc : isSpace c = false)
    (h : ∀ rest, Ends rest → ∃ h, read c (w ++ rest) = .ok ⟨a, rest, h⟩) :
    Takes (onFirst read) a (c :: w) := by
  intro pre rest hpre hrest
  simpa using reads_onFirst hpre hc (h rest hrest)

end Blanks

section Texts
variable {cs w rest : List Char}

theorem readHex_eq {p q r s : Char} {n : Nat} (h : hexValue? p q r s = some n) (rest : List Char) :
    ∃ h', readHex (p :: q :: r :: s :: rest) = .ok ⟨(n, rest), h'⟩ := by
  refine ⟨by simp only [List.length_cons]; omega, ?_⟩
  rw [readHex]
  simp only [h]

/-- A code point that is no half of a character is a character. -/
theorem readCodeEscape_whole {p q r s : Char} {n : Nat} (hn : hexValue? p q r s = some n)
    (h : n < 0xD800 ∨ 0xDFFF < n) (rest : List Char) :
    ∃ h', readCodeEscape (p :: q :: r :: s :: rest) = .ok ⟨(Char.ofNat n, rest), h'⟩ := by
  obtain ⟨h', hhex⟩ := readHex_eq hn rest
  refine ⟨h', ?_⟩
  have hlow : (decide (0xDC00 ≤ n) && decide (n ≤ 0xDFFF)) = false := by
    simp only [Bool.and_eq_false_imp, decide_eq_true_eq, decide_eq_false_iff_not]
    omega
  have hhigh : (decide (n < 0xD800) || decide (0xDBFF < n)) = true := by
    simp only [Bool.or_eq_true, decide_eq_true_eq]
    omega
  rw [readCodeEscape, hhex]
  simp only [hlow, hhigh, Bool.false_eq_true, ↓reduceIte]

theorem readCodeEscape_eq {p q r s c : Char} (h : hexValue? p q r s = some c.toNat)
    (rest : List Char) :
    ∃ h', readCodeEscape (p :: q :: r :: s :: rest) = .ok ⟨(c, rest), h'⟩ := by
  have hvalid : c.toNat < 0xD800 ∨ 0xDFFF < c.toNat := by
    rcases c.valid with hv | hv
    · exact .inl hv
    · exact .inr hv.1
  simpa only [Char.ofNat_toNat] using readCodeEscape_whole h hvalid rest

theorem nextCharacter_escape {s : List Char} {c : Char} {h'} (h : readEscape s = .ok ⟨(c, rest), h'⟩) :
    ∃ h'', nextCharacter ('\\' :: s) = .ok (.character c rest h'') := by
  refine ⟨Nat.lt_succ_of_lt h', ?_⟩
  simp [nextCharacter, h]

theorem readEscape_short {e c : Char} (he : shortEscape? e = some c) (rest : List Char) :
    ∃ h', readEscape (e :: rest) = .ok ⟨(c, rest), h'⟩ := by
  have hu : e ≠ 'u' := by
    rintro rfl
    cases he
  refine ⟨length_lt_succ rest, ?_⟩
  rw [readEscape]
  simp only [if_neg hu, he]

theorem readEscape_code {s : List Char} {c : Char} {h'}
    (h : readCodeEscape s = .ok ⟨(c, rest), h'⟩) :
    ∃ h'', readEscape ('u' :: s) = .ok ⟨(c, rest), h''⟩ := by
  refine ⟨Nat.lt_succ_of_lt h', ?_⟩
  simp [readEscape, h]

/-- The two halves of a code point are its character. -/
theorem readCodeEscape_matched {p q r s p' q' r' s' : Char} {n m : Nat}
    (hn : hexValue? p q r s = some n) (h : 0xD800 ≤ n ∧ n < 0xDC00)
    (hm : hexValue? p' q' r' s' = some m) (h' : 0xDC00 ≤ m ∧ m ≤ 0xDFFF) (rest : List Char) :
    ∃ hlt, readCodeEscape (p :: q :: r :: s :: '\\' :: 'u' :: p' :: q' :: r' :: s' :: rest) =
      .ok ⟨(Char.ofNat ((n - 0xD800) * 0x400 + (m - 0xDC00) + 0x10000), rest), hlt⟩ := by
  obtain ⟨_, hfirst⟩ := readHex_eq hn ('\\' :: 'u' :: p' :: q' :: r' :: s' :: rest)
  obtain ⟨_, hsecond⟩ := readHex_eq hm rest
  refine ⟨by simp only [List.length_cons]; omega, ?_⟩
  have hlow : (decide (0xDC00 ≤ n) && decide (n ≤ 0xDFFF)) = false := by
    simp only [Bool.and_eq_false_imp, decide_eq_true_eq, decide_eq_false_iff_not]
    omega
  have hhigh : (decide (n < 0xD800) || decide (0xDBFF < n)) = false := by
    simp only [Bool.or_eq_false_iff, decide_eq_false_iff_not]
    omega
  have hmatch : (decide (m < 0xDC00) || decide (0xDFFF < m)) = false := by
    simp only [Bool.or_eq_false_iff, decide_eq_false_iff_not]
    omega
  rw [readCodeEscape, hfirst]
  simp only [hlow, hhigh, hsecond, hmatch, Bool.false_eq_true, ↓reduceIte]

theorem readCodeEscape_halves {p q r s p' q' r' s' c : Char} {high low : Nat}
    (hhigh : hexValue? p q r s = some (0xD800 + high)) (hhigh' : high < 0x400)
    (hlow : hexValue? p' q' r' s' = some (0xDC00 + low)) (hlow' : low < 0x400)
    (hc : c.toNat = high * 0x400 + low + 0x10000) (rest : List Char) :
    ∃ h', readCodeEscape (p :: q :: r :: s :: '\\' :: 'u' :: p' :: q' :: r' :: s' :: rest) =
      .ok ⟨(c, rest), h'⟩ := by
  have hchar : Char.ofNat ((0xD800 + high - 0xD800) * 0x400 + (0xDC00 + low - 0xDC00) + 0x10000) =
      c := by
    rw [Nat.add_sub_cancel_left, Nat.add_sub_cancel_left, ← hc]
    exact Char.ofNat_toNat c
  simpa only [hchar] using
    readCodeEscape_matched hhigh ⟨by omega, by omega⟩ hlow ⟨by omega, by omega⟩ rest

theorem nextCharacter_raw {c : Char} (hq : c ≠ '"') (hb : c ≠ '\\') (hc : 0x20 ≤ c.toNat)
    (rest : List Char) :
    nextCharacter (c :: rest) = .ok (.character c rest (length_lt_succ rest)) := by
  simp only [nextCharacter, if_neg hq, if_neg hb, if_neg (Nat.not_lt.mpr hc)]

/-- The text is read as the characters up to the quote that closes it, behind which the rest
stands. -/
def Closes (s cs rest : List Char) : Prop :=
  ∀ (done : List Char) ⦃bound : Nat⦄ (h : s.length < bound),
    ∃ h', readCharacters done s h =
      .ok (⟨String.ofList (done.reverse ++ cs), rest, h'⟩ : Read String bound)

theorem closes_quote (rest : List Char) : Closes ('"' :: rest) [] rest := by
  intro done bound h
  have hclose : nextCharacter ('"' :: rest) = .ok (.close rest (length_lt_succ rest)) := rfl
  refine ⟨Nat.lt_trans (length_lt_succ rest) h, ?_⟩
  rw [readCharacters, hclose]
  simp

theorem Closes.cons {c : Char} {s s' : List Char} (h : Closes s' cs rest)
    (hnext : ∃ h', nextCharacter s = .ok (.character c s' h')) : Closes s (c :: cs) rest := by
  intro done bound hs
  obtain ⟨hs', hnext⟩ := hnext
  obtain ⟨h', hrest⟩ := h (c :: done) (Nat.lt_trans hs' hs)
  refine ⟨h', ?_⟩
  rw [readCharacters, hnext]
  simpa using hrest

/-- A spelling and a closing quote are read as the characters that are spelled. -/
theorem Spells.closes (hw : Spells cs w) (rest : List Char) : Closes (w ++ '"' :: rest) cs rest := by
  induction hw with
  | nil => exact closes_quote rest
  | raw hq hb hc _ ih => exact ih.cons ⟨length_lt_succ _, nextCharacter_raw hq hb hc _⟩
  | short he _ ih =>
      obtain ⟨_, he⟩ := readEscape_short he _
      exact ih.cons (nextCharacter_escape he)
  | code hc _ ih =>
      obtain ⟨_, hc⟩ := readCodeEscape_eq hc _
      obtain ⟨_, he⟩ := readEscape_code hc
      exact ih.cons (nextCharacter_escape he)
  | halves hhigh hhigh' hlow hlow' hc _ ih =>
      obtain ⟨_, hc⟩ := readCodeEscape_halves hhigh hhigh' hlow hlow' hc _
      obtain ⟨_, he⟩ := readEscape_code hc
      exact ih.cons (nextCharacter_escape he)

/-- Behind its opening quote, a text is read up to its closing one. -/
theorem Quoted.readTextBody_eq {text : String} (hw : Quoted text w) :
    ∃ s, w = '"' :: s ∧ ∀ rest, ∃ h, readTextBody (s ++ rest) = .ok ⟨text, rest, h⟩ := by
  obtain @⟨w, hw⟩ := hw
  refine ⟨w ++ ['"'], rfl, fun rest => ?_⟩
  obtain ⟨h, heq⟩ := hw.closes rest [] (length_lt_succ _)
  rw [List.append_assoc, List.singleton_append]
  refine ⟨h, ?_⟩
  rw [readTextBody, heq]
  simp

theorem Quoted.takes {text : String} (hw : Quoted text w) (wanted : String) :
    Takes (readText wanted) text w := by
  obtain ⟨s, rfl, hbody⟩ := hw.readTextBody_eq
  refine takes_onFirst rfl fun rest _ => ?_
  simpa using hbody rest

end Texts

section Words

theorem readWord_append (word rest : List Char) :
    ∃ h, readWord word (word ++ rest) = .ok ⟨rest, h⟩ := by
  induction word with
  | nil => exact ⟨Nat.le_refl _, rfl⟩
  | cons c word ih =>
      obtain ⟨h, ih⟩ := ih
      refine ⟨Nat.le_succ_of_le h, ?_⟩
      simp [readWord, ih]

theorem takes_yes : Takes readFlag true ['t', 'r', 'u', 'e'] := by
  refine takes_onFirst rfl fun rest _ => ?_
  obtain ⟨h, heq⟩ := readWord_append ['r', 'u', 'e'] rest
  exact ⟨Nat.lt_succ_of_le h, by simp only [heq, ↓reduceIte]⟩

theorem takes_no : Takes readFlag false ['f', 'a', 'l', 's', 'e'] := by
  refine takes_onFirst rfl fun rest _ => ?_
  obtain ⟨h, heq⟩ := readWord_append ['a', 'l', 's', 'e'] rest
  exact ⟨Nat.lt_succ_of_le h, by simp only [heq, Char.reduceEq, ↓reduceIte]⟩

end Words

section Numbers
variable {n : Nat} {c : Char} {ds w rest : List Char}

theorem le_ofDigitChars (ds : List Char) (n : Nat) : n ≤ Nat.ofDigitChars 10 ds n := by
  induction ds generalizing n with
  | nil => simp
  | cons d ds ih =>
      have := ih (10 * n + (d.toNat - '0'.toNat))
      rw [Nat.ofDigitChars_cons]
      omega

/-- Digits whose number fits are taken, up to a character that is none. -/
theorem takeSignificand_append (hds : ∀ d ∈ ds, isAsciiDigit d = true)
    (hrest : ∀ c ∈ rest.head?, isAsciiDigit c = false) {value : Nat} (count : Nat)
    (hfit : Nat.ofDigitChars 10 ds value ≤ maxUnsigned) :
    ∃ h, takeSignificand value count (ds ++ rest) =
      (Nat.ofDigitChars 10 ds value, count + ds.length, ⟨rest, h⟩) := by
  induction ds generalizing value count with
  | nil =>
      refine ⟨Nat.le_refl _, ?_⟩
      cases rest with
      | nil => simp [takeSignificand]
      | cons c rest => simp [takeSignificand, hrest c rfl]
  | cons d ds ih =>
      obtain ⟨hd, hds⟩ := List.forall_mem_cons.mp hds
      rw [Nat.ofDigitChars_cons, Nat.mul_comm] at hfit ⊢
      have hnext : value * 10 + (d.toNat - '0'.toNat) ≤ maxUnsigned :=
        Nat.le_trans (le_ofDigitChars ds _) hfit
      obtain ⟨h, heq⟩ := ih hds (count + 1) hfit
      refine ⟨Nat.le_succ_of_le h, ?_⟩
      simp only [List.cons_append, takeSignificand, hd, hnext, decide_true, Bool.and_self,
        ↓reduceIte, heq, List.length_cons, Nat.add_assoc, Nat.add_comm 1]

theorem skipDigits_of_head (hrest : ∀ c ∈ rest.head?, isAsciiDigit c = false) :
    skipDigits rest = ⟨0, rest, Nat.zero_add _⟩ := by
  cases rest with
  | nil => rfl
  | cons c rest => simp [skipDigits, hrest c rfl]

/-- The integer of a magnitude and a sign. -/
def signed (negative : Bool) (n : Nat) : Int := if negative then -n else n

theorem readTail_of_ends {negative : Bool}
    (hsign : negative = true → 0 < n ∧ n ≤ 0x8000000000000000) (hrest : Ends rest) :
    readTail negative n 0 rest = .ok ⟨(.integer (signed negative n), rest), Nat.le_refl _⟩ := by
  have hpoint : ∀ s, rest ≠ '.' :: s := by
    rintro s rfl
    exact (hrest '.' rfl).2.1 rfl
  have hscale : (rest.head?.any fun c => c = 'e' || c = 'E') = false := by
    cases rest with
    | nil => rfl
    | cons c rest => simp [(hrest c rfl).2.2]
  unfold readTail
  split
  · exact absurd rfl (hpoint _)
  · cases negative with
    | false => simp [hscale, signed]
    | true => simp [hscale, signed, hsign rfl]

/-- No digits are left behind a number that was taken whole. -/
theorem readTail_skipDigits {negative : Bool}
    (hsign : negative = true → 0 < n ∧ n ≤ 0x8000000000000000) (hrest : Ends rest) :
    ∃ h, readTail negative n (skipDigits rest).count (skipDigits rest).rest =
      .ok ⟨(.integer (signed negative n), rest), h⟩ := by
  rw [skipDigits_of_head fun c hc => (hrest c hc).1]
  exact ⟨_, readTail_of_ends hsign hrest⟩

theorem head_toDigits_ne_zero (hpos : 0 < n) (hn : Nat.toDigits 10 n = c :: ds) : c ≠ '0' := by
  induction n using Nat.strongRecOn generalizing ds with
  | ind n ih =>
      by_cases hsmall : n < 10
      · rw [Nat.toDigits_of_lt_base hsmall] at hn
        obtain ⟨rfl, -⟩ := List.cons_eq_cons.mp hn
        interval_cases n <;> decide
      · rw [Nat.toDigits_of_base_le (by decide) (Nat.not_lt.mp hsmall)] at hn
        obtain ⟨d, front, hfront⟩ := List.exists_cons_of_ne_nil
          (Nat.toDigits_ne_nil : Nat.toDigits 10 (n / 10) ≠ [])
        rw [hfront, List.cons_append] at hn
        obtain ⟨rfl, -⟩ := List.cons_eq_cons.mp hn
        exact ih (n / 10) (by omega) (by omega) hfront

theorem isAsciiDigit_of_mem_toDigits (h : c ∈ Nat.toDigits 10 n) : isAsciiDigit c = true := by
  have hdigit := Nat.isDigit_of_mem_toDigits (by decide) (by decide) h
  simpa [Char.isDigit, isAsciiDigit, Char.le_def] using hdigit

/-- The digits of a number are read as the number. -/
theorem readDigits_toDigits (negative : Bool) (hn : Nat.toDigits 10 n = c :: ds)
    (hfit : n ≤ maxUnsigned) (hsign : negative = true → 0 < n ∧ n ≤ 0x8000000000000000)
    (hrest : Ends rest) :
    ∃ h, readDigits negative c (ds ++ rest) = .ok ⟨(.integer (signed negative n), rest), h⟩ := by
  have hdigits : ∀ d ∈ c :: ds, isAsciiDigit d = true := by
    rw [← hn]
    exact fun d hd => isAsciiDigit_of_mem_toDigits hd
  obtain ⟨hc, hds⟩ := List.forall_mem_cons.mp hdigits
  have hend : ∀ c ∈ rest.head?, isAsciiDigit c = false := fun c hc => (hrest c hc).1
  by_cases hzero : c = '0'
  · -- A number that starts with a zero is zero, and nothing stands behind the digit.
    obtain rfl : n = 0 := by
      by_contra hne
      exact head_toDigits_ne_zero (Nat.pos_of_ne_zero hne) hn hzero
    obtain ⟨-, rfl⟩ := List.cons_eq_cons.mp (Nat.toDigits_zero 10 ▸ hn)
    have hany : rest.head?.any isAsciiDigit = false := by
      cases rest with
      | nil => rfl
      | cons d rest => simpa using hend d rfl
    refine ⟨Nat.le_refl _, ?_⟩
    simp only [List.nil_append]
    simp [readDigits, hzero, hany, readTail_of_ends hsign hrest]
  · have hvalue : Nat.ofDigitChars 10 ds (c.toNat - '0'.toNat) = n := by
      have hall := Nat.ofDigitChars_ten_toDigits (n := n)
      rwa [hn, Nat.ofDigitChars_cons, Nat.mul_zero, Nat.zero_add] at hall
    obtain ⟨h, htake⟩ := takeSignificand_append hds hend 1 (hvalue ▸ hfit)
    rw [hvalue] at htake
    refine ⟨h, ?_⟩
    unfold readDigits
    rw [if_neg hzero, if_pos hc]
    generalize takeSignificand _ _ _ = taken at htake ⊢
    subst htake
    obtain ⟨_, htail⟩ := readTail_skipDigits hsign hrest
    simp only [htail]

theorem toList_natural {n : Int} (hn : 0 ≤ n) : (toString n).toList = Nat.toDigits 10 n.toNat := by
  rw [Int.toString_eq_repr, Int.repr_eq_if, if_pos hn, Nat.toList_repr]

theorem toList_negative {n : Int} (hn : n < 0) :
    (toString n).toList = '-' :: Nat.toDigits 10 (-n).toNat := by
  rw [Int.toString_eq_repr, Int.repr_eq_if, if_neg (Int.not_le.mpr hn), String.toList_append,
    Nat.toList_repr]
  rfl

theorem readNumberAt_natural {n : Int} (hn : 0 ≤ n) (hfit : n ≤ maxUnsigned)
    (hw : (toString n).toList = c :: w) (hrest : Ends rest) :
    ∃ h, readNumberAt c (w ++ rest) = some (.ok ⟨.integer n, rest, h⟩) := by
  rw [toList_natural hn] at hw
  have hc : isAsciiDigit c = true := by
    apply isAsciiDigit_of_mem_toDigits (n := n.toNat)
    simp [hw]
  have hminus : c ≠ '-' := by
    rintro rfl
    cases hc
  obtain ⟨h, hread⟩ := readDigits_toDigits false hw (by omega) nofun hrest
  refine ⟨Nat.lt_succ_of_le h, ?_⟩
  simp [readNumberAt, hminus, hc, hread, signed, hn]

theorem readNumberAt_negative {n : Int} (hn : n < 0) (hfit : -0x8000000000000000 ≤ n)
    (hw : (toString n).toList = c :: w) (hrest : Ends rest) :
    ∃ h, readNumberAt c (w ++ rest) = some (.ok ⟨.integer n, rest, h⟩) := by
  rw [toList_negative hn] at hw
  obtain ⟨rfl, rfl⟩ := List.cons_eq_cons.mp hw
  obtain ⟨d, ds, hds⟩ := List.exists_cons_of_ne_nil
    (Nat.toDigits_ne_nil : Nat.toDigits 10 (-n).toNat ≠ [])
  have hsign : true = true → 0 < (-n).toNat ∧ (-n).toNat ≤ 0x8000000000000000 := by omega
  obtain ⟨h, hread⟩ :=
    readDigits_toDigits true hds (by unfold maxUnsigned; omega) hsign hrest
  have hvalue : signed true (-n).toNat = n := by
    simp [signed]
    omega
  rw [hds]
  refine ⟨by simp only [List.length_append] at h; simp; omega, ?_⟩
  simp [readNumberAt, readUnsigned, hread, hvalue]

theorem head_integer {n : Int} (hw : (toString n).toList = c :: w) :
    c = '-' ∨ isAsciiDigit c = true := by
  rcases lt_or_ge n 0 with hn | hn
  · rw [toList_negative hn] at hw
    exact .inl (List.cons_eq_cons.mp hw).1.symm
  · rw [toList_natural hn] at hw
    exact .inr (isAsciiDigit_of_mem_toDigits (n := n.toNat) (by simp [hw]))

theorem isSpace_of_isAsciiDigit (hc : isAsciiDigit c = true) : isSpace c = false := by
  by_contra hspace
  simp only [isSpace, Bool.not_eq_false, Bool.or_eq_true, decide_eq_true_eq] at hspace
  rcases hspace with ((rfl | rfl) | rfl) | rfl <;> cases hc

theorem exists_toList_integer (n : Int) : ∃ c w, (toString n).toList = c :: w := by
  rcases lt_or_ge n 0 with hn | hn
  · exact ⟨_, _, toList_negative hn⟩
  · rw [toList_natural hn]
    exact List.exists_cons_of_ne_nil Nat.toDigits_ne_nil

/-- A reader takes an integer if it makes its value of the number of 64 bits that stands there. -/
theorem takes_integer {α : Type} {a : α} {n : Int} (hlow : -0x8000000000000000 ≤ n)
    (hhigh : n ≤ maxUnsigned)
    {read : (c : Char) → (s : List Char) → Except Failure (Read α (s.length + 1))}
    (hread : ∀ c s rest h, readNumberAt c s = some (.ok ⟨.integer n, rest, h⟩) →
      read c s = .ok ⟨a, rest, h⟩) :
    Takes (onFirst read) a (toString n).toList := by
  obtain ⟨c, w, hw⟩ := exists_toList_integer n
  have hc : isSpace c = false := by
    rcases head_integer hw with rfl | hc
    · rfl
    · exact isSpace_of_isAsciiDigit hc
  rw [hw]
  refine takes_onFirst hc fun rest hrest => ?_
  rcases lt_or_ge n 0 with hn | hn
  · obtain ⟨h, heq⟩ := readNumberAt_negative hn hlow hw hrest
    exact ⟨h, hread _ _ _ _ heq⟩
  · obtain ⟨h, heq⟩ := readNumberAt_natural hn hhigh hw hrest
    exact ⟨h, hread _ _ _ _ heq⟩

theorem takes_id (n : Int64) : Takes readId n (toString n.toInt).toList := by
  have hlow := Int64.le_toInt n
  have hhigh := Int64.toInt_lt n
  refine takes_integer (by omega) (by unfold maxUnsigned; omega) fun c s rest h heq => ?_
  have hn : (Number.integer n.toInt).toInt64? = some n := by
    simp only [Number.toInt64?, Number.toInt64?.ofInt, Int64.minValue_le_toInt, Int64.toInt_le,
      decide_true, Bool.and_self, ↓reduceIte, Int64.ofInt_toInt]
  simp only [heq, hn]

theorem takes_word (n : UInt32) : Takes readWord32 n (toString (n.toNat : Int)).toList := by
  have hn := n.toNat_lt
  refine takes_integer (by omega) (by unfold maxUnsigned; omega) fun c s rest h heq => ?_
  have hbounds : (0 ≤ (n.toNat : Int) && (n.toNat : Int) < 0x100000000) = true := by
    simp
    omega
  simp only [heq, hbounds, ↓reduceIte, Int.toNat_natCast, UInt32.ofNat_toNat]

end Numbers

end Lexicon.Json
