import Lexicon.Proofs.HeadwordIds

/-!
# Quoted texts to their closing quote

What stands between quotes is well formed whether or not it is a text: an escape may write half a
character. Passing over it ends at the closing quote. Reading it ends there as well, or fails, and
which text is read does not depend on what follows the quote.
-/

namespace Lexicon.Json

/-- A reading ends with the value in front of the rest, or fails if there is none. -/
def Results {α : Type} {bound : ℕ} (e : Except Failure (Read α bound)) (o : Option α)
    (rest : List Char) : Prop :=
  match o with
  | some a => ∃ h, e = .ok ⟨a, rest, h⟩
  | none => ∃ f, e = .error f

/-- What may stand between quotes: characters other than quotes, backslashes and control characters,
and escapes by a letter or by four hexadecimal digits. -/
inductive Letters : List Char → Prop
  | nil : Letters []
  | raw {c w} (hq : c ≠ '"') (hb : c ≠ '\\') (hc : 0x20 ≤ c.toNat) (h : Letters w) : Letters (c :: w)
  | short {e w} (he : (shortEscape? e).isSome) (h : Letters w) : Letters ('\\' :: e :: w)
  | code {p q r s n w} (hn : hexValue? p q r s = some n) (h : Letters w) :
      Letters ('\\' :: 'u' :: p :: q :: r :: s :: w)

/-- What spells a text may stand between quotes. -/
theorem Spells.letters {cs w : List Char} (h : Spells cs w) : Letters w := by
  induction h with
  | nil => exact .nil
  | raw hq hb hc _ ih => exact .raw hq hb hc ih
  | short he _ ih => exact .short (Option.isSome_iff_exists.mpr ⟨_, he⟩) ih
  | code hc _ ih => exact .code hc ih
  | halves hhigh _ hlow _ _ _ ih => exact .code hhigh (.code hlow ih)

section Passing
variable {w rest : List Char}

/-- The text is passed over up to the quote that closes it, behind which the rest stands. -/
def Passes (s rest : List Char) : Prop :=
  ∀ ⦃bound : Nat⦄ (h : s.length < bound), ∃ h',
    skipCharacters s h = .ok (⟨rest, h'⟩ : { r : List Char // r.length < bound })

theorem passes_quote (rest : List Char) : Passes ('"' :: rest) rest := by
  intro bound h
  have hclose : skipCharacter ('"' :: rest) = .ok (.close rest (length_lt_succ rest)) := rfl
  refine ⟨Nat.lt_trans (length_lt_succ rest) h, ?_⟩
  rw [skipCharacters, hclose]

theorem Passes.cons {s s' : List Char} (h : Passes s' rest)
    (hnext : ∃ h', skipCharacter s = .ok (.character () s' h')) : Passes s rest := by
  intro bound hs
  obtain ⟨hs', hnext⟩ := hnext
  obtain ⟨h', hrest⟩ := h (Nat.lt_trans hs' hs)
  refine ⟨h', ?_⟩
  rw [skipCharacters, hnext]
  exact hrest

theorem skipCharacter_escape {s : List Char} {h'} (h : skipEscape s = .ok ⟨rest, h'⟩) :
    ∃ h'', skipCharacter ('\\' :: s) = .ok (.character () rest h'') := by
  refine ⟨Nat.lt_succ_of_lt h', ?_⟩
  simp [skipCharacter, h]

theorem skipEscape_short {e : Char} (he : (shortEscape? e).isSome) (rest : List Char) :
    skipEscape (e :: rest) = .ok ⟨rest, length_lt_succ rest⟩ := by
  have hu : e ≠ 'u' := by
    rintro rfl
    cases he
  simp only [skipEscape, if_neg hu, if_pos he]

theorem skipEscape_code {p q r s : Char} {n : Nat} (hn : hexValue? p q r s = some n)
    (rest : List Char) : ∃ h, skipEscape ('u' :: p :: q :: r :: s :: rest) = .ok ⟨rest, h⟩ := by
  obtain ⟨h, hhex⟩ := readHex_eq hn rest
  refine ⟨Nat.lt_succ_of_lt h, ?_⟩
  simp [skipEscape, hhex]

/-- What stands between quotes is passed over. -/
theorem Letters.passes (hw : Letters w) (rest : List Char) : Passes (w ++ '"' :: rest) rest := by
  induction hw with
  | nil => exact passes_quote rest
  | raw hq hb hc _ ih =>
      refine ih.cons ⟨length_lt_succ _, ?_⟩
      simp only [List.cons_append, skipCharacter, if_neg hq, if_neg hb, if_neg (Nat.not_lt.mpr hc)]
  | short he _ ih => exact ih.cons (skipCharacter_escape (skipEscape_short he _))
  | code hn _ ih =>
      obtain ⟨_, hcode⟩ := skipEscape_code hn _
      exact ih.cons (skipCharacter_escape hcode)

end Passing

section Reading
variable {w rest : List Char}

/-- The text cannot be read to the quote that closes it. -/
def Breaks (s : List Char) : Prop :=
  ∀ (done : List Char) ⦃bound : Nat⦄ (h : s.length < bound),
    ∃ f, (readCharacters done s h : Except Failure (Read String bound)) = .error f

theorem Breaks.cons {c : Char} {s s' : List Char} (h : Breaks s')
    (hnext : ∃ h', nextCharacter s = .ok (.character c s' h')) : Breaks s := by
  intro done bound hs
  obtain ⟨hs', hnext⟩ := hnext
  obtain ⟨f, hrest⟩ := h (c :: done) (Nat.lt_trans hs' hs)
  refine ⟨f, ?_⟩
  rw [readCharacters, hnext]
  exact hrest

theorem breaks_of_next {s : List Char} {f : Failure} (h : nextCharacter s = .error f) :
    Breaks s := by
  intro done bound hs
  refine ⟨f, ?_⟩
  rw [readCharacters, h]

/-- The first letters are one character, whatever stands behind the letters, or none. -/
def Letters.Steps (w : List Char) : Prop :=
  (∃ c w', Letters w' ∧ w'.length < w.length ∧ ∀ rest, ∃ h,
      nextCharacter (w ++ '"' :: rest) = .ok (.character c (w' ++ '"' :: rest) h)) ∨
    ∀ rest, ∃ f, nextCharacter (w ++ '"' :: rest) = .error f

theorem nextCharacter_escape_error {s : List Char} {f : Failure} (h : readEscape s = .error f) :
    nextCharacter ('\\' :: s) = .error f := by
  simp [nextCharacter, h]

theorem readEscape_code_error {s : List Char} {f : Failure} (h : readCodeEscape s = .error f) :
    readEscape ('u' :: s) = .error f := by
  simp [readEscape, h]

variable {p q r s p' q' r' s' : Char} {n m : Nat}

/-- A second half comes to nothing by itself. -/
theorem readCodeEscape_low (hn : hexValue? p q r s = some n) (h : 0xDC00 ≤ n ∧ n ≤ 0xDFFF)
    (rest : List Char) :
    readCodeEscape (p :: q :: r :: s :: rest) = .error (.here .loneSurrogate rest) := by
  obtain ⟨_, hhex⟩ := readHex_eq hn rest
  rw [readCodeEscape, hhex]
  simp only [h, decide_true, Bool.and_self, ↓reduceIte]

/-- Nor does a first half that no escape by code point follows. -/
theorem readCodeEscape_high (hn : hexValue? p q r s = some n) (h : 0xD800 ≤ n ∧ n < 0xDC00)
    {rest : List Char} (hrest : ∀ t, rest ≠ '\\' :: 'u' :: t) :
    ∃ f, readCodeEscape (p :: q :: r :: s :: rest) = .error f := by
  obtain ⟨_, hhex⟩ := readHex_eq hn rest
  have hlow : (decide (0xDC00 ≤ n) && decide (n ≤ 0xDFFF)) = false := by
    simp only [Bool.and_eq_false_imp, decide_eq_true_eq, decide_eq_false_iff_not]
    omega
  have hhigh : (decide (n < 0xD800) || decide (0xDBFF < n)) = false := by
    simp only [Bool.or_eq_false_iff, decide_eq_false_iff_not]
    omega
  rw [readCodeEscape, hhex]
  simp only [hlow, hhigh, Bool.false_eq_true, ↓reduceIte]
  split
  · exact ⟨_, rfl⟩
  · exact ⟨_, rfl⟩
  · exact absurd rfl (hrest _)
  · exact ⟨_, rfl⟩
  · exact ⟨_, rfl⟩

/-- Two halves are one character, or nothing if they do not match. -/
theorem readCodeEscape_pair (hn : hexValue? p q r s = some n) (h : 0xD800 ≤ n ∧ n < 0xDC00)
    (hm : hexValue? p' q' r' s' = some m) :
    (∃ c, ∀ rest, ∃ h, readCodeEscape
        (p :: q :: r :: s :: '\\' :: 'u' :: p' :: q' :: r' :: s' :: rest) = .ok ⟨(c, rest), h⟩) ∨
      ∀ rest, ∃ f, readCodeEscape
        (p :: q :: r :: s :: '\\' :: 'u' :: p' :: q' :: r' :: s' :: rest) = .error f := by
  by_cases hmatch : 0xDC00 ≤ m ∧ m ≤ 0xDFFF
  · exact .inl ⟨_, fun rest => readCodeEscape_matched hn h hm hmatch rest⟩
  · refine .inr fun rest => ⟨.here .loneSurrogate rest, ?_⟩
    obtain ⟨_, hfirst⟩ := readHex_eq hn ('\\' :: 'u' :: p' :: q' :: r' :: s' :: rest)
    obtain ⟨_, hsecond⟩ := readHex_eq hm rest
    have hlow : (decide (0xDC00 ≤ n) && decide (n ≤ 0xDFFF)) = false := by
      simp only [Bool.and_eq_false_imp, decide_eq_true_eq, decide_eq_false_iff_not]
      omega
    have hhigh : (decide (n < 0xD800) || decide (0xDBFF < n)) = false := by
      simp only [Bool.or_eq_false_iff, decide_eq_false_iff_not]
      omega
    have hlone : (decide (m < 0xDC00) || decide (0xDFFF < m)) = true := by
      simp only [Bool.or_eq_true, decide_eq_true_eq]
      omega
    rw [readCodeEscape, hfirst]
    simp only [hlow, hhigh, hsecond, hlone, Bool.false_eq_true, ↓reduceIte]

/-- An escape by code point, with the one behind it if they are two halves. -/
theorem Letters.steps_code (hn : hexValue? p q r s = some n) (hw : Letters w) :
    Letters.Steps ('\\' :: 'u' :: p :: q :: r :: s :: w) := by
  by_cases hwhole : n < 0xD800 ∨ 0xDFFF < n
  · refine .inl ⟨Char.ofNat n, w, hw, by simp only [List.length_cons]; omega, fun rest => ?_⟩
    obtain ⟨_, hcode⟩ := readCodeEscape_whole hn hwhole (w ++ '"' :: rest)
    obtain ⟨_, hescape⟩ := readEscape_code hcode
    exact nextCharacter_escape hescape
  have hfails : (∀ rest, ∃ f, readCodeEscape (p :: q :: r :: s :: (w ++ '"' :: rest)) = .error f) →
      Letters.Steps ('\\' :: 'u' :: p :: q :: r :: s :: w) := by
    refine fun h => .inr fun rest => ?_
    obtain ⟨f, hcode⟩ := h rest
    exact ⟨f, nextCharacter_escape_error (readEscape_code_error hcode)⟩
  by_cases hlow : 0xDC00 ≤ n
  · exact hfails fun rest => ⟨_, readCodeEscape_low hn ⟨hlow, by omega⟩ _⟩
  have hhigh : 0xD800 ≤ n ∧ n < 0xDC00 := by omega
  cases hw with
  | nil => exact hfails fun rest => readCodeEscape_high hn hhigh (by simp)
  | raw _ hb _ _ => exact hfails fun rest => readCodeEscape_high hn hhigh (by simp [hb])
  | @short e w he _ =>
      have hu : e ≠ 'u' := by
        rintro rfl
        cases he
      exact hfails fun rest => readCodeEscape_high hn hhigh (by simp [hu])
  | code hm hw =>
      rcases readCodeEscape_pair hn hhigh hm with ⟨c, hpair⟩ | hpair
      · refine .inl ⟨c, _, hw, by simp only [List.length_cons]; omega, fun rest => ?_⟩
        obtain ⟨_, hcode⟩ := hpair _
        obtain ⟨_, hescape⟩ := readEscape_code hcode
        exact nextCharacter_escape hescape
      · exact hfails fun rest => hpair _

theorem Letters.steps (hw : Letters w) (hne : w ≠ []) : Letters.Steps w := by
  cases hw with
  | nil => exact absurd rfl hne
  | raw hq hb hc hw =>
      exact .inl ⟨_, _, hw, by simp, fun rest => ⟨length_lt_succ _, nextCharacter_raw hq hb hc _⟩⟩
  | short he hw =>
      obtain ⟨c, hc⟩ := Option.isSome_iff_exists.mp he
      refine .inl ⟨c, _, hw, by simp only [List.length_cons]; omega, fun rest => ?_⟩
      obtain ⟨_, hescape⟩ := readEscape_short hc _
      exact nextCharacter_escape hescape
  | code hn hw => exact hw.steps_code hn

/-- What stands between quotes is read as a text, the same whatever follows, or cannot be read. -/
theorem Letters.closes_or_breaks (hw : Letters w) :
    (∃ cs, ∀ rest, Closes (w ++ '"' :: rest) cs rest) ∨ ∀ rest, Breaks (w ++ '"' :: rest) := by
  generalize hn : w.length = n
  induction n using Nat.strongRecOn generalizing w with
  | ind n ih =>
      by_cases hne : w = []
      · subst hne
        exact .inl ⟨[], closes_quote⟩
      rcases hw.steps hne with ⟨c, w', hw', hlt, hnext⟩ | hnext
      · rcases ih w'.length (hn ▸ hlt) hw' rfl with ⟨cs, hcs⟩ | hbreaks
        · exact .inl ⟨c :: cs, fun rest => (hcs rest).cons (hnext rest)⟩
        · exact .inr fun rest => (hbreaks rest).cons (hnext rest)
      · refine .inr fun rest => ?_
        obtain ⟨f, hf⟩ := hnext rest
        exact breaks_of_next hf

/-- The text that letters write, if they write one. -/
def textOf? (w : List Char) : Option String :=
  match readTextBody (w ++ ['"']) with
  | .ok r => some r.value
  | .error _ => none

/-- Behind its opening quote, a text is read as the one that its letters write. -/
theorem Letters.results (hw : Letters w) (rest : List Char) :
    Results (readTextBody (w ++ '"' :: rest)) (textOf? w) rest := by
  rcases hw.closes_or_breaks with ⟨cs, hcs⟩ | hbreaks
  · have hbody : ∀ rest, ∃ h,
        readTextBody (w ++ '"' :: rest) = .ok ⟨String.ofList cs, rest, h⟩ := fun rest =>
      hcs rest [] (length_lt_succ _)
    obtain ⟨_, halone⟩ := hbody []
    rw [textOf?, halone]
    exact hbody rest
  · have hbody : ∀ rest, ∃ f, readTextBody (w ++ '"' :: rest) = .error f := fun rest =>
      hbreaks rest [] (length_lt_succ _)
    obtain ⟨_, halone⟩ := hbody []
    rw [textOf?, halone]
    exact hbody rest

end Reading

end Lexicon.Json
