import Lexicon.Proofs.Nodes
import Mathlib.Data.List.TakeWhile

/-!
# Accepted tokens

What the readers of the smallest parts accept is well formed: what is read or passed over up to the
closing quote is what may stand between quotes, and a number that is read or passed over is a number
literal.
-/

namespace Lexicon.Json

open Unicode (isAsciiDigit)

section Texts
variable {s s' rest : List Char} {bound : ℕ}

/-- One or two letters stand in front of the text that is left. -/
def Lettered (s s' : List Char) : Prop := ∃ v, s = v ++ s' ∧ ∀ w, Letters w → Letters (v ++ w)

theorem readHex_eq_ok {r} (h : readHex s = .ok r) :
    ∃ a b c d, hexValue? a b c d = some r.val.1 ∧ s = a :: b :: c :: d :: r.val.2 := by
  unfold readHex at h
  split at h
  · rename_i a b c d rest
    split at h
    · rename_i n hn
      cases h
      exact ⟨a, b, c, d, hn, rfl⟩
    · cases h
  · split at h <;> cases h

theorem lettered_code {r} (h : readHex s = .ok r) : Lettered ('\\' :: 'u' :: s) r.val.2 := by
  obtain ⟨a, b, c, d, hn, hs⟩ := readHex_eq_ok h
  exact ⟨['\\', 'u', a, b, c, d], congrArg (fun t => '\\' :: 'u' :: t) hs, fun w hw => .code hn hw⟩

theorem lettered_short {e : Char} (he : (shortEscape? e).isSome) (s : List Char) :
    Lettered ('\\' :: e :: s) s :=
  ⟨['\\', e], rfl, fun _ hw => .short he hw⟩

theorem lettered_raw {c : Char} (hq : c ≠ '"') (hb : c ≠ '\\') (hc : ¬c.toNat < 0x20)
    (s : List Char) : Lettered (c :: s) s :=
  ⟨[c], rfl, fun _ hw => .raw hq hb (Nat.not_lt.mp hc) hw⟩

theorem Lettered.trans {s'' : List Char} (h : Lettered s s') (h' : Lettered s' s'') :
    Lettered s s'' := by
  obtain ⟨v, rfl, hv⟩ := h
  obtain ⟨v', rfl, hv'⟩ := h'
  exact ⟨v ++ v', by simp, fun w hw => by simpa using hv _ (hv' w hw)⟩

theorem Lettered.exists_letters (h : Lettered s s')
    (hs' : ∃ w, Letters w ∧ s' = w ++ '"' :: rest) : ∃ w, Letters w ∧ s = w ++ '"' :: rest := by
  obtain ⟨v, rfl, hv⟩ := h
  obtain ⟨w, hw, rfl⟩ := hs'
  exact ⟨v ++ w, hv w hw, by simp⟩

theorem readCodeEscape_eq_ok {r} (h : readCodeEscape s = .ok r) :
    Lettered ('\\' :: 'u' :: s) r.val.2 := by
  unfold readCodeEscape at h
  split at h
  · cases h
  · rename_i n rest _ hhex
    have hfirst := lettered_code hhex
    split_ifs at h
    · cases h
      exact hfirst
    · split at h
      · cases h
      · cases h
      · rename_i rest' _
        split at h
        · cases h
        · rename_i hhex'
          split_ifs at h
          obtain rfl := Except.ok.inj h
          exact hfirst.trans (lettered_code hhex')
      · cases h
      · cases h

theorem readEscape_eq_ok {r} (h : readEscape s = .ok r) : Lettered ('\\' :: s) r.val.2 := by
  unfold readEscape at h
  split at h
  · cases h
  · rename_i e rest
    split_ifs at h with hu
    · subst hu
      split at h
      · rename_i hcode
        cases h
        exact readCodeEscape_eq_ok hcode
      · cases h
    · split at h
      · rename_i c he
        cases h
        exact lettered_short (Option.isSome_iff_exists.mpr ⟨c, he⟩) _
      · cases h

theorem skipEscape_eq_ok {r} (h : skipEscape s = .ok r) : Lettered ('\\' :: s) r.val := by
  unfold skipEscape at h
  split at h
  · cases h
  · rename_i e rest
    split_ifs at h with hu he
    · subst hu
      split at h
      · rename_i hhex
        cases h
        exact lettered_code hhex
      · cases h
    · cases h
      exact lettered_short he _

/-- What a text goes on with is letters, or the quote that closes it. -/
def Continues {α : Type} : TextPart α s → Prop
  | .close rest _ => s = '"' :: rest
  | .character _ rest _ => Lettered s rest

theorem nextCharacter_eq_ok {p} (h : nextCharacter s = .ok p) : Continues p := by
  unfold nextCharacter at h
  split at h
  · cases h
  · rename_i c rest
    split_ifs at h with hq hb hc
    · cases h
      exact congrArg (· :: rest) hq
    · subst hb
      split at h
      · rename_i hescape
        cases h
        exact readEscape_eq_ok hescape
      · cases h
    · cases h
      exact lettered_raw hq hb hc rest

theorem skipCharacter_eq_ok {p} (h : skipCharacter s = .ok p) : Continues p := by
  unfold skipCharacter at h
  split at h
  · cases h
  · rename_i c rest
    split_ifs at h with hq hb hc
    · cases h
      exact congrArg (· :: rest) hq
    · subst hb
      split at h
      · rename_i hescape
        cases h
        exact skipEscape_eq_ok hescape
      · cases h
    · cases h
      exact lettered_raw hq hb hc rest

/-- What is read up to the closing quote may stand between quotes. -/
theorem readCharacters_eq_ok {done : List Char} {h : s.length < bound} {r : Read String bound}
    (hread : readCharacters done s h = .ok r) : ∃ w, Letters w ∧ s = w ++ '"' :: r.rest := by
  fun_induction readCharacters done s h with
  | case1 => cases hread
  | case2 done s h rest h' hnext =>
      cases hread
      exact ⟨[], .nil, nextCharacter_eq_ok hnext⟩
  | case3 done s h c rest h' hnext ih => exact (nextCharacter_eq_ok hnext).exists_letters (ih hread)

theorem readTextBody_eq_ok {r} (h : readTextBody s = .ok r) :
    ∃ w, Letters w ∧ s = w ++ '"' :: r.rest :=
  readCharacters_eq_ok h

/-- So may what is passed over. -/
theorem skipCharacters_eq_ok {h : s.length < bound} {r : { r : List Char // r.length < bound }}
    (hskip : skipCharacters s h = .ok r) : ∃ w, Letters w ∧ s = w ++ '"' :: r.val := by
  fun_induction skipCharacters s h with
  | case1 => cases hskip
  | case2 s h rest h' hnext =>
      cases hskip
      exact ⟨[], .nil, skipCharacter_eq_ok hnext⟩
  | case3 s h rest h' hnext ih => exact (skipCharacter_eq_ok hnext).exists_letters (ih hskip)

end Texts

section Numbers
variable {s ds : List Char} {c : Char} {negative : Bool} {significand : ℕ} {scale : ℤ}

/-- In front of a text there are as many digits as are counted. -/
theorem exists_skipDigits (s : List Char) : ∃ ds, (∀ d ∈ ds, isAsciiDigit d = true) ∧
    s = ds ++ (skipDigits s).rest ∧ (skipDigits s).count = ds.length ∧
      ((∃ c ∈ s.head?, isAsciiDigit c = true) → ds ≠ []) := by
  refine ⟨s.takeWhile isAsciiDigit, fun d hd => List.mem_takeWhile_imp hd,
    List.takeWhile_append_dropWhile.symm, rfl, ?_⟩
  rintro ⟨c, hc, hdigit⟩
  cases s with
  | nil => cases hc
  | cons d rest =>
      obtain rfl : d = c := Option.some.inj hc
      simp [hdigit]

theorem exists_taken (value count : ℕ) (s : List Char) : ∃ ds, (∀ d ∈ ds, isAsciiDigit d = true) ∧
    s = ds ++ (takeSignificand value count s).2.2.val ∧
    (takeSignificand value count s).2.1 = count + ds.length := by
  induction s generalizing value count with
  | nil => exact ⟨[], by simp, rfl, rfl⟩
  | cons c rest ih =>
      rw [takeSignificand]
      simp only
      split_ifs with hnext
      · obtain ⟨hc, -⟩ := Bool.and_eq_true_iff.mp hnext
        obtain ⟨ds, hds, hs, hcount⟩ := ih (value * 10 + (c.toNat - '0'.toNat)) (count + 1)
        have hlength : count + 1 + ds.length = count + (c :: ds).length := by
          rw [List.length_cons]
          omega
        exact ⟨c :: ds, List.forall_mem_cons.mpr ⟨hc, hds⟩, congrArg (c :: ·) hs,
          hcount.trans hlength⟩
      · exact ⟨[], by simp, rfl, rfl⟩

/-- A text whose digits stand behind a sign, if there is one, goes on with an exponent. -/
theorem exists_exponentText (hc : c = 'e' ∨ c = 'E') {s' rest : List Char}
    (hs : s = s' ∨ s = '+' :: s' ∨ s = '-' :: s') (hs' : s' = ds ++ rest) (hne : ds ≠ [])
    (hds : ∀ d ∈ ds, isAsciiDigit d = true) :
    ∃ exponent, c :: s = exponentText exponent ++ rest := by
  have hexponent : ∀ sign, ∃ exponent, exponentText exponent =
      c :: (⟨c, hc, sign, ⟨ds, hne, hds⟩⟩ : ExponentPart).tail := fun sign =>
    ⟨some ⟨c, hc, sign, ⟨ds, hne, hds⟩⟩, rfl⟩
  subst hs'
  rcases hs with rfl | rfl | rfl
  · obtain ⟨exponent, h⟩ := hexponent none
    exact ⟨exponent, by rw [h]; rfl⟩
  · obtain ⟨exponent, h⟩ := hexponent (some false)
    exact ⟨exponent, by rw [h]; rfl⟩
  · obtain ⟨exponent, h⟩ := hexponent (some true)
    exact ⟨exponent, by rw [h]; rfl⟩

theorem skipExponent_eq_ok (hc : c = 'e' ∨ c = 'E') {r} (h : skipExponent s = .ok r) :
    ∃ exponent, c :: s = exponentText exponent ++ r.val := by
  unfold skipExponent at h
  split at h
  rename_i s' hle hsign
  have hs : s = s' ∨ s = '+' :: s' ∨ s = '-' :: s' := by
    split at hsign
    · cases hsign
      exact .inr (.inl rfl)
    · cases hsign
      exact .inr (.inr rfl)
    · cases hsign
      exact .inl rfl
  obtain ⟨ds, hds, hs', hcount, -⟩ := exists_skipDigits s'
  simp only at h
  split_ifs at h with hzero
  obtain rfl := Except.ok.inj h
  refine exists_exponentText hc hs hs' ?_ hds
  rintro rfl
  exact hzero hcount

theorem skipScale_eq_ok {r} (h : skipScale s = .ok r) :
    ∃ exponent, s = exponentText exponent ++ r.val := by
  unfold skipScale at h
  split at h
  · rename_i c rest
    split_ifs at h with hletter
    · split at h
      · rename_i hexponent
        cases h
        exact skipExponent_eq_ok (by simpa using hletter) hexponent
      · cases h
    · cases h
      exact ⟨none, rfl⟩
  · cases h
    exact ⟨none, rfl⟩

theorem readExponent_eq_ok (hc : c = 'e' ∨ c = 'E') {r}
    (h : readExponent negative significand scale s = .ok r) :
    ∃ exponent, c :: s = exponentText exponent ++ r.val.2 := by
  unfold readExponent at h
  split at h
  rename_i shrinks s' hle hsign
  have hs : s = s' ∨ s = '+' :: s' ∨ s = '-' :: s' := by
    split at hsign
    · cases hsign
      exact .inr (.inl rfl)
    · cases hsign
      exact .inr (.inr rfl)
    · cases hsign
      exact .inl rfl
  split at h
  · cases h
  · rename_i d rest _
    by_cases hd : isAsciiDigit d = true
    · rw [if_pos hd] at h
      have hds : ∀ e ∈ (d :: rest).takeWhile isAsciiDigit, isAsciiDigit e = true :=
        fun e he => List.mem_takeWhile_imp he
      have hne : (d :: rest).takeWhile isAsciiDigit ≠ [] := by simp [hd]
      have hs' : d :: rest =
          (d :: rest).takeWhile isAsciiDigit ++ (d :: rest).dropWhile isAsciiDigit :=
        List.takeWhile_append_dropWhile.symm
      have hall := exists_exponentText hc hs hs' hne hds
      simp only at h
      split at h
      · split at h
        · obtain rfl := Except.ok.inj h
          exact hall
        · cases h
      · split_ifs at h
        obtain rfl := Except.ok.inj h
        exact hall
    · rw [if_neg hd] at h
      cases h

theorem finishNumber_eq_ok {r} (h : finishNumber negative significand scale s = .ok r) :
    r.val.2 = s := by
  unfold finishNumber at h
  split at h
  · obtain rfl := Except.ok.inj h
    rfl
  · cases h

theorem readScale_eq_ok {r} (h : readScale negative significand scale s = .ok r) :
    ∃ exponent, s = exponentText exponent ++ r.val.2 := by
  unfold readScale at h
  split at h
  · rename_i c rest
    split_ifs at h with hletter
    · split at h
      · rename_i hexponent
        cases h
        exact readExponent_eq_ok (by simpa using hletter) hexponent
      · cases h
    · exact ⟨none, (finishNumber_eq_ok h).symm⟩
  · exact ⟨none, (finishNumber_eq_ok h).symm⟩

/-- What is made into a number behind digits may be written as an exponent. -/
theorem finish_eq_ok {value count : ℕ} {text : List Char} {hle : text.length ≤ s.length} {r}
    (hs : s = ds ++ text) (hne : ds ≠ []) (hds : ∀ d ∈ ds, isAsciiDigit d = true)
    (h : readFraction.finish negative scale s value count text hle = .ok r) :
    ∃ (digits : Digits) (exponent : Option ExponentPart),
      s = digits.chars ++ (exponentText exponent ++ r.val.2) := by
  unfold readFraction.finish at h
  split at h
  · rename_i hscale
    cases h
    obtain ⟨exponent, htext⟩ := readScale_eq_ok hscale
    exact ⟨⟨ds, hne, hds⟩, exponent, hs.trans (congrArg (ds ++ ·) htext)⟩
  · cases h

theorem readFraction_eq_ok {r} (h : readFraction negative significand scale s = .ok r) :
    ∃ (digits : Digits) (exponent : Option ExponentPart),
      s = digits.chars ++ (exponentText exponent ++ r.val.2) := by
  obtain ⟨ds, hds, hs, hcount⟩ := exists_taken significand 0 s
  unfold readFraction at h
  generalize takeSignificand significand 0 s = taken at *
  obtain ⟨value, count, text, hle⟩ := taken
  simp only [Nat.zero_add] at hs hcount h
  have hne : count ≠ 0 → ds ≠ [] := by
    rintro hcount' rfl
    exact hcount' hcount
  split at h
  · split_ifs at h with hzero
    exact finish_eq_ok hs (hne hzero) hds h
  · rename_i c rest hle
    split_ifs at h with hc hzero
    · -- Digits that no longer fit are passed over.
      obtain ⟨ds', hds', hs', -, hne'⟩ := exists_skipDigits (c :: rest)
      have htext : s = (ds ++ ds') ++ (skipDigits (c :: rest)).rest := by
        rw [List.append_assoc, ← hs']
        exact hs
      have hall : ds ++ ds' ≠ [] := List.append_ne_nil_of_right_ne_nil ds (hne' ⟨c, rfl, hc⟩)
      exact finish_eq_ok htext hall (List.forall_mem_append.mpr ⟨hds, hds'⟩) h
    · exact finish_eq_ok hs (hne hzero) hds h

theorem readTail_eq_ok {dropped : ℕ} {r} (h : readTail negative significand dropped s = .ok r) :
    ∃ (fraction : Option Digits) (exponent : Option ExponentPart),
      s = fractionText fraction ++ (exponentText exponent ++ r.val.2) := by
  unfold readTail at h
  split at h
  · split at h
    · rename_i hfraction
      cases h
      obtain ⟨digits, exponent, hs⟩ := readFraction_eq_ok hfraction
      exact ⟨some digits, exponent, congrArg ('.' :: ·) hs⟩
    · cases h
  · simp only at h
    split_ifs at h
    · obtain rfl := Except.ok.inj h
      exact ⟨none, none, rfl⟩
    · obtain rfl := Except.ok.inj h
      exact ⟨none, none, rfl⟩
    · obtain ⟨exponent, hs⟩ := readScale_eq_ok h
      exact ⟨none, exponent, hs⟩

/-- Digits without a needless zero, a fraction and an exponent are a number literal. -/
theorem exists_literal (negative : Bool) (hc : isAsciiDigit c = true)
    (hds : ∀ d ∈ ds, isAsciiDigit d = true) (hzero : c = '0' → ds = []) (fraction : Option Digits)
    (exponent : Option ExponentPart) (rest : List Char) :
    ∃ l : NumberLiteral, l.negative = negative ∧
      l.unsigned ++ rest = c :: ds ++ (fractionText fraction ++ (exponentText exponent ++ rest)) := by
  refine ⟨⟨negative, ⟨c :: ds, by simp, List.forall_mem_cons.mpr ⟨hc, hds⟩⟩, ?_, fraction, exponent⟩,
    rfl, ?_⟩
  · intro hhead
    obtain rfl : c = '0' := by simpa using hhead
    exact congrArg ('0' :: ·) (hzero rfl)
  · simp [NumberLiteral.unsigned]

theorem readDigits_eq_ok {rest : List Char} {r} (h : readDigits negative c rest = .ok r) :
    ∃ l : NumberLiteral, l.negative = negative ∧ c :: rest = l.unsigned ++ r.val.2 := by
  unfold readDigits at h
  split_ifs at h with hzero hhead hc
  · obtain ⟨fraction, exponent, hs⟩ := readTail_eq_ok h
    obtain ⟨l, hl, hspelling⟩ := @exists_literal [] c negative (by rw [hzero]; rfl) (by simp)
      (fun _ => rfl) fraction exponent r.val.2
    exact ⟨l, hl, by rw [hspelling, ← hs]; rfl⟩
  · obtain ⟨ds, hds, hs, -⟩ := exists_taken (c.toNat - '0'.toNat) 1 rest
    generalize takeSignificand (c.toNat - '0'.toNat) 1 rest = taken at *
    obtain ⟨value, count, text, hle⟩ := taken
    simp only at hs h
    obtain ⟨ds', hds', hs', -⟩ := exists_skipDigits text
    split at h
    · rename_i htail
      cases h
      obtain ⟨fraction, exponent, htext⟩ := readTail_eq_ok htail
      obtain ⟨l, hl, hspelling⟩ := exists_literal negative hc
        (List.forall_mem_append.mpr ⟨hds, hds'⟩) (fun h => absurd h hzero) fraction exponent _
      refine ⟨l, hl, ?_⟩
      rw [hspelling, ← htext, List.cons_append, List.append_assoc, ← hs']
      exact congrArg (c :: ·) hs
    · cases h

theorem readUnsigned_eq_ok {r} (h : readUnsigned negative s = .ok r) :
    ∃ l : NumberLiteral, l.negative = negative ∧ s = l.unsigned ++ r.val.2 := by
  unfold readUnsigned at h
  split at h
  · cases h
  · split at h
    · rename_i hdigits
      cases h
      exact readDigits_eq_ok hdigits
    · cases h

/-- A number that is read is a number literal. -/
theorem readNumberAt_eq_ok {r} (h : readNumberAt c s = some (.ok r)) :
    ∃ l : NumberLiteral, c :: s = l.spelling ++ r.rest := by
  unfold readNumberAt at h
  split_ifs at h with hminus hc
  · have h := Option.some.inj h
    split at h
    · rename_i hnumber
      cases h
      obtain ⟨l, hl, hs⟩ := readUnsigned_eq_ok hnumber
      refine ⟨l, ?_⟩
      rw [NumberLiteral.spelling, hl, hminus]
      exact congrArg ('-' :: ·) hs
    · cases h
  · have h := Option.some.inj h
    split at h
    · rename_i hnumber
      cases h
      obtain ⟨l, hl, hs⟩ := readDigits_eq_ok hnumber
      refine ⟨l, ?_⟩
      rw [NumberLiteral.spelling, hl]
      exact hs
    · cases h

/-- So is a number that is passed over, whatever its sign. -/
theorem skipNumber_eq_ok (negative : Bool) {r} (h : skipNumber s = .ok r) :
    ∃ l : NumberLiteral, l.negative = negative ∧ s = l.unsigned ++ r.val := by
  obtain ⟨ds, hds, hs, hcount, -⟩ := exists_skipDigits s
  unfold skipNumber at h
  simp only at h
  split_ifs at h with hzero hlead
  obtain ⟨c, ds, rfl⟩ : ∃ c ds', ds = c :: ds' := by
    refine List.exists_cons_of_ne_nil ?_
    rintro rfl
    exact hzero hcount
  obtain ⟨hc, hds⟩ := List.forall_mem_cons.mp hds
  have hplain : c = '0' → ds = [] := by
    rintro rfl
    have hhead : s.head? = some '0' := by rw [hs]; rfl
    simp only [hhead, hcount, List.length_cons, decide_true, Bool.true_and, decide_eq_true_eq] at hlead
    exact List.length_eq_zero_iff.mp (by omega)
  have hliteral : ∀ fraction exponent, (skipDigits s).rest =
      fractionText fraction ++ (exponentText exponent ++ r.val) →
      ∃ l : NumberLiteral, l.negative = negative ∧ s = l.unsigned ++ r.val := by
    intro fraction exponent htext
    obtain ⟨l, hl, hspelling⟩ := exists_literal negative hc hds hplain fraction exponent r.val
    exact ⟨l, hl, by rw [hspelling, ← htext]; exact hs⟩
  split at h
  · rename_i rest _ hrest _
    split_ifs at h with hnone
    split at h
    · rename_i hscale
      cases h
      obtain ⟨digits, hdigits, htext, hcount', -⟩ := exists_skipDigits rest
      obtain ⟨exponent, hexponent⟩ := skipScale_eq_ok hscale
      have hne : digits ≠ [] := by
        rintro rfl
        exact hnone hcount'
      refine hliteral (some ⟨digits, hne, hdigits⟩) exponent ?_
      rw [hrest, ← hexponent]
      exact congrArg ('.' :: ·) htext
    · cases h
  · split at h
    · rename_i hscale
      cases h
      obtain ⟨exponent, hexponent⟩ := skipScale_eq_ok hscale
      exact hliteral none exponent hexponent
    · cases h

end Numbers

section Scalars
variable {s : List Char} {c : Char}

theorem readWord_eq_ok {word : List Char} {r} (h : readWord word s = .ok r) : s = word ++ r.val := by
  induction word generalizing s with
  | nil =>
      cases h
      rfl
  | cons d word ih =>
      cases s with
      | nil => cases h
      | cons c rest =>
          rw [readWord] at h
          split_ifs at h with hc
          split at h
          · rename_i hrest
            cases h
            rw [hc]
            exact congrArg (d :: ·) (ih hrest)
          · cases h

/-- What is passed over as a value that is no list and no record is a token. -/
theorem skipScalar_eq_ok {r} (h : skipScalar c s = .ok r) : ∃ w, Token w ∧ c :: s = w ++ r.val := by
  unfold skipScalar at h
  split_ifs at h with hn ht hf hminus hdigit hquote
  · exact ⟨_, .null, by rw [hn]; exact congrArg ('n' :: ·) (readWord_eq_ok h)⟩
  · exact ⟨_, .yes, by rw [ht]; exact congrArg ('t' :: ·) (readWord_eq_ok h)⟩
  · exact ⟨_, .no, by rw [hf]; exact congrArg ('f' :: ·) (readWord_eq_ok h)⟩
  · split at h
    · rename_i hnumber
      cases h
      obtain ⟨l, hl, hs⟩ := skipNumber_eq_ok true hnumber
      refine ⟨_, .number l, ?_⟩
      rw [NumberLiteral.spelling, hl, hminus]
      exact congrArg ('-' :: ·) hs
    · cases h
  · split at h
    · rename_i hnumber
      cases h
      obtain ⟨l, hl, hs⟩ := skipNumber_eq_ok false hnumber
      refine ⟨_, .number l, ?_⟩
      rw [NumberLiteral.spelling, hl]
      exact hs
    · cases h
  · split at h
    · rename_i hletters
      cases h
      obtain ⟨w, hw, hs⟩ := skipCharacters_eq_ok hletters
      refine ⟨_, .text hw, ?_⟩
      rw [hquote, List.append_assoc]
      exact congrArg ('"' :: ·) hs
    · cases h

end Scalars

end Lexicon.Json
