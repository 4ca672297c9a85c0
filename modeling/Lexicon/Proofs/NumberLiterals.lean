import Lexicon.Proofs.Reading
import Lexicon.Proofs.Rounding

/-!
# Number literals

A number literal of JSON writes a decimal number, and its value is that number exactly. The reader
keeps whole numbers as they are as long as they fit, and makes every other one of a significand and
a power of ten, each rounded. For the literals below it still gives the same integer of 64 bits as
the value, if there is one, and none otherwise.
-/

namespace Lexicon.Json

open Decimal (Binary64)
open Decimal.Binary64 (OnGrid beyond)
open Unicode (isAsciiDigit)

/-- The number with a sign. -/
def withSign (negative : Bool) (q : ℚ) : ℚ := if negative then -q else q

/-- The number that a number of JSON is. -/
def Number.value : Number → ℚ
  | .integer n => n
  | .real negative x => withSign negative x.value

/-- The two numbers are the same integer of 64 bits with a sign, or neither of them is one. -/
def SameId (a b : ℚ) : Prop := ∀ i : Int64, a = i.toInt ↔ b = i.toInt

section Ids
variable {negative : Bool} {a b : ℚ} {n : ℤ} {i : Int64}

theorem ofInt_eq_some_iff : Number.toInt64?.ofInt n = some i ↔ n = i.toInt := by
  unfold Number.toInt64?.ofInt
  constructor
  · intro h
    split_ifs at h with hn
    obtain rfl := Option.some.inj h
    have hlow : Int64.minValue.toInt = -2 ^ 63 := by decide
    have hhigh : Int64.maxValue.toInt = 2 ^ 63 - 1 := by decide
    simp only [Bool.and_eq_true, decide_eq_true_eq, hlow, hhigh] at hn
    exact (Int64.toInt_ofInt_of_le hn.1 (by omega)).symm
  · rintro rfl
    simp only [Int64.minValue_le_toInt, Int64.toInt_le, decide_true, Bool.and_self, ↓reduceIte,
      Int64.ofInt_toInt]

theorem eq_natAbs_of_withSign (ha : 0 ≤ a) (h : withSign negative a = n) : a = n.natAbs := by
  have habs : |withSign negative a| = a := by
    unfold withSign
    split_ifs
    · rw [abs_neg, abs_of_nonneg ha]
    · exact abs_of_nonneg ha
  rw [Nat.cast_natAbs, Int.cast_abs, ← h, habs]

/-- The number of a headword is the integer that the number is. -/
theorem Number.toInt64?_eq_some_iff {x : Number} : x.toInt64? = some i ↔ x.value = i.toInt := by
  cases x with
  | integer n =>
      rw [Number.toInt64?, ofInt_eq_some_iff, Number.value]
      exact Int.cast_inj.symm
  | real negative x =>
      rw [Number.toInt64?, Number.value]
      cases hx : x.toNat? with
      | some n =>
          rw [Binary64.toNat?_eq_some_iff] at hx
          cases negative with
          | false => simp [ofInt_eq_some_iff, withSign, hx, ← Int.cast_inj (α := ℚ)]
          | true => simp [ofInt_eq_some_iff, withSign, hx, ← Int.cast_inj (α := ℚ)]
      | none =>
          refine iff_of_false (by simp) ?_
          intro hvalue
          have hnat := Binary64.toNat?_eq_some_iff.mpr (eq_natAbs_of_withSign x.value_nonneg hvalue)
          rw [hx] at hnat
          cases hnat

/-- With a sign, a magnitude is an integer just when it is one without it. -/
theorem sameId_withSign (ha : 0 ≤ a) (hb : 0 ≤ b) (h : ∀ n : ℕ, a = n ↔ b = n) :
    SameId (withSign negative a) (withSign negative b) := by
  intro i
  constructor
  · intro hi
    have hnat := eq_natAbs_of_withSign ha hi
    rw [← hi, hnat, (h _).mp hnat]
  · intro hi
    have hnat := eq_natAbs_of_withSign hb hi
    rw [← hi, hnat, (h _).mpr hnat]

/-- The least magnitude greater than those of the integers of 64 bits with this sign. -/
def firstBeyond (negative : Bool) : ℚ := if negative then beyond else 2 ^ 63

theorem onGrid_firstBeyond (negative : Bool) : OnGrid (firstBeyond negative) := by
  cases negative with
  | false => exact ⟨1, 63, by norm_num, by norm_num, by norm_num [firstBeyond]⟩
  | true => exact Binary64.onGrid_beyond

theorem firstBeyond_between (negative : Bool) :
    2 ^ 63 ≤ firstBeyond negative ∧ firstBeyond negative ≤ beyond := by
  cases negative <;> norm_num [firstBeyond, beyond]

theorem withSign_ne (ha : 2 ^ 63 ≤ a) (hne : negative = true → a ≠ 2 ^ 63) (i : Int64) :
    withSign negative a ≠ i.toInt := by
  have hlow : (-2 ^ 63 : ℚ) ≤ i.toInt := by exact_mod_cast Int64.le_toInt i
  have hhigh : (i.toInt : ℚ) < 2 ^ 63 := by exact_mod_cast Int64.toInt_lt i
  unfold withSign
  intro h
  split_ifs at h with hnegative
  · have hlt : 2 ^ 63 < a := lt_of_le_of_ne ha (hne hnegative).symm
    linarith
  · linarith

theorem withSign_ne_of_lt (ha : 2 ^ 63 < a) : ∀ i : Int64, withSign negative a ≠ i.toInt :=
  withSign_ne ha.le fun _ => ha.ne'

theorem withSign_ne_of_le (ha : firstBeyond negative ≤ a) :
    ∀ i : Int64, withSign negative a ≠ i.toInt := by
  refine withSign_ne ((firstBeyond_between negative).1.trans ha) ?_
  rintro rfl heq
  rw [heq] at ha
  norm_num [firstBeyond, beyond] at ha

theorem sameId_of_ne (ha : ∀ i : Int64, a ≠ i.toInt) (hb : ∀ i : Int64, b ≠ i.toInt) :
    SameId a b := fun i =>
  iff_of_false (ha i) (hb i)

end Ids

/-- The number that is given is the same integer of 64 bits as the value, or none is; where no number
is given, the value is no such integer. -/
def Gives (value : ℚ) : Except Failure Number → Prop
  | .ok n => SameId n.value value
  | .error _ => ∀ i : Int64, value ≠ i.toInt

section Parts
variable {negative : Bool} {s k : ℕ} {v : ℚ}

theorem numberOfParts_eq {x : Binary64} (hx : Binary64.ofNat s = some x) (negative : Bool) (e : ℤ)
    (rest : List Char) : numberOfParts negative s e rest =
      match x.scaleByTen e with
      | some z => .ok (.real negative z)
      | none => .error (.here .numberOutOfRange rest) := by
  rw [numberOfParts, hx]
  rfl

/-- The same of a scaled magnitude, which may be missing, and of the number that it stands for. -/
def GivesScaled (negative : Bool) (q : ℚ) : Option Binary64 → Prop
  | some z => SameId (withSign negative z.value) (withSign negative q)
  | none => ∀ i : Int64, withSign negative q ≠ i.toInt

theorem gives_numberOfParts {x : Binary64} {q : ℚ} {e : ℤ} (hx : Binary64.ofNat s = some x)
    (h : GivesScaled negative q (x.scaleByTen e)) (rest : List Char) :
    Gives (withSign negative q) (numberOfParts negative s e rest) := by
  rw [numberOfParts_eq hx]
  cases hz : x.scaleByTen e with
  | none =>
      rw [hz] at h
      exact h
  | some z =>
      rw [hz] at h
      exact h

/-- What is too great for an integer of 64 bits remains so when it is scaled up. -/
theorem givesScaled_of_great {x : Binary64} (hx : x.value = s)
    (hgreat : firstBeyond negative ≤ s * 10 ^ k) :
    GivesScaled negative (s * 10 ^ k) (x.scaleByTen k) := by
  obtain ⟨hlow, hhigh⟩ := firstBeyond_between negative
  have hten : firstBeyond negative ≤ 10 ^ 22 := hhigh.trans (by norm_num [beyond])
  cases hz : x.scaleByTen k with
  | none => exact withSign_ne_of_le hgreat
  | some z =>
      have hz' := Binary64.le_scaleByTen (onGrid_firstBeyond negative) (by linarith) hten hx hgreat hz
      exact sameId_of_ne (withSign_ne_of_le hz') (withSign_ne_of_le hgreat)

/-- A magnitude comes out as it is when it is made by scaling up, or it is too great. -/
theorem givesScaled_up {x : Binary64} (hx : x.value = s) (hgrid : OnGrid (s * 10 ^ k)) :
    GivesScaled negative (s * 10 ^ k) (x.scaleByTen k) := by
  rcases le_or_gt ((s : ℚ) * 10 ^ k) (2 ^ 63) with hle | hlt
  · obtain ⟨z, hz, hvalue⟩ := Binary64.exists_scaleByTen_of_le hx hgrid hle
    rw [hz, GivesScaled, hvalue]
    exact fun _ => Iff.rfl
  · exact givesScaled_of_great hx ((firstBeyond_between negative).2.trans (hgrid.beyond_le hlt))

/-- What is scaled down is the integer that it should be if it is of 53 bits, and it comes out as it
is if it is a magnitude and the power of ten is exact. -/
theorem givesScaled_down {x : Binary64} (hx : x.value = s) (hs : s ≤ 2 ^ 64) (hk₀ : 0 < k)
    (hk : k ≤ 307) (hsize : s < 2 ^ 53 ∨ k ≤ 22 ∧ OnGrid (s / 10 ^ k)) :
    GivesScaled negative (s / 10 ^ k) (x.scaleByTen (-k)) := by
  rcases hsize with hbits | ⟨hexact, hgrid⟩
  · obtain ⟨z, hz, hn⟩ := Binary64.exists_scaleByTen_neg hbits hx hk₀ hk
    rw [hz]
    exact sameId_withSign z.value_nonneg (by positivity) hn
  · obtain ⟨z, hz, hvalue⟩ := Binary64.exists_scaleByTen_neg_of_onGrid hs hx hk₀ hexact hgrid
    rw [hz, GivesScaled, hvalue]
    exact fun _ => Iff.rfl

/-- A tenth of what 64 bits hold is not too great. -/
theorem div_lt_firstBeyond (hs : s ≤ 2 ^ 64) (hk₀ : 0 < k) (negative : Bool) :
    (s : ℚ) / 10 ^ k < firstBeyond negative := by
  have hs' : (s : ℚ) ≤ 2 ^ 64 := by exact_mod_cast hs
  calc (s : ℚ) / 10 ^ k ≤ 2 ^ 64 / 10 ^ 1 := by
        gcongr
        · norm_num
        · exact hk₀
    _ < 2 ^ 63 := by norm_num
    _ ≤ firstBeyond negative := (firstBeyond_between negative).1

/-- A significand with a power of ten gives its value if it is of 53 bits and scaled down, if the
value is a magnitude and the power is exact, and if the value is too great for an integer. -/
theorem numberOfParts_short {e : ℤ} (hs : s ≤ maxUnsigned) (hgrid : OnGrid s) (he : -307 ≤ e)
    (hsize : e < 0 ∧ s < 2 ^ 53 ∨ -22 ≤ e ∧ OnGrid (s * 10 ^ e) ∨
      firstBeyond negative ≤ s * 10 ^ e) (rest : List Char) :
    Gives (withSign negative (s * 10 ^ e)) (numberOfParts negative s e rest) := by
  have hs' : s ≤ 2 ^ 64 := hs.trans (by norm_num [maxUnsigned])
  obtain ⟨x, hx, hvalue⟩ := Binary64.exists_ofNat hgrid hs'
  refine gives_numberOfParts hx ?_ rest
  rcases le_or_gt 0 e with h | h
  · obtain ⟨k, rfl⟩ := Int.eq_ofNat_of_zero_le h
    rw [zpow_natCast] at hsize ⊢
    rcases hsize with ⟨hneg, -⟩ | ⟨-, hproduct⟩ | hgreat
    · omega
    · exact givesScaled_up hvalue hproduct
    · exact givesScaled_of_great hvalue hgreat
  · obtain ⟨k, hk⟩ := Int.eq_ofNat_of_zero_le (by omega : 0 ≤ -e)
    obtain rfl : e = -(k : ℤ) := by omega
    have hk₀ : 0 < k := by omega
    rw [zpow_neg, zpow_natCast, ← div_eq_mul_inv] at hsize ⊢
    refine givesScaled_down hvalue hs' hk₀ (by omega) ?_
    rcases hsize with ⟨-, hbits⟩ | ⟨hexact, hquotient⟩ | hgreat
    · exact .inl hbits
    · exact .inr ⟨by omega, hquotient⟩
    · exact absurd hgreat (div_lt_firstBeyond hs' hk₀ negative).not_ge

/-- What is too great by far remains so. -/
theorem numberOfParts_great (hs : 10 ^ 18 ≤ s) (hk : 0 < k) (hv : 2 ^ 63 < v) (negative : Bool)
    (rest : List Char) : Gives (withSign negative v) (numberOfParts negative s k rest) := by
  cases hx : Binary64.ofNat s with
  | none =>
      rw [numberOfParts, hx]
      exact withSign_ne_of_lt hv
  | some x =>
      refine gives_numberOfParts hx ?_ rest
      have hlow : (10 : ℚ) ^ 18 ≤ x.value :=
        ((Binary64.ofNat_approximates s).rounds x hx).ge _ (Binary64.onGrid_ten_pow (by norm_num))
          (by exact_mod_cast hs)
      cases hz : x.scaleByTen k with
      | none => exact withSign_ne_of_lt hv
      | some z =>
          obtain ⟨y, hy, hrounds⟩ := Binary64.rounds_scaleByTen (by linarith) hz
          have hten : (10 : ℚ) ^ 1 ≤ y.value :=
            hy.ge _ (Binary64.onGrid_ten_pow (by norm_num)) (pow_le_pow_right₀ (by norm_num) hk)
          have hgreat : firstBeyond negative ≤ z.value := by
            refine hrounds.ge _ (onGrid_firstBeyond negative) ?_
            calc firstBeyond negative ≤ beyond := (firstBeyond_between negative).2
              _ ≤ 10 ^ 18 * 10 ^ 1 := by norm_num [beyond]
              _ ≤ x.value * y.value := by gcongr
          exact sameId_of_ne (withSign_ne_of_le hgreat) (withSign_ne_of_lt hv)

/-- The integer that a negative whole number is taken for: the least one of 64 bits where that is
closer than the next magnitude, or as close. -/
def taken (v : ℚ) : ℚ := if -2 ^ 63 - 1024 ≤ v ∧ v < -2 ^ 63 then -2 ^ 63 else v

/-- Below the integers of 64 bits, a whole number is rounded. -/
theorem numberOfParts_low (hs : 2 ^ 63 < s) (hs' : s ≤ maxUnsigned) (rest : List Char) :
    Gives (taken (-s)) (numberOfParts true s 0 rest) := by
  have hlimit : (s : ℚ) ≤ 2 ^ 64 := by
    have : s ≤ 2 ^ 64 := le_trans hs' (by norm_num [maxUnsigned])
    exact_mod_cast this
  have hgreat : (2 : ℚ) ^ 64 < 2 ^ 1023 := pow_lt_pow_right₀ one_lt_two (by norm_num)
  obtain ⟨x, hx, hrounds⟩ :=
    (Binary64.ofNat_approximates s).exists_rounds (lt_of_le_of_lt hlimit hgreat)
  have hxlimit : x.value ≤ 2 ^ 64 :=
    hrounds.le _ (by exact_mod_cast Binary64.onGrid_two_zpow (e := 64) (by norm_num)) hlimit
  obtain ⟨z, hz, hzvalue⟩ := Binary64.exists_scaleByTen (k := 0) (fun _ => by norm_num)
    (by simpa using hrounds.onGrid) (by simpa using lt_of_le_of_lt hxlimit hgreat)
  rw [pow_zero, mul_one] at hzvalue
  rw [numberOfParts_eq hx, show (0 : ℤ) = (0 : ℕ) by rfl, hz]
  obtain ⟨hclose, hfar⟩ := Binary64.value_of_ofNat hs.le hx
  have hless : (2 : ℚ) ^ 63 < s := by exact_mod_cast hs
  rcases le_or_gt s (2 ^ 63 + 1024) with h | h
  · have h' : (s : ℚ) ≤ 2 ^ 63 + 1024 := by exact_mod_cast h
    have htaken : taken (-s) = -2 ^ 63 := if_pos ⟨by linarith, by linarith⟩
    intro i
    rw [htaken, Number.value, withSign, if_pos rfl, hzvalue, hclose h]
  · have h' : (2 : ℚ) ^ 63 + 1024 < s := by exact_mod_cast h
    have htaken : taken (-s) = -s := if_neg (by
      rintro ⟨hlow, -⟩
      linarith)
    have hsigned : -(s : ℚ) = withSign true s := (if_pos rfl).symm
    have hgreat : firstBeyond true ≤ z.value := hzvalue ▸ hfar h
    rw [htaken, hsigned]
    exact sameId_of_ne (withSign_ne_of_le hgreat) (withSign_ne_of_lt hless)

end Parts

/-- One digit or more. -/
structure Digits where
  chars : List Char
  ne_nil : chars ≠ []
  isDigit : ∀ c ∈ chars, isAsciiDigit c = true

/-- The number that digits write. -/
def Digits.number (ds : Digits) : ℕ := Nat.ofDigitChars 10 ds.chars 0

/-- The exponent of a literal. Its sign may be left out, and is `true` for a minus. -/
structure ExponentPart where
  letter : Char
  isLetter : letter = 'e' ∨ letter = 'E'
  sign : Option Bool
  digits : Digits

namespace ExponentPart

def value (e : ExponentPart) : ℤ :=
  if e.sign = some true then -(e.digits.number : ℤ) else e.digits.number

/-- The exponent behind its letter. -/
def tail (e : ExponentPart) : List Char :=
  match e.sign with
  | none => e.digits.chars
  | some false => '+' :: e.digits.chars
  | some true => '-' :: e.digits.chars

end ExponentPart

/-- A number literal: a sign, digits that start with a zero only if it is the only one, digits
behind a point, and an exponent. -/
structure NumberLiteral where
  negative : Bool
  whole : Digits
  isPlain : whole.chars.head? = some '0' → whole.chars = ['0']
  fraction : Option Digits
  exponent : Option ExponentPart

/-- The reading leaves the rest and gives the value. -/
def GivesBefore {P : Number × List Char → Prop} (value : ℚ) (rest : List Char) :
    Except Failure { r : Number × List Char // P r } → Prop
  | .ok r => r.1.2 = rest ∧ SameId r.1.1.value value
  | .error _ => ∀ i : Int64, value ≠ i.toInt

/-- The same of a reading with a bound on the rest. -/
def GivesRead {bound : ℕ} (value : ℚ) (rest : List Char) : Except Failure (Read Number bound) → Prop
  | .ok r => r.rest = rest ∧ SameId r.value.value value
  | .error _ => ∀ i : Int64, value ≠ i.toInt

section Reading
variable {negative : Bool} {s n : ℕ} {scale : ℤ} {v : ℚ} {ds rest : List Char}

theorem givesBefore_finishNumber (h : Gives v (numberOfParts negative s scale rest)) :
    GivesBefore v rest (finishNumber negative s scale rest) := by
  unfold finishNumber
  cases hn : numberOfParts negative s scale rest with
  | ok n =>
      rw [hn] at h
      exact ⟨rfl, h⟩
  | error f =>
      rw [hn] at h
      exact h

theorem readScale_of_ends (hrest : Ends rest) :
    readScale negative s scale rest = finishNumber negative s scale rest := by
  cases rest with
  | nil => rfl
  | cons c rest => simp [readScale, (hrest c rfl).2.2]

/-- An exponent that is not too great is the number that its digits write. -/
theorem exponentOf_eq (hds : Nat.ofDigitChars 10 ds n < 2 ^ 31) :
    readExponent.go n ds = .inl (Nat.ofDigitChars 10 ds n) := by
  induction ds generalizing n with
  | nil => simp [readExponent.go]
  | cons d ds ih =>
      rw [Nat.ofDigitChars_cons, Nat.mul_comm] at hds ⊢
      have hnext : n * 10 + (d.toNat - '0'.toNat) < 0x80000000 :=
        Nat.lt_of_le_of_lt (le_ofDigitChars ds _) hds
      simp only [readExponent.go, if_pos hnext, ih hds]

theorem takeWhile_digits (hds : ∀ d ∈ ds, isAsciiDigit d = true)
    (hrest : ∀ c ∈ rest.head?, isAsciiDigit c = false) :
    (ds ++ rest).takeWhile isAsciiDigit = ds ∧ (ds ++ rest).dropWhile isAsciiDigit = rest := by
  rw [List.takeWhile_append_of_pos hds, List.dropWhile_append_of_pos hds]
  cases rest with
  | nil => simp
  | cons c rest => simp [hrest c rfl]

/-- The digits in front of a text that does not go on with one. -/
theorem skipDigits_append (hds : ∀ d ∈ ds, isAsciiDigit d = true)
    (hrest : ∀ c ∈ rest.head?, isAsciiDigit c = false) :
    skipDigits (ds ++ rest) = ⟨ds.length, rest, by simp⟩ := by
  obtain ⟨hwhile, hdrop⟩ := takeWhile_digits hds hrest
  simp only [skipDigits, hwhile, hdrop]

/-- A digit is no sign. -/
theorem ne_sign_of_isAsciiDigit {c : Char} (hc : isAsciiDigit c = true) : c ≠ '+' ∧ c ≠ '-' := by
  constructor
  · rintro rfl
    cases hc
  · rintro rfl
    cases hc

/-- Behind the letter, the sign and the digits of an exponent are taken, and the number is made. -/
theorem readExponent_tail (e : ExponentPart) (hrest : Ends rest) :
    ∃ h, readExponent negative s scale (e.tail ++ rest) =
      match readExponent.exponentOf e.digits.chars with
      | .inl k =>
        match numberOfParts negative s (scale + if e.sign = some true then -(k : ℤ) else k) rest with
        | .ok n => .ok ⟨(n, rest), h⟩
        | .error f => .error f
      | .inr unread =>
        if s != 0 && !decide (e.sign = some true) then
          .error (.here .numberOutOfRange (unread ++ rest))
        else .ok ⟨(.real negative .zero, rest), h⟩ := by
  obtain ⟨d, ds, hd⟩ := List.exists_cons_of_ne_nil e.digits.ne_nil
  have hdigit : isAsciiDigit d = true := e.digits.isDigit d (by simp [hd])
  obtain ⟨htake, hdrop⟩ := takeWhile_digits e.digits.isDigit fun c hc => (hrest c hc).1
  refine ⟨by simp, ?_⟩
  unfold readExponent
  split
  rename_i shrinks s' hs heq
  -- What the sign leaves is the digits.
  have hsign : shrinks = decide (e.sign = some true) ∧ s' = e.digits.chars ++ rest := by
    obtain ⟨hplus, hminus⟩ := ne_sign_of_isAsciiDigit hdigit
    obtain ⟨letter, hletter, sign, digits⟩ := e
    match sign with
    | none =>
      simp only [ExponentPart.tail] at heq hs
      revert heq hs
      generalize htext : digits.chars ++ rest = text
      rw [hd, List.cons_append] at htext
      intro hs heq
      split at heq
      · exact absurd (List.cons_eq_cons.mp htext).1 hplus
      · exact absurd (List.cons_eq_cons.mp htext).1 hminus
      · cases heq
        exact ⟨rfl, rfl⟩
    | some false =>
      cases heq
      exact ⟨rfl, rfl⟩
    | some true =>
      cases heq
      exact ⟨rfl, rfl⟩
  obtain ⟨rfl, rfl⟩ := hsign
  split
  · rename_i hnil _
    simp [hd] at hnil
  · rename_i c t ht hcons _
    have hc : isAsciiDigit c = true := by
      obtain rfl : d = c := by
        rw [hd, List.cons_append] at hcons
        exact (List.cons_eq_cons.mp hcons).1
      exact hdigit
    rw [hcons] at htake hdrop
    cases hexponent : readExponent.exponentOf e.digits.chars with
    | inl k =>
        cases hn : numberOfParts negative s
            (scale + if e.sign = some true then -(k : ℤ) else k) rest <;>
          simp only [hc, ↓reduceIte, htake, hdrop, hexponent, decide_eq_true_eq, hn]
    | inr unread => simp only [hc, ↓reduceIte, htake, hdrop, hexponent]

theorem givesBefore_readExponent (e : ExponentPart) (he : e.digits.number < 2 ^ 31)
    (hrest : Ends rest) (h : Gives v (numberOfParts negative s (scale + e.value) rest)) :
    GivesBefore v rest (readExponent negative s scale (e.tail ++ rest)) := by
  have hexponent : readExponent.exponentOf e.digits.chars = .inl e.digits.number :=
    exponentOf_eq he
  obtain ⟨hle, heq⟩ := readExponent_tail e hrest
  rw [heq, hexponent]
  unfold ExponentPart.value at h
  simp only
  cases hn : numberOfParts negative s
      (scale + if e.sign = some true then -(e.digits.number : ℤ) else e.digits.number) rest with
  | ok n =>
      rw [hn] at h
      exact ⟨rfl, h⟩
  | error f =>
      rw [hn] at h
      exact h

/-- The exponent as it is written, if one is. -/
def exponentText : Option ExponentPart → List Char
  | none => []
  | some e => e.letter :: e.tail

def exponentValue : Option ExponentPart → ℤ
  | none => 0
  | some e => e.value

variable {exponent : Option ExponentPart} {text : List Char} {c : Char}

theorem head_exponentText (exponent : Option ExponentPart) (hrest : Ends rest) :
    ∀ c ∈ (exponentText exponent ++ rest).head?, isAsciiDigit c = false ∧ c ≠ '.' := by
  intro c hc
  cases exponent with
  | none =>
      obtain ⟨hdigit, hpoint, -⟩ := hrest c hc
      exact ⟨hdigit, hpoint⟩
  | some e =>
      obtain rfl : e.letter = c := by simpa [exponentText] using hc
      rcases e.isLetter with h | h <;> rw [h] <;> decide

theorem givesBefore_readScale (hfits : ∀ e ∈ exponent, e.digits.number < 2 ^ 31)
    (hrest : Ends rest)
    (h : Gives v (numberOfParts negative s (scale + exponentValue exponent) rest)) :
    GivesBefore v rest (readScale negative s scale (exponentText exponent ++ rest)) := by
  cases exponent with
  | none =>
      rw [exponentText, List.nil_append, readScale_of_ends hrest]
      exact givesBefore_finishNumber (by simpa [exponentValue] using h)
  | some e =>
      have hletter : (decide (e.letter = 'e') || decide (e.letter = 'E')) = true := by
        simpa using e.isLetter
      have hread := givesBefore_readExponent e (hfits e rfl) hrest h
      simp only [exponentText, List.cons_append, readScale, hletter, ↓reduceIte]
      revert hread
      cases readExponent negative s scale (e.tail ++ rest) with
      | ok r => exact id
      | error f => exact id

theorem givesBefore_readFraction (ds : Digits)
    (hfit : Nat.ofDigitChars 10 ds.chars s ≤ maxUnsigned)
    (hfits : ∀ e ∈ exponent, e.digits.number < 2 ^ 31) (hrest : Ends rest)
    (h : Gives v (numberOfParts negative (Nat.ofDigitChars 10 ds.chars s)
      (scale - ds.chars.length + exponentValue exponent) rest)) :
    GivesBefore v rest
      (readFraction negative s scale (ds.chars ++ (exponentText exponent ++ rest))) := by
  have hhead := head_exponentText exponent hrest
  have hread := givesBefore_readScale hfits hrest h
  have hcount : ds.chars.length ≠ 0 := fun hzero => ds.ne_nil (List.length_eq_zero_iff.mp hzero)
  generalize exponentText exponent ++ rest = text at *
  obtain ⟨hle, htake⟩ :=
    takeSignificand_append ds.isDigit (fun c hc => (hhead c hc).1) 0 hfit
  rw [Nat.zero_add] at htake
  have hfinish : ∀ h, GivesBefore v rest (readFraction.finish negative scale (ds.chars ++ text)
      (Nat.ofDigitChars 10 ds.chars s) ds.chars.length text h) := by
    intro h
    unfold readFraction.finish
    revert hread
    cases readScale negative (Nat.ofDigitChars 10 ds.chars s) (scale - ds.chars.length) text with
    | ok r => exact id
    | error f => exact id
  unfold readFraction
  generalize takeSignificand s 0 (ds.chars ++ text) = taken at htake ⊢
  subst htake
  cases text with
  | nil =>
      simp only [if_neg hcount]
      exact hfinish hle
  | cons c text =>
      simp only [(hhead c rfl).1, if_neg hcount]
      exact hfinish hle

/-- The digits behind the point. -/
def fractionDigits : Option Digits → List Char
  | none => []
  | some ds => ds.chars

/-- The fraction as it is written, if one is. -/
def fractionText : Option Digits → List Char
  | none => []
  | some ds => '.' :: ds.chars

variable {fraction : Option Digits}

theorem head_fractionText (hrest : Ends rest) :
    ∀ c ∈ (fractionText fraction ++ (exponentText exponent ++ rest)).head?,
      isAsciiDigit c = false := by
  intro c hc
  cases fraction with
  | none => exact (head_exponentText exponent hrest c hc).1
  | some ds =>
      obtain rfl : '.' = c := by simpa [fractionText] using hc
      rfl

/-- A number is kept whole unless digits do not fit, an exponent follows, or a negative number is
zero or too great. -/
theorem readTail_eq_readScale {dropped : ℕ} (hpoint : ∀ c ∈ text.head?, c ≠ '.')
    (h : dropped ≠ 0 ∨ (∃ c ∈ text.head?, c = 'e' ∨ c = 'E') ∨
      (negative = true ∧ (s = 0 ∨ 0x8000000000000000 < s))) :
    readTail negative s dropped text = readScale negative s dropped text := by
  unfold readTail
  split
  · exact absurd rfl (hpoint '.' rfl)
  · rcases h with h | ⟨c, hc, hletter⟩ | ⟨rfl, rfl | h⟩
    · simp [h]
    · have hscale : (text.head?.any fun c => c = 'e' || c = 'E') = true := by
        rw [Option.mem_def.mp hc]
        simpa using hletter
      simp [hscale]
    · simp
    · simp [Nat.not_le.mpr h]

/-- What follows a short whole part is read to the end, if there is anything. -/
theorem givesBefore_readTail (hparts : fraction.isSome || exponent.isSome)
    (hfit : Nat.ofDigitChars 10 (fractionDigits fraction) s ≤ maxUnsigned)
    (hfits : ∀ e ∈ exponent, e.digits.number < 2 ^ 31) (hrest : Ends rest)
    (h : Gives v (numberOfParts negative (Nat.ofDigitChars 10 (fractionDigits fraction) s)
      (exponentValue exponent - (fractionDigits fraction).length) rest)) :
    GivesBefore v rest
      (readTail negative s 0 (fractionText fraction ++ (exponentText exponent ++ rest))) := by
  cases fraction with
  | some ds =>
      have hscale : exponentValue exponent - ds.chars.length =
          ((0 : ℕ) : ℤ) - ds.chars.length + exponentValue exponent := by
        rw [Nat.cast_zero]
        ring
      rw [fractionDigits, hscale] at h
      have hread := givesBefore_readFraction ds hfit hfits hrest h
      simp only [fractionText, List.cons_append, readTail]
      revert hread
      cases readFraction negative s (0 : ℕ) (ds.chars ++ (exponentText exponent ++ rest)) with
      | ok r => exact id
      | error f => exact id
  | none =>
      cases exponent with
      | none => simp at hparts
      | some e =>
          have hread : GivesBefore v rest
              (readScale negative s (0 : ℕ) (exponentText (some e) ++ rest)) :=
            givesBefore_readScale hfits hrest (by simpa [fractionDigits] using h)
          have hpoint := fun c hc => (head_exponentText (some e) hrest c hc).2
          rw [fractionText, List.nil_append, readTail_eq_readScale hpoint
            (.inr (.inl ⟨e.letter, rfl, e.isLetter⟩))]
          exact hread

/-- Digits that fit are taken whole. -/
theorem givesBefore_readDigits (hds : ∀ d ∈ c :: ds, isAsciiDigit d = true)
    (hplain : c = '0' → ds = []) (hfit : Nat.ofDigitChars 10 (c :: ds) 0 ≤ maxUnsigned)
    (hhead : ∀ c ∈ text.head?, isAsciiDigit c = false)
    (h : GivesBefore v rest (readTail negative (Nat.ofDigitChars 10 (c :: ds) 0) 0 text)) :
    GivesBefore v rest (readDigits negative c (ds ++ text)) := by
  obtain ⟨hc, hds⟩ := List.forall_mem_cons.mp hds
  by_cases hzero : c = '0'
  · obtain rfl := hplain hzero
    subst hzero
    have hany : text.head?.any isAsciiDigit = false := by
      cases text with
      | nil => rfl
      | cons d text => simpa using hhead d rfl
    unfold readDigits
    simp only [List.nil_append, hany, ↓reduceIte, Bool.false_eq_true]
    exact h
  · have hvalue : Nat.ofDigitChars 10 (c :: ds) 0 =
        Nat.ofDigitChars 10 ds (c.toNat - '0'.toNat) := by
      rw [Nat.ofDigitChars_cons, Nat.mul_zero, Nat.zero_add]
    rw [hvalue] at hfit h
    obtain ⟨hle, htake⟩ := takeSignificand_append hds hhead 1 hfit
    unfold readDigits
    rw [if_neg hzero, if_pos hc]
    generalize takeSignificand _ _ _ = taken at htake ⊢
    subst htake
    have htail : GivesBefore v rest
        (readTail negative (Nat.ofDigitChars 10 ds (c.toNat - '0'.toNat)) (skipDigits text).count
          (skipDigits text).rest) := by
      rw [skipDigits_of_head hhead]
      exact h
    revert htail
    simp only
    cases readTail negative (Nat.ofDigitChars 10 ds (c.toNat - '0'.toNat)) (skipDigits text).count
        (skipDigits text).rest with
    | ok r => exact id
    | error f => exact id

theorem isAsciiDigit_le (hc : isAsciiDigit c = true) : c.toNat - '0'.toNat ≤ 9 := by
  simp only [isAsciiDigit, Bool.and_eq_true, decide_eq_true_eq] at hc
  exact Nat.sub_le_sub_right (UInt32.le_iff_toNat_le.mp hc.2) _

/-- Of digits whose number does not fit, those are taken that do: they write a great number, and
some are left. -/
theorem takeSignificand_of_great (hds : ∀ d ∈ ds, isAsciiDigit d = true)
    (hgreat : maxUnsigned < Nat.ofDigitChars 10 ds n) (hfit : n ≤ maxUnsigned) (count : ℕ)
    (rest : List Char) :
    ∃ value count' back h, 10 ^ 18 ≤ value ∧ back ≠ [] ∧ (∀ d ∈ back, isAsciiDigit d = true) ∧
      takeSignificand n count (ds ++ rest) = (value, count', ⟨back ++ rest, h⟩) := by
  induction ds generalizing n count with
  | nil => exact absurd hfit (Nat.not_le.mpr (by simpa using hgreat))
  | cons d ds ih =>
      obtain ⟨hd, hrest⟩ := List.forall_mem_cons.mp hds
      rw [Nat.ofDigitChars_cons, Nat.mul_comm] at hgreat
      by_cases hnext : n * 10 + (d.toNat - '0'.toNat) ≤ maxUnsigned
      · obtain ⟨value, count', back, h, hvalue, hne, hback, heq⟩ := ih hrest hgreat hnext (count + 1)
        refine ⟨value, count', back, Nat.le_succ_of_le h, hvalue, hne, hback, ?_⟩
        simp only [List.cons_append, takeSignificand, hd, hnext, decide_true, Bool.and_self,
          ↓reduceIte, heq]
      · have hnine := isAsciiDigit_le hd
        refine ⟨n, count, d :: ds, Nat.le_refl _, ?_, List.cons_ne_nil d ds, hds, ?_⟩
        · unfold maxUnsigned at hnext
          omega
        · simp only [List.cons_append, takeSignificand, hnext, decide_false, Bool.and_false,
            Bool.false_eq_true, ↓reduceIte]

/-- A whole number that does not fit is scaled up by the digits that are left. -/
theorem givesBefore_readDigits_of_great (hds : ∀ d ∈ c :: ds, isAsciiDigit d = true)
    (hzero : c ≠ '0') (hgreat : maxUnsigned < Nat.ofDigitChars 10 (c :: ds) 0) (hrest : Ends rest)
    (hv : 2 ^ 63 < v) :
    GivesBefore (withSign negative v) rest (readDigits negative c (ds ++ rest)) := by
  obtain ⟨hc, hds⟩ := List.forall_mem_cons.mp hds
  rw [Nat.ofDigitChars_cons, Nat.mul_zero, Nat.zero_add] at hgreat
  have hfit : c.toNat - '0'.toNat ≤ maxUnsigned := by
    have := isAsciiDigit_le hc
    unfold maxUnsigned
    omega
  obtain ⟨value, count, back, hle, hvalue, hne, hback, htake⟩ :=
    takeSignificand_of_great hds hgreat hfit 1 rest
  have hcount : back.length ≠ 0 := fun h => hne (List.length_eq_zero_iff.mp h)
  have hskip := skipDigits_append hback fun c hc => (hrest c hc).1
  have htail : GivesBefore (withSign negative v) rest
      (readTail negative value (skipDigits (back ++ rest)).count
        (skipDigits (back ++ rest)).rest) := by
    rw [hskip]
    have hpoint := fun c hc => (hrest c hc).2.1
    rw [readTail_eq_readScale hpoint (.inl hcount), readScale_of_ends hrest]
    exact givesBefore_finishNumber
      (numberOfParts_great hvalue (Nat.pos_of_ne_zero hcount) hv negative rest)
  unfold readDigits
  rw [if_neg hzero, if_pos hc]
  generalize takeSignificand _ _ _ = taken at htake ⊢
  subst htake
  revert htail
  simp only
  cases readTail negative value (skipDigits (back ++ rest)).count
      (skipDigits (back ++ rest)).rest with
  | ok r => exact id
  | error f => exact id

theorem taken_withSign {q : ℚ} (hq : 0 ≤ q)
    (h : negative = true → q ≤ 2 ^ 63 ∨ 2 ^ 63 + 1024 < q) :
    taken (withSign negative q) = withSign negative q := by
  unfold taken withSign
  rw [if_neg]
  rintro ⟨hlow, hhigh⟩
  split_ifs at hlow hhigh with hnegative
  · rcases h hnegative with h | h <;> linarith
  · linarith

/-- A whole number of which all digits fit is kept, or it is negative and is zero or too great. -/
theorem givesBefore_readTail_whole (hfit : n ≤ maxUnsigned) (hrest : Ends rest) :
    GivesBefore (taken (withSign negative n)) rest (readTail negative n 0 rest) := by
  by_cases hsign : negative = true → 0 < n ∧ n ≤ 0x8000000000000000
  · rw [readTail_of_ends hsign hrest, taken_withSign (by positivity)]
    · refine ⟨rfl, fun i => ?_⟩
      have hvalue : (Number.integer (signed negative n)).value = withSign negative n := by
        cases negative <;> simp [Number.value, signed, withSign]
      rw [hvalue]
    · intro hnegative
      have hle : n ≤ 2 ^ 63 := (hsign hnegative).2
      exact .inl (by exact_mod_cast hle)
  · rw [Classical.not_imp] at hsign
    obtain ⟨rfl, hn⟩ := hsign
    have hn' : n = 0 ∨ 2 ^ 63 < n := by omega
    have hpoint := fun c hc => (hrest c hc).2.1
    rw [readTail_eq_readScale hpoint (.inr (.inr ⟨rfl, hn'⟩)), readScale_of_ends hrest]
    apply givesBefore_finishNumber
    rcases hn' with rfl | hgreat
    · have hzero : OnGrid ((0 : ℕ) : ℚ) := Binary64.onGrid_of_le (by norm_num)
      have h : Gives _ (numberOfParts true 0 0 rest) :=
        numberOfParts_short (Nat.zero_le _) hzero (by norm_num)
          (.inr (.inl ⟨by norm_num, by simpa using hzero⟩)) rest
      rw [taken_withSign (by positivity) (by norm_num)]
      simpa using h
    · exact numberOfParts_low hgreat hfit rest

/-- The number of a literal that is whole is what its value is taken for. -/
theorem givesBefore_readDigits_whole (hds : ∀ d ∈ c :: ds, isAsciiDigit d = true)
    (hplain : c = '0' → ds = []) (hrest : Ends rest) :
    GivesBefore (taken (withSign negative (Nat.ofDigitChars 10 (c :: ds) 0 : ℕ))) rest
      (readDigits negative c (ds ++ rest)) := by
  generalize hn : Nat.ofDigitChars 10 (c :: ds) 0 = n
  rcases Nat.lt_or_ge maxUnsigned n with hgreat | hfit
  · have hn₀ : 2 ^ 63 + 1024 < n := lt_of_le_of_lt (by norm_num [maxUnsigned]) hgreat
    have hn₁ : (2 : ℚ) ^ 63 + 1024 < n := by exact_mod_cast hn₀
    have hzero : c ≠ '0' := by
      intro hc
      have hnone : Nat.ofDigitChars 10 ['0'] 0 = 0 := rfl
      rw [hc, hplain hc, hnone] at hn
      omega
    rw [taken_withSign (by positivity) fun _ => .inr hn₁]
    exact givesBefore_readDigits_of_great hds hzero (hn ▸ hgreat) hrest (by linarith)
  · have hhead := fun c hc => (hrest c hc).1
    refine givesBefore_readDigits hds hplain (hn ▸ hfit) hhead ?_
    rw [hn]
    exact givesBefore_readTail_whole hfit hrest

end Reading

namespace NumberLiteral

/-- The literal behind its sign. -/
def unsigned (l : NumberLiteral) : List Char :=
  l.whole.chars ++ (fractionText l.fraction ++ exponentText l.exponent)

/-- The literal as it is written. -/
def spelling (l : NumberLiteral) : List Char :=
  (if l.negative then ['-'] else []) ++ l.unsigned

/-- The number that all digits in front of the exponent write. -/
def significand (l : NumberLiteral) : ℕ :=
  Nat.ofDigitChars 10 (l.whole.chars ++ fractionDigits l.fraction) 0

/-- The place of the last of these digits. -/
def scale (l : NumberLiteral) : ℤ := exponentValue l.exponent - (fractionDigits l.fraction).length

/-- The decimal number that the literal writes. -/
def value (l : NumberLiteral) : ℚ := withSign l.negative (l.significand * 10 ^ l.scale)

/-- The literal has neither a fraction nor an exponent. -/
def IsWhole (l : NumberLiteral) : Prop := l.fraction = none ∧ l.exponent = none

/-- The digits of the literal write a magnitude that fits in 64 bits. It is scaled down from 53 bits,
or its value is a magnitude and in reach of the exact powers of ten, or the value is too great for an
integer of 64 bits. The exponent is not too great to be looked at, nor is the value so small that it
vanishes. -/
structure IsShort (l : NumberLiteral) : Prop where
  significand_le : l.significand ≤ maxUnsigned
  onGrid : OnGrid l.significand
  exponent_lt : ∀ e ∈ l.exponent, e.digits.number < 2 ^ 31
  scale_ge : -307 ≤ l.scale
  size : l.scale < 0 ∧ l.significand < 2 ^ 53 ∨ -22 ≤ l.scale ∧ OnGrid |l.value| ∨
    firstBeyond l.negative ≤ |l.value|

variable {l : NumberLiteral} {c : Char} {ds rest s : List Char}

theorem whole_digits (hw : l.whole.chars = c :: ds) :
    (∀ d ∈ c :: ds, isAsciiDigit d = true) ∧ (c = '0' → ds = []) := by
  refine ⟨hw ▸ l.whole.isDigit, ?_⟩
  rintro rfl
  have hplain := l.isPlain (by rw [hw]; rfl)
  rw [hw] at hplain
  exact (List.cons_eq_cons.mp hplain).2

theorem abs_value (l : NumberLiteral) : |l.value| = l.significand * 10 ^ l.scale := by
  have hpos : (0 : ℚ) ≤ l.significand * 10 ^ l.scale := by positivity
  unfold value withSign
  split_ifs
  · rw [abs_neg, abs_of_nonneg hpos]
  · exact abs_of_nonneg hpos

theorem significand_eq (l : NumberLiteral) : l.significand =
    Nat.ofDigitChars 10 (fractionDigits l.fraction) (Nat.ofDigitChars 10 l.whole.chars 0) := by
  rw [significand, Nat.ofDigitChars_append]

theorem IsShort.taken_value (h : l.IsShort) : taken l.value = l.value := by
  have hsize := h.size
  rw [abs_value] at hsize
  refine taken_withSign (by positivity) ?_
  intro hnegative
  have hbeyond : (2 : ℚ) ^ 63 + 1024 < beyond := by norm_num [beyond]
  rcases hsize with ⟨hscale, hbits⟩ | ⟨-, hgrid⟩ | hgreat
  · left
    have hless : (l.significand : ℚ) ≤ 2 ^ 53 := by exact_mod_cast hbits.le
    have hten : (10 : ℚ) ^ l.scale ≤ 1 := zpow_le_one_of_nonpos₀ (by norm_num) hscale.le
    calc (l.significand : ℚ) * 10 ^ l.scale ≤ 2 ^ 53 * 1 := by gcongr
      _ ≤ 2 ^ 63 := by norm_num
  · rcases le_or_gt ((l.significand : ℚ) * 10 ^ l.scale) (2 ^ 63) with hle | hlt
    · exact .inl hle
    · exact .inr (lt_of_lt_of_le hbeyond (hgrid.beyond_le hlt))
  · rw [hnegative] at hgreat
    exact .inr (lt_of_lt_of_le hbeyond hgreat)

theorem IsWhole.value_eq (h : l.IsWhole) :
    l.value = withSign l.negative (Nat.ofDigitChars 10 l.whole.chars 0 : ℕ) := by
  obtain ⟨hfraction, hexponent⟩ := h
  simp [value, significand, scale, hfraction, hexponent, fractionDigits, exponentValue]

/-- Behind its sign, a literal is read to its end and gives what its value is taken for. -/
theorem givesBefore_readDigits (hl : l.IsWhole ∨ l.IsShort) (hw : l.whole.chars = c :: ds)
    (hrest : Ends rest) :
    GivesBefore (taken l.value) rest (readDigits l.negative c
      (ds ++ (fractionText l.fraction ++ (exponentText l.exponent ++ rest)))) := by
  obtain ⟨hds, hplain⟩ := whole_digits hw
  by_cases hwhole : l.IsWhole
  · have hread : GivesBefore (taken (withSign l.negative (Nat.ofDigitChars 10 (c :: ds) 0 : ℕ))) rest
        (readDigits l.negative c (ds ++ rest)) := givesBefore_readDigits_whole hds hplain hrest
    rw [hwhole.value_eq, hw, hwhole.1, hwhole.2]
    exact hread
  · have hshort := hl.resolve_left hwhole
    have hsize := hshort.size
    rw [abs_value] at hsize
    have hparts : (l.fraction.isSome || l.exponent.isSome) = true := by
      cases hf : l.fraction with
      | some ds => rfl
      | none =>
          cases he : l.exponent with
          | some e => rfl
          | none => exact absurd ⟨hf, he⟩ hwhole
    have hsignificand := l.significand_eq
    rw [hw] at hsignificand
    have hfit := hshort.significand_le
    rw [hshort.taken_value]
    refine Json.givesBefore_readDigits hds hplain ?_ (head_fractionText hrest) ?_
    · exact (le_ofDigitChars _ _).trans (hsignificand ▸ hfit)
    · refine givesBefore_readTail hparts (hsignificand ▸ hfit) hshort.exponent_lt hrest ?_
      rw [← hsignificand]
      exact numberOfParts_short hfit hshort.onGrid hshort.scale_ge hsize rest

theorem unsigned_append (hw : l.whole.chars = c :: ds) (rest : List Char) :
    l.unsigned ++ rest =
      c :: (ds ++ (fractionText l.fraction ++ (exponentText l.exponent ++ rest))) := by
  simp [unsigned, hw]

/-- From its first character on, a literal is read as a number, which gives what its value is taken
for. -/
theorem exists_readNumberAt (hl : l.IsWhole ∨ l.IsShort) (hs : l.spelling ++ rest = c :: s)
    (hrest : Ends rest) :
    ∃ result, readNumberAt c s = some result ∧ GivesRead (taken l.value) rest result := by
  obtain ⟨d, ds, hw⟩ := List.exists_cons_of_ne_nil l.whole.ne_nil
  have hread := givesBefore_readDigits hl hw hrest
  have hd : isAsciiDigit d = true := (whole_digits hw).1 d List.mem_cons_self
  generalize htext : ds ++ (fractionText l.fraction ++ (exponentText l.exponent ++ rest)) = text
    at hread
  have hunsigned : l.unsigned ++ rest = d :: text := by rw [unsigned_append hw, htext]
  rw [spelling] at hs
  cases hsign : l.negative with
  | true =>
      rw [hsign, if_pos rfl, List.singleton_append, List.cons_append, hunsigned] at hs
      obtain ⟨rfl, rfl⟩ := List.cons_eq_cons.mp hs
      rw [hsign] at hread
      rw [readNumberAt, if_pos rfl, readUnsigned]
      refine ⟨_, rfl, ?_⟩
      revert hread
      cases readDigits true d text with
      | ok r => exact id
      | error f => exact id
  | false =>
      rw [hsign, if_neg Bool.false_ne_true, List.nil_append, hunsigned] at hs
      obtain ⟨rfl, rfl⟩ := List.cons_eq_cons.mp hs
      rw [hsign] at hread
      rw [readNumberAt, if_neg (ne_sign_of_isAsciiDigit hd).2, if_pos hd]
      refine ⟨_, rfl, ?_⟩
      revert hread
      cases readDigits false d text with
      | ok r => exact id
      | error f => exact id

end NumberLiteral

end Lexicon.Json
