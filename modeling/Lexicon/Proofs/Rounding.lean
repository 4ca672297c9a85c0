import Lexicon.Decimal.Binary64
import Mathlib.Algebra.Order.Field.Power
import Mathlib.Algebra.Order.Floor.Semifield
import Mathlib.Data.Rat.Floor
import Mathlib.Tactic.Linarith

/-!
# Rounding to binary numbers

The arithmetic of magnitudes is exact arithmetic with a rounding behind it. What is rounded stays on
its side of every magnitude and moves by half a unit of its last place at most; so a magnitude comes
out as it is. Everything that is said of results follows from this.
-/

namespace Lexicon.Decimal.Binary64

/-- The number that a magnitude is. -/
def value (x : Binary64) : ℚ := x.significand * 2 ^ x.exponent

/-- The number is an integer of at most 53 bits in units of a power of two that is not too small. -/
def OnGrid (m : ℚ) : Prop :=
  ∃ (s : ℕ) (e : ℤ), s < 2 ^ 53 ∧ -1074 ≤ e ∧ m = s * 2 ^ e

/-- The magnitude is the number rounded. -/
structure Rounds (q : ℚ) (x : Binary64) : Prop where
  onGrid : OnGrid x.value
  ge : ∀ m, OnGrid m → m ≤ q → m ≤ x.value
  le : ∀ m, OnGrid m → q ≤ m → x.value ≤ m
  near : 2 ^ (-1022 : ℤ) ≤ q → |x.value - q| ≤ q / 2 ^ 53

/-- The result is the number rounded, or it is missing and the number is great. -/
structure Approximates (result : Option Binary64) (q : ℚ) : Prop where
  rounds : ∀ x, result = some x → Rounds q x
  great : result = none → 2 ^ 1023 ≤ q

section Quotients
variable {num den : ℕ}

theorem ratio_pos (x : Binary64) : 0 < x.ratio.2 := by
  unfold ratio
  split <;> simp [Nat.shiftLeft_eq]

theorem value_eq_ratio (x : Binary64) : x.value = x.ratio.1 / x.ratio.2 := by
  unfold ratio value
  split
  case isTrue h =>
    obtain ⟨n, hn⟩ := Int.eq_ofNat_of_zero_le h
    simp [hn, Nat.shiftLeft_eq]
  case isFalse h =>
    obtain ⟨n, hn⟩ := Int.eq_ofNat_of_zero_le (by omega : 0 ≤ -x.exponent)
    have he : x.exponent = -(n : ℤ) := by omega
    simp [he, Nat.shiftLeft_eq, div_eq_mul_inv]

/-- A rounded quotient is the nearest integer. -/
theorem abs_roundDiv_sub_le (hden : 0 < den) :
    |(roundDiv num den : ℚ) - num / den| ≤ 1 / 2 := by
  have hpos : (0 : ℚ) < den := by exact_mod_cast hden
  have hq : (num : ℚ) / den = (num / den : ℕ) + (num % den : ℕ) / den := by
    rw [div_eq_iff hpos.ne', add_mul, div_mul_cancel₀ _ hpos.ne']
    exact_mod_cast (Nat.div_add_mod' num den).symm
  have hlow : (0 : ℚ) ≤ (num % den : ℕ) / den := by positivity
  rw [hq]
  unfold roundDiv
  simp only
  split_ifs with hdown hup
  · -- Less than half is left.
    have hhalf : ((num % den : ℕ) : ℚ) / den ≤ 1 / 2 := by
      rw [div_le_iff₀ hpos]
      have : (2 * (num % den : ℕ) : ℚ) ≤ den := by exact_mod_cast hdown.le
      linarith
    rw [abs_le]
    constructor <;> linarith
  · have hhalf : 1 / 2 ≤ ((num % den : ℕ) : ℚ) / den := by
      rw [le_div_iff₀ hpos]
      have : (den : ℚ) ≤ 2 * (num % den : ℕ) := by exact_mod_cast hup.le
      linarith
    have hless : ((num % den : ℕ) : ℚ) / den ≤ 1 := by
      rw [div_le_one hpos]
      exact_mod_cast (Nat.mod_lt num hden).le
    rw [abs_le]
    push_cast
    constructor <;> linarith
  · have hhalf : ((num % den : ℕ) : ℚ) / den = 1 / 2 := by
      rw [div_eq_iff hpos.ne']
      have : (2 * (num % den : ℕ) : ℚ) = den := by exact_mod_cast (by omega)
      linarith
    have hodd : ((num / den % 2 : ℕ) : ℚ) ≤ 1 := by exact_mod_cast (by omega)
    have heven : (0 : ℚ) ≤ ((num / den % 2 : ℕ) : ℚ) := by positivity
    rw [abs_le, hhalf]
    push_cast at hodd heven ⊢
    constructor <;> linarith

end Quotients

section Units
variable {num den : ℕ}

/-- The lengths of two numbers in bits tell between which powers of two their quotient lies. -/
theorem div_between (hnum : 0 < num) (hden : 0 < den) :
    (2 : ℚ) ^ ((num.log2 : ℤ) - den.log2 - 1) < num / den ∧
      (num : ℚ) / den < 2 ^ ((num.log2 : ℤ) - den.log2 + 1) := by
  have hpos : (0 : ℚ) < den := by exact_mod_cast hden
  have hnum₁ : (2 : ℚ) ^ num.log2 ≤ num := by exact_mod_cast Nat.log2_self_le hnum.ne'
  have hnum₂ : (num : ℚ) < 2 ^ (num.log2 + 1) := by exact_mod_cast Nat.lt_log2_self
  have hden₁ : (2 : ℚ) ^ den.log2 ≤ den := by exact_mod_cast Nat.log2_self_le hden.ne'
  have hden₂ : (den : ℚ) < 2 ^ (den.log2 + 1) := by exact_mod_cast Nat.lt_log2_self
  have hlow : (2 : ℚ) ^ ((num.log2 : ℤ) - den.log2 - 1) = 2 ^ num.log2 / 2 ^ (den.log2 + 1) := by
    rw [show (num.log2 : ℤ) - den.log2 - 1 = num.log2 - (den.log2 + 1 : ℕ) by push_cast; ring,
      zpow_sub₀ two_ne_zero, zpow_natCast, zpow_natCast]
  have hhigh : (2 : ℚ) ^ ((num.log2 : ℤ) - den.log2 + 1) = 2 ^ (num.log2 + 1) / 2 ^ den.log2 := by
    rw [show (num.log2 : ℤ) - den.log2 + 1 = (num.log2 + 1 : ℕ) - den.log2 by push_cast; ring,
      zpow_sub₀ two_ne_zero, zpow_natCast, zpow_natCast]
  rw [hlow, hhigh]
  constructor
  · rw [div_lt_div_iff₀ (by positivity) hpos]
    calc (2 : ℚ) ^ num.log2 * den ≤ num * den := by gcongr
      _ < num * 2 ^ (den.log2 + 1) := by gcongr
  · rw [div_lt_div_iff₀ hpos (by positivity)]
    calc (num : ℚ) * 2 ^ den.log2 ≤ num * den := by gcongr
      _ < 2 ^ (num.log2 + 1) * den := by gcongr

/-- In units of a power of two, a quotient is a quotient. -/
theorem exists_scaled (num : ℕ) (hden : 0 < den) (unit : ℤ) :
    ∃ a b : ℕ, 0 < b ∧ (a : ℚ) / b = num / den / 2 ^ unit ∧
      roundAt num den unit = roundDiv a b ∧ unitOf.floorAt num den unit = a / b := by
  by_cases hunit : 0 ≤ unit
  · refine ⟨num, den <<< unit.toNat, ?_, ?_, ?_, ?_⟩
    · simp [Nat.shiftLeft_eq, hden]
    · obtain ⟨n, rfl⟩ := Int.eq_ofNat_of_zero_le hunit
      simp [Nat.shiftLeft_eq, div_div]
    · simp [roundAt, hunit]
    · simp [unitOf.floorAt, hunit]
  · refine ⟨num <<< (-unit).toNat, den, hden, ?_, ?_, ?_⟩
    · obtain ⟨n, hn⟩ := Int.eq_ofNat_of_zero_le (by omega : 0 ≤ -unit)
      obtain rfl : unit = -(n : ℤ) := by omega
      simp [Nat.shiftLeft_eq, div_eq_mul_inv, mul_right_comm]
    · simp [roundAt, hunit]
    · simp [unitOf.floorAt, hunit]

theorem abs_roundAt_sub_le (num : ℕ) (hden : 0 < den) (unit : ℤ) :
    |(roundAt num den unit : ℚ) - num / den / 2 ^ unit| ≤ 1 / 2 := by
  obtain ⟨a, b, hb, hq, hround, -⟩ := exists_scaled num hden unit
  rw [hround, ← hq]
  exact abs_roundDiv_sub_le hb

theorem floorAt_between (num : ℕ) (hden : 0 < den) (unit : ℤ) :
    (unitOf.floorAt num den unit : ℚ) ≤ num / den / 2 ^ unit ∧
      (num : ℚ) / den / 2 ^ unit < unitOf.floorAt num den unit + 1 := by
  obtain ⟨a, b, hb, hq, -, hfloor⟩ := exists_scaled num hden unit
  rw [hfloor, ← hq, ← Nat.floor_div_eq_div (K := ℚ)]
  exact ⟨Nat.floor_le (by positivity), Nat.lt_floor_add_one _⟩

/-- The unit is the one in which a quotient has 53 bits, or the least one. -/
theorem exists_unit (hnum : 0 < num) (hden : 0 < den) :
    ∃ g : ℤ, unitOf num den = max g (-1074) ∧ (2 : ℚ) ^ 52 ≤ num / den / 2 ^ g ∧
      (num : ℚ) / den / 2 ^ g < 2 ^ 53 := by
  obtain ⟨hlow, hhigh⟩ := div_between hnum hden
  obtain ⟨hfloor, hfloor'⟩ := floorAt_between num hden ((num.log2 : ℤ) - den.log2 - 53)
  generalize hg : (num.log2 : ℤ) - den.log2 - 53 = g at hfloor hfloor'
  have hg₁ : (num.log2 : ℤ) - den.log2 - 1 = 52 + g := by omega
  have hg₂ : (num.log2 : ℤ) - den.log2 + 1 = 54 + g := by omega
  rw [hg₁, zpow_add₀ two_ne_zero] at hlow
  rw [hg₂, zpow_add₀ two_ne_zero] at hhigh
  have hpos : (0 : ℚ) < 2 ^ g := by positivity
  rw [← lt_div_iff₀ hpos] at hlow
  rw [← div_lt_iff₀ hpos] at hhigh
  have hunit : unitOf num den =
      max (if 2 * leastFull ≤ unitOf.floorAt num den g then g + 1 else g) (-1074) := by
    rw [unitOf, hg]
    rfl
  rw [hunit]
  split_ifs with hfull
  · have hfull' : (2 : ℚ) ^ 53 ≤ unitOf.floorAt num den g := by exact_mod_cast hfull
    have hhalf : (num : ℚ) / den / 2 ^ (g + 1) = num / den / 2 ^ g / 2 := by
      rw [zpow_add_one₀ two_ne_zero, ← div_div]
    refine ⟨g + 1, rfl, ?_, ?_⟩
    · rw [hhalf]
      linarith
    · rw [hhalf]
      norm_num at hhigh ⊢
      linarith
  · have hfull' : (unitOf.floorAt num den g : ℚ) + 1 ≤ 2 ^ 53 := by
      exact_mod_cast Nat.lt_of_not_le hfull
    exact ⟨g, rfl, by exact_mod_cast hlow.le, lt_of_lt_of_le hfloor' hfull'⟩

/-- In that unit a quotient has at most 53 bits, and no fewer unless the unit is the least one. -/
theorem div_unitOf (hnum : 0 < num) (hden : 0 < den) :
    -1074 ≤ unitOf num den ∧ (num : ℚ) / den / 2 ^ unitOf num den < 2 ^ 53 ∧
      (unitOf num den = -1074 ∨ (2 : ℚ) ^ 52 ≤ num / den / 2 ^ unitOf num den) := by
  obtain ⟨g, hg, hlow, hhigh⟩ := exists_unit hnum hden
  rw [hg]
  refine ⟨le_max_right _ _, lt_of_le_of_lt ?_ hhigh, ?_⟩
  · have hle : (2 : ℚ) ^ g ≤ 2 ^ max g (-1074) :=
      zpow_le_zpow_right₀ one_le_two (le_max_left _ _)
    gcongr
  · rcases le_total (-1074) g with h | h
    · rw [max_eq_left h]
      exact .inr hlow
    · exact .inl (max_eq_right h)

end Units

section Grid
variable {q m : ℚ} {x y : Binary64}

theorem onGrid_natCast {n : ℕ} (hn : n < 2 ^ 53) (k : ℕ) : OnGrid (n * 2 ^ k) :=
  ⟨n, k, hn, by omega, by simp⟩

theorem Rounds.eq_of_onGrid (h : Rounds q x) (hq : OnGrid q) : x.value = q :=
  le_antisymm (h.le q hq le_rfl) (h.ge q hq le_rfl)

/-- In units in which a number below the grid point has 53 bits, the grid point is an integer. -/
theorem OnGrid.cases (hm : OnGrid m) (unit : ℤ) :
    (∃ n : ℕ, m = n * 2 ^ unit) ∨ (-1074 < unit ∧ m < 2 ^ 52 * 2 ^ unit) := by
  obtain ⟨s, e, hs, he, rfl⟩ := hm
  rcases le_or_gt unit e with h | h
  · obtain ⟨k, hk⟩ := Int.eq_ofNat_of_zero_le (by omega : 0 ≤ e - unit)
    refine .inl ⟨s * 2 ^ k, ?_⟩
    rw [show e = k + unit by omega, zpow_add₀ two_ne_zero]
    push_cast
    rw [zpow_natCast, mul_assoc]
  · refine .inr ⟨by omega, ?_⟩
    have hs' : (s : ℚ) < 2 ^ 53 := by exact_mod_cast hs
    have hle : (2 : ℚ) ^ e ≤ 2 ^ (unit - 1) := zpow_le_zpow_right₀ one_le_two (by omega)
    calc (s : ℚ) * 2 ^ e < 2 ^ 53 * 2 ^ e := by gcongr
      _ ≤ 2 ^ 53 * 2 ^ (unit - 1) := by gcongr
      _ = 2 ^ 52 * 2 ^ unit := by
        rw [zpow_sub_one₀ two_ne_zero]
        ring

end Grid

section Results
variable {num den n : ℕ} {unit : ℤ}

/-- An integer on one side of a number is on that side of the integer nearest to the number. -/
theorem le_of_near {t : ℚ} (hn : |(n : ℚ) - t| ≤ 1 / 2) {k : ℕ} (hk : (k : ℚ) ≤ t) : k ≤ n := by
  by_contra hlt
  have hstep : (n : ℚ) + 1 ≤ k := by exact_mod_cast Nat.lt_of_not_le hlt
  rw [abs_le] at hn
  linarith

theorem ge_of_near {t : ℚ} (hn : |(n : ℚ) - t| ≤ 1 / 2) {k : ℕ} (hk : t ≤ k) : n ≤ k := by
  by_contra hlt
  have hstep : (k : ℚ) + 1 ≤ n := by exact_mod_cast Nat.lt_of_not_le hlt
  rw [abs_le] at hn
  linarith

/-- The nearest integer in the units of a number is the number rounded. -/
theorem rounds_of_near {q : ℚ} {x : Binary64} (hx : x.value = n * 2 ^ unit) (hunit : -1074 ≤ unit)
    (hbits : q / 2 ^ unit < 2 ^ 53) (hfull : unit = -1074 ∨ 2 ^ 52 ≤ q / 2 ^ unit)
    (hn : |(n : ℚ) - q / 2 ^ unit| ≤ 1 / 2) : Rounds q x := by
  have hpos : (0 : ℚ) < 2 ^ unit := by positivity
  have hq : q / 2 ^ unit * 2 ^ unit = q := div_mul_cancel₀ q hpos.ne'
  have hn₁ : n ≤ 2 ^ 53 := ge_of_near hn (by exact_mod_cast hbits.le)
  refine ⟨?onGrid, ?ge, ?le, ?near⟩
  case onGrid =>
    rcases hn₁.eq_or_lt with rfl | hlt
    · refine ⟨2 ^ 52, unit + 1, by norm_num, by omega, ?_⟩
      rw [hx, zpow_add_one₀ two_ne_zero]
      push_cast
      ring
    · exact ⟨n, unit, hlt, hunit, hx⟩
  case ge =>
    intro m hm hmq
    rw [hx]
    rcases hm.cases unit with ⟨k, rfl⟩ | ⟨hleast, hsmall⟩
    · have hk : k ≤ n := le_of_near hn ((le_div_iff₀ hpos).mpr hmq)
      gcongr
    · -- The grid point has fewer bits than any number of the same unit.
      have hn₀ : 2 ^ 52 ≤ n :=
        le_of_near hn (by exact_mod_cast hfull.resolve_left hleast.ne')
      have hn₀' : (2 : ℚ) ^ 52 ≤ n := by exact_mod_cast hn₀
      calc m ≤ 2 ^ 52 * 2 ^ unit := hsmall.le
        _ ≤ n * 2 ^ unit := by gcongr
  case le =>
    intro m hm hqm
    rw [hx]
    rcases hm.cases unit with ⟨k, rfl⟩ | ⟨hleast, hsmall⟩
    · have hk : n ≤ k := ge_of_near hn ((div_le_iff₀ hpos).mpr hqm)
      gcongr
    · have hq₀ := (le_div_iff₀ hpos).mp (hfull.resolve_left hleast.ne')
      linarith
  case near =>
    intro hnormal
    have hq₀ : (2 : ℚ) ^ 52 ≤ q / 2 ^ unit := by
      rcases hfull with rfl | h
      · rw [le_div_iff₀ hpos]
        refine le_trans (le_of_eq ?_) hnormal
        rw [← zpow_natCast, ← zpow_add₀ two_ne_zero]
        norm_num
      · exact h
    have hhalf : (1 : ℚ) / 2 ≤ q / 2 ^ unit / 2 ^ 53 := by
      rw [le_div_iff₀ (by positivity)]
      linarith
    calc |x.value - q| = |(n : ℚ) - q / 2 ^ unit| * 2 ^ unit := by
          rw [hx, ← abs_of_pos hpos, ← abs_mul, sub_mul, abs_of_pos hpos, hq]
      _ ≤ 1 / 2 * 2 ^ unit := mul_le_mul_of_nonneg_right hn hpos.le
      _ ≤ q / 2 ^ unit / 2 ^ 53 * 2 ^ unit := mul_le_mul_of_nonneg_right hhalf hpos.le
      _ = q / 2 ^ 53 := by rw [div_mul_eq_mul_div, hq]

theorem rounds_zero : Rounds 0 zero := by
  have hvalue : zero.value = (0 : ℕ) * 2 ^ (-1074 : ℤ) := by simp [zero, value]
  exact rounds_of_near hvalue le_rfl (by norm_num) (.inl rfl) (by norm_num)

/-- What is given for a quotient is the nearest integer in its unit, unless its exponent is too
great. A significand of one bit more is halved. -/
theorem ofRatio_eq_ite (hnum : num ≠ 0) (den : ℕ) : ∃ x : Binary64,
    x.value = roundAt num den (unitOf num den) * 2 ^ unitOf num den ∧
      x.exponent ≤ unitOf num den + 1 ∧
      ofRatio num den = if maxExponent < x.exponent then none else some x := by
  have hresult : ofRatio num den =
      if maxExponent < (if roundAt num den (unitOf num den) = 2 * leastFull then
        ⟨leastFull, unitOf num den + 1⟩ else
        ⟨roundAt num den (unitOf num den), unitOf num den⟩ : Binary64).exponent then none
      else some (if roundAt num den (unitOf num den) = 2 * leastFull then
        ⟨leastFull, unitOf num den + 1⟩ else
        ⟨roundAt num den (unitOf num den), unitOf num den⟩) := by
    rw [ofRatio, if_neg hnum]
  refine ⟨_, ?_, ?_, hresult⟩
  · split_ifs with hn
    · rw [hn, value, zpow_add_one₀ two_ne_zero]
      push_cast
      ring
    · rfl
  · split_ifs with hn
    · exact le_rfl
    · exact (lt_add_one _).le

theorem ofRatio_approximates (num : ℕ) (hden : 0 < den) :
    Approximates (ofRatio num den) (num / den) := by
  by_cases hnum : num = 0
  · subst hnum
    refine ⟨?_, by simp [ofRatio]⟩
    intro x hx
    obtain rfl : zero = x := by simpa [ofRatio] using hx
    simpa using rounds_zero
  · obtain ⟨hunit, hbits, hfull⟩ := div_unitOf (Nat.pos_of_ne_zero hnum) hden
    obtain ⟨x, hvalue, hexponent, hresult⟩ := ofRatio_eq_ite hnum den
    rw [hresult]
    constructor
    · intro y hy
      obtain ⟨-, rfl⟩ : _ ∧ x = y := by simpa using hy
      exact rounds_of_near hvalue hunit hbits hfull (abs_roundAt_sub_le num hden _)
    · intro hnone
      have hmax : maxExponent < x.exponent := by
        by_contra hle
        rw [if_neg hle] at hnone
        cases hnone
      unfold maxExponent at hmax
      have hpos : (0 : ℚ) < 2 ^ unitOf num den := by positivity
      have hbits' := (le_div_iff₀ hpos).mp (hfull.resolve_left (by omega))
      have hgreat : (2 : ℚ) ^ (971 : ℤ) ≤ 2 ^ unitOf num den :=
        zpow_le_zpow_right₀ one_le_two (by omega)
      calc (2 : ℚ) ^ 1023 = 2 ^ 52 * 2 ^ (971 : ℤ) := by
            rw [show (971 : ℤ) = (971 : ℕ) by rfl, zpow_natCast, ← pow_add]
        _ ≤ 2 ^ 52 * 2 ^ unitOf num den := by gcongr
        _ ≤ num / den := hbits'

end Results

section Arithmetic
variable {q : ℚ} {x y z : Binary64}

theorem value_nonneg (x : Binary64) : 0 ≤ x.value := by
  unfold value
  positivity

theorem ofNat_approximates (n : ℕ) : Approximates (ofNat n) n := by
  simpa [ofNat] using ofRatio_approximates n one_pos

theorem mul_approximates (x y : Binary64) : Approximates (x.mul y) (x.value * y.value) := by
  have h := ofRatio_approximates (x.ratio.1 * y.ratio.1) (Nat.mul_pos x.ratio_pos y.ratio_pos)
  rw [value_eq_ratio, value_eq_ratio, div_mul_div_comm]
  exact_mod_cast h

theorem div_approximates (x : Binary64) (hy : y.value ≠ 0) :
    Approximates (x.div y) (x.value / y.value) := by
  have hnum : 0 < y.ratio.1 := by
    rw [value_eq_ratio] at hy
    refine Nat.pos_of_ne_zero ?_
    rintro h
    simp [h] at hy
  have h := ofRatio_approximates (x.ratio.1 * y.ratio.2) (Nat.mul_pos x.ratio_pos hnum)
  rw [value_eq_ratio, value_eq_ratio, div_div_div_eq]
  exact_mod_cast h

/-- A number below the greatest magnitudes is rounded to a magnitude. -/
theorem Approximates.exists_rounds {result : Option Binary64} (h : Approximates result q)
    (hq : q < 2 ^ 1023) : ∃ x, result = some x ∧ Rounds q x := by
  cases hresult : result with
  | none => exact absurd (h.great hresult) (not_le.mpr hq)
  | some x => exact ⟨x, rfl, h.rounds x hresult⟩

/-- A magnitude comes out as it is. -/
theorem Approximates.exists_eq {result : Option Binary64} (h : Approximates result q)
    (hgrid : OnGrid q) (hq : q < 2 ^ 1023) : ∃ x, result = some x ∧ x.value = q := by
  obtain ⟨x, hx, hrounds⟩ := h.exists_rounds hq
  exact ⟨x, hx, hrounds.eq_of_onGrid hgrid⟩

/-- The natural number that a magnitude is said to be is the one that it is. -/
theorem toNat?_eq_some_iff {n : ℕ} : x.toNat? = some n ↔ x.value = n := by
  have hpos : (0 : ℚ) < x.ratio.2 := by exact_mod_cast x.ratio_pos
  have hresult : x.toNat? =
      if x.ratio.1 % x.ratio.2 = 0 then some (x.ratio.1 / x.ratio.2) else none := rfl
  rw [value_eq_ratio, div_eq_iff hpos.ne', hresult]
  norm_cast
  constructor
  · intro h
    split_ifs at h with hdvd
    obtain rfl : x.ratio.1 / x.ratio.2 = n := Option.some.inj h
    exact (Nat.div_mul_cancel (Nat.dvd_of_mod_eq_zero hdvd)).symm
  · intro h
    simp [h, x.ratio_pos]

end Arithmetic

section Scaling
variable {s k : ℕ} {x y z : Binary64}

theorem onGrid_of_le {n : ℕ} (hn : n ≤ 2 ^ 53) : OnGrid n := by
  rcases hn.eq_or_lt with rfl | hlt
  · exact ⟨1, 53, by norm_num, by norm_num, by norm_num⟩
  · simpa using onGrid_natCast hlt 0

theorem natCast_lt {n : ℕ} (hn : n ≤ 2 ^ 64) : (n : ℚ) < 2 ^ 1023 :=
  calc (n : ℚ) ≤ 2 ^ 64 := by exact_mod_cast hn
    _ < 2 ^ 1023 := pow_lt_pow_right₀ one_lt_two (by norm_num)

/-- A number that is a magnitude comes out as it is. -/
theorem exists_ofNat (hgrid : OnGrid s) (hs : s ≤ 2 ^ 64) : ∃ x, ofNat s = some x ∧ x.value = s :=
  (ofNat_approximates s).exists_eq hgrid (natCast_lt hs)

theorem onGrid_ten_pow (hk : k ≤ 22) : OnGrid (10 ^ k) := by
  have hfive : 5 ^ k < 2 ^ 53 :=
    lt_of_le_of_lt (Nat.pow_le_pow_right (by norm_num) hk) (by norm_num)
  have h := onGrid_natCast hfive k
  push_cast at h
  rwa [← mul_pow, show (5 : ℚ) * 2 = 10 by norm_num] at h

theorem onGrid_two_zpow {e : ℤ} (he : -1074 ≤ e) : OnGrid (2 ^ e) :=
  ⟨1, e, by norm_num, he, by simp⟩

theorem ten_pow_lt (hk : k ≤ 307) : (10 : ℚ) ^ k < 2 ^ 1023 :=
  calc (10 : ℚ) ^ k ≤ 10 ^ 307 := pow_le_pow_right₀ (by norm_num) hk
    _ < 2 ^ 1023 := by exact_mod_cast (by decide +kernel : 10 ^ 307 < 2 ^ 1023)

/-- A power of ten is rounded to a magnitude. -/
theorem exists_powerOfTen (hk : k ≤ 307) : ∃ y, powerOfTen k = some y ∧ Rounds (10 ^ k) y := by
  have h := ofNat_approximates (10 ^ k)
  push_cast at h
  exact h.exists_rounds (ten_pow_lt hk)

theorem significand_ne_zero (hx : 0 < x.value) : x.significand ≠ 0 := by
  rintro hzero
  simp [value, hzero] at hx

/-- Where a scaled number is a magnitude, it comes out as it is. -/
theorem exists_scaleByTen (hk : 0 < x.value → k ≤ 22) (hgrid : OnGrid (x.value * 10 ^ k))
    (hlt : x.value * 10 ^ k < 2 ^ 1023) :
    ∃ z, x.scaleByTen k = some z ∧ z.value = x.value * 10 ^ k := by
  have hnonneg : (0 : ℤ) ≤ k := by omega
  by_cases hzero : x.significand = 0
  · refine ⟨x, by simp [scaleByTen, hzero], ?_⟩
    have hx₀ : x.value = 0 := by rw [value, hzero, Nat.cast_zero, zero_mul]
    rw [hx₀, zero_mul]
  · have hx : 0 < x.value := by
      unfold value
      have : 0 < x.significand := Nat.pos_of_ne_zero hzero
      positivity
    obtain ⟨y, hy, hrounds⟩ := exists_powerOfTen (k := k) (by have := hk hx; omega)
    have hvalue := hrounds.eq_of_onGrid (onGrid_ten_pow (hk hx))
    have hproduct := mul_approximates x y
    rw [hvalue] at hproduct
    obtain ⟨z, hz, hzvalue⟩ := hproduct.exists_eq hgrid hlt
    refine ⟨z, ?_, hzvalue⟩
    have hstep : (k : ℤ) ≤ greatestStep := by
      have := hk hx
      unfold greatestStep
      omega
    simp [scaleByTen, hzero, hstep, hy, hz]

/-- So it does where it is no greater than the integers of 64 bits. -/
theorem exists_scaleByTen_of_le (hx : x.value = s) (hgrid : OnGrid (s * 10 ^ k))
    (hle : (s : ℚ) * 10 ^ k ≤ 2 ^ 63) :
    ∃ z, x.scaleByTen k = some z ∧ z.value = s * 10 ^ k := by
  have hk (hpos : 0 < x.value) : k ≤ 22 := by
    by_contra hlt
    have hs : (1 : ℚ) ≤ s := by
      rw [hx] at hpos
      exact_mod_cast hpos
    have hpow : (10 : ℚ) ^ 22 ≤ 10 ^ k := pow_le_pow_right₀ (by norm_num) (by omega)
    have hgreat : (10 : ℚ) ^ 22 ≤ s * 10 ^ k := hpow.trans (le_mul_of_one_le_left (by positivity) hs)
    norm_num at hgreat hle
    linarith
  have hlt : (s : ℚ) * 10 ^ k < 2 ^ 1023 :=
    lt_of_le_of_lt hle (pow_lt_pow_right₀ one_lt_two (by norm_num))
  rw [← hx] at hgrid hlt ⊢
  exact exists_scaleByTen hk hgrid hlt

/-- A number that is scaled up is rounded, and so was the power of ten. -/
theorem rounds_scaleByTen (hx : 0 < x.value) (h : x.scaleByTen k = some z) :
    ∃ y, Rounds (10 ^ k) y ∧ Rounds (x.value * y.value) z := by
  have hzero := significand_ne_zero hx
  have hnonneg : (0 : ℤ) ≤ k := by omega
  rw [scaleByTen, if_pos hnonneg, if_neg hzero] at h
  split_ifs at h with hstep
  obtain ⟨y, hy, hz⟩ := Option.bind_eq_some_iff.mp h
  have hrounds := (ofNat_approximates (10 ^ k)).rounds y hy
  push_cast at hrounds
  exact ⟨y, hrounds, (mul_approximates x y).rounds z hz⟩

/-- The least magnitude beyond the integers of 64 bits with a sign. -/
def beyond : ℚ := 2 ^ 63 + 2 ^ 11

theorem onGrid_beyond : OnGrid beyond :=
  ⟨2 ^ 52 + 1, 11, by norm_num, by norm_num, by norm_num [beyond]⟩

/-- From the first power of two that 64 bits with a sign do not hold, the magnitudes go in steps of
2048. -/
theorem OnGrid.beyond_le {m : ℚ} (hm : OnGrid m) (h : 2 ^ 63 < m) : beyond ≤ m := by
  obtain ⟨n, hn⟩ | ⟨-, hsmall⟩ := hm.cases 11
  · have hstep : m = n * 2048 := by
      rw [hn]
      norm_num
    have hless : (2 : ℚ) ^ 52 < n := by linarith
    have hnext : (2 : ℚ) ^ 52 + 1 ≤ n := by exact_mod_cast hless
    unfold beyond
    linarith
  · have hless : m < 2 ^ 63 := lt_of_lt_of_eq hsmall (by norm_num)
    exact absurd h hless.not_gt

/-- A number that reaches a magnitude still reaches it when it is scaled up with rounding, as long as
the last exact power of ten is greater. -/
theorem le_scaleByTen {m : ℚ} (hm : OnGrid m) (hpos : 0 < m) (hten : m ≤ 10 ^ 22)
    (hx : x.value = s) (hs : m ≤ s * 10 ^ k) (h : x.scaleByTen k = some z) : m ≤ z.value := by
  have hs₀ : 0 < s := by
    refine Nat.pos_of_ne_zero ?_
    rintro rfl
    rw [Nat.cast_zero, zero_mul] at hs
    linarith
  have hone : (1 : ℚ) ≤ x.value := by
    rw [hx]
    exact_mod_cast hs₀
  obtain ⟨y, hy, hz⟩ := rounds_scaleByTen (by linarith) h
  refine hz.ge _ hm ?_
  rcases le_or_gt k 22 with hk | hk
  · rw [hx, hy.eq_of_onGrid (onGrid_ten_pow hk)]
    exact hs
  · -- The power of ten alone is too great.
    have hpow : (10 : ℚ) ^ 22 ≤ y.value :=
      hy.ge _ (onGrid_ten_pow le_rfl) (pow_le_pow_right₀ (by norm_num) hk.le)
    calc m ≤ 10 ^ 22 := hten
      _ ≤ y.value := hpow
      _ ≤ x.value * y.value := le_mul_of_one_le_left y.value_nonneg hone

/-- What lies closer to that power of two than to the next magnitude is rounded to it. -/
theorem Rounds.of_two_pow_le (hs : 2 ^ 63 ≤ s) (hx : Rounds s x) :
    (s < 2 ^ 63 + 1024 → x.value = 2 ^ 63) ∧ (2 ^ 63 + 1024 < s → beyond ≤ x.value) := by
  have hx₀ : (2 : ℚ) ^ 63 ≤ x.value :=
    hx.ge _ (by exact_mod_cast onGrid_two_zpow (e := 63) (by norm_num)) (by exact_mod_cast hs)
  have hnear := hx.near <|
    calc (2 : ℚ) ^ (-1022 : ℤ) ≤ 2 ^ (63 : ℤ) := zpow_le_zpow_right₀ one_le_two (by norm_num)
      _ ≤ s := by exact_mod_cast hs
  rw [abs_le] at hnear
  rcases hx₀.eq_or_lt with heq | hlt
  · refine ⟨fun _ => heq.symm, ?_⟩
    intro hfar
    have hfar' : (2 : ℚ) ^ 63 + 1025 ≤ s := by exact_mod_cast hfar
    linarith
  · have hnext := hx.onGrid.beyond_le hlt
    refine ⟨?_, fun _ => hnext⟩
    intro hclose
    have hclose' : (s : ℚ) + 1 ≤ 2 ^ 63 + 1024 := by exact_mod_cast hclose
    unfold beyond at hnext
    linarith

theorem ofNat_midway : ofNat (2 ^ 63 + 1024) = some ⟨2 ^ 52, 11⟩ := by decide +kernel

/-- A number whose lowest bits are lost by rounding is taken for the power of two exactly up to the
middle between it and the next magnitude. -/
theorem value_of_ofNat (hs : 2 ^ 63 ≤ s) (hx : ofNat s = some x) :
    (s ≤ 2 ^ 63 + 1024 → x.value = 2 ^ 63) ∧ (2 ^ 63 + 1024 < s → beyond ≤ x.value) := by
  have hrounds := ((ofNat_approximates s).rounds x hx).of_two_pow_le hs
  refine ⟨?_, hrounds.2⟩
  intro hle
  rcases hle.eq_or_lt with rfl | hlt
  · -- The tie goes to the even significand.
    obtain rfl : ⟨2 ^ 52, 11⟩ = x := Option.some.inj (ofNat_midway.symm.trans hx)
    norm_num [value]
  · exact hrounds.1 hlt

/-- In units of the last decimal place, the distance to another integer is an integer. -/
theorem one_le_abs_sub_mul {n : ℕ} (hne : (s : ℚ) / 10 ^ k ≠ n) :
    1 ≤ |(n : ℚ) - s / 10 ^ k| * 10 ^ k := by
  have hpos : (0 : ℚ) < 10 ^ k := by positivity
  have hint : (n * 10 ^ k - s : ℤ) ≠ 0 := by
    intro heq
    apply hne
    rw [div_eq_iff hpos.ne']
    exact_mod_cast (sub_eq_zero.mp heq).symm
  have hdist : |(n : ℚ) - s / 10 ^ k| * 10 ^ k = |((n * 10 ^ k - s : ℤ) : ℚ)| := by
    rw [← abs_of_pos hpos, ← abs_mul, abs_of_pos hpos, sub_mul, div_mul_cancel₀ _ hpos.ne']
    push_cast
    rfl
  rw [hdist]
  exact_mod_cast Int.one_le_abs hint

/-- A number that is no integer is not rounded to one, since it is farther from the integers than
half a unit of its last place. -/
theorem Rounds.eq_natCast_iff (hs : s < 2 ^ 53) (hk : k ≤ 22) (h : Rounds (s / 10 ^ k) z) (n : ℕ) :
    z.value = n ↔ (s : ℚ) / 10 ^ k = n := by
  constructor
  · intro hz
    by_contra hne
    have hs₀ : 0 < s := by
      refine Nat.pos_of_ne_zero ?_
      rintro rfl
      have hzero : OnGrid ((0 : ℕ) / 10 ^ k) := by simpa using onGrid_of_le (n := 0) (by norm_num)
      exact hne ((h.eq_of_onGrid hzero).symm.trans hz)
    have hnear := h.near <|
      calc (2 : ℚ) ^ (-1022 : ℤ) ≤ 2 ^ (-74 : ℤ) :=
            zpow_le_zpow_right₀ one_le_two (by norm_num)
        _ ≤ 1 / 10 ^ 22 := by norm_num
        _ ≤ s / 10 ^ k := by
            gcongr
            · exact_mod_cast hs₀
            · norm_num
    have hfar := one_le_abs_sub_mul hne
    have hless : (s : ℚ) < 2 ^ 53 := by exact_mod_cast hs
    have hlast : |(n : ℚ) - s / 10 ^ k| * 10 ^ k ≤ s / 2 ^ 53 :=
      calc |(n : ℚ) - s / 10 ^ k| * 10 ^ k ≤ s / 10 ^ k / 2 ^ 53 * 10 ^ k := by
            rw [hz] at hnear
            gcongr
        _ = s / 2 ^ 53 := by field_simp
    have hone : (s : ℚ) / 2 ^ 53 < 1 := by
      rw [div_lt_one (by positivity)]
      exact hless
    linarith
  · intro hq
    have hn : n ≤ 2 ^ 53 := by
      have hle : (n : ℚ) ≤ s := hq ▸ div_le_self (by positivity) (one_le_pow₀ (by norm_num))
      exact le_trans (by exact_mod_cast hle) hs.le
    rw [h.eq_of_onGrid (hq ▸ onGrid_of_le hn), hq]

/-- A number below one that is not too small is not rounded to an integer. -/
theorem Rounds.ne_natCast {q : ℚ} (h : Rounds q z) (hlow : 2 ^ (-1074 : ℤ) ≤ q) (hhigh : q ≤ 1 / 2)
    (n : ℕ) : z.value ≠ n := by
  have hpos : (2 : ℚ) ^ (-1074 : ℤ) ≤ z.value := h.ge _ (onGrid_two_zpow le_rfl) hlow
  have hless : z.value ≤ 1 / 2 :=
    h.le _ ⟨1, -1, by norm_num, by norm_num, by norm_num⟩ hhigh
  rintro hn
  rw [hn] at hpos hless
  have hn₀ : 0 < n := by
    have : (0 : ℚ) < n := lt_of_lt_of_le (by positivity) hpos
    exact_mod_cast this
  have hn₁ : (1 : ℚ) ≤ n := by exact_mod_cast hn₀
  linarith

theorem div_ne_natCast (hpos : 0 < s) {d : ℕ} (hs : s < d) (n : ℕ) : (s : ℚ) / d ≠ n := by
  have hd : (0 : ℚ) < d := by exact_mod_cast hpos.trans hs
  intro h
  rw [div_eq_iff hd.ne'] at h
  have hn : s = n * d := by exact_mod_cast h
  rcases Nat.eq_zero_or_pos n with rfl | hn₀
  · omega
  · exact absurd hs (Nat.not_lt.mpr (hn ▸ Nat.le_mul_of_pos_left d hn₀))

/-- What is divided by a great power of ten, itself rounded, lies below one. -/
theorem Rounds.ne_natCast_of_great (hs : s < 2 ^ 53) (hpos : 0 < s) (hk₀ : 22 ≤ k) (hk : k ≤ 307)
    (hy : Rounds (10 ^ k) y) (hz : Rounds (s / y.value) z) (n : ℕ) : z.value ≠ n := by
  have hgreat : (10 : ℚ) ^ 22 ≤ y.value :=
    hy.ge _ (onGrid_ten_pow le_rfl) (pow_le_pow_right₀ (by norm_num) hk₀)
  have hlimit : y.value ≤ 2 ^ (1023 : ℤ) :=
    hy.le _ (onGrid_two_zpow (by norm_num)) (by exact_mod_cast (ten_pow_lt hk).le)
  have hy₀ : 0 < y.value := lt_of_lt_of_le (by positivity) hgreat
  have hs₀ : (1 : ℚ) ≤ s := by exact_mod_cast hpos
  have hs₁ : (s : ℚ) ≤ 2 ^ 53 := by exact_mod_cast hs.le
  apply hz.ne_natCast
  · calc (2 : ℚ) ^ (-1074 : ℤ) ≤ 2 ^ (-1023 : ℤ) :=
          zpow_le_zpow_right₀ one_le_two (by norm_num)
      _ = 1 / 2 ^ (1023 : ℤ) := by rw [zpow_neg, one_div]
      _ ≤ s / y.value := by gcongr
  · calc (s : ℚ) / y.value ≤ 2 ^ 53 / 10 ^ 22 := by gcongr
      _ ≤ 1 / 2 := by norm_num

theorem scaleByTen_neg (x : Binary64) (hk₀ : 0 < k) (hk : k ≤ 307) (hy : powerOfTen k = some y) :
    x.scaleByTen (-k) = x.div y := by
  have hneg : ¬ (0 : ℤ) ≤ -k := by omega
  have hstep : k ≤ greatestStep := by
    unfold greatestStep
    omega
  rw [scaleByTen, if_neg hneg, neg_neg, Int.toNat_natCast, scaleByTen.shrink, if_pos hstep, hy]
  rfl

/-- Where a number that is scaled down is a magnitude, it comes out as it is. -/
theorem exists_scaleByTen_neg_of_onGrid (hs : s ≤ 2 ^ 64) (hx : x.value = s) (hk₀ : 0 < k)
    (hk : k ≤ 22) (hgrid : OnGrid (s / 10 ^ k)) :
    ∃ z, x.scaleByTen (-k) = some z ∧ z.value = s / 10 ^ k := by
  obtain ⟨y, hy, hrounds⟩ := exists_powerOfTen (k := k) (by omega)
  have hvalue := hrounds.eq_of_onGrid (onGrid_ten_pow hk)
  have hquotient := div_approximates x (y := y) (by rw [hvalue]; positivity)
  rw [hx, hvalue] at hquotient
  have hless : (s : ℚ) / 10 ^ k ≤ s := div_le_self (by positivity) (one_le_pow₀ (by norm_num))
  rw [scaleByTen_neg x hk₀ (by omega) hy]
  exact hquotient.exists_eq hgrid (lt_of_le_of_lt hless (natCast_lt hs))

/-- A number of 53 bits that is scaled down is an integer only if it is one in truth. -/
theorem exists_scaleByTen_neg (hs : s < 2 ^ 53) (hx : x.value = s) (hk₀ : 0 < k) (hk : k ≤ 307) :
    ∃ z, x.scaleByTen (-k) = some z ∧ ∀ n : ℕ, z.value = n ↔ (s : ℚ) / 10 ^ k = n := by
  obtain ⟨y, hy, hrounds⟩ := exists_powerOfTen hk
  have hone : 1 ≤ y.value := by
    refine hrounds.ge 1 ?_ (one_le_pow₀ (by norm_num))
    exact_mod_cast onGrid_of_le (n := 1) (by norm_num)
  have hless : (s : ℚ) / y.value ≤ s := div_le_self (by positivity) hone
  have hquotient := div_approximates x (y := y) (by linarith)
  rw [hx] at hquotient
  have hlimit : (s : ℚ) < 2 ^ 1023 := natCast_lt (hs.le.trans (by norm_num))
  obtain ⟨z, hz, hzrounds⟩ := hquotient.exists_rounds (lt_of_le_of_lt hless hlimit)
  refine ⟨z, (scaleByTen_neg x hk₀ hk hy).trans hz, ?_⟩
  intro n
  rcases le_or_gt k 22 with hshort | hlong
  · rw [hrounds.eq_of_onGrid (onGrid_ten_pow hshort)] at hzrounds
    exact hzrounds.eq_natCast_iff hs hshort n
  · rcases Nat.eq_zero_or_pos s with rfl | hpos
    · have hzero := hzrounds.eq_of_onGrid (by simpa using onGrid_of_le (n := 0) (by norm_num))
      simp [hzero]
    · have hpow : 10 ^ 22 ≤ 10 ^ k := Nat.pow_le_pow_right (by norm_num) hlong.le
      refine iff_of_false (hrounds.ne_natCast_of_great hs hpos hlong.le hk hzrounds n) ?_
      exact_mod_cast div_ne_natCast hpos (by omega : s < 10 ^ k) n

end Scaling

end Lexicon.Decimal.Binary64
