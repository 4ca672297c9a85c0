/-!
# Binary numbers of 64 bits

The magnitudes that the binary format of 64 bits can hold: an integer of at most 53 bits times a
power of two. Results of arithmetic are rounded to the nearest such number, a tie to the even one;
what lies beyond the greatest is no number.
-/

namespace Lexicon.Decimal

/-- A magnitude: the significand times two to the power of the exponent. -/
structure Binary64 where
  significand : Nat
  exponent : Int
deriving Repr, DecidableEq

namespace Binary64

/-- Nothing. -/
def zero : Binary64 := ⟨0, 0⟩

/-- The least exponent. -/
def minExponent : Int := -1074

/-- The greatest exponent. -/
def maxExponent : Int := 971

/-- The least significand of 53 bits. -/
def leastFull : Nat := 0x10000000000000

/-- The numerator and the denominator of a magnitude. -/
def ratio (x : Binary64) : Nat × Nat :=
  if 0 ≤ x.exponent then (x.significand <<< x.exponent.toNat, 1)
  else (x.significand, 1 <<< (-x.exponent).toNat)

/-- A quotient rounded to the nearest integer, a tie to the even one. -/
def roundDiv (num den : Nat) : Nat :=
  let q := num / den
  let twice := 2 * (num % den)
  if twice < den then q
  else if den < twice then q + 1
  else q + q % 2

/-- The quotient of two numbers in units of a power of two, rounded. -/
def roundAt (num den : Nat) (exponent : Int) : Nat :=
  if 0 ≤ exponent then roundDiv num (den <<< exponent.toNat)
  else roundDiv (num <<< (-exponent).toNat) den

/-- The power of two in whose units a quotient has 53 bits, or the least one. -/
def unitOf (num den : Nat) : Int :=
  let guess : Int := (num.log2 : Int) - den.log2 - 53
  let guess := if 2 * leastFull ≤ floorAt num den guess then guess + 1 else guess
  max guess minExponent
where
  floorAt (num den : Nat) (exponent : Int) : Nat :=
    if 0 ≤ exponent then num / (den <<< exponent.toNat)
    else (num <<< (-exponent).toNat) / den

/-- The magnitude nearest to a quotient, unless it is too great. -/
def ofRatio (num den : Nat) : Option Binary64 :=
  if num = 0 then some zero
  else
    let unit := unitOf num den
    let n := roundAt num den unit
    let x : Binary64 := if n = 2 * leastFull then ⟨leastFull, unit + 1⟩ else ⟨n, unit⟩
    if maxExponent < x.exponent then none else some x

/-- The magnitude nearest to a natural number, unless it is too great. -/
def ofNat (n : Nat) : Option Binary64 := ofRatio n 1

/-- The product, rounded. -/
def mul (x y : Binary64) : Option Binary64 :=
  ofRatio (x.ratio.1 * y.ratio.1) (x.ratio.2 * y.ratio.2)

/-- The quotient, rounded, by a magnitude that is not zero. -/
def div (x y : Binary64) : Option Binary64 :=
  ofRatio (x.ratio.1 * y.ratio.2) (x.ratio.2 * y.ratio.1)

/-- The natural number that a magnitude is, if it is one. -/
def toNat? (x : Binary64) : Option Nat :=
  let (num, den) := x.ratio
  if num % den = 0 then some (num / den) else none

/-- The power of ten that decimal notation is scaled by in one step, rounded. -/
def powerOfTen (n : Nat) : Option Binary64 := ofNat (Nat.pow 10 n)

/-- The greatest exponent of ten whose power is a magnitude. -/
def greatestStep : Nat := 308

/-- A magnitude times a power of ten. A great negative power is divided out in steps of 308, and
each step is rounded. -/
def scaleByTen (x : Binary64) (exponent : Int) : Option Binary64 :=
  if 0 ≤ exponent then
    if x.significand = 0 then some x
    else if exponent ≤ greatestStep then do x.mul (← powerOfTen exponent.toNat)
    else none
  else shrink x (-exponent).toNat
where
  shrink (x : Binary64) (n : Nat) : Option Binary64 :=
    if n ≤ greatestStep then do x.div (← powerOfTen n)
    else if x.significand = 0 then some x
    else do
      let smaller ← x.div (← powerOfTen greatestStep)
      shrink smaller (n - greatestStep)
  termination_by n
  decreasing_by simp only [greatestStep] at *; omega

end Binary64

end Lexicon.Decimal
