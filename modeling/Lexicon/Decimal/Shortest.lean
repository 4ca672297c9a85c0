import Lexicon.Decimal.Binary64

/-!
# Shortest decimal notation

A magnitude of the binary format is written with the fewest decimal digits that round to it; among
those digits the ones nearest to it are taken, and of two equally near the even one.
-/

namespace Lexicon.Decimal

/-- Decimal digits times a power of ten. -/
structure Digits where
  value : Nat
  exponent : Int
deriving Repr, DecidableEq

/-- The exponent of the greatest power of ten that a positive quotient reaches. -/
def leadingExponent (num den : Nat) : Int :=
  if den ≤ num then ((toString (num / den)).length : Int) - 1
  else -((toString ((den + num - 1) / num - 1)).length : Int)

namespace Binary64

/-- The ends of the interval of quotients that round to a positive magnitude, in quarters of its
unit, and whether they round to it themselves. -/
def interval (x : Binary64) : Nat × Nat × Bool :=
  let s := 4 * x.significand
  let below := if x.significand = leastFull && minExponent < x.exponent then s - 1 else s - 2
  (below, s + 2, x.significand % 2 = 0)

/-- Decimal digits in units of a power of ten, in quarters of a power of two: both sides of a
comparison as natural numbers. -/
def compareSides (x : Binary64) (digits : Nat) (power : Int) : Nat × Nat :=
  let tens := if 0 ≤ power then (Nat.pow 10 power.toNat, 1) else (1, Nat.pow 10 (-power).toNat)
  let twos := if 0 ≤ x.exponent then (1 <<< x.exponent.toNat, 1) else (1, 1 <<< (-x.exponent).toNat)
  (digits * 4 * tens.1 * twos.2, twos.1 * tens.2)

/-- Holds if decimal digits round to a magnitude. -/
def roundsTo (x : Binary64) (digits : Nat) (power : Int) : Bool :=
  let (low, high, closed) := x.interval
  let (d, unit) := x.compareSides digits power
  if closed then low * unit ≤ d && d ≤ high * unit else low * unit < d && d < high * unit

/-- The nearest number of a decimal grid that rounds to a magnitude, if one does. -/
def nearestOn (x : Binary64) (power : Int) : Option Nat :=
  let (one, unit) := x.compareSides 1 power
  let target := 4 * x.significand * unit
  let low := target / one
  let fromLow := target - low * one
  let fromHigh := (low + 1) * one - target
  match x.roundsTo low power, x.roundsTo (low + 1) power with
  | false, false => none
  | true, false => some low
  | false, true => some (low + 1)
  | true, true =>
    if fromLow < fromHigh then some low
    else if fromHigh < fromLow then some (low + 1)
    else some (low + low % 2)

/-- Digits without zeros at the end. -/
def trim (value : Nat) (exponent : Int) : (fuel : Nat) → Digits
  | 0 => ⟨value, exponent⟩
  | fuel + 1 =>
    if value % 10 = 0 && value != 0 then trim (value / 10) (exponent + 1) fuel
    else ⟨value, exponent⟩

/-- The fewest digits that round to a magnitude. Seventeen are always enough. -/
def shortest (x : Binary64) : Digits :=
  if x.significand = 0 then ⟨0, 0⟩
  else
    let top := leadingExponent x.ratio.1 x.ratio.2
    match (List.range 17).findSome? fun (n : Nat) =>
        (x.nearestOn (top - n)).map fun d => (d, top - (n : Int)) with
    | some (d, power) => trim d power 20
    | none => ⟨0, 0⟩

/-- The decimal notation of a magnitude: positional from the fifth place behind the point up to
sixteen places before it, and with a power of ten elsewhere. A point or a power is always shown. -/
def toDecimal (x : Binary64) : String :=
  let d := x.shortest
  let ds := toString d.value
  let top := d.exponent + ds.length - 1
  if x.significand = 0 then "0.0"
  else if -5 ≤ top && top ≤ 15 then
    if 0 ≤ d.exponent then ds ++ zeros d.exponent.toNat ++ ".0"
    else if 0 ≤ top then
      let whole := ds.toList.take (top.toNat + 1)
      let part := ds.toList.drop (top.toNat + 1)
      String.ofList whole ++ "." ++ String.ofList part
    else "0." ++ zeros (-top - 1).toNat ++ ds
  else
    let mantissa := match ds.toList with
      | [c] => String.singleton c
      | c :: rest => String.singleton c ++ "." ++ String.ofList rest
      | [] => ""
    mantissa ++ (if 0 ≤ top then "e+" else "e-") ++ toString top.natAbs
where
  zeros (n : Nat) : String := String.ofList (List.replicate n '0')

end Binary64

end Lexicon.Decimal
