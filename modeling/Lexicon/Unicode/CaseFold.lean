import Lexicon.Unicode.CaseOrbit

/-!
# Closing sets under letter case

A set is closed under case if it holds whole orbits or nothing of them.
-/

namespace Lexicon.Unicode

/-- Reads orbits from text: code points in hexadecimal, slashes within an orbit, blanks and line
ends between orbits. The orbit and the number at hand come first. -/
def readOrbits (orbit : List Nat) (value : Option Nat) : List Char → List (List Nat)
  | [] => [finish orbit value].filter (!·.isEmpty)
  | c :: rest =>
    if c = '/' then readOrbits (finish orbit value) none rest
    else if c = ' ' || c = '\n' then
      match finish orbit value with
      | [] => readOrbits [] none rest
      | codes => codes :: readOrbits [] none rest
    else readOrbits orbit (some (value.getD 0 * 16 + CharSet.hexDigitValue c)) rest
where
  finish (orbit : List Nat) (value : Option Nat) : List Nat :=
    orbit ++ value.toList

/-- The orbits of two or more characters that differ in case only. -/
def caseOrbits : List (List Nat) :=
  readOrbits [] none orbitText.toList

/-- The set with every character that differs from a member in case only. -/
def closeUnderCase (s : CharSet) : CharSet :=
  let touched := caseOrbits.filter fun orbit => orbit.any s.containsCode
  s.union ⟨touched.flatMap fun orbit => orbit.map fun n => (n, n)⟩

/-- The set with every letter of ASCII that differs from a member in case only. -/
def closeUnderAsciiCase (s : CharSet) : CharSet :=
  let letters := (List.range 26).flatMap fun i =>
    let upper := 'A'.toNat + i
    let lower := 'a'.toNat + i
    if s.containsCode upper || s.containsCode lower then [(upper, upper), (lower, lower)] else []
  s.union ⟨letters⟩

end Lexicon.Unicode
