/-!
# Sets of characters

A set of characters is a list of ranges of code points, both ends included. Membership reads the
list as it is; the operations of set algebra return their ranges in ascending order, disjoint and
not adjacent.
-/

namespace Lexicon

/-- A set of characters, as ranges of code points with both ends included. -/
structure CharSet where
  ranges : List (Nat × Nat)
deriving DecidableEq

namespace CharSet

/-- The greatest code point. -/
def maxCode : Nat := 0x10FFFF

/-- Membership of a code point. -/
def containsCode (s : CharSet) (n : Nat) : Bool :=
  s.ranges.any fun r => r.1 ≤ n && n ≤ r.2

/-- Membership of a character. -/
def contains (s : CharSet) (c : Char) : Bool :=
  s.containsCode c.toNat

/-- The set without members. -/
def empty : CharSet := ⟨[]⟩

/-- The set of all characters. -/
def all : CharSet := ⟨[(0, maxCode)]⟩

/-- The set of one character. -/
def single (c : Char) : CharSet := ⟨[(c.toNat, c.toNat)]⟩

/-- The set of given characters. -/
def ofList (cs : List Char) : CharSet := ⟨cs.map fun c => (c.toNat, c.toNat)⟩

/-- The characters from one to another, both included. -/
def range (lo hi : Char) : CharSet := ⟨[(lo.toNat, hi.toNat)]⟩

theorem containsCode_iff {s : CharSet} {n : Nat} :
    s.containsCode n = true ↔ ∃ r ∈ s.ranges, r.1 ≤ n ∧ n ≤ r.2 := by
  simp [containsCode]

/-- The same members in ascending ranges with gaps between them. -/
def normalize (s : CharSet) : CharSet :=
  ⟨(s.ranges.mergeSort fun p q => p.1 ≤ q.1).foldr insertMerged []⟩
where
  /-- Puts a range in front and swallows what it touches. -/
  insertMerged (r : Nat × Nat) : List (Nat × Nat) → List (Nat × Nat)
    | [] => [r]
    | q :: rest => if q.1 ≤ r.2 + 1 then insertMerged (r.1, max r.2 q.2) rest else r :: q :: rest

/-- The code point after one. Surrogates are no characters and are passed over. -/
def nextCode (n : Nat) : Nat := if n = 0xD7FF then 0xE000 else n + 1

/-- The code point before one, passing over surrogates. -/
def prevCode (n : Nat) : Nat := if n = 0xE000 then 0xD7FF else n - 1

/-- The range of two ends in either order. -/
def between (m n : Nat) : Nat × Nat := (min m n, max m n)

/-- The gaps in and behind ascending ranges, given the end of the range before. Two ranges that meet
at the surrogates have no character between them, and the gap is what their ends span. -/
def gapsAfter (last : Nat) : List (Nat × Nat) → List (Nat × Nat)
  | [] => if last < maxCode then [(nextCode last, maxCode)] else []
  | (lo, hi) :: rest => between (nextCode last) (prevCode lo) :: gapsAfter hi rest

/-- The gaps around ascending ranges. -/
def gaps : List (Nat × Nat) → List (Nat × Nat)
  | [] => [(0, maxCode)]
  | (lo, hi) :: rest =>
    if 0 < lo then (0, prevCode lo) :: gapsAfter hi rest else gapsAfter hi rest

/-- The characters that are no members. -/
def complement (s : CharSet) : CharSet :=
  ⟨gaps s.normalize.ranges⟩

/-- The members of either set. -/
def union (s t : CharSet) : CharSet :=
  normalize ⟨s.ranges ++ t.ranges⟩

/-- What is left of a range without the ranges of an ascending list. -/
def cut (lo hi : Nat) : List (Nat × Nat) → List (Nat × Nat)
  | [] => [(lo, hi)]
  | (a, b) :: rest =>
    if b < lo then cut lo hi rest
    else if hi < a then [(lo, hi)]
    else
      let before := if lo < a then [(lo, prevCode a)] else []
      if b < hi then before ++ cut (nextCode b) hi rest else before

/-- The members of the first set that are not in the second. -/
def difference (s t : CharSet) : CharSet :=
  let others := t.normalize.ranges
  ⟨s.normalize.ranges.flatMap fun r => cut r.1 r.2 others⟩

/-- What two ranges share, if they share anything. -/
def overlap? (p q : Nat × Nat) : Option (Nat × Nat) :=
  let lo := max p.1 q.1
  let hi := min p.2 q.2
  if lo ≤ hi then some (lo, hi) else none

/-- The members of both sets. -/
def inter (s t : CharSet) : CharSet :=
  let others := t.normalize.ranges
  ⟨s.normalize.ranges.flatMap fun r => others.filterMap (overlap? r)⟩

/-- The members of exactly one of the sets. -/
def symmetricDifference (s t : CharSet) : CharSet :=
  (s.union t).difference (s.inter t)

/-- The members of any of the sets. -/
def unions (sets : List CharSet) : CharSet :=
  normalize ⟨sets.flatMap CharSet.ranges⟩

/-- Holds if every member is an ASCII character. -/
def isAscii (s : CharSet) : Bool :=
  s.ranges.all fun r => r.2 < 128

/-- The value of a hexadecimal digit in upper case. -/
def hexDigitValue (c : Char) : Nat :=
  if c.toNat < 58 then c.toNat - 48 else c.toNat - 55

/-- Puts the range that ends at the number read last, if any was read, in front of others. -/
def finishRange (lo value : Option Nat) (rest : List (Nat × Nat)) : List (Nat × Nat) :=
  match value with
  | some hi => (lo.getD hi, hi) :: rest
  | none => rest

/-- Reads ranges from text: code points in hexadecimal, a hyphen between the ends of a range, blanks
and line ends between ranges. The low end of the range and the number at hand come first, where they
are known. -/
def readRanges (lo value : Option Nat) : List Char → List (Nat × Nat)
  | [] => finishRange lo value []
  | c :: rest =>
    if c = '-' then readRanges value none rest
    else if c = ' ' || c = '\n' then finishRange lo value (readRanges none none rest)
    else readRanges lo (some (value.getD 0 * 16 + hexDigitValue c)) rest

/-- The set that a text lists. -/
def ofText (text : String) : CharSet :=
  ⟨readRanges none none text.toList⟩

end CharSet

end Lexicon
