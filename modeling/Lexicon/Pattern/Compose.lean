import Lexicon.Pattern.Basic

/-!
# Putting patterns together

Each of these gives a pattern that matches the same as the plain combination of its parts. Literals
in a row are joined, sequences in sequences and choices in choices are flattened, and a choice
between single characters or sets of them is one set.
-/

namespace Lexicon.Pattern

/-- What matches one character of a set. -/
def ofSet (s : CharSet) : Pattern :=
  match s.ranges with
  | [(lo, hi)] => if lo = hi then .literal [Char.ofNat lo] else .oneOf s
  | _ => .oneOf s

/-- Joins literals that stand side by side. -/
def joinLiterals : List Pattern → List Pattern
  | [] => []
  | p :: rest =>
    match p, joinLiterals rest with
    | .literal s, .literal t :: others => .literal (s ++ t) :: others
    | _, others => p :: others

/-- Patterns one after the other. -/
def concat (ps : List Pattern) : Pattern :=
  .seqs (joinLiterals (ps.flatMap parts))

/-- The characters of a pattern that matches one character each time. -/
def asSet? : Pattern → Option CharSet
  | .oneOf s => some s
  | .literal [c] => some (.single c)
  | _ => none

/-- Holds of patterns with a group that captures. -/
def hasCapture : Pattern → Bool
  | .empty | .literal _ | .oneOf _ | .look _ => false
  | .seq p q | .alt p q => p.hasCapture || q.hasCapture
  | .repeated _ _ _ p => p.hasCapture
  | .capture _ => true

/-- The parts at the front that two sequences share. Groups that capture are never shared, since each
of them is a group of its own. -/
def sharedParts : List Pattern → List Pattern → List Pattern
  | p :: ps, q :: qs => if p = q && !p.hasCapture then p :: sharedParts ps qs else []
  | _, _ => []

/-- The parts of a pattern that is a sequence. -/
def sequenceParts : Pattern → List Pattern
  | .seq p q => (Pattern.seq p q).parts
  | _ => []

/-- The parts at the front that all branches of a choice share. -/
def sharedByAll : List Pattern → List Pattern
  | [] | [_] => []
  | first :: others =>
    others.foldl (fun shared p => sharedParts shared p.sequenceParts) first.sequenceParts

/-- A choice between branches that share nothing at the front. -/
def choice (branches : List Pattern) : Pattern :=
  match branches.mapM asSet? with
  | some sets => .ofSet (.unions sets)
  | none => .alts branches

/-- A choice between patterns. What all branches share at the front stands before the choice. -/
def alternation (ps : List Pattern) : Pattern :=
  let branches := ps.flatMap branches
  let shared := sharedByAll branches
  if shared.isEmpty then .choice branches
  else
    let rests := branches.map fun p => concat (p.parts.drop shared.length)
    .concat (shared ++ [.choice (rests.flatMap Pattern.branches)])

/-- A repetition. What matches the empty stretch only is repeated once at most. -/
def repetition (least : Nat) (most : Option Nat) (isGreedy : Bool) (body : Pattern) : Pattern :=
  if body.isZeroWidth then build (min least 1) (some (min (most.getD 1) 1))
  else build least most
where
  build (least : Nat) (most : Option Nat) : Pattern :=
    if least = 0 && most = some 0 then .empty
    else if least = 1 && most = some 1 then body
    else .repeated least most isGreedy body

end Lexicon.Pattern
