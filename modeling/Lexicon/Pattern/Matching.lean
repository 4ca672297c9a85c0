import Lexicon.Pattern.Basic

/-!
# Matching

A text of `n` characters has the places `0` to `n`. A set of places is a number whose bits are the
members. What a pattern matches is a relation between places, and it is enough to follow the set of
places that are reached: a pattern is found in a text if some place can be reached from some other.

For one text, the sets of characters and the conditions of a pattern are turned into sets of places
first, so that following a pattern is arithmetic on bits.
-/

namespace Lexicon.Pattern

/-- A set of places, as bits. -/
abbrev Places := Nat

namespace Places

/-- The places at which a test holds, given its outcomes from the first place on. -/
def ofOutcomes (outcomes : List Bool) : Places :=
  outcomes.foldr (fun b s => 2 * s + b.toNat) 0

/-- The members of the first set that are not in the second. -/
def without (s t : Places) : Places := s ^^^ (s &&& t)

end Places

/-- A pattern for one text: each set of characters is the set of places before such a character, and
each condition the set of places where it holds. -/
inductive Plan where
  | empty
  | step (places : Places)
  | gate (places : Places)
  | seq (first second : Plan)
  | alt (left right : Plan)
  | repeated (least : Nat) (most : Option Nat) (body : Plan)

/-- The outcomes of a condition at every place of a text, given the character before it. -/
def Look.outcomes (look : Look) (before : Option Char) : List Char → List Bool
  | [] => [look.holds before none]
  | c :: rest => look.holds before (some c) :: look.outcomes (some c) rest

/-- The plan of a pattern for a text. -/
def plan (text : List Char) : Pattern → Plan
  | .empty => .empty
  | .literal cs =>
    cs.foldr (fun c p => .seq (.step (.ofOutcomes (text.map (· == c)))) p) .empty
  | .oneOf set => .step (.ofOutcomes (text.map set.contains))
  | .look condition => .gate (.ofOutcomes (condition.outcomes none text))
  | .seq p q => .seq (p.plan text) (q.plan text)
  | .alt p q => .alt (p.plan text) (q.plan text)
  | .repeated least most _ p => .repeated least most (p.plan text)
  | .capture p => p.plan text

/-- Follows a step a number of times. -/
def follow (step : Places → Places) : (count : Nat) → Places → Places
  | 0, s => s
  | count + 1, s => if s = 0 then 0 else follow step count (step s)

/-- What is reached by at most a number of steps from the places found last, together with the
places found before. -/
def spread (step : Places → Places) : (count : Nat) → (seen last : Places) → Places
  | 0, seen, _ => seen
  | count + 1, seen, last =>
    let found := Places.without (step last) seen
    if found = 0 then seen else spread step count (seen ||| found) found

/-- The places that a plan reaches from a set of places, in a text with `n` places. More than `n`
steps of a repetition reach nothing new, because one of them has to stand still. -/
def Plan.reach (n : Nat) : Plan → Places → Places
  | .empty, s => s
  | .step places, s => (s &&& places) <<< 1
  | .gate places, s => s &&& places
  | .seq p q, s => q.reach n (p.reach n s)
  | .alt p q, s => p.reach n s ||| q.reach n s
  | .repeated least most p, s =>
    let start := follow (p.reach n) (min least n) s
    let more := match most with
      | none => n
      | some m => min (m - least) n
    spread (p.reach n) more start start

/-- Holds if a pattern matches some stretch of a text. -/
def isFoundIn (p : Pattern) (text : String) : Bool :=
  let cs := text.toList
  let n := cs.length + 1
  (p.plan cs).reach n ((1 <<< n) - 1) != 0

end Lexicon.Pattern
