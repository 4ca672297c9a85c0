import Lexicon.CharSet

/-!
# Patterns

A pattern denotes the stretches of a text that it matches. It is made of sets of characters and of
conditions on places, by sequence, choice and repetition.
-/

namespace Lexicon.Pattern

/-- Conditions on a place between characters. Those on words say which characters form words. -/
inductive Look where
  | textStart
  | textEnd
  | lineStart
  | lineEnd
  /-- Lines end with a carriage return, with a line feed, or with both. -/
  | anyLineStart
  | anyLineEnd
  | wordBoundary (word : CharSet)
  | notWordBoundary (word : CharSet)
  | wordStart (word : CharSet)
  | wordEnd (word : CharSet)
  | wordStartHalf (word : CharSet)
  | wordEndHalf (word : CharSet)
deriving DecidableEq

/-- Whether a condition holds between the character before a place and the one after it, if there
are such. -/
def Look.holds (before after : Option Char) : Look → Bool
  | .textStart => before.isNone
  | .textEnd => after.isNone
  | .lineStart => before.all (· == '\n')
  | .lineEnd => after.all (· == '\n')
  | .anyLineStart =>
    match before with
    | none => true
    | some c => c == '\n' || (c == '\x0D' && after != some '\n')
  | .anyLineEnd =>
    match after with
    | none => true
    | some c => c == '\x0D' || (c == '\n' && before != some '\x0D')
  | .wordBoundary word => before.any word.contains != after.any word.contains
  | .notWordBoundary word => before.any word.contains == after.any word.contains
  | .wordStart word => !before.any word.contains && after.any word.contains
  | .wordEnd word => before.any word.contains && !after.any word.contains
  | .wordStartHalf word => !before.any word.contains
  | .wordEndHalf word => !after.any word.contains

end Lexicon.Pattern

namespace Lexicon

/-- A pattern. A literal matches its characters one after the other, a repetition without a greatest
count goes on without bound, and a group that captures matches what its body matches. Whether a
repetition is greedy makes no difference to what can be matched. -/
inductive Pattern where
  | empty
  | literal (text : List Char)
  | oneOf (set : CharSet)
  | look (condition : Pattern.Look)
  | seq (first second : Pattern)
  | alt (left right : Pattern)
  | repeated (least : Nat) (most : Option Nat) (isGreedy : Bool) (body : Pattern)
  | capture (body : Pattern)
deriving DecidableEq

namespace Pattern

/-- Patterns one after the other. -/
def seqs : List Pattern → Pattern
  | [] => .empty
  | [p] => p
  | p :: ps => .seq p (seqs ps)

/-- A choice between patterns. -/
def alts : List Pattern → Pattern
  | [] => .oneOf .empty
  | [p] => p
  | p :: ps => .alt p (alts ps)

/-- The patterns that follow one another in a pattern. -/
def parts : Pattern → List Pattern
  | .empty => []
  | .seq p q => p.parts ++ q.parts
  | p => [p]

/-- The patterns between which a pattern chooses. -/
def branches : Pattern → List Pattern
  | .alt p q => p.branches ++ q.branches
  | p => [p]

/-- Holds of patterns that are bound to match the empty stretch only. -/
def isZeroWidth : Pattern → Bool
  | .empty | .look _ => true
  | .literal _ | .oneOf _ => false
  | .seq p q | .alt p q => p.isZeroWidth && q.isZeroWidth
  | .repeated _ most _ p => most.isSome && p.isZeroWidth
  | .capture p => p.isZeroWidth

end Pattern

end Lexicon
