import Lexicon.Pattern.Compose
import Lexicon.Pattern.SetMachine
import Lexicon.Pattern.WordTree

/-!
# Sizes of patterns

A pattern is refused if a machine for it would be too big. There are two machines: one reads a text
from its start on and notes where groups begin and end, the other reads a text from its end back.
Repetitions with counts copy their body.
-/

namespace Lexicon.Pattern

/-- The fewest characters that a pattern matches. Patterns that match nothing have no such number,
nor have those with a branch that matches nothing. -/
def shortest? : Pattern → Option Nat
  | .empty | .look _ => some 0
  | .literal text => some text.length
  | .oneOf s => if s.ranges.isEmpty then none else some 1
  | .seq p q =>
    match p.shortest?, q.shortest? with
    | some m, some n => some (m + n)
    | _, _ => none
  | .alt p q =>
    match p.shortest?, q.shortest? with
    | some m, some n => some (min m n)
    | _, _ => none
  | .repeated least _ _ p => p.shortest?.map (least * ·)
  | .capture p => p.shortest?

/-- Holds of patterns that match at the start of a text only. -/
def isAtStart : Pattern → Bool
  | .empty | .literal _ | .oneOf _ => false
  | .look condition => condition = .textStart
  | .seq p q => p.isAtStart || p.isZeroWidth && q.isAtStart
  | .alt p q => p.isAtStart && q.isAtStart
  | .repeated least _ _ p => 0 < least && p.isAtStart
  | .capture p => p.isAtStart

/-- Holds of patterns that match at the end of a text only. -/
def isAtEnd : Pattern → Bool
  | .empty | .literal _ | .oneOf _ => false
  | .look condition => condition = .textEnd
  | .seq p q => q.isAtEnd || q.isZeroWidth && p.isAtEnd
  | .alt p q => p.isAtEnd && q.isAtEnd
  | .repeated least _ _ p => 0 < least && p.isAtEnd
  | .capture p => p.isAtEnd

/-- The words of a choice between literals, by their bytes. -/
def words? : Pattern → Option (List (List UInt8))
  | .literal text => some [Text.encode text]
  | .alt p q =>
    match p.words?, q.words? with
    | some s, some t => some (s ++ t)
    | _, _ => none
  | _ => none

/-- The part that a pattern plays in a choice: none, or a branch of one. -/
inductive Role where
  | whole
  /-- The second branch, and whether the first one ends in a fork. -/
  | second (isFork : Bool)
  | later

/-- Joins a branch to the branches before it. The fork and the place where branches meet are added
with the second. Whether the whole ends in a fork is the result. -/
def Role.join (isFork : Bool) : Role → Build Bool
  | .whole => return isFork
  | .second firstIsFork => do
    let _ ← Build.addFork
    Build.addStates 1
    Build.addWays 2
    Build.link firstIsFork
    Build.link isFork
    return false
  | .later => do
    Build.addWays 1
    Build.link isFork
    return false

/-- Builds a machine for a pattern. Whether it ends in a fork is the result. -/
def build (direction : Direction) (role : Role) : Pattern → Build Bool
  | .empty | .look _ => do
    Build.addStates 1
    role.join false
  | .literal text => do
    Build.addStates (Text.byteSize text)
    role.join false
  | .oneOf set => do
    SetMachine.build direction set
    role.join false
  | .seq p q =>
    match direction with
    | .forward => do
      let isFork ← p.build direction .whole
      let last ← q.build direction .whole
      Build.link isFork
      role.join last
    | .backward => do
      let isFork ← q.build direction .whole
      let last ← p.build direction .whole
      Build.link isFork
      role.join last
  | .alt p q =>
    match role, (Pattern.alt p q).words? with
    | .whole, some words => do
      Build.grow (WordTree.room (match direction with
        | .forward => words
        | .backward => words.map List.reverse))
      return false
    | _, _ => do
      let isFork ← p.build direction .whole
      match role with
      | .whole => q.build direction (.second isFork)
      | _ => do
        let _ ← role.join isFork
        q.build direction .later
  | .repeated least most _ p => do
    let canBeEmpty := !p.shortest?.any (0 < ·)
    let isFork ← Build.repetition (p.build direction .whole) canBeEmpty least most
    role.join isFork
  | .capture p =>
    match direction with
    | .forward => do
      Build.addStates 1
      let isFork ← p.build direction .whole
      Build.addStates 1
      Build.link isFork
      role.join false
    | .backward => do
      let isFork ← p.build direction .whole
      role.join isFork

/-- Builds the machine for a whole pattern. Unless the pattern matches at one end of the text only, a
loop in front passes over the bytes before the match. -/
def buildWhole (direction : Direction) (p : Pattern) : Build Unit := do
  let isAnchored := match direction with
    | .forward => p.isAtStart
    | .backward => p.isAtEnd
  Build.grow (if isAnchored then ⟨1, 0⟩ else ⟨3, 12⟩)
  match direction with
  | .forward =>
    let _ ← (Pattern.capture p).build direction .whole
    Build.addStates 1
  | .backward =>
    let isFork ← p.build direction .whole
    Build.addStates 1
    Build.link isFork
  Build.addWays (!isAnchored).toNat

/-- The number of literals from which on a choice between them is looked up without a machine. -/
def wordLimit : Nat := 3000

/-- Holds of patterns that are small enough to be matched. -/
def fits (p : Pattern) : Bool :=
  let isLookedUp := match p.words? with
    | some words => wordLimit ≤ words.length
    | none => false
  let isBuilt (direction : Direction) := (p.buildWhole direction ⟨0, 0⟩).isSome
  isLookedUp || (isBuilt .forward && isBuilt .backward)

end Lexicon.Pattern
