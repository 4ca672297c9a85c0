import Lexicon.Pattern.Machine
import Lexicon.Text.Utf8Range
import Std.Data.HashMap

/-!
# Machines for sets of characters

A set within ASCII is one state with a way out for each range of bytes. Any other set is built from
the encodings of its ranges. Towards the end of the text the sequences share what they have in common
at the front, and states that are alike are built once; towards its start they share their ends.

Which states are known to be alike is kept in a table of fixed length. Where a state falls in it
hangs on its ways out, and a state that falls on another takes its place, so that the other is built
again when it is needed again.
-/

namespace Lexicon.Pattern

open Text

/-- The way in which a machine reads a text: from its start on, or from its end back. -/
inductive Direction where
  | forward
  | backward
deriving DecidableEq

/-- A way out of a state: the bytes on which it is taken, and the state where it leads. -/
structure Way where
  bytes : ByteRange
  target : Nat
deriving DecidableEq

/-- The place of numbers in a table of some length, by multiplying and folding in each number. -/
def tablePlace (length : UInt64) (numbers : List Nat) : UInt64 :=
  let hash := numbers.foldl (fun h n => (h ^^^ UInt64.ofNat n) * 1099511628211) 14695981039346656037
  hash % length

/-- States by their places in a table, each under what it was built for. -/
abbrev StateTable (α : Type) := Std.HashMap UInt64 (α × Nat)

/-- The state that stands at a place, if it was built for the same. -/
def StateTable.find? {α : Type} [DecidableEq α] (table : StateTable α) (place : UInt64) (a : α) :
    Option Nat :=
  match table[place]? with
  | some (b, state) => if a = b then some state else none
  | none => none

namespace SetMachine

/-- A state whose ways out are being collected: those that are settled, and the bytes of the last
way, if where it leads is still open. -/
structure OpenState where
  settled : List Way
  pending : Option ByteRange

/-- Builds a state with given ways out, unless the table has it. -/
def addSparse (table : StateTable (List Way)) (ways : List Way) :
    Build (Nat × StateTable (List Way)) := do
  let place := tablePlace 10000 <| ways.flatMap fun w => [w.bytes.first, w.bytes.last, w.target]
  match table.find? place ways with
  | some state => return (state, table)
  | none =>
    let state ← Build.addState (8 * ways.length)
    return (state, table.insert place (ways, state))

/-- Settles the last way out of a state. -/
def OpenState.settle (s : OpenState) (target : Nat) : OpenState :=
  match s.pending with
  | some bytes => ⟨s.settled ++ [⟨bytes, target⟩], none⟩
  | none => s

/-- Builds the states of a path, the deepest first, and gives the first of them. What the path leads
to is given. -/
def finishPath (stop : Nat) (table : StateTable (List Way)) : (path : List OpenState) →
    Build (Nat × StateTable (List Way))
  | [] => return (stop, table)
  | s :: deeper => do
    let (target, table) ← finishPath stop table deeper
    addSparse table (s.settle target).settled

/-- Puts a sequence in a path. States of the path that it does not share are built. -/
def insertSequence (stop : Nat) (table : StateTable (List Way)) : (path : List OpenState) →
    (sequence : List ByteRange) → Build (List OpenState × StateTable (List Way))
  | [], sequence => return (sequence.map fun r => ⟨[], some r⟩, table)
  | path, [] => return (path, table)
  | s :: deeper, r :: rest => do
    if s.pending = some r then
      let (deeper, table) ← insertSequence stop table deeper rest
      return (s :: deeper, table)
    else
      let (target, table) ← finishPath stop table deeper
      let first : OpenState := ⟨(s.settle target).settled, some r⟩
      return (first :: rest.map fun r => ⟨[], some r⟩, table)

/-- Puts sequences in a path, and builds what is left of it at the end. -/
def insertAll (stop : Nat) (table : StateTable (List Way)) (path : List OpenState) :
    (sequences : List (List ByteRange)) → Build Unit
  | [] => do
    let _ ← finishPath stop table path
    return ()
  | sequence :: rest => do
    let (path, table) ← insertSequence stop table path sequence
    insertAll stop table path rest

/-- Builds the states of a sequence behind one another, the state for its first bytes last in the
machine's order, and gives the state built last. -/
def followSequence (table : StateTable (Nat × ByteRange)) (target : Nat) :
    (sequence : List ByteRange) → Build (Nat × StateTable (Nat × ByteRange))
  | [] => return (target, table)
  | r :: rest => do
    let place := tablePlace 1000 [target, r.first, r.last]
    match table.find? place (target, r) with
    | some state => followSequence table state rest
    | none =>
      let state ← Build.addState 0
      followSequence (table.insert place ((target, r), state)) state rest

/-- Builds sequences as ways out of one fork. -/
def followAll (stop : Nat) (table : StateTable (Nat × ByteRange)) :
    (sequences : List (List ByteRange)) → Build Unit
  | [] => return ()
  | sequence :: rest => do
    let (_, table) ← followSequence table stop sequence
    Build.addWays 1
    followAll stop table rest

/-- Builds the states for one character of a set. -/
def build (direction : Direction) (set : CharSet) : Build Unit :=
  if set.isAscii then Build.grow ⟨2, 8 * set.ranges.length⟩
  else
    let sequences := set.ranges.flatMap fun r => byteSequences r.1 r.2
    match direction with
    | .forward => do
      let stop ← Build.addState 0
      insertAll stop ∅ [] sequences
    | .backward => do
      let _ ← Build.addFork
      let stop ← Build.addState 0
      followAll stop ∅ sequences

end SetMachine

end Lexicon.Pattern
