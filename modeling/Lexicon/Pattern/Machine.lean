import Lexicon.Pattern.Basic

/-!
# Machines

A machine matches a pattern byte by byte. It is a graph of states, and what is modelled here is how
much room it takes while it is built: the states are numbered in the order in which they are added,
and building ends without a machine as soon as the room runs out.
-/

namespace Lexicon.Pattern

/-- The greatest size of a machine in bytes. -/
def sizeLimit : Nat := 10485760

/-- A machine as far as it is built: the number of its states, and the bytes that they take beyond
what each state takes. -/
structure Draft where
  states : Nat
  extra : Nat
deriving DecidableEq

/-- The size of a draft in bytes. -/
def Draft.size (d : Draft) : Nat := 32 * d.states + d.extra

/-- The draft of both machines together. -/
def Draft.add (d e : Draft) : Draft := ⟨d.states + e.states, d.extra + e.extra⟩

/-- A step in building a machine. It has no result if there is no room. -/
def Build (α : Type) : Type := Draft → Option (α × Draft)

namespace Build

/-- A result without building anything. -/
def give {α : Type} (a : α) : Build α := fun d => some (a, d)

/-- One step and then another. -/
def andThen {α β : Type} (step : Build α) (next : α → Build β) : Build β := fun d =>
  match step d with
  | none => none
  | some (a, d) => next a d

instance : Monad Build where
  pure := give
  bind := andThen

/-- Makes a draft bigger. -/
def grow (more : Draft) : Build Unit := fun d =>
  let d := d.add more
  if d.size ≤ sizeLimit then some ((), d) else none

/-- Adds states that take no more than any state. -/
def addStates (count : Nat) : Build Unit := grow ⟨count, 0⟩

/-- Adds a state that takes some bytes more, and gives its number. -/
def addState (extra : Nat) : Build Nat := fun d =>
  match grow ⟨1, extra⟩ d with
  | none => none
  | some (_, after) => some (d.states, after)

/-- Adds a fork. Its ways out are added later. -/
def addFork : Build Nat := addState 0

/-- Adds a number of ways out to forks. -/
def addWays (count : Nat) : Build Unit := grow ⟨0, 4 * count⟩

/-- Leads from the end of what was built to the next state. This takes room if the end is a fork. -/
def link (isFork : Bool) : Build Unit := addWays isFork.toNat

/-- Builds a part a number of times more, each time behind the last. Whether what stands there last
ends in a fork goes in and comes out. -/
def more (part : Build Bool) : (count : Nat) → (isFork : Bool) → Build Bool
  | 0, isFork, d => some (isFork, d)
  | count + 1, isFork, d =>
    match part d with
    | none => none
    | some (next, d) =>
      match link isFork d with
      | none => none
      | some (_, d) => more part count next d

/-- Builds a part a number of times in a row. -/
def copies (part : Build Bool) : (count : Nat) → Build Bool
  | 0 => do
    addStates 1
    return false
  | count + 1 => do
    let isFork ← part
    more part count isFork

/-- Builds a part a number of times so that each time the rest can be left out. -/
def optional (part : Build Bool) : (count : Nat) → (isFork : Bool) → Build Bool
  | 0, isFork, d =>
    match link isFork d with
    | none => none
    | some (_, d) => some (false, d)
  | count + 1, isFork, d =>
    match addFork d with
    | none => none
    | some (_, d) =>
      match part d with
      | none => none
      | some (next, d) =>
        match grow ⟨0, 8 + 4 * isFork.toNat⟩ d with
        | none => none
        | some (_, d) => optional part count next d

/-- Builds a repetition of a part. A part that can match the empty stretch needs a second fork if it
may be left out and goes on without bound. -/
def repetition (part : Build Bool) (canBeEmpty : Bool) : (least : Nat) → (most : Option Nat) →
    Build Bool
  | 0, none => do
    if canBeEmpty then
      let isFork ← part
      let _ ← addFork
      link isFork
      let _ ← addFork
      addStates 1
      addWays 4
      return false
    else
      let _ ← addFork
      let isFork ← part
      addWays 1
      link isFork
      return true
  | 1, none => do
    let isFork ← part
    let _ ← addFork
    link isFork
    addWays 1
    return true
  | least + 2, none => do
    let before ← copies part (least + 1)
    let isFork ← part
    let _ ← addFork
    link before
    link isFork
    addWays 1
    return true
  | least, some most => do
    if least = 0 && most = 1 then
      let _ ← addFork
      let isFork ← part
      addStates 1
      addWays 2
      link isFork
      return false
    else if least = most then copies part least
    else
      let isFork ← copies part least
      addStates 1
      optional part (most - least) isFork

end Build

end Lexicon.Pattern
