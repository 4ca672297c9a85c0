import Lexicon.Pattern.Machine

/-!
# Machines for words

A choice between words is a tree: words that begin alike share a path. Since words that come first
are preferred, a word that ends at a node closes what was collected there, and words after it are
collected anew.
-/

namespace Lexicon.Pattern

namespace WordTree

/-- What words leave at a node: the words before the first that ends there, those between that and
the next, and so on. A word that ends where one has ended and none has gone on adds nothing. -/
def sections (current : List (List UInt8)) (goesOn hasEnded : Bool) :
    (words : List (List UInt8)) → List (List (List UInt8))
  | [] => [current.reverse]
  | [] :: rest =>
    if !goesOn && hasEnded then sections current goesOn hasEnded rest
    else current.reverse :: sections [] goesOn true rest
  | word :: rest => sections (word :: current) true hasEnded rest

/-- What is left of the words that begin with a byte. -/
def behind (byte : UInt8) (words : List (List UInt8)) : List (List UInt8) :=
  words.filterMap fun
    | b :: rest => if b = byte then some rest else none
    | [] => none

/-- The bytes with which words begin. -/
def firstBytes (words : List (List UInt8)) : List UInt8 :=
  (words.filterMap List.head?).eraseDups

/-- The room that a node takes with all below it. A section with one way out is a plain state, one
with several has room for each, and a fork leads to the sections and to the end. Where no word goes
on there is no node. -/
def nodeRoom : (depth : Nat) → (words : List (List UInt8)) → Draft
  | 0, _ => ⟨0, 0⟩
  | depth + 1, words =>
    let parts := sections [] false false words
    let rooms := parts.map fun part =>
      let bytes := firstBytes part
      let below := bytes.map fun byte =>
        let rest := behind byte part
        if rest.all List.isEmpty then ⟨0, 0⟩ else nodeRoom depth rest
      let own : Draft := match bytes.length with
        | 0 => ⟨0, 0⟩
        | 1 => ⟨1, 4⟩
        | n => ⟨1, 8 * n + 4⟩
      below.foldl Draft.add own
    rooms.foldl Draft.add ⟨1, 4 * (parts.length - 1)⟩

/-- The room for a choice between words, with the state where all of them end. -/
def room (words : List (List UInt8)) : Draft :=
  let depth := words.foldl (fun n word => max n word.length) 0
  (nodeRoom (depth + 1) words).add ⟨1, 0⟩

end WordTree

end Lexicon.Pattern
