import Lexicon.Pattern.Place

/-!
# Patterns as they are written

The tree of a pattern's text. Each node knows the stretch of the pattern that it was read from, and
no node says yet what it matches: that hangs on the flags in force.
-/

namespace Lexicon.Pattern

/-- What a flag letter switches. -/
inductive Flag where
  | caseInsensitive
  | multiLine
  | dotMatchesNewline
  | swapGreed
  | unicode
  | crlf
  | ignoreSpace
deriving Repr, DecidableEq

/-- One item in a list of flags: a flag, or the mark that switches the flags after it off. -/
structure FlagItem where
  span : Span
  flag : Option Flag
deriving Repr, DecidableEq

/-- Whether a list of flags switches a flag on or off, if it names it. -/
def flagState (flag : Flag) : (items : List FlagItem) → Option Bool :=
  go true
where
  go (value : Bool) : List FlagItem → Option Bool
    | [] => none
    | item :: rest =>
      match item.flag with
      | none => go false rest
      | some f => if f = flag then some value else go value rest

/-- A character that stands for itself, and whether it was written as two hexadecimal digits, which
may mean a byte. -/
structure Literal where
  span : Span
  char : Char
  isByteEscape : Bool
deriving Repr, DecidableEq

/-- The classes of the escapes `\d`, `\s` and `\w`. -/
inductive ShortClass where
  | digit
  | space
  | word
deriving Repr, DecidableEq

/-- The classes of ASCII that are written between colons. -/
inductive AsciiClass where
  | alnum
  | alpha
  | ascii
  | blank
  | cntrl
  | digit
  | graph
  | lower
  | print
  | punct
  | space
  | upper
  | word
  | xdigit
deriving Repr, DecidableEq

/-- The class of a name between colons. -/
def AsciiClass.ofName? : String → Option AsciiClass
  | "alnum" => some .alnum
  | "alpha" => some .alpha
  | "ascii" => some .ascii
  | "blank" => some .blank
  | "cntrl" => some .cntrl
  | "digit" => some .digit
  | "graph" => some .graph
  | "lower" => some .lower
  | "print" => some .print
  | "punct" => some .punct
  | "space" => some .space
  | "upper" => some .upper
  | "word" => some .word
  | "xdigit" => some .xdigit
  | _ => none

/-- How a property of Unicode is asked for: by a name, or by a name and a value that the property
has or does not have. -/
inductive PropertyQuery where
  | named (name : String)
  | valued (name value : String)
  | unequal (name value : String)
deriving Repr, DecidableEq

/-- The operators between sets of characters. -/
inductive SetOperator where
  | intersection
  | difference
  | symmetricDifference
deriving Repr, DecidableEq

/-- A set of characters as it is written between brackets. -/
inductive ClassSet where
  | empty (span : Span)
  | literal (l : Literal)
  | range (span : Span) (first last : Literal)
  | ascii (span : Span) (negated : Bool) (name : AsciiClass)
  | short (span : Span) (negated : Bool) (name : ShortClass)
  | property (span : Span) (negated : Bool) (query : PropertyQuery)
  | bracketed (span : Span) (negated : Bool) (set : ClassSet)
  | union (span : Span) (items : List ClassSet)
  | binary (span : Span) (op : SetOperator) (left right : ClassSet)
deriving Inhabited

/-- The stretch of a set. -/
def ClassSet.span : ClassSet → Span
  | .empty s => s
  | .literal l => l.span
  | .range s _ _ => s
  | .ascii s _ _ => s
  | .short s _ _ => s
  | .property s _ _ => s
  | .bracketed s _ _ => s
  | .union s _ => s
  | .binary s _ _ _ => s

/-- Conditions on a place in the text. -/
inductive Assertion where
  | lineStart
  | lineEnd
  | textStart
  | textEnd
  | wordBoundary
  | notWordBoundary
  | wordStart
  | wordEnd
  | wordStartHalf
  | wordEndHalf
deriving Repr, DecidableEq

/-- What a group is for: to capture what it matches, or to set flags. -/
inductive GroupKind where
  | capturing
  | flagged (items : List FlagItem)
deriving Repr, DecidableEq

/-- A pattern as it is written. -/
inductive Ast where
  | empty (span : Span)
  | flags (span : Span) (items : List FlagItem)
  | literal (l : Literal)
  | dot (span : Span)
  | assertion (span : Span) (kind : Assertion)
  | short (span : Span) (negated : Bool) (name : ShortClass)
  | property (span : Span) (negated : Bool) (query : PropertyQuery)
  | bracketed (span : Span) (negated : Bool) (set : ClassSet)
  | repetition (span : Span) (least : Nat) (most : Option Nat) (isGreedy : Bool) (body : Ast)
  | group (span : Span) (kind : GroupKind) (body : Ast)
  | alternation (span : Span) (branches : List Ast)
  | concat (span : Span) (items : List Ast)
deriving Inhabited

/-- The stretch of a pattern. -/
def Ast.span : Ast → Span
  | .empty s => s
  | .flags s _ => s
  | .literal l => l.span
  | .dot s => s
  | .assertion s _ => s
  | .short s _ _ => s
  | .property s _ _ => s
  | .bracketed s _ _ => s
  | .repetition s _ _ _ _ => s
  | .group s _ _ => s
  | .alternation s _ => s
  | .concat s _ => s

/-- Items in a row; one item is that item. -/
def Ast.ofItems (span : Span) : List Ast → Ast
  | [] => .empty span
  | [a] => a
  | as => .concat span as

end Lexicon.Pattern
