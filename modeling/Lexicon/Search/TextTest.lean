import Lexicon.Search.Field
import Lexicon.Search.QueryError

/-!
# Tests of a text

A test compares one text with a needle: by its beginning, its end, a part of it, the whole of it, or
by a pattern. Texts are compared character by character.
-/

namespace Lexicon.Search

/-- Holds if the needle stands somewhere in a text. -/
def occursIn (needle : List Char) : List Char → Bool
  | [] => needle.isEmpty
  | c :: rest => needle.isPrefixOf (c :: rest) || occursIn needle rest

/-- A test of a text. -/
inductive TextTest where
  | startsWith (needle : String)
  | endsWith (needle : String)
  | contains (needle : String)
  | equals (needle : String)
  | found (pattern : Pattern)

namespace TextTest

/-- Whether a text passes a test. -/
def passes (text : String) : TextTest → Bool
  | startsWith needle => needle.toList.isPrefixOf text.toList
  | endsWith needle => needle.toList.isSuffixOf text.toList
  | contains needle => occursIn needle.toList text.toList
  | equals needle => text = needle
  | found pattern => pattern.isFoundIn text

/-- The test whether the pattern that a text writes is found. -/
def ofPattern (text : String) : Except QueryError TextTest :=
  match Pattern.compile text with
  | .ok p => .ok (found p)
  | .error refusal => .error (.pattern text refusal)

/-- The test of a strategy with a needle. Only the needle of a pattern can be refused. -/
def ofStrategy (strategy : Strategy) (needle : String) : Except QueryError TextTest :=
  match strategy with
  | .startsWith => .ok (startsWith needle)
  | .endsWith => .ok (endsWith needle)
  | .contains => .ok (contains needle)
  | .regexp => ofPattern needle

end TextTest

end Lexicon.Search
