import Lexicon.CharSet

/-!
# Named sets of characters

A property value of Unicode has several names and a set of characters. The names are kept in their
loose form: lower case, without blanks, hyphens and underscores.
-/

namespace Lexicon.Unicode

/-- A set of characters under its loose names, written as the ranges of its code points. -/
structure NamedSet where
  names : List String
  ranges : String

/-- The characters of a named set. -/
def NamedSet.charSet (s : NamedSet) : CharSet :=
  CharSet.ofText s.ranges

/-- The set that carries a loose name in a table. -/
def NamedSet.find? (table : List NamedSet) (name : String) : Option NamedSet :=
  table.find? fun s => s.names.contains name

end Lexicon.Unicode
