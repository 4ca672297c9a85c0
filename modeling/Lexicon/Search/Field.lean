import Lexicon.Entry.Location

/-!
# Fields and strategies of a search

A built-in search looks for a needle in one field of every entry, under one strategy. Fields and
strategies have a name each, and other names under which they may be asked for.
-/

namespace Lexicon.Search

/-- Which texts of an entry a search looks at. -/
inductive Field where
  | headword
  | translation
  | translationTag
  | tag
  | variationTag
  | everything
deriving Repr, DecidableEq

namespace Field

/-- Every field, in the order in which they are listed. -/
def all : List Field :=
  [headword, translation, translationTag, tag, variationTag, everything]

/-- The name of a field. -/
def name : Field → String
  | headword => "headword"
  | translation => "translation"
  | translationTag => "translation-tag"
  | tag => "tag"
  | variationTag => "variation-tag"
  | everything => "everything"

/-- The field that goes by a name. -/
def ofName? : String → Option Field
  | "headword" | "word" => some headword
  | "translation" => some translation
  | "translation-tag" | "translationTag" => some translationTag
  | "tag" | "word-tag" | "wordTag" => some tag
  | "variation-tag" | "variationTag" => some variationTag
  | "everything" | "all" => some everything
  | _ => none

theorem ofName?_name (f : Field) : ofName? f.name = some f := by
  cases f <;> rfl

/-- The locations that a field covers. -/
def locations : Field → List Location
  | headword => [.headwordForm]
  | translation => [.translationForm]
  | translationTag => [.translationLabel]
  | tag => [.tag]
  | variationTag => [.variationLabel]
  | everything => [.headwordForm, .translationForm, .glossText, .variationForm]

/-- The texts of an entry that a field covers. -/
def texts (f : Field) (e : Entry) : List String :=
  Location.textsAt f.locations e

end Field

/-- How a text is compared with the needle. -/
inductive Strategy where
  | startsWith
  | endsWith
  | regexp
  | contains
deriving Repr, DecidableEq

namespace Strategy

/-- Every strategy, in the order in which they are listed. -/
def all : List Strategy := [startsWith, endsWith, regexp, contains]

/-- The name of a strategy. -/
def name : Strategy → String
  | startsWith => "prefix"
  | endsWith => "suffix"
  | regexp => "regexp"
  | contains => "substring"

/-- The strategy that goes by a name. -/
def ofName? : String → Option Strategy
  | "prefix" | "forward" => some startsWith
  | "suffix" | "backward" => some endsWith
  | "regexp" | "regex" => some regexp
  | "substring" | "partial" | "contains" => some contains
  | _ => none

theorem ofName?_name (s : Strategy) : ofName? s.name = some s := by
  cases s <;> rfl

end Strategy

/-- A name that no field, or no strategy, goes by. -/
inductive UnknownName where
  | field (name : String)
  | strategy (name : String)
deriving Repr, DecidableEq

/-- The wording of an unknown name. -/
def UnknownName.message : UnknownName → String
  | .field name => s!"unknown search field '{name}'"
  | .strategy name => s!"unknown match strategy '{name}'"

/-- The field of a name, or the complaint that there is none. -/
def Field.ofName (name : String) : Except UnknownName Field :=
  match ofName? name with
  | some f => .ok f
  | none => .error (.field name)

/-- The strategy of a name, or the complaint that there is none. -/
def Strategy.ofName (name : String) : Except UnknownName Strategy :=
  match ofName? name with
  | some s => .ok s
  | none => .error (.strategy name)

end Lexicon.Search
