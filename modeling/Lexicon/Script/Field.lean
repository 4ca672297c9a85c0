import Lexicon.Entry.Location
import Lexicon.Text.Case

/-!
# Fields of the expression language

A script names the texts of an entry by field. A field has one or more names, read without regard
to the case of ASCII letters, and stands for one or more locations.
-/

namespace Lexicon.Script

/-- What a script can ask about. -/
inductive Field where
  | headword
  | translation
  | translationLabel
  | tag
  | gloss
  | glossLabel
  | variation
  | variationLabel
  | relation
  | relationLabel
  | everything
deriving Repr, DecidableEq

namespace Field

/-- The names of fields, in lower case. -/
def names : List (String × Field) :=
  [("headword", headword), ("word", headword), ("form", headword),
   ("translation", translation), ("translations", translation),
   ("translation.label", translationLabel), ("translation.title", translationLabel),
   ("tag", tag), ("tags", tag),
   ("gloss", gloss), ("content", gloss), ("contents", gloss),
   ("gloss.label", glossLabel), ("content.title", glossLabel),
   ("variation", variation), ("variations", variation),
   ("variation.label", variationLabel), ("variation.title", variationLabel),
   ("relation", relation), ("relations", relation),
   ("relation.label", relationLabel), ("relation.title", relationLabel),
   ("everything", everything), ("all", everything)]

/-- The field of a name. -/
def ofName? (name : String) : Option Field :=
  names.lookup (Text.lowerAscii name.toList)

/-- The locations that a field stands for. -/
def locations : Field → List Location
  | headword => [.headwordForm]
  | translation => [.translationForm]
  | translationLabel => [.translationLabel]
  | tag => [.tag]
  | gloss => [.glossText]
  | glossLabel => [.glossLabel]
  | variation => [.variationForm]
  | variationLabel => [.variationLabel]
  | relation => [.relationForm]
  | relationLabel => [.relationLabel]
  | everything => [.headwordForm, .translationForm, .glossText, .variationForm]

end Field

/-- Holds of the name under which a script compares the number of an entry. -/
def isIdName (name : String) : Bool :=
  Text.lowerAscii name.toList = "id"

end Lexicon.Script
