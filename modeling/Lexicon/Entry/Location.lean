import Lexicon.Entry.Basic

/-!
# Places of text in an entry

A location is a kind of place in an entry that holds text. It may hold no text at all, or several
texts; only the form of the headword is always there.
-/

namespace Lexicon

/-- A kind of place that holds text. -/
inductive Location where
  | headwordForm
  | translationForm
  | translationLabel
  | tag
  | glossText
  | glossLabel
  | variationForm
  | variationLabel
  | relationForm
  | relationLabel
deriving Repr, DecidableEq

namespace Location

/-- Every location, in the order in which they are listed. -/
def all : List Location :=
  [headwordForm, translationForm, translationLabel, tag, glossText, glossLabel, variationForm,
    variationLabel, relationForm, relationLabel]

/-- The texts that an entry holds at a location. -/
def texts (e : Entry) : Location → List String
  | headwordForm => [e.form]
  | translationForm => e.translations.flatMap Translation.forms
  | translationLabel => e.translations.map Translation.label
  | tag => e.tags
  | glossText => e.glosses.map Gloss.text
  | glossLabel => e.glosses.map Gloss.label
  | variationForm => e.variations.map Variation.form
  | variationLabel => e.variations.map Variation.label
  | relationForm => e.relations.map fun r => r.target.form
  | relationLabel => e.relations.map Relation.label

/-- Holds if there is a text at the location. -/
def isPresent (e : Entry) (l : Location) : Bool :=
  !(l.texts e).isEmpty

/-- The texts at several locations, one location after the other. -/
def textsAt (ls : List Location) (e : Entry) : List String :=
  ls.flatMap (texts e)

theorem mem_textsAt {ls : List Location} {e : Entry} {s : String} :
    s ∈ textsAt ls e ↔ ∃ l ∈ ls, s ∈ l.texts e := by
  simp [textsAt]

end Location

end Lexicon
