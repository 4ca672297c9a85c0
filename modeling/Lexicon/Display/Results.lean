import Lexicon.Display.Segment
import Lexicon.Search.Outcome
import Lexicon.Text.Lines

/-!
# Results as text

Every hit has a headline: the dictionary, the form of the headword and the translations. The details
follow it on lines of their own, indented and labelled. The hits of a search can also be written as
a JSON list.
-/

namespace Lexicon.Display

open Search (Hit EntryFailure)
open Segment (plain painted newLine)

/-- The translations of an entry on one line, those of one label after those of another. -/
def translationLine (e : Entry) : String :=
  let groups := e.translations.filter fun t => !t.forms.isEmpty
  String.intercalate "; " (groups.map fun t => Text.commaList t.forms)

/-- Holds if some label has a translation. -/
def isTranslated (e : Entry) : Bool := e.translations.any fun t => !t.forms.isEmpty

/-- The headline of a hit. -/
def headline (h : Hit) : List Segment :=
  [painted .magenta h.dictionaryName, plain ":", ⟨some ⟨.red, true⟩, h.form⟩] ++
    (if isTranslated h.entry then [plain ("  " ++ translationLine h.entry)] else []) ++ [newLine]

/-- The indentation of a detail, and its label if it has one. -/
def label (name : String) : List Segment :=
  plain "    " ::
    if name.isEmpty then [] else [painted .cyan ("[" ++ name ++ "]"), plain " "]

/-- A labelled detail on a line of its own. -/
def detail (name text : String) : List Segment :=
  label name ++ [plain text, newLine]

/-- A gloss, whose later lines are indented further. -/
def glossDetail (g : Gloss) : List Segment :=
  match Text.splitLines g.text with
  | [] => detail g.label ""
  | line :: more => detail g.label line ++ more.flatMap fun l => [plain ("      " ++ l), newLine]

/-- The details of an entry. -/
def details (e : Entry) : List Segment :=
  (e.translations.flatMap fun t => detail t.label (Text.commaList t.forms)) ++
    (if e.tags.isEmpty then [] else detail "tags" (Text.commaList e.tags)) ++
    e.glosses.flatMap glossDetail ++
    (e.variations.flatMap fun v => detail v.label v.form) ++
    e.relations.flatMap fun r => detail r.label ("-> " ++ r.target.form)

/-- The hits of a search, with or without the details of their entries. -/
def results (isDetailed : Bool) (hits : List Hit) : List Segment :=
  hits.flatMap fun h => headline h ++ if isDetailed then details h.entry else []

/-- An entry together with the name of its dictionary. -/
structure Row where
  dictionary : String
  word : Entry
deriving Repr, DecidableEq

/-- The layout of a row. -/
def Row.layout : Json.Layout Row where
  shape := .record "Row" <|
    .cons "dictionary" true .text <| .cons "word" true Entry.layout.shape .nil
  ofValue := fun (dictionary, word, ()) => ⟨dictionary, Entry.layout.ofValue word⟩
  toValue r := (r.dictionary, Entry.layout.toValue r.word, ())
  ofValue_toValue r := by simp only [Json.Layout.ofValue_toValue]

/-- The row of a hit. -/
def Row.ofHit (h : Hit) : Row := ⟨h.dictionaryName, h.entry⟩

/-- The hits of a search as a JSON list, over several lines. -/
def json (hits : List Hit) : String :=
  (Row.layout.list.toTree (hits.map Row.ofHit)).toPrettyText ++ "\n"

/-- The warning that a predicate failed on an entry. -/
def failureWarning (f : EntryFailure) : String :=
  s!"warning: {f.dictionaryName}: entry {f.entryId.toInt} skipped: {f.message}\n"

/-- The warnings of a search. -/
def failureWarnings (fs : List EntryFailure) : List String := fs.map failureWarning

end Lexicon.Display
