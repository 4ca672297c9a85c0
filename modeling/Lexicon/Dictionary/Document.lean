import Lexicon.Entry.Layout
import Lexicon.Log

/-!
# Dictionary documents

The text of a dictionary is a JSON record whose entries stand under the name `words`. What else it
holds is passed over.
-/

namespace Lexicon

open Json (Layout)

/-- The text of a dictionary that cannot be read. -/
structure ParseError where
  name : String
  error : Json.ReadError
deriving Repr, DecidableEq

namespace ParseError

/-- What is wrong with which dictionary, without the place. -/
def summary (e : ParseError) : String :=
  s!"failed to parse dictionary '{e.name}': {e.error.cause.message}"

/-- The text of a parse error. -/
def message (e : ParseError) : String :=
  s!"failed to parse dictionary '{e.name}': {e.error.message}"

/-- The event that a text is passed over. -/
def event (e : ParseError) : LogEvent where
  level := .warning
  message := "skipping unparsable dictionary"
  fields := [("dictionary", e.name), ("error", e.error.message)]

end ParseError

namespace Document

/-- The layout of a document, of which only the entries matter. -/
def layout : Layout (List Entry) where
  shape := .record "OtmDocument" (.cons "words" false Entry.layout.list.shape .nil)
  ofValue := fun (words, ()) => Entry.layout.list.ofValue words
  toValue es := (Entry.layout.list.toValue es, ())
  ofValue_toValue es := Layout.ofValue_toValue _ es

/-- The entries of the document that a text writes. -/
def read (name text : String) : Except ParseError (List Entry) :=
  (layout.decode text).mapError (ParseError.mk name)

end Document

end Lexicon
