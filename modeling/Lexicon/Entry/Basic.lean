/-!
# Entries of a dictionary

An entry is one word record: a headword with its number, its translations under their labels, its
tags, its glosses, its variant forms and its links to other headwords.
-/

namespace Lexicon

/-- A headword: the number of its entry and its written form. -/
structure Headword where
  id : Int64
  form : String
deriving Repr, DecidableEq

/-- Translations that share a label. -/
structure Translation where
  label : String
  forms : List String
deriving Repr, DecidableEq

/-- A labelled note on an entry. -/
structure Gloss where
  label : String
  text : String
deriving Repr, DecidableEq

/-- A labelled variant form of the headword. -/
structure Variation where
  label : String
  form : String
deriving Repr, DecidableEq

/-- A labelled link to another headword. -/
structure Relation where
  label : String
  target : Headword
deriving Repr, DecidableEq

/-- One word record of a dictionary. -/
structure Entry where
  headword : Headword
  translations : List Translation
  tags : List String
  glosses : List Gloss
  variations : List Variation
  relations : List Relation
deriving Repr, DecidableEq

namespace Entry

/-- The number of the headword. -/
def id (e : Entry) : Int64 := e.headword.id

/-- The written form of the headword. -/
def form (e : Entry) : String := e.headword.form

/-- The entry that has a headword only. -/
def ofForm (id : Int64) (form : String) : Entry :=
  ⟨⟨id, form⟩, [], [], [], [], []⟩

end Entry

end Lexicon
