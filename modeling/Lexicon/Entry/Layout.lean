import Lexicon.Entry.Basic
import Lexicon.Json.Layout

/-!
# The layout of entries

How an entry and its parts are laid out in JSON. Labels go by the name `title`, glosses by the name
`contents`, and a headword stands under the name `entry`. Only the number of a headword and the
headwords themselves are required.
-/

namespace Lexicon

open Json (Layout Shape)

/-- The layout of a headword. -/
def Headword.layout : Layout Headword where
  shape := .record "Headword" <|
    .cons "id" true .id <| .cons "form" false .text .nil
  ofValue := fun (id, form, ()) => ⟨id, form⟩
  toValue h := (h.id, h.form, ())
  ofValue_toValue _ := rfl

/-- The layout of translations that share a label. -/
def Translation.layout : Layout Translation where
  shape := .record "Translation" <|
    .cons "title" false .text <| .cons "forms" false (.list .text) .nil
  ofValue := fun (label, forms, ()) => ⟨label, forms⟩
  toValue t := (t.label, t.forms, ())
  ofValue_toValue _ := rfl

/-- The layout of a gloss. -/
def Gloss.layout : Layout Gloss where
  shape := .record "Gloss" <|
    .cons "title" false .text <| .cons "text" false .text .nil
  ofValue := fun (label, text, ()) => ⟨label, text⟩
  toValue g := (g.label, g.text, ())
  ofValue_toValue _ := rfl

/-- The layout of a variant form. -/
def Variation.layout : Layout Variation where
  shape := .record "Variation" <|
    .cons "title" false .text <| .cons "form" false .text .nil
  ofValue := fun (label, form, ()) => ⟨label, form⟩
  toValue v := (v.label, v.form, ())
  ofValue_toValue _ := rfl

/-- The layout of a link. -/
def Relation.layout : Layout Relation where
  shape := .record "Relation" <|
    .cons "title" false .text <| .cons "entry" true Headword.layout.shape .nil
  ofValue := fun (label, target, ()) => ⟨label, Headword.layout.ofValue target⟩
  toValue r := (r.label, Headword.layout.toValue r.target, ())
  ofValue_toValue _ := rfl

/-- The layout of an entry. -/
def Entry.layout : Layout Entry where
  shape := .record "Entry" <|
    .cons "entry" true Headword.layout.shape <|
    .cons "translations" false Translation.layout.list.shape <|
    .cons "tags" false (.list .text) <|
    .cons "contents" false Gloss.layout.list.shape <|
    .cons "variations" false Variation.layout.list.shape <|
    .cons "relations" false Relation.layout.list.shape .nil
  ofValue := fun (headword, translations, tags, glosses, variations, relations, ()) =>
    { headword := Headword.layout.ofValue headword
      translations := Translation.layout.list.ofValue translations
      tags
      glosses := Gloss.layout.list.ofValue glosses
      variations := Variation.layout.list.ofValue variations
      relations := Relation.layout.list.ofValue relations }
  toValue e :=
    (Headword.layout.toValue e.headword, Translation.layout.list.toValue e.translations, e.tags,
      Gloss.layout.list.toValue e.glosses, Variation.layout.list.toValue e.variations,
      Relation.layout.list.toValue e.relations, ())
  ofValue_toValue e := by
    simp only [Layout.ofValue_toValue]

end Lexicon
