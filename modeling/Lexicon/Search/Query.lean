import Lexicon.Json.Layout
import Lexicon.Search.Field

/-!
# Queries

The parameters of a built-in search: a field, a strategy and a needle.
-/

namespace Lexicon.Search

open Json (Layout)

/-- What a built-in search looks for, and where. -/
structure Query where
  field : Field := .headword
  strategy : Strategy := .startsWith
  needle : String := ""
deriving Repr, DecidableEq

/-- The layout of a field: its name. -/
def Field.layout : Layout Field :=
  .choice name headword [translation, translationTag, tag, variationTag, everything]
    fun f => by cases f <;> decide

/-- The layout of a strategy: its name. -/
def Strategy.layout : Layout Strategy :=
  .choice name startsWith [endsWith, regexp, contains] fun s => by cases s <;> decide

/-- The layout of a query. -/
def Query.layout : Layout Query where
  shape := .record "Query" <|
    .cons "field" true Field.layout.shape <|
    .cons "strategy" true Strategy.layout.shape <|
    .cons "needle" true .text .nil
  ofValue := fun (field, strategy, needle, ()) =>
    ⟨Field.layout.ofValue field, Strategy.layout.ofValue strategy, needle⟩
  toValue q := (Field.layout.toValue q.field, Strategy.layout.toValue q.strategy, q.needle, ())
  ofValue_toValue q := by simp only [Layout.ofValue_toValue]

end Lexicon.Search
