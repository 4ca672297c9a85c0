import Lexicon.Search.TextTest
import Mathlib.Data.List.Infix

/-!
# Texts of entries and tests of texts

Where a text stands in an entry, and when a text passes a test, said without lists of locations and
without the way in which a needle is looked for.
-/

namespace Lexicon

/-- The entry carries the text at the location. -/
inductive Location.Carries (e : Entry) : Location → String → Prop
  | headwordForm : Carries e .headwordForm e.headword.form
  | translationForm {t s} (ht : t ∈ e.translations) (hs : s ∈ t.forms) :
      Carries e .translationForm s
  | translationLabel {t} (ht : t ∈ e.translations) : Carries e .translationLabel t.label
  | tag {s} (hs : s ∈ e.tags) : Carries e .tag s
  | glossText {g} (hg : g ∈ e.glosses) : Carries e .glossText g.text
  | glossLabel {g} (hg : g ∈ e.glosses) : Carries e .glossLabel g.label
  | variationForm {v} (hv : v ∈ e.variations) : Carries e .variationForm v.form
  | variationLabel {v} (hv : v ∈ e.variations) : Carries e .variationLabel v.label
  | relationForm {r} (hr : r ∈ e.relations) : Carries e .relationForm r.target.form
  | relationLabel {r} (hr : r ∈ e.relations) : Carries e .relationLabel r.label

theorem Location.mem_texts {e : Entry} {l : Location} {s : String} :
    s ∈ l.texts e ↔ l.Carries e s := by
  constructor
  · intro h
    cases l with
    | headwordForm =>
        obtain rfl := List.mem_singleton.mp h
        exact .headwordForm
    | translationForm =>
        obtain ⟨t, ht, hs⟩ := List.mem_flatMap.mp h
        exact .translationForm ht hs
    | tag => exact .tag h
    | translationLabel =>
        obtain ⟨t, ht, rfl⟩ := List.mem_map.mp h
        exact .translationLabel ht
    | glossText =>
        obtain ⟨g, hg, rfl⟩ := List.mem_map.mp h
        exact .glossText hg
    | glossLabel =>
        obtain ⟨g, hg, rfl⟩ := List.mem_map.mp h
        exact .glossLabel hg
    | variationForm =>
        obtain ⟨v, hv, rfl⟩ := List.mem_map.mp h
        exact .variationForm hv
    | variationLabel =>
        obtain ⟨v, hv, rfl⟩ := List.mem_map.mp h
        exact .variationLabel hv
    | relationForm =>
        obtain ⟨r, hr, rfl⟩ := List.mem_map.mp h
        exact .relationForm hr
    | relationLabel =>
        obtain ⟨r, hr, rfl⟩ := List.mem_map.mp h
        exact .relationLabel hr
  · intro h
    cases h with
    | headwordForm => exact List.mem_singleton.mpr rfl
    | translationForm ht hs => exact List.mem_flatMap.mpr ⟨_, ht, hs⟩
    | tag hs => exact hs
    | _ h => exact List.mem_map_of_mem h

theorem Location.isPresent_iff {e : Entry} {l : Location} :
    l.isPresent e = true ↔ ∃ s, l.Carries e s := by
  simp only [isPresent, ← mem_texts, Bool.not_eq_true', List.isEmpty_eq_false_iff_exists_mem]

namespace Search

theorem occursIn_iff {needle text : List Char} :
    occursIn needle text = true ↔ needle <:+: text := by
  induction text with
  | nil => simp [occursIn]
  | cons c rest ih =>
      rw [occursIn, Bool.or_eq_true, ih, List.isPrefixOf_iff_prefix, List.infix_cons_iff]

namespace TextTest
variable {needle s : String}

theorem passes_startsWith : (startsWith needle).passes s = true ↔ needle.toList <+: s.toList :=
  List.isPrefixOf_iff_prefix

theorem passes_endsWith : (endsWith needle).passes s = true ↔ needle.toList <:+ s.toList :=
  List.isSuffixOf_iff_suffix

theorem passes_contains : (contains needle).passes s = true ↔ needle.toList <:+: s.toList :=
  occursIn_iff

theorem passes_equals : (equals needle).passes s = true ↔ s = needle := by
  simp [passes]

theorem passes_found {p : Pattern} : (found p).passes s = true ↔ p.isFoundIn s = true :=
  Iff.rfl

end TextTest

end Search

end Lexicon
