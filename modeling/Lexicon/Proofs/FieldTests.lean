import Lexicon.Proofs.ByteSearch
import Lexicon.Proofs.ScriptedQuery
import Lexicon.Proofs.Texts

/-!
# What queries test

A field extracts texts from an entry, and a query holds of the entry if its needle stands in one of
them where the strategy asks for it, or if the pattern is found there. It is the same whether texts
are taken as characters or as bytes. An empty needle asks only whether there is a text.
-/

namespace Lexicon

/-- The entry with nothing but its forms and its glosses: without tags, without links, and with empty
labels. -/
def Entry.bare (e : Entry) : Entry where
  headword := e.headword
  translations := e.translations.map fun t => { t with label := "" }
  tags := []
  glosses := e.glosses.map fun g => { g with label := "" }
  variations := e.variations.map fun v => { v with label := "" }
  relations := []

namespace Search

/-- The field extracts the text from the entry. -/
inductive Field.Extracts (e : Entry) : Field → String → Prop
  | headword : Extracts e .headword e.headword.form
  | translation {t s} (ht : t ∈ e.translations) (hs : s ∈ t.forms) : Extracts e .translation s
  | translationTag {t} (ht : t ∈ e.translations) : Extracts e .translationTag t.label
  | tag {s} (hs : s ∈ e.tags) : Extracts e .tag s
  | variationTag {v} (hv : v ∈ e.variations) : Extracts e .variationTag v.label
  | anyHeadword : Extracts e .everything e.headword.form
  | anyTranslation {t s} (ht : t ∈ e.translations) (hs : s ∈ t.forms) : Extracts e .everything s
  | anyGloss {g} (hg : g ∈ e.glosses) : Extracts e .everything g.text
  | anyVariation {v} (hv : v ∈ e.variations) : Extracts e .everything v.form

/-- In the sequence, the needle stands where the strategy asks for it. -/
inductive Strategy.Locates {α : Type} (needle : List α) : Strategy → List α → Prop
  | startsWith {v} : Locates needle .startsWith (needle ++ v)
  | endsWith {u} : Locates needle .endsWith (u ++ needle)
  | contains {u v} : Locates needle .contains (u ++ needle ++ v)

section Extraction
variable {e : Entry} {f : Field} {s : String}

theorem Field.mem_texts : s ∈ f.texts e ↔ f.Extracts e s := by
  rw [Field.texts, Location.mem_textsAt]
  simp only [Location.mem_texts]
  constructor
  · rintro ⟨l, hl, hs⟩
    cases f with
    | headword =>
        obtain rfl := List.mem_singleton.mp hl
        cases hs
        exact .headword
    | translation =>
        obtain rfl := List.mem_singleton.mp hl
        cases hs with
        | translationForm ht hs => exact .translation ht hs
    | translationTag =>
        obtain rfl := List.mem_singleton.mp hl
        cases hs with
        | translationLabel ht => exact .translationTag ht
    | tag =>
        obtain rfl := List.mem_singleton.mp hl
        cases hs with
        | tag hs => exact .tag hs
    | variationTag =>
        obtain rfl := List.mem_singleton.mp hl
        cases hs with
        | variationLabel hv => exact .variationTag hv
    | everything =>
        cases hs with
        | headwordForm => exact .anyHeadword
        | translationForm ht hs => exact .anyTranslation ht hs
        | glossText hg => exact .anyGloss hg
        | variationForm hv => exact .anyVariation hv
        | _ => simp [Field.locations] at hl
  · intro h
    cases h with
    | headword => exact ⟨_, List.mem_singleton.mpr rfl, .headwordForm⟩
    | translation ht hs => exact ⟨_, List.mem_singleton.mpr rfl, .translationForm ht hs⟩
    | translationTag ht => exact ⟨_, List.mem_singleton.mpr rfl, .translationLabel ht⟩
    | tag hs => exact ⟨_, List.mem_singleton.mpr rfl, .tag hs⟩
    | variationTag hv => exact ⟨_, List.mem_singleton.mpr rfl, .variationLabel hv⟩
    | anyHeadword => exact ⟨_, by simp [Field.locations], .headwordForm⟩
    | anyTranslation ht hs => exact ⟨_, by simp [Field.locations], .translationForm ht hs⟩
    | anyGloss hg => exact ⟨_, by simp [Field.locations], .glossText hg⟩
    | anyVariation hv => exact ⟨_, by simp [Field.locations], .variationForm hv⟩

theorem FieldTest.holds_iff {t : FieldTest} :
    t.holds e = true ↔ ∃ s, t.field.Extracts e s ∧ t.test.passes s = true := by
  simp only [FieldTest.holds, List.any_eq_true, Field.mem_texts]

/-- Tags, labels and links are not among everything. -/
theorem texts_bare (e : Entry) : Field.everything.texts e.bare = Field.everything.texts e := by
  simp [Field.texts, Field.locations, Location.textsAt, Location.texts, Entry.bare, Entry.form,
    Function.comp_def, List.flatMap_map]

theorem holds_present_iff : (Script.Filter.present f.locations).holds e = true ↔
    ∃ s, f.Extracts e s := by
  simp only [Script.Filter.holds, List.any_eq_true, Location.isPresent_iff, ← Field.mem_texts,
    Field.texts, Location.mem_textsAt, Location.mem_texts]
  constructor
  · rintro ⟨l, hl, s, hs⟩
    exact ⟨s, l, hl, hs⟩
  · rintro ⟨s, l, hl, hs⟩
    exact ⟨l, hl, s, hs⟩

end Extraction

section Strategies
variable {α : Type} {needle text : List α} {strategy : Strategy}

theorem locates_startsWith_iff : Strategy.startsWith.Locates needle text ↔ needle <+: text := by
  constructor
  · rintro ⟨⟩
    exact List.prefix_append _ _
  · rintro ⟨v, rfl⟩
    exact .startsWith

theorem locates_endsWith_iff : Strategy.endsWith.Locates needle text ↔ needle <:+ text := by
  constructor
  · rintro ⟨⟩
    exact List.suffix_append _ _
  · rintro ⟨u, rfl⟩
    exact .endsWith

theorem locates_contains_iff : Strategy.contains.Locates needle text ↔ needle <:+: text := by
  constructor
  · rintro ⟨⟩
    exact List.infix_append _ _ _
  · rintro ⟨u, v, rfl⟩
    exact .contains

/-- A needle is located among bytes where it is located among characters. -/
theorem locates_encode_iff {needle text : List Char} :
    strategy.Locates (Text.encode needle) (Text.encode text) ↔ strategy.Locates needle text := by
  cases strategy with
  | startsWith => simp only [locates_startsWith_iff, Text.encode_prefix_iff]
  | endsWith => simp only [locates_endsWith_iff, Text.encode_suffix_iff]
  | contains => simp only [locates_contains_iff, Text.encode_infix_iff]
  | regexp => exact iff_of_false nofun nofun

/-- Unless it asks for a pattern, a strategy makes a test that locates the needle. -/
theorem exists_ofStrategy (h : strategy ≠ .regexp) (needle : String) :
    ∃ t, TextTest.ofStrategy strategy needle = .ok t ∧
      ∀ s, t.passes s = true ↔ strategy.Locates needle.toList s.toList := by
  cases strategy with
  | startsWith =>
      exact ⟨_, rfl, fun s => TextTest.passes_startsWith.trans locates_startsWith_iff.symm⟩
  | endsWith => exact ⟨_, rfl, fun s => TextTest.passes_endsWith.trans locates_endsWith_iff.symm⟩
  | contains => exact ⟨_, rfl, fun s => TextTest.passes_contains.trans locates_contains_iff.symm⟩
  | regexp => exact absurd rfl h

theorem locates_nil (h : strategy ≠ .regexp) : strategy.Locates [] text := by
  cases strategy with
  | startsWith => exact locates_startsWith_iff.mpr List.nil_prefix
  | endsWith => exact locates_endsWith_iff.mpr List.nil_suffix
  | contains => exact locates_contains_iff.mpr List.nil_infix
  | regexp => exact absurd rfl h

/-- Unless it asks for a pattern, a query makes a test that locates the needle in a text of the
field. -/
theorem exists_ofQuery (h : strategy ≠ .regexp) (f : Field) (needle : String) :
    ∃ t, FieldTest.ofQuery ⟨f, strategy, needle⟩ = .ok t ∧ ∀ e, t.holds e = true ↔
      ∃ s, f.Extracts e s ∧ strategy.Locates needle.toList s.toList := by
  obtain ⟨t, ht, hpasses⟩ := exists_ofStrategy h needle
  refine ⟨⟨f, t⟩, by rw [FieldTest.ofQuery, ht]; rfl, fun e => ?_⟩
  simp only [FieldTest.holds_iff, hpasses]

theorem ofQuery_regexp (f : Field) (needle : String) :
    FieldTest.ofQuery ⟨f, .regexp, needle⟩ = match Pattern.compile needle with
      | .ok p => .ok ⟨f, .found p⟩
      | .error refusal => .error (.pattern needle refusal) := by
  simp only [FieldTest.ofQuery, TextTest.ofStrategy, TextTest.ofPattern]
  cases Pattern.compile needle <;> rfl

end Strategies

/-- A query holds of an entry if the needle stands at the beginning, at the end or anywhere in a text
that the field extracts, character by character or byte by byte, or if the pattern is found in such a
text. With an empty needle it holds if there is such a text, as the name of the field does in a
script; the headword and everything always have one. What is no form and no gloss makes no difference
to a test of everything. -/
theorem query_locates (f : Field) {strategy : Strategy} (hstrategy : strategy ≠ .regexp)
    {name : String} (hname : f.scriptField.Named name) (needle : String) (e : Entry) :
    (∃ t, FieldTest.ofQuery ⟨f, strategy, needle⟩ = .ok t ∧
        (t.holds e = true ↔ ∃ s, f.Extracts e s ∧ strategy.Locates needle.toList s.toList) ∧
        (t.holds e = true ↔ ∃ s, f.Extracts e s ∧
          strategy.Locates (Text.encode needle.toList) (Text.encode s.toList))) ∧
      (∀ p, Pattern.compile needle = .ok p → ∃ t, FieldTest.ofQuery ⟨f, .regexp, needle⟩ = .ok t ∧
        (t.holds e = true ↔ ∃ s, f.Extracts e s ∧ p.isFoundIn s = true)) ∧
      (∀ refusal, Pattern.compile needle = .error refusal →
        FieldTest.ofQuery ⟨f, .regexp, needle⟩ = .error (.pattern needle refusal)) ∧
      (∃ t program, FieldTest.ofQuery ⟨f, strategy, ""⟩ = .ok t ∧
        Script.compile name = .ok program ∧ program.holds e = t.holds e ∧
        (t.holds e = true ↔ ∃ s, f.Extracts e s) ∧
        (f = .headword ∨ f = .everything → t.holds e = true)) ∧
      ∀ test, FieldTest.holds ⟨.everything, test⟩ e.bare =
        FieldTest.holds ⟨.everything, test⟩ e := by
  refine ⟨?_, fun p hp => ?_, fun refusal hrefusal => ?_, ?_, fun test => ?_⟩
  · obtain ⟨t, ht, hholds⟩ := exists_ofQuery hstrategy f needle
    refine ⟨t, ht, hholds e, ?_⟩
    simp only [hholds e, locates_encode_iff]
  · refine ⟨⟨f, .found p⟩, by rw [ofQuery_regexp, hp], ?_⟩
    simp only [FieldTest.holds_iff, TextTest.passes_found]
  · rw [ofQuery_regexp, hrefusal]
  · obtain ⟨t, ht, hholds⟩ := exists_ofQuery hstrategy f ""
    have hempty : t.holds e = true ↔ ∃ s, f.Extracts e s := by
      simp only [hholds, String.toList_empty, locates_nil hstrategy, and_true]
    refine ⟨t, _, ht, Script.compile_name hname, ?_, hempty, ?_⟩
    · rw [Script.Program.holds, f.locations_scriptField, Bool.eq_iff_iff, holds_present_iff, hempty]
    · rw [hempty]
      rintro (rfl | rfl)
      · exact ⟨_, .headword⟩
      · exact ⟨_, .anyHeadword⟩
  · simp only [FieldTest.holds, texts_bare]

/-- A needle with a character of two bytes, at the end of a translation, among everything. -/
theorem query_locates_umlaut :
    let e : Entry :=
      { Entry.ofForm 1 "bird" with translations := [⟨"plural", ["Vögel", "Wasservögel"]⟩] }
    Strategy.endsWith ≠ .regexp ∧ Field.everything.scriptField.Named "ALL" ∧
      ∃ t, FieldTest.ofQuery ⟨.everything, .endsWith, "vögel"⟩ = .ok t ∧ t.holds e = true := by
  intro e
  have hstrategy : Strategy.endsWith ≠ .regexp := by decide
  have hname : Field.everything.scriptField.Named "ALL" := Script.ofName?_eq_some_iff.mp (by decide)
  obtain ⟨⟨t, ht, hholds, -⟩, -⟩ := query_locates .everything hstrategy hname "vögel" e
  refine ⟨hstrategy, hname, t, ht, hholds.mpr ⟨"Wasservögel", ?_, ?_⟩⟩
  · exact .anyTranslation List.mem_cons_self (by simp)
  · exact @Strategy.Locates.endsWith _ _ "Wasser".toList

end Search

end Lexicon
