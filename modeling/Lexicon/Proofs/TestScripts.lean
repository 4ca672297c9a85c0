import Lexicon.Proofs.Parsing
import Lexicon.Proofs.Spelling
import Lexicon.Script.Filter

/-!
# Scripts of one test

The name of a field is a script by itself, which asks whether the field has a text, and a name with an
operator and a quoted literal is a script that tests the texts of the field. The name may be any of
those of the field, in any case.
-/

namespace Lexicon

namespace Search

/-- How a character is written between single quotes: a backslash stands before a backslash and
before a single quote. -/
def escaped (c : Char) : List Char :=
  if c = '\\' ∨ c = '\'' then ['\\', c] else [c]

/-- The literal of a text in single quotes. -/
def singleQuoted (text : String) : List Char :=
  '\'' :: (text.toList.flatMap escaped ++ ['\''])

end Search

namespace Script

open Unicode Text
open Search (escaped singleQuoted)

/-- The quoted text spells the text. -/
theorem spellsText_escaped (cs : List Char) : SpellsText '\'' cs (cs.flatMap escaped) := by
  induction cs with
  | nil => exact .nil
  | cons c cs ih =>
      rw [List.flatMap_cons, escaped]
      split
      · rename_i hc
        refine .escaped ?_ ih
        rcases hc with rfl | rfl <;> rfl
      · rename_i hc
        exact .raw (fun h => hc (.inr h)) (fun h => hc (.inl h)) ih

theorem yields_singleQuoted (text : String) : Yields (singleQuoted text) [.text text] := by
  simpa [singleQuoted] using yields_nil.text (.inr rfl) (spellsText_escaped text.toList)

theorem names_letters : ∀ p ∈ Field.names, p.1.toList.head?.any isAsciiLetter = true ∧
    ∀ x ∈ p.1.toList, isAsciiLetter x = true ∨ x = '.' := by
  have hall : (Field.names.all fun p => p.1.toList.head?.any isAsciiLetter &&
      p.1.toList.all fun x => isAsciiLetter x || x = '.') = true := by decide
  simpa only [List.all_eq_true, Bool.and_eq_true, Bool.or_eq_true, decide_eq_true_eq] using hall

theorem names_not_keywords : ∀ p ∈ Field.names, ∀ k ∈ keywords, p.1 ≠ k.1 := by
  decide

theorem isNamePart_of_toLower {c : Char} (h : isAsciiLetter c.toLower = true ∨ c.toLower = '.') :
    isNamePart c = true := by
  rcases h with h | h
  · exact isNamePart_of_isNameStart (isNameStart_of_isAsciiLetter (isAsciiLetter_of_toLower h))
  · by_cases hc : 'A' ≤ c ∧ c ≤ 'Z'
    · have hletter : isAsciiLetter c = true := by simp [isAsciiLetter, hc]
      exact isNamePart_of_isNameStart (isNameStart_of_isAsciiLetter hletter)
    · have hsame : c.toLower = c := dif_neg hc
      rw [← hsame, h]
      decide

variable {f : Field} {name : String}

/-- In any case, the name of a field is a word, and no keyword. -/
theorem Field.Named.exists_word (h : f.Named name) : ∃ c w, name.toList = c :: w ∧
    isNameStart c = true ∧ w.all isNamePart = true ∧ wordToken (c :: w) = .name name := by
  obtain ⟨known, hmem, hknown⟩ := h
  have hlower : lowerAscii name.toList = known :=
    (lowerAscii_eq_iff (lowerAscii_names _ hmem)).mpr hknown
  obtain ⟨hfirst, hletters⟩ := names_letters _ hmem
  simp only [← hlower, lowerAscii, String.toList_ofList, List.forall_mem_map] at hfirst hletters
  have hword : wordToken name.toList = .name name := by
    rw [wordToken_of_forall_ne, String.ofList_toList]
    rw [hlower]
    exact names_not_keywords _ hmem
  cases hname : name.toList with
  | nil => simp [hname] at hfirst
  | cons c w =>
      rw [hname] at hfirst hletters hword
      refine ⟨c, w, rfl, ?_, ?_, hword⟩
      · exact isNameStart_of_isAsciiLetter (isAsciiLetter_of_toLower (by simpa using hfirst))
      · rw [List.all_eq_true]
        exact fun x hx => isNamePart_of_toLower (hletters x (List.mem_cons_of_mem _ hx))

/-- The name of a field in front of a text that does not go on with it. -/
theorem Field.Named.yields (h : f.Named name) {rest : List Char} {ts : List Token}
    (hrest : Yields rest ts) (hstop : ∀ x ∈ rest.head?, isNamePart x = false) :
    Yields (name.toList ++ rest) (.name name :: ts) := by
  obtain ⟨c, w, hname, hc, hw, htoken⟩ := h.exists_word
  rw [hname, ← htoken]
  exact hrest.word hc hw hstop

/-- The operator of a relation, as it is written. -/
def TextRelation.symbol : TextRelation → String
  | .startsWith => "startswith"
  | .endsWith => "endswith"
  | .contains => "contains"
  | .regexp => "matches"
  | .eq => "=="
  | .ne => "!="

/-- The script that tests the texts of a field, with the literal in single quotes. -/
def testScript (name : String) (relation : TextRelation) (literal : String) : String :=
  String.ofList (name.toList ++ ' ' ::
    (relation.symbol.toList ++ ' ' :: singleQuoted literal))

theorem TextRelation.yields (relation : TextRelation) {rest : List Char} {ts : List Token}
    (hrest : Yields rest ts) :
    Yields (relation.symbol.toList ++ ' ' :: rest) (.operator relation.operator :: ts) := by
  have hspace : Yields (' ' :: rest) ts := hrest.blank (by decide)
  cases relation with
  | eq | ne => exact @Yields.lexeme _ _ ⟨_, 2, _⟩ _ hspace (by decide) rfl
  | _ => exact hspace.word (by decide) (by decide) (by simp; decide)

theorem parse_testScript (h : f.Named name) (relation : TextRelation) (literal : String) :
    parse (testScript name relation literal) = .ok (.test f relation literal) := by
  have hyields : Yields (testScript name relation literal).toList
      [.name name, .operator relation.operator, .text literal] := by
    rw [testScript, String.toList_ofList]
    have htest := relation.yields (yields_singleQuoted literal)
    exact h.yields (htest.blank (by decide)) (by simp; decide)
  obtain ⟨ps, hps, hts⟩ := hyields.tokenize
  rw [parse_eq_parseTokens hps, parseTokens_eq_ok_iff, hts]
  exact .disjunct (.conjunct (.primary (.test (.compareText h))))

theorem parse_name (h : f.Named name) : parse name = .ok (.present f) := by
  have hyields : Yields name.toList [.name name] := by
    simpa using h.yields yields_nil (by simp)
  obtain ⟨ps, hps, hts⟩ := hyields.tokenize
  rw [parse_eq_parseTokens hps, parseTokens_eq_ok_iff, hts]
  exact .disjunct (.conjunct (.primary (.test (.present h))))

/-- The script of a test compiles to the test, unless the literal is refused as a pattern. -/
theorem compile_testScript (h : f.Named name) (relation : TextRelation) (literal : String) :
    compile (testScript name relation literal) =
      (relation.toFilter f.locations literal).map (Program.mk (testScript name relation literal)) := by
  rw [compile, parse_testScript h]
  rfl

theorem compile_name (h : f.Named name) :
    compile name = .ok ⟨name, .present f.locations⟩ := by
  rw [compile, parse_name h]
  rfl

end Script

end Lexicon
