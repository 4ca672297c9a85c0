import Lexicon.CommandLine.Report
import Lexicon.Proofs.Meaning
import Lexicon.Proofs.Refusal
import Lexicon.Proofs.Tiling

/-!
# Pointing at errors

A script that is refused for its form is refused at a boundary of its text: where a lexeme begins,
at an escape inside a text literal, or at the end. So the column under which the report points is
the number of characters in front of the error.
-/

namespace Lexicon.Text

section Characters
variable {offset : Nat} {s : List Char}

theorem charactersBefore?_append (s t : List Char) :
    charactersBefore? (byteSize s) (s ++ t) = some s.length := by
  induction s with
  | nil => simp [charactersBefore?]
  | cons c s ih =>
      have hpos := c.utf8Size_pos
      obtain ⟨n, hn⟩ : ∃ n, byteSize (c :: s) = n + 1 :=
        ⟨c.utf8Size + byteSize s - 1, by rw [byteSize_cons]; omega⟩
      have hfits : c.utf8Size ≤ n + 1 := by rw [← hn]; exact Nat.le_add_right _ _
      have hrest : n + 1 - c.utf8Size = byteSize s := by rw [← hn]; exact Nat.add_sub_cancel_left ..
      rw [hn, List.cons_append, charactersBefore?, if_pos hfits, hrest, ih]
      rfl

/-- In front of a boundary stands a number of characters. -/
theorem IsBoundary.charactersBefore? (h : IsBoundary offset s) :
    ∃ before after, s = before ++ after ∧ byteSize before = offset ∧
      Text.charactersBefore? offset s = some before.length := by
  obtain ⟨before, after, rfl, rfl⟩ := h
  exact ⟨before, after, rfl, rfl, charactersBefore?_append before after⟩

end Characters

end Lexicon.Text

namespace Lexicon.CommandLine

section Reports
variable {source : String}

theorem pointer_eq {offset n : Nat} (h : Text.charactersBefore? offset source.toList = some n) :
    pointer source offset =
      ("  " ++ source ++ "\n") ++ ("  " ++ String.ofList (List.replicate n ' ') ++ "^" ++ "\n") := by
  apply String.toList_inj.mp
  simp [pointer, h, toString]

theorem queryErrorText_compile {e : Script.CompileError} (h : source ≠ "") :
    queryErrorText source (.compile e) = "error: " ++ e.message ++ "\n" ++ pointer source e.offset := by
  have hfull : source.isEmpty = false := by simpa using h
  rw [queryErrorText, hfull]
  rfl

end Reports

end Lexicon.CommandLine

namespace Lexicon.Script

open Unicode Text

section Faults
variable {s : List Char} {f : LexFault} {e : CompileError}

/-- A text literal is refused as a whole, or at an escape. -/
theorem readText_isBoundary {quote : Char} {done : List Char} {size : Nat}
    (h : readText quote done size s = .error f) :
    f.before = 0 ∨ IsBoundaryFrom size s f.before := by
  fun_induction readText quote done size s with
  | case1 | case3 =>
      cases h
      exact .inl rfl
  | case2 => cases h
  | case4 done size e rest d he _ ih =>
      refine (ih h).imp_right fun hbound => ?_
      have hback : '\\'.utf8Size = 1 := by decide
      apply IsBoundaryFrom.cons
      apply IsBoundaryFrom.cons
      rwa [hback, utf8Size_of_unescape he]
  | case5 =>
      cases h
      exact .inr (isBoundaryFrom_start _ _)
  | case6 done size c rest _ _ ih => exact (ih h).imp_right IsBoundaryFrom.cons

theorem readPair_before {second : Char} {token : Token} {symbol : String}
    (h : readPair second token symbol s = .error f) : f.before = 0 := by
  unfold readPair at h
  split at h
  · split at h
    · cases h
    · cases h
      rfl
  · cases h
    rfl

theorem readInteger_before {c : Char} (h : readInteger c s = .error f) : f.before = 0 := by
  simp only [readInteger] at h
  split at h
  · cases h
  · cases h
    rfl

theorem readLexeme_isBoundary {c : Char} (h : readLexeme c s = .error f) :
    IsBoundary f.before (c :: s) := by
  have hstart (hzero : f.before = 0) : IsBoundary f.before (c :: s) :=
    hzero ▸ isBoundary_byteSize [] (c :: s)
  unfold readLexeme at h
  split at h
  case h_3 | h_4 =>
    obtain hzero | hbound := readText_isBoundary h
    · exact hstart hzero
    · apply isBoundaryFrom_zero.mp
      apply IsBoundaryFrom.cons
      rwa [Nat.zero_add]
  case h_5 | h_6 | h_8 | h_9 | h_10 | h_11 | h_12 => exact hstart (readPair_before h)
  case h_15 =>
    split at h
    · exact hstart (readInteger_before h)
    · split at h
      · cases h
      · cases h
        exact hstart rfl
  all_goals cases h

theorem scan_isBoundary {done : List Placed} {offset : Nat} (h : scan done offset s = .error e) :
    IsBoundaryFrom offset s e.offset := by
  fun_induction scan done offset s with
  | case1 => cases h
  | case2 done offset c rest _ ih => exact (ih h).cons
  | case3 done offset c rest _ l hl ih =>
      obtain ⟨w, hw⟩ := readLexeme_isCut hl
      have hbound := ih h
      rw [hw.size, ← Nat.add_assoc] at hbound
      rw [hw.eq]
      exact hbound.append.cons
  | case4 done offset c rest _ f hl =>
      cases h
      exact ⟨f.before, rfl, readLexeme_isBoundary hl⟩

end Faults

section Errors
variable {source : String} {e : CompileError}

/-- A token that is refused is one of the tokens. -/
theorem Refused.exists_offset {fin budget : Nat} {c : Category} {rejects : List Placed → Prop}
    {ts : List Placed} (h : Refused fin budget c rejects ts e) :
    e.offset = fin ∨ ∃ t ∈ ts, e.offset = t.offset := by
  cases h with
  | atEnd ho => exact .inl ho
  | @atToken before t seen after _ hts hseen ho =>
      obtain ⟨more, rfl⟩ := hseen.exists_cons
      exact .inr ⟨t, by simp [hts], ho⟩

/-- Wherever a script is refused, it is refused at a boundary. -/
theorem parse_isBoundary (h : parse source = .error e) : IsBoundary e.offset source.toList := by
  cases ht : tokenize source with
  | error problem =>
      obtain rfl : problem = e := by simpa [parse, ht, bind, Except.bind] using h
      exact isBoundaryFrom_zero.mp (scan_isBoundary ht)
  | ok tokens =>
      rw [parse_eq_parseTokens ht] at h
      by_cases hne : tokens = []
      · subst hne
        cases h
        exact isBoundary_byteSize [] _
      · obtain ho | ⟨t, hmem, ho⟩ := (parseTokens_refused hne h).exists_offset
        · rw [ho, utf8ByteSize_eq]
          exact isBoundary_end _
        · rw [ho]
          exact isBoundaryFrom_zero.mp ((tokenize_eq_ok_iff.mp ht).isBoundary t hmem).1

theorem parse_of_compile (h : compile source = .error (.compile e)) : parse source = .error e := by
  cases hparse : parse source with
  | error problem =>
      rw [compile_eq_of_parse_eq_error hparse] at h
      cases h
      rfl
  | ok tree =>
      rw [compile_eq_of_parse_eq_ok hparse] at h
      have hc := tree.toFilter_compiled
      generalize tree.toFilter = r at h hc
      cases hc with
      | ok => cases h
      | error => cases h

/-- An error of the lexer or of the parser stands at a boundary inside the script, and the report
puts as many blanks in front of its mark as there are characters in front of the error. -/
theorem compile_error_pointed (h : compile source = .error (.compile e)) :
    e.offset ≤ source.utf8ByteSize ∧
      ∃ before after, source.toList = before ++ after ∧ byteSize before = e.offset ∧
        charactersBefore? e.offset source.toList = some before.length ∧
        (source ≠ "" →
          CommandLine.queryErrorText source (.compile e) =
            "error: " ++ e.message ++ "\n" ++
              (("  " ++ source ++ "\n") ++
                ("  " ++ String.ofList (List.replicate before.length ' ') ++ "^" ++ "\n"))) := by
  have hbound := parse_isBoundary (parse_of_compile h)
  refine ⟨utf8ByteSize_eq source ▸ hbound.le, ?_⟩
  obtain ⟨before, after, hs, hsize, hcount⟩ := hbound.charactersBefore?
  refine ⟨before, after, hs, hsize, hcount, ?_⟩
  intro hne
  rw [CommandLine.queryErrorText_compile hne, CommandLine.pointer_eq hcount]

/-- The escape stands behind eleven bytes of ten characters. -/
theorem compile_unknown_escape :
    compile "word == 'ö\\q'" = .error (.compile ⟨11, .unknownEscape 'q'⟩) ∧
      CommandLine.queryErrorText "word == 'ö\\q'" (.compile ⟨11, .unknownEscape 'q'⟩) =
        "error: compile error at offset 11: unknown escape '\\q'\n" ++
          ("  word == 'ö\\q'\n" ++ "            ^\n") := by
  have htokens : tokenize "word == 'ö\\q'" = .error ⟨11, .unknownEscape 'q'⟩ := by decide +kernel
  have h : compile "word == 'ö\\q'" = .error (.compile ⟨11, .unknownEscape 'q'⟩) :=
    compile_eq_of_parse_eq_error (by rw [parse, htokens]; rfl)
  have hcount : charactersBefore? 11 "word == 'ö\\q'".toList = some 10 := by decide +kernel
  obtain ⟨-, before, after, -, -, hbefore, htext⟩ := compile_error_pointed h
  have hlength : before.length = 10 := Option.some.inj (hbefore.symm.trans hcount)
  refine ⟨h, (htext (by decide)).trans ?_⟩
  rw [hlength]
  rfl

end Errors

end Lexicon.Script
