import Lexicon.Proofs.Spelling
import Mathlib.Data.List.Forall2

/-!
# Tokens tile a script

A lexeme is a stretch of the text. What stands behind it decides by its first character where the
lexeme ends, and has no other influence: the stretch alone, or with blanks behind it, is the same
lexeme. So a text that is cut at the offsets of its tokens falls into blanks and into slices, each of
which is a script of one token.
-/

namespace Lexicon.Text

/-- A character of the text ends at the byte offset, or the text begins there. -/
def IsBoundary (offset : Nat) (s : List Char) : Prop :=
  ∃ before after, s = before ++ after ∧ byteSize before = offset

section Boundaries
variable {start offset : Nat} {s t : List Char} {c : Char}

theorem isBoundary_byteSize (s t : List Char) : IsBoundary (byteSize s) (s ++ t) :=
  ⟨s, t, rfl, rfl⟩

theorem isBoundary_end (s : List Char) : IsBoundary (byteSize s) s :=
  ⟨s, [], by simp, rfl⟩

theorem IsBoundary.le (h : IsBoundary offset s) : offset ≤ byteSize s := by
  obtain ⟨before, after, rfl, rfl⟩ := h
  rw [byteSize_append]
  exact Nat.le_add_right _ _

/-- The offset is a boundary of a text that begins at the given offset itself. -/
def IsBoundaryFrom (start : Nat) (s : List Char) (offset : Nat) : Prop :=
  ∃ n, offset = start + n ∧ IsBoundary n s

theorem isBoundaryFrom_start (start : Nat) (s : List Char) : IsBoundaryFrom start s start :=
  ⟨0, rfl, isBoundary_byteSize [] s⟩

theorem isBoundaryFrom_zero : IsBoundaryFrom 0 s offset ↔ IsBoundary offset s := by
  simp [IsBoundaryFrom]

theorem IsBoundaryFrom.start_le (h : IsBoundaryFrom start s offset) : start ≤ offset := by
  obtain ⟨n, rfl, -⟩ := h
  exact Nat.le_add_right _ _

/-- A boundary of a text is one of the whole when more text comes first. -/
theorem IsBoundaryFrom.append (h : IsBoundaryFrom (start + byteSize s) t offset) :
    IsBoundaryFrom start (s ++ t) offset := by
  obtain ⟨_, rfl, before, after, rfl, rfl⟩ := h
  refine ⟨byteSize (s ++ before), ?_, s ++ before, after, by simp, rfl⟩
  rw [byteSize_append, Nat.add_assoc]

theorem IsBoundaryFrom.cons (h : IsBoundaryFrom (start + c.utf8Size) s offset) :
    IsBoundaryFrom start (c :: s) offset :=
  append (by simpa using h : IsBoundaryFrom (start + byteSize [c]) s offset)

theorem utf8ByteSize_eq (source : String) : source.utf8ByteSize = byteSize source.toList := by
  obtain ⟨s, rfl⟩ : ∃ s, source = String.ofList s := ⟨source.toList, by simp⟩
  rw [String.toList_ofList, ← String.size_toByteArray, String.toByteArray_ofList]
  induction s with
  | nil => simp
  | cons c s ih =>
      rw [List.utf8Encode_cons, ByteArray.size_append, ih, List.utf8Encode_singleton,
        List.size_toByteArray, String.length_utf8EncodeChar, byteSize_cons]

end Boundaries

end Lexicon.Text

namespace Lexicon.Script

open Unicode Text

section Stretches
variable {s : List Char} {l : Lexeme}

/-- From the front of the text the reader takes the stretch as a lexeme, of which some bytes were
read before. It does so as well where the text behind is missing or only begins like this. -/
structure IsCut (read : List Char → Except LexFault Lexeme) (before : Nat) (s w : List Char)
    (l : Lexeme) : Prop where
  eq : s = w ++ l.rest
  size : l.size = before + byteSize w
  again : ∀ rest, (∀ x ∈ rest.head?, x ∈ l.rest.head?) → read (w ++ rest) = .ok { l with rest := rest }

theorem readText_isCut {quote : Char} {done : List Char} {size : Nat} (hquote : quote.utf8Size = 1)
    (h : readText quote done size s = .ok l) : ∃ w, IsCut (readText quote done size) size s w l := by
  fun_induction readText quote done size s with
  | case1 => cases h
  | case2 done size rest =>
      cases h
      refine ⟨[quote], rfl, ?_, ?_⟩
      · simp [hquote]
      · intro rest' _
        rw [List.cons_append, readText.eq_def]
        simp
  | case3 => cases h
  | case4 done size e rest d he hq ih =>
      obtain ⟨w, hw⟩ := ih h
      refine ⟨'\\' :: e :: w, ?_, ?_, ?_⟩
      · rw [List.cons_append, List.cons_append, ← hw.eq]
      · have hback : '\\'.utf8Size = 1 := by decide
        rw [hw.size, byteSize_cons, byteSize_cons, utf8Size_of_unescape he, hback]
        omega
      · intro rest' hrest
        rw [List.cons_append, List.cons_append, readText.eq_def]
        simp only [if_neg hq, he]
        exact hw.again rest' hrest
  | case5 => cases h
  | case6 done size c rest hq hb ih =>
      obtain ⟨w, hw⟩ := ih h
      refine ⟨c :: w, ?_, ?_, ?_⟩
      · rw [List.cons_append, ← hw.eq]
      · rw [hw.size, byteSize_cons, Nat.add_assoc]
      · intro rest' hrest
        rw [List.cons_append, readText.eq_def]
        simp only [if_neg hq, if_neg hb]
        exact hw.again rest' hrest

theorem readPair_isCut {second : Char} {token : Token} {symbol : String}
    (hsecond : second.utf8Size = 1) (h : readPair second token symbol s = .ok l) :
    ∃ w, IsCut (readPair second token symbol) 1 s w l := by
  cases s with
  | nil => cases h
  | cons c s =>
      rw [readPair] at h
      split at h
      · rename_i hc
        cases h
        refine ⟨[c], rfl, ?_, ?_⟩
        · simp [hc, hsecond]
        · intro rest _
          simp [readPair, hc]
      · cases h

theorem readMaybeEq_isCut (token withEq : Token) (s : List Char) :
    ∃ w, IsCut (fun s => .ok (readMaybeEq token withEq s)) 1 s w (readMaybeEq token withEq s) := by
  unfold readMaybeEq
  split
  · exact ⟨['='], rfl, rfl, fun _ _ => rfl⟩
  · rename_i s hne
    refine ⟨[], rfl, rfl, ?_⟩
    intro rest hrest
    rw [List.nil_append]
    split
    · obtain ⟨s', rfl⟩ := List.head?_eq_some_iff.mp (hrest '=' rfl)
      exact absurd rfl (hne s')
    · rfl

/-- A stretch of characters of a kind ends where the text behind it is missing or begins as it
does behind the whole stretch. -/
theorem stops_of_head {p : Char → Bool} {rest : List Char}
    (hrest : ∀ x ∈ rest.head?, x ∈ (s.dropWhile p).head?) : ∀ x ∈ rest.head?, p x = false := by
  intro x hx
  have hnot := List.head?_dropWhile_not p s
  rw [Option.mem_def.mp (hrest x hx)] at hnot
  simpa using hnot

theorem readInteger_isCut {c : Char} (h : readInteger c s = .ok l) :
    ∃ w, IsCut (readInteger c) c.utf8Size s w l := by
  have hw : ∀ x ∈ s.takeWhile isAsciiDigit, isAsciiDigit x = true :=
    List.all_eq_true.mp List.all_takeWhile
  refine ⟨s.takeWhile isAsciiDigit, ?_⟩
  simp only [readInteger] at h
  split at h
  · rename_i value hvalue
    cases h
    refine ⟨List.takeWhile_append_dropWhile.symm, rfl, ?_⟩
    intro rest hrest
    have hstop := stops_of_head hrest
    simp only [readInteger, takeWhile_append_of_stops hw hstop, dropWhile_append_of_stops hw hstop,
      hvalue]
  · cases h

theorem readWord_isCut (c : Char) (s : List Char) :
    ∃ w, IsCut (fun s => .ok (readWord c s)) c.utf8Size s w (readWord c s) := by
  refine ⟨s.takeWhile isNamePart, List.takeWhile_append_dropWhile.symm, rfl, ?_⟩
  intro rest hrest
  rw [readWord_append List.all_takeWhile (stops_of_head hrest)]
  rfl

/-- The lexeme that starts with a character is a stretch of the text. -/
theorem readLexeme_isCut {c : Char} (h : readLexeme c s = .ok l) :
    ∃ w, IsCut (readLexeme c) c.utf8Size s w l := by
  have hinteger (hc : c = '-' ∨ isAsciiDigit c = true) : readLexeme c = readInteger c :=
    funext (readLexeme_eq_readInteger hc)
  have hword (hc : isNameStart c = true) : readLexeme c = fun s => .ok (readWord c s) :=
    funext (readLexeme_of_isNameStart hc)
  unfold readLexeme at h
  split at h
  case h_1 | h_2 =>
    cases h
    exact ⟨[], rfl, rfl, fun _ _ => rfl⟩
  case h_3 | h_4 => exact readText_isCut (by decide) h
  case h_5 | h_6 | h_8 | h_9 | h_10 | h_11 | h_12 => exact readPair_isCut (by decide) h
  case h_7 | h_13 | h_14 =>
    cases h
    exact readMaybeEq_isCut _ _ s
  case h_15 =>
    split at h
    · rename_i hc
      rw [hinteger (by simpa using hc)]
      exact readInteger_isCut h
    · split at h
      · rename_i hc
        cases h
        rw [hword hc]
        exact readWord_isCut _ s
      · cases h

end Stretches

/-- The byte offsets at which slices begin that stand side by side, the first one at the given
offset. -/
def starts : (offset : Nat) → List (List Char) → List Nat
  | _, [] => []
  | offset, w :: ws => offset :: starts (offset + byteSize w) ws

section Slices
variable {offset : Nat} {s : List Char} {ps : List Placed} {ws : List (List Char)}

theorem lexes_blanks {gap : List Char} (hgap : ∀ c ∈ gap, isBlank c = true) (offset : Nat) :
    Lexes offset gap [] := by
  induction gap generalizing offset with
  | nil => exact .nil
  | cons c gap ih =>
      obtain ⟨hc, hgap⟩ := List.forall_mem_cons.mp hgap
      exact .blank hc (ih hgap _)

/-- The text is cut into blanks and slices. The slices begin at the offsets of the tokens, and each
of them alone is cut into just its token. -/
theorem Lexes.exists_slices (h : Lexes offset s ps) :
    ∃ gap ws, s = gap ++ ws.flatten ∧ (∀ c ∈ gap, isBlank c = true) ∧
      ps.map Placed.offset = starts (offset + byteSize gap) ws ∧
      List.Forall₂ (fun w p => Lexes 0 w [⟨0, p.token⟩]) ws ps := by
  induction h with
  | nil => exact ⟨[], [], rfl, List.forall_mem_nil _, rfl, .nil⟩
  | @blank offset c s ps hc _ ih =>
      obtain ⟨gap, ws, rfl, hgap, hstarts, hws⟩ := ih
      refine ⟨c :: gap, ws, rfl, List.forall_mem_cons.mpr ⟨hc, hgap⟩, ?_, hws⟩
      rw [hstarts, byteSize_cons, Nat.add_assoc]
  | @lexeme offset c s l ps hc hl _ ih =>
      obtain ⟨gap, ws, hrest, hgap, hstarts, hws⟩ := ih
      obtain ⟨w, hw⟩ := readLexeme_isCut hl
      refine ⟨[], (c :: w ++ gap) :: ws, ?_, List.forall_mem_nil _, ?_, .cons ?_ hws⟩
      · simp [hw.eq, hrest]
      · rw [List.map_cons, hstarts, hw.size]
        simp [starts, Nat.add_assoc]
      · -- Behind the lexeme its slice has blanks at most, with which the text behind it began.
        have hhead : ∀ x ∈ gap.head?, x ∈ l.rest.head? := by
          intro x hx
          rw [hrest, List.head?_append, Option.mem_def.mp hx]
          rfl
        exact @Lexes.lexeme 0 c _ ⟨_, _, gap⟩ _ hc (hw.again gap hhead) (lexes_blanks hgap _)

/-- Every token is placed at a boundary inside the text. -/
theorem Lexes.isBoundary (h : Lexes offset s ps) :
    ∀ p ∈ ps, IsBoundaryFrom offset s p.offset ∧ p.offset < offset + byteSize s := by
  induction h with
  | nil => exact List.forall_mem_nil _
  | @blank offset c s ps _ _ ih =>
      intro p hp
      obtain ⟨hbound, hlt⟩ := ih p hp
      refine ⟨hbound.cons, ?_⟩
      rw [byteSize_cons]
      omega
  | @lexeme offset c s l ps _ hl _ ih =>
      obtain ⟨w, hw⟩ := readLexeme_isCut hl
      rw [List.forall_mem_cons]
      constructor
      · have hpos : 0 < byteSize (c :: s) := Nat.add_pos_left c.utf8Size_pos _
        exact ⟨isBoundaryFrom_start _ _, Nat.lt_add_of_pos_right hpos⟩
      · intro p hp
        obtain ⟨hbound, hlt⟩ := ih p hp
        rw [hw.size, ← Nat.add_assoc] at hbound hlt
        rw [hw.eq]
        refine ⟨hbound.append.cons, ?_⟩
        rw [byteSize_cons, byteSize_append]
        omega

/-- Tokens are placed one behind the other. -/
theorem Lexes.pairwise (h : Lexes offset s ps) : (ps.map Placed.offset).Pairwise (· < ·) := by
  induction h with
  | nil => exact .nil
  | blank _ _ ih => exact ih
  | @lexeme offset c s l ps _ hl hlex ih =>
      obtain ⟨w, hw⟩ := readLexeme_isCut hl
      have hpos := c.utf8Size_pos
      rw [List.map_cons, List.pairwise_cons, List.forall_mem_map]
      refine ⟨?_, ih⟩
      intro p hp
      have hstart := (hlex.isBoundary p hp).1.start_le
      rw [hw.size] at hstart
      change offset < p.offset
      omega

end Slices

/-- The offsets of the tokens of a script increase, and each of them is a boundary inside the script.
In front of the first token there are blanks only, and cutting the script at the offsets gives one
slice for each token, from which alone just that token is read. -/
theorem tokenize_tiles {source : String} {tokens : List Placed} (h : tokenize source = .ok tokens) :
    (tokens.map Placed.offset).Pairwise (· < ·) ∧
      (∀ t ∈ tokens, IsBoundary t.offset source.toList ∧ t.offset < source.utf8ByteSize) ∧
      ∃ gap slices, source.toList = gap ++ slices.flatten ∧ (∀ c ∈ gap, isBlank c = true) ∧
        tokens.map Placed.offset = starts (byteSize gap) slices ∧
        List.Forall₂ (fun w t => tokenize (String.ofList w) = .ok [⟨0, t.token⟩]) slices tokens := by
  have hlex := tokenize_eq_ok_iff.mp h
  obtain ⟨gap, slices, hsource, hgap, hstarts, hslices⟩ := hlex.exists_slices
  refine ⟨hlex.pairwise, ?_, gap, slices, hsource, hgap, ?_, ?_⟩
  · intro t ht
    obtain ⟨hbound, hlt⟩ := hlex.isBoundary t ht
    rw [Nat.zero_add] at hlt
    rw [utf8ByteSize_eq]
    exact ⟨isBoundaryFrom_zero.mp hbound, hlt⟩
  · rw [hstarts, Nat.zero_add]
  · apply List.Forall₂.imp _ hslices
    intro w t hlex
    rw [tokenize_eq_ok_iff, String.toList_ofList]
    exact hlex

/-- Tokens without blanks between them, and characters of more than one byte. -/
theorem tokenize_umlauts : ∃ tokens, tokenize " ä<-3&&!('ö\\'' " = .ok tokens ∧
    tokens = [⟨1, .name "ä"⟩, ⟨3, .operator .lt⟩, ⟨4, .integer (-3)⟩, ⟨6, .conj⟩, ⟨8, .neg⟩,
      ⟨9, .leftParen⟩, ⟨10, .text "ö'"⟩] ∧
    ∃ gap slices, " ä<-3&&!('ö\\'' ".toList = gap ++ slices.flatten ∧
      (∀ c ∈ gap, isBlank c = true) ∧ [1, 3, 4, 6, 8, 9, 10] = starts (byteSize gap) slices ∧
      List.Forall₂ (fun w t => tokenize (String.ofList w) = .ok [⟨0, t.token⟩]) slices tokens := by
  have h : tokenize " ä<-3&&!('ö\\'' " = .ok
      [⟨1, .name "ä"⟩, ⟨3, .operator .lt⟩, ⟨4, .integer (-3)⟩, ⟨6, .conj⟩, ⟨8, .neg⟩,
        ⟨9, .leftParen⟩, ⟨10, .text "ö'"⟩] := by decide +kernel
  exact ⟨_, h, rfl, (tokenize_tiles h).2.2⟩

end Lexicon.Script
