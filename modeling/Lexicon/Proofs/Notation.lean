import Lexicon.Json.Lexical
import Lexicon.Json.Printer
import Lexicon.Json.Shape
import Mathlib.Data.List.Basic

/-!
# How values are written as JSON

The notations of a value by their grammar: blanks may stand between any two parts, a character of a
text stands for itself or is escaped, and the members of a record keep their order. The writer,
without blanks or over several lines, writes one of the notations of a value.
-/

namespace Lexicon.Json

/-- Nothing but blanks. -/
def Blanks (s : List Char) : Prop := ∀ c ∈ s, isSpace c = true

/-- What may stand before a part of a list or of a record: blanks, and a comma between them unless
the part is the first one. -/
inductive Lead : (isFirst : Bool) → List Char → Prop
  | first {s} (h : Blanks s) : Lead true s
  | later {s t} (h : Blanks s) (h' : Blanks t) : Lead false (s ++ ',' :: t)

/-- Parts with commas between them and blanks around them. -/
inductive Separated {α : Type} (writes : α → List Char → Prop) :
    (isFirst : Bool) → List α → List Char → Prop
  | nil {isFirst s} (h : Blanks s) : Separated writes isFirst [] s
  | cons {isFirst l a w as s} (hl : Lead isFirst l) (hw : writes a w)
      (h : Separated writes false as s) : Separated writes isFirst (a :: as) (l ++ w ++ s)

/-- Between quotes, the text is a spelling of the characters: each stands for itself unless it is a
quote, a backslash or a control character, or is escaped by a letter, by its code point, or by the
two halves of its code point. -/
inductive Spells : List Char → List Char → Prop
  | nil : Spells [] []
  | raw {c cs w} (hq : c ≠ '"') (hb : c ≠ '\\') (hc : 0x20 ≤ c.toNat) (h : Spells cs w) :
      Spells (c :: cs) (c :: w)
  | short {e c cs w} (he : shortEscape? e = some c) (h : Spells cs w) :
      Spells (c :: cs) ('\\' :: e :: w)
  | code {p q r s c cs w} (hc : hexValue? p q r s = some c.toNat) (h : Spells cs w) :
      Spells (c :: cs) ('\\' :: 'u' :: p :: q :: r :: s :: w)
  | halves {p q r s p' q' r' s' high low c cs w}
      (hhigh : hexValue? p q r s = some (0xD800 + high)) (hhigh' : high < 0x400)
      (hlow : hexValue? p' q' r' s' = some (0xDC00 + low)) (hlow' : low < 0x400)
      (hc : c.toNat = high * 0x400 + low + 0x10000) (h : Spells cs w) :
      Spells (c :: cs)
        ('\\' :: 'u' :: p :: q :: r :: s :: '\\' :: 'u' :: p' :: q' :: r' :: s' :: w)

/-- A text between quotes. -/
inductive Quoted (s : String) : List Char → Prop
  | mk {w} (h : Spells s.toList w) : Quoted s ('"' :: w ++ ['"'])

/-- A member of a record: its key between quotes, a colon, and its value. -/
inductive Member {α : Type} (writes : α → List Char → Prop) : String × α → List Char → Prop
  | mk {key a k s t w} (hk : Quoted key k) (hs : Blanks s) (ht : Blanks t) (hw : writes a w) :
      Member writes (key, a) (k ++ s ++ ':' :: t ++ w)

/-- The text is a notation of the value. -/
inductive Writes : Tree → List Char → Prop
  | null : Writes .null ['n', 'u', 'l', 'l']
  | yes : Writes (.flag true) ['t', 'r', 'u', 'e']
  | no : Writes (.flag false) ['f', 'a', 'l', 's', 'e']
  | integer {n} : Writes (.number (.integer n)) (toString n).toList
  | text {s w} (h : Quoted s w) : Writes (.text s) w
  | list {ts w} (h : Separated Writes true ts w) : Writes (.list ts) ('[' :: w ++ [']'])
  | record {ms w} (h : Separated (Member Writes) true ms w) :
      Writes (.record ms) ('\x7b' :: w ++ ['\x7d'])

theorem Writes.quoted {s : String} {w : List Char} (h : Writes (.text s) w) : Quoted s w := by
  cases h with
  | text h => exact h

theorem Writes.exists_items {ts : List Tree} {w : List Char} (h : Writes (.list ts) w) :
    ∃ body, w = '[' :: body ++ [']'] ∧ Separated Writes true ts body := by
  cases h with
  | list h => exact ⟨_, rfl, h⟩

theorem Writes.exists_members {ms : List (String × Tree)} {w : List Char}
    (h : Writes (.record ms) w) :
    ∃ body, w = '\x7b' :: body ++ ['\x7d'] ∧ Separated (Member Writes) true ms body := by
  cases h with
  | record h => exact ⟨_, rfl, h⟩

theorem Separated.imp {α : Type} {writes writes' : α → List Char → Prop} {isFirst : Bool}
    {as : List α} {w : List Char} (h : Separated writes isFirst as w)
    (himp : ∀ a ∈ as, ∀ w, writes a w → writes' a w) : Separated writes' isFirst as w := by
  induction h with
  | nil hs => exact .nil hs
  | cons hl hw _ ih =>
      obtain ⟨ha, has⟩ := List.forall_mem_cons.mp himp
      exact .cons hl (ha _ hw) (ih has)

theorem Separated.of_map {α β : Type} {writes : β → List Char → Prop} {isFirst : Bool} {f : α → β}
    {as : List α} {w : List Char} (h : Separated writes isFirst (as.map f) w) :
    Separated (fun a => writes (f a)) isFirst as w := by
  generalize hbs : as.map f = bs at h
  induction h generalizing as with
  | nil hs =>
      obtain rfl := List.map_eq_nil_iff.mp hbs
      exact .nil hs
  | cons hl hw _ ih =>
      obtain ⟨a, as, rfl, rfl, rfl⟩ := List.map_eq_cons_iff.mp hbs
      exact .cons hl hw (ih rfl)

theorem blanks_nil : Blanks [] := by
  simp [Blanks]

theorem blanks_newLine (depth : Nat) : Blanks (newLine depth) := by
  intro c hc
  rcases List.mem_cons.mp hc with rfl | hc
  · rfl
  · rw [List.eq_of_mem_replicate hc]
    rfl

section Writer

/-- The digits of a control character are read as its code point. -/
theorem hexValue?_controlCharacter : ∀ n < 0x20,
    hexValue? '0' '0' (lowerHexDigit (n / 16)) (lowerHexDigit (n % 16)) = some n := by
  decide

theorem Spells.escapedChar {cs w : List Char} (h : Spells cs w) (c : Char) :
    Spells (c :: cs) (escapedChar c ++ w) := by
  unfold Json.escapedChar
  split
  case h_8 hq hb _ _ _ _ _ =>
    split
    · rename_i hc
      exact .code (hexValue?_controlCharacter _ hc) h
    · rename_i hc
      exact .raw hq hb (Nat.not_lt.mp hc) h
  all_goals exact .short rfl h

theorem spells_flatMap_escapedChar (cs : List Char) : Spells cs (cs.flatMap escapedChar) := by
  induction cs with
  | nil => exact .nil
  | cons c cs ih => exact ih.escapedChar c

theorem quoted_writeText (s : String) : Quoted s (writeText s) :=
  .mk (spells_flatMap_escapedChar s.toList)

variable {α : Type} {writes : α → List Char → Prop} {as : List α} {pieces : List (List Char)}
  {gap post : List Char}

theorem separated_flatMap (h : List.Forall₂ writes as pieces) (hgap : Blanks gap)
    (hpost : Blanks post) :
    Separated writes false as ((pieces.flatMap fun piece => ',' :: gap ++ piece) ++ post) := by
  induction h with
  | nil => exact .nil hpost
  | @cons a piece as pieces hw _ ih =>
      have hl : Lead false (',' :: gap) := .later blanks_nil hgap
      simpa using Separated.cons hl hw ih

theorem joinWith_cons (separator piece : List Char) (pieces : List (List Char)) :
    joinWith separator (piece :: pieces) = piece ++ pieces.flatMap fun piece => separator ++ piece := by
  induction pieces generalizing piece with
  | nil => simp [joinWith]
  | cons next pieces ih => rw [joinWith, ih] <;> simp

/-- Joined notations of the parts are separated by commas. -/
theorem separated_joinWith {pre : List Char} (h : List.Forall₂ writes as pieces)
    (hpre : Blanks pre) (hgap : Blanks gap) (hpost : Blanks post) :
    Separated writes true as (pre ++ joinWith (',' :: gap) pieces ++ post) := by
  cases h with
  | nil =>
      apply Separated.nil
      intro c hc
      simp only [joinWith, List.append_nil, List.mem_append] at hc
      exact hc.elim (hpre c) (hpost c)
  | cons hw h =>
      have hrest := separated_flatMap h hgap hpost
      simpa [joinWith_cons] using Separated.cons (.first hpre) hw hrest

theorem member_compact {key : String} {t : Tree} {w : List Char} (h : Writes t w) :
    Member Writes (key, t) (writeText key ++ ':' :: w) := by
  simpa using Member.mk (quoted_writeText key) blanks_nil blanks_nil h

theorem member_pretty {key : String} {t : Tree} {w : List Char} (h : Writes t w) :
    Member Writes (key, t) (writeText key ++ ':' :: ' ' :: w) := by
  have hspace : Blanks [' '] := by simp [Blanks, isSpace]
  simpa using Member.mk (quoted_writeText key) blanks_nil hspace h

theorem forall₂_compacts {ts : List Tree} (h : ∀ t ∈ ts, Writes t t.compact) :
    List.Forall₂ Writes ts (Tree.compact.compacts ts) := by
  induction ts with
  | nil => exact .nil
  | cons t ts ih =>
      obtain ⟨ht, hts⟩ := List.forall_mem_cons.mp h
      exact .cons ht (ih hts)

theorem forall₂_prettyItems {depth : Nat} {ts : List Tree}
    (h : ∀ t ∈ ts, Writes t (t.pretty depth)) :
    List.Forall₂ Writes ts (Tree.pretty.prettyItems depth ts) := by
  induction ts with
  | nil => exact .nil
  | cons t ts ih =>
      obtain ⟨ht, hts⟩ := List.forall_mem_cons.mp h
      exact .cons ht (ih hts)

theorem writes_compact_list {ts : List Tree}
    (h : List.Forall₂ Writes ts (Tree.compact.compacts ts)) :
    Writes (.list ts) (Tree.list ts).compact := by
  have hs := separated_joinWith h blanks_nil blanks_nil blanks_nil
  rw [Tree.compact]
  simpa using Writes.list hs

theorem writes_compact_record {ms : List (String × Tree)}
    (h : List.Forall₂ (Member Writes) ms (Tree.compact.compactMembers ms)) :
    Writes (.record ms) (Tree.record ms).compact := by
  have hs := separated_joinWith h blanks_nil blanks_nil blanks_nil
  rw [Tree.compact]
  simpa using Writes.record hs

theorem writes_pretty_list {depth : Nat} {ts : List Tree}
    (h : List.Forall₂ Writes ts (Tree.pretty.prettyItems (depth + 1) ts)) :
    Writes (.list ts) ((Tree.list ts).pretty depth) := by
  cases ts with
  | nil => exact .list (.nil blanks_nil)
  | cons t ts =>
      have hs := separated_joinWith h (blanks_newLine (depth + 1)) (blanks_newLine (depth + 1))
        (blanks_newLine depth)
      rw [Tree.pretty]
      simpa [Tree.pretty.prettyItems] using Writes.list hs

theorem writes_pretty_record {depth : Nat} {ms : List (String × Tree)}
    (h : List.Forall₂ (Member Writes) ms (Tree.pretty.prettyMembers (depth + 1) ms)) :
    Writes (.record ms) ((Tree.record ms).pretty depth) := by
  cases ms with
  | nil => exact .record (.nil blanks_nil)
  | cons m ms =>
      have hs := separated_joinWith h (blanks_newLine (depth + 1)) (blanks_newLine (depth + 1))
        (blanks_newLine depth)
      rw [Tree.pretty]
      simpa [Tree.pretty.prettyMembers] using Writes.record hs

mutual

/-- Without blanks, the writer writes a notation of a value. -/
theorem Shape.writes_compact : (shape : Shape) → (v : shape.Value) →
    Writes (shape.toTree v) (shape.toTree v).compact
  | .text, v => .text (quoted_writeText v)
  | .flag _, true => .yes
  | .flag _, false => .no
  | .id, _ => .integer
  | .word, _ => .integer
  | .choice _ _, _ => .text (quoted_writeText _)
  | .list item, vs => by
      apply writes_compact_list
      apply forall₂_compacts
      intro t ht
      obtain ⟨v, -, rfl⟩ := List.mem_map.mp ht
      exact item.writes_compact v
  | .record _ members, vs => writes_compact_record (members.writes_compact vs)

theorem Members.writes_compact : (members : Members) → (vs : members.Values) →
    List.Forall₂ (Member Writes) (members.toTrees vs)
      (Tree.compact.compactMembers (members.toTrees vs))
  | .nil, _ => .nil
  | .cons _ _ shape rest, (v, vs) =>
      .cons (member_compact (shape.writes_compact v)) (rest.writes_compact vs)

end

mutual

/-- Over several lines, the writer writes a notation of a value. -/
theorem Shape.writes_pretty : (shape : Shape) → (v : shape.Value) → (depth : Nat) →
    Writes (shape.toTree v) ((shape.toTree v).pretty depth)
  | .text, v, _ => .text (quoted_writeText v)
  | .flag _, true, _ => .yes
  | .flag _, false, _ => .no
  | .id, _, _ => .integer
  | .word, _, _ => .integer
  | .choice _ _, _, _ => .text (quoted_writeText _)
  | .list item, vs, depth => by
      apply writes_pretty_list
      apply forall₂_prettyItems
      intro t ht
      obtain ⟨v, -, rfl⟩ := List.mem_map.mp ht
      exact item.writes_pretty v (depth + 1)
  | .record _ members, vs, depth => writes_pretty_record (members.writes_pretty vs (depth + 1))

theorem Members.writes_pretty : (members : Members) → (vs : members.Values) → (depth : Nat) →
    List.Forall₂ (Member Writes) (members.toTrees vs)
      (Tree.pretty.prettyMembers depth (members.toTrees vs))
  | .nil, _, _ => .nil
  | .cons _ _ shape rest, (v, vs), depth =>
      .cons (member_pretty (shape.writes_pretty v depth)) (rest.writes_pretty vs depth)

end

end Writer

end Lexicon.Json
