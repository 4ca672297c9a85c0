import Lexicon.Proofs.Letters
import Lexicon.Proofs.NumberTokens

/-!
# Texts as trees of tokens

A JSON text is a tree of tokens, with blanks where they may stand: a list has parts, and so has a
record, each under a key. Nothing is decoded here. What is passed over is any such tree, to its end.
-/

namespace Lexicon.Json

/-- A value that is no list and no record, as it is written. -/
inductive Token : List Char → Prop
  | null : Token ['n', 'u', 'l', 'l']
  | yes : Token ['t', 'r', 'u', 'e']
  | no : Token ['f', 'a', 'l', 's', 'e']
  | number (l : NumberLiteral) : Token l.spelling
  | text {w} (h : Letters w) : Token ('"' :: w ++ ['"'])

/-- A tree of tokens. The keys of a record are kept as they stand between their quotes. -/
inductive Node where
  | token (w : List Char)
  | list (items : List Node)
  | record (members : List (List Char × Node))

/-- A member of a record: its key between quotes, a colon, and its value. -/
inductive Keyed {α : Type} (writes : α → List Char → Prop) : List Char × α → List Char → Prop
  | mk {key a s t w} (hk : Letters key) (hs : Blanks s) (ht : Blanks t) (hw : writes a w) :
      Keyed writes (key, a) ('"' :: key ++ ('"' :: s ++ ':' :: t ++ w))

/-- The text is the tree, with blanks between its parts. -/
inductive Spelled : Node → List Char → Prop
  | token {w} (h : Token w) : Spelled (.token w) w
  | list {items w} (h : Separated Spelled true items w) : Spelled (.list items) ('[' :: w ++ [']'])
  | record {members w} (h : Separated (Keyed Spelled) true members w) :
      Spelled (.record members) ('\x7b' :: w ++ ['\x7d'])

/-- Induction over trees, with the parts of a list and of a record at hand. -/
@[elab_as_elim, induction_eliminator]
theorem Node.induct {motive : Node → Prop} (token : ∀ w, motive (.token w))
    (list : ∀ items, (∀ t ∈ items, motive t) → motive (.list items))
    (record : ∀ members, (∀ m ∈ members, motive m.2) → motive (.record members)) :
    ∀ t, motive t
  | .token w => token w
  | .list items => list items fun t _ => Node.induct token list record t
  | .record members => record members fun m _ => Node.induct token list record m.2
decreasing_by
  · have := List.sizeOf_lt_of_mem ‹t ∈ items›
    simp only [Node.list.sizeOf_spec]
    omega
  · have := List.sizeOf_lt_of_mem ‹m ∈ members›
    have : sizeOf m.2 < sizeOf m := by cases m; simp
    simp only [Node.record.sizeOf_spec]
    omega

section Tokens
variable {w rest : List Char}

/-- A token is passed over from its first character on, which is neither a bracket nor a blank. -/
theorem Token.exists_skip (h : Token w) :
    ∃ c s, w = c :: s ∧ isSpace c = false ∧ c ≠ ']' ∧ c ≠ '[' ∧ c ≠ '\x7b' ∧
      ∀ rest, Ends rest → ∃ h, skipScalar c (s ++ rest) = .ok ⟨rest, h⟩ := by
  cases h with
  | null =>
      refine ⟨'n', _, rfl, by decide, by decide, by decide, by decide, fun rest _ => ?_⟩
      obtain ⟨h, heq⟩ := readWord_append ['u', 'l', 'l'] rest
      exact ⟨h, by simp only [skipScalar, ↓reduceIte, heq]⟩
  | yes =>
      refine ⟨'t', _, rfl, by decide, by decide, by decide, by decide, fun rest _ => ?_⟩
      obtain ⟨h, heq⟩ := readWord_append ['r', 'u', 'e'] rest
      exact ⟨h, by simp only [skipScalar, Char.reduceEq, ↓reduceIte, heq]⟩
  | no =>
      refine ⟨'f', _, rfl, by decide, by decide, by decide, by decide, fun rest _ => ?_⟩
      obtain ⟨h, heq⟩ := readWord_append ['a', 'l', 's', 'e'] rest
      exact ⟨h, by simp only [skipScalar, Char.reduceEq, ↓reduceIte, heq]⟩
  | number l =>
      obtain ⟨d, ds, hds⟩ := List.exists_cons_of_ne_nil l.whole.ne_nil
      have hd : Unicode.isAsciiDigit d = true :=
        (NumberLiteral.whole_digits hds).1 d List.mem_cons_self
      have hskip := fun rest => @NumberLiteral.skipNumber_eq rest l
      rw [NumberLiteral.spelling]
      cases l.negative with
      | true =>
          refine ⟨'-', l.unsigned, rfl, by decide, by decide, by decide, by decide, ?_⟩
          intro rest hrest
          obtain ⟨h, heq⟩ := hskip rest hrest
          exact ⟨Nat.le_of_lt h, by simp only [skipScalar, Char.reduceEq, ↓reduceIte, heq]⟩
      | false =>
          obtain ⟨w, hw⟩ : ∃ w, l.unsigned = d :: w :=
            ⟨_, (List.append_nil _).symm.trans (NumberLiteral.unsigned_append hds [])⟩
          have hne : ∀ c, Unicode.isAsciiDigit c = false → d ≠ c := by
            rintro c hc rfl
            rw [hc] at hd
            cases hd
          refine ⟨d, w, hw, isSpace_of_isAsciiDigit hd, hne _ rfl, hne _ rfl, hne _ rfl, ?_⟩
          intro rest hrest
          have hnumber := hskip rest hrest
          rw [hw, List.cons_append] at hnumber
          obtain ⟨h, heq⟩ := hnumber
          refine ⟨Nat.le_of_lt_succ h, ?_⟩
          simp only [skipScalar, hne 'n' rfl, hne 't' rfl, hne 'f' rfl, hne '-' rfl, hd, ↓reduceIte,
            heq]
  | @text w hw =>
      refine ⟨'"', w ++ ['"'], rfl, by decide, by decide, by decide, by decide, fun rest _ => ?_⟩
      rw [List.append_assoc, List.singleton_append]
      obtain ⟨h, heq⟩ := hw.passes rest (length_lt_succ (w ++ '"' :: rest))
      refine ⟨Nat.le_of_lt_succ h, ?_⟩
      simp only [skipScalar, Char.reduceEq, ↓reduceIte, heq, Unicode.isAsciiDigit]
      simp

end Tokens

section Passing
variable {stack outer : List Bracket} {bracket : Bracket} {isFirst : Bool}
  {pre w l s rest : List Char} {c : Char}

theorem Spelled.startsPart {t : Node} (h : Spelled t w) : StartsPart w := by
  cases h with
  | token h =>
      obtain ⟨c, s, rfl, hspace, hc, -⟩ := h.exists_skip
      exact ⟨c, s, rfl, hspace, hc⟩
  | list h | record h => exact ⟨_, _, rfl, by decide, by decide⟩

/-- At the end of a list or of a record, its bracket is passed. -/
theorem skipAfter_closing (hs : Blanks s) (behindValue : Bool) {bound : ℕ}
    (h : (s ++ bracket.closing :: rest).length < bound) :
    ∃ h', skipAfter (bracket :: outer) behindValue (s ++ bracket.closing :: rest) h =
      (skipAfter outer true rest h' : Except Failure { r : List Char // r.length < bound }) := by
  have hspace : isSpace bracket.closing = false := by cases bracket <;> rfl
  have hcomma : bracket.closing ≠ ',' := by cases bracket <;> decide
  have hskip : skipSpace (s ++ bracket.closing :: rest) = bracket.closing :: rest :=
    skipSpace_behind hs hspace
  refine ⟨by simp at h; omega, ?_⟩
  rw [skipAfter]
  split
  · rename_i hnil
    rw [hskip] at hnil
    cases hnil
  · rename_i d t hcons
    rw [hskip] at hcons
    cases hcons
    simp [hcomma]

/-- What leads to a part of a list or of a record is passed. -/
theorem Lead.skipAfter_eq (hl : Lead isFirst l) (hc : isSpace c = false)
    (hclosing : c ≠ bracket.closing) {bound : ℕ} (h : (l ++ c :: s).length < bound) :
    ∃ pre h', Blanks pre ∧ skipAfter (bracket :: outer) (!isFirst) (l ++ c :: s) h =
      (skipMember bracket outer (pre ++ c :: s) h' :
        Except Failure { r : List Char // r.length < bound }) := by
  cases hl with
  | first hl =>
      have hskip : skipSpace (l ++ c :: s) = c :: s := skipSpace_behind hl hc
      refine ⟨[], by simp at h ⊢; omega, blanks_nil, ?_⟩
      rw [skipAfter]
      split
      · rename_i hnil
        rw [hskip] at hnil
        cases hnil
      · rename_i d t hcons
        rw [hskip] at hcons
        cases hcons
        simp [hclosing]
  | @later u v hu hv =>
      have hskip : skipSpace (u ++ ',' :: v ++ c :: s) = ',' :: (v ++ c :: s) := skipSpace_later hu
      refine ⟨v, by simp at h ⊢; omega, hv, ?_⟩
      rw [skipAfter]
      split
      · rename_i hnil
        rw [hskip] at hnil
        cases hnil
      · rename_i d t hcons
        rw [hskip] at hcons
        cases hcons
        simp

/-- Behind what leads to it, the key of a member is passed, and the colon. -/
theorem skipKey_eq {key t : List Char} (hpre : Blanks pre) (hkey : Letters key) (hs : Blanks s) :
    ∃ h, skipKey (pre ++ '"' :: (key ++ '"' :: (s ++ ':' :: t))) = .ok ⟨t, h⟩ := by
  have hskip : skipSpace (pre ++ '"' :: (key ++ '"' :: (s ++ ':' :: t))) =
      '"' :: (key ++ '"' :: (s ++ ':' :: t)) := skipSpace_behind hpre rfl
  have hcolon : skipSpace (s ++ ':' :: t) = ':' :: t := skipSpace_behind hs rfl
  obtain ⟨_, hpasses⟩ := hkey.passes (s ++ ':' :: t) (length_lt_succ (key ++ '"' :: (s ++ ':' :: t)))
  refine ⟨by simp; omega, ?_⟩
  unfold skipKey
  split
  · rename_i hnil
    rw [hskip] at hnil
    cases hnil
  · rename_i d u hcons
    rw [hskip] at hcons
    cases hcons
    simp only [↓reduceIte, hpasses]
    split
    · rename_i hnil
      rw [hcolon] at hnil
      cases hnil
    · rename_i d u hcons'
      rw [hcolon] at hcons'
      cases hcons'
      simp only [↓reduceIte]

/-- Whatever brackets are open, a tree is passed over, and then what follows it. -/
def Skips (t : Node) : Prop :=
  ∀ ⦃w⦄, Spelled t w → ∀ (stack : List Bracket) ⦃pre rest bound⦄, Blanks pre → Ends rest →
    ∀ h : (pre ++ w ++ rest).length ≤ bound, ∃ h',
      skipWithin stack (pre ++ w ++ rest) h =
        (skipAfter stack true rest h' : Except Failure { r : List Char // r.length < bound })

theorem skips_token (w : List Char) : Skips (.token w) := by
  intro _ hw stack pre rest bound hpre hrest h
  cases hw with
  | token hw =>
      obtain ⟨c, s, rfl, hspace, -, hlist, hrecord, hscalar⟩ := hw.exists_skip
      obtain ⟨_, heq⟩ := hscalar rest hrest
      have hskip : skipSpace (pre ++ c :: s ++ rest) = c :: (s ++ rest) := by
        rw [List.append_assoc]
        exact skipSpace_behind hpre hspace
      refine ⟨by simp at h; omega, ?_⟩
      rw [skipWithin]
      split
      · rename_i hnil
        rw [hskip] at hnil
        cases hnil
      · rename_i d t hcons
        rw [hskip] at hcons
        cases hcons
        simp only [hlist, hrecord, ↓reduceIte, heq]

/-- The parts of a list are passed over, up to the bracket that closes it. -/
theorem Separated.skipAfter_items {items : List Node} (hs : Separated Spelled isFirst items s)
    (hitems : ∀ t ∈ items, Skips t) (stack : List Bracket) (rest : List Char) {bound : ℕ}
    (h : (s ++ ']' :: rest).length < bound) :
    ∃ h', skipAfter (.list :: stack) (!isFirst) (s ++ ']' :: rest) h =
      (skipAfter stack true rest h' : Except Failure { r : List Char // r.length < bound }) := by
  induction hs with
  | nil hs => exact @skipAfter_closing _ .list _ _ hs _ _ h
  | @cons isFirst l t w ts s hl hw hs ih =>
      obtain ⟨ht, hts⟩ := List.forall_mem_cons.mp hitems
      have hends : Ends (s ++ ']' :: rest) := hs.ends (ends_cons rfl (by decide))
      obtain ⟨c, v, rfl, hspace, hc⟩ := hw.startsPart
      have htext : l ++ c :: v ++ s ++ ']' :: rest = l ++ c :: (v ++ (s ++ ']' :: rest)) := by simp
      revert h
      rw [htext]
      intro h
      obtain ⟨pre, h₁, hpre, hlead⟩ :=
        @Lead.skipAfter_eq stack .list _ _ _ _ hl hspace hc bound h
      have hmember : pre ++ c :: (v ++ (s ++ ']' :: rest)) = pre ++ c :: v ++ (s ++ ']' :: rest) := by
        simp
      rw [hlead, skipMember]
      revert h₁
      rw [hmember]
      intro h₁ _
      obtain ⟨h₂, hvalue⟩ := ht hw (.list :: stack) hpre hends h₁
      obtain ⟨h₃, hrest⟩ := ih hts h₂
      exact ⟨h₃, hvalue.trans hrest⟩

/-- The members of a record are passed over, up to the bracket that closes it. -/
theorem Separated.skipAfter_members {members : List (List Char × Node)}
    (hs : Separated (Keyed Spelled) isFirst members s) (hmembers : ∀ m ∈ members, Skips m.2)
    (stack : List Bracket) (rest : List Char) {bound : ℕ} (h : (s ++ '\x7d' :: rest).length < bound) :
    ∃ h', skipAfter (.record :: stack) (!isFirst) (s ++ '\x7d' :: rest) h =
      (skipAfter stack true rest h' : Except Failure { r : List Char // r.length < bound }) := by
  induction hs with
  | nil hs => exact @skipAfter_closing _ .record _ _ hs _ _ h
  | @cons isFirst l m w ms s hl hw hs ih =>
      obtain ⟨hm, hms⟩ := List.forall_mem_cons.mp hmembers
      have hends : Ends (s ++ '\x7d' :: rest) := hs.ends (ends_cons rfl (by decide))
      obtain @⟨key, t, u, v, w, hkey, hu, hv, hw⟩ := hw
      have htext : l ++ ('"' :: key ++ ('"' :: u ++ ':' :: v ++ w)) ++ s ++ '\x7d' :: rest =
          l ++ '"' :: (key ++ '"' :: (u ++ ':' :: (v ++ w ++ (s ++ '\x7d' :: rest)))) := by
        simp
      revert h
      rw [htext]
      intro h
      obtain ⟨pre, h₁, hpre, hlead⟩ :=
        @Lead.skipAfter_eq stack .record _ _ _ _ hl rfl (by decide) bound h
      obtain ⟨h₂, hskip⟩ := @skipKey_eq _ u key (v ++ w ++ (s ++ '\x7d' :: rest)) hpre hkey hu
      obtain ⟨h₃, hvalue⟩ := hm hw (.record :: stack) hv hends (Nat.le_trans h₂ h₁)
      obtain ⟨h₄, hrest⟩ := ih hms h₃
      refine ⟨h₄, ?_⟩
      rw [hlead, skipMember, hskip]
      exact hvalue.trans hrest

/-- Every tree is passed over. -/
theorem Node.skips (t : Node) : Skips t := by
  induction t with
  | token w => exact skips_token w
  | list items ih =>
      intro _ hw stack pre rest bound hpre hrest h
      cases hw with
      | @list _ w hs =>
          have htext : pre ++ ('[' :: w ++ [']']) ++ rest = pre ++ '[' :: (w ++ ']' :: rest) := by simp
          revert h
          rw [htext]
          intro h
          have hskip : skipSpace (pre ++ '[' :: (w ++ ']' :: rest)) = '[' :: (w ++ ']' :: rest) :=
            skipSpace_behind hpre rfl
          have hshort : (w ++ ']' :: rest).length < bound := by simp at h ⊢; omega
          obtain ⟨h₁, hitems⟩ := hs.skipAfter_items ih stack rest hshort
          refine ⟨h₁, ?_⟩
          rw [skipWithin]
          split
          · rename_i hnil
            rw [hskip] at hnil
            cases hnil
          · rename_i d t hcons
            rw [hskip] at hcons
            cases hcons
            exact hitems
  | record members ih =>
      intro _ hw stack pre rest bound hpre hrest h
      cases hw with
      | @record _ w hs =>
          have htext : pre ++ ('\x7b' :: w ++ ['\x7d']) ++ rest =
              pre ++ '\x7b' :: (w ++ '\x7d' :: rest) := by simp
          revert h
          rw [htext]
          intro h
          have hskip : skipSpace (pre ++ '\x7b' :: (w ++ '\x7d' :: rest)) =
              '\x7b' :: (w ++ '\x7d' :: rest) := skipSpace_behind hpre rfl
          have hshort : (w ++ '\x7d' :: rest).length < bound := by simp at h ⊢; omega
          obtain ⟨h₁, hmembers⟩ := hs.skipAfter_members ih stack rest hshort
          refine ⟨h₁, ?_⟩
          rw [skipWithin]
          split
          · rename_i hnil
            rw [hskip] at hnil
            cases hnil
          · rename_i d t hcons
            rw [hskip] at hcons
            cases hcons
            exact hmembers

/-- A tree by itself is passed over, and what follows it is left. -/
theorem Spelled.skipValue_eq {t : Node} (hw : Spelled t w) (hpre : Blanks pre) (hrest : Ends rest) :
    ∃ h, skipValue (pre ++ w ++ rest) = .ok ⟨rest, h⟩ := by
  obtain ⟨h, heq⟩ := t.skips hw [] hpre hrest (length_le_self _)
  refine ⟨h, ?_⟩
  rw [skipValue, heq, skipAfter]

end Passing

end Lexicon.Json
