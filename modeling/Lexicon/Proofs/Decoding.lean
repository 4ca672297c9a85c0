import Lexicon.Json.Layout
import Lexicon.Proofs.Reading
import Mathlib.Data.List.Forall2

/-!
# Decoding what is encoded

Every notation of the JSON value of a value is read as the value, whatever its shape, as long as the
names within the shape are distinct. The readers for lists and for records go by the parts of the
notation: a list takes its items one by one, and a record fills a slot with each of its members.
-/

namespace Lexicon.Json

/-- The reader takes the value from every notation of the tree. -/
def Recovers {α : Type} (read : Reader α) (t : Tree) (a : α) : Prop :=
  ∀ ⦃w⦄, Writes t w → Takes read a w

/-- The same stretch, read as another value. -/
def Read.map {α β : Type} {bound : Nat} (f : α → β) (r : Read α bound) : Read β bound :=
  ⟨f r.value, r.rest, r.shorter⟩

/-- The reader of another value that goes by this one. -/
def mapReader {α β : Type} (f : α → β) (read : Reader α) : Reader β := fun s =>
  match read s with
  | .ok r => .ok (r.map f)
  | .error e => .error e

theorem Takes.map {α β : Type} {read : Reader α} {a : α} {w : List Char} (h : Takes read a w)
    (f : α → β) : Takes (mapReader f read) (f a) w := by
  intro pre rest hpre hrest
  obtain ⟨hshort, heq⟩ := h hpre hrest
  refine ⟨hshort, ?_⟩
  rw [mapReader, heq]
  rfl

theorem Recovers.map {α β : Type} {read : Reader α} {t : Tree} {a : α} (h : Recovers read t a)
    (f : α → β) : Recovers (mapReader f read) t (f a) := fun _ hw => (h hw).map f

section Choices
variable {first : String} {others : List String}

theorem choiceIndex?_choiceName (h : (choiceNames first others).Nodup)
    (i : Fin (others.length + 1)) :
    choiceIndex? (choiceName first others i) first others = some i := by
  induction others generalizing first with
  | nil =>
      obtain rfl : i = 0 := Fin.fin_one_eq_zero i
      simp [choiceIndex?, choiceName, choiceNames]
  | cons second others ih =>
      obtain ⟨hfirst, hothers⟩ := List.nodup_cons.mp h
      cases i using Fin.cases with
      | zero => simp [choiceIndex?, choiceName, choiceNames]
      | succ i =>
          have hmem : choiceName second others i ∈ second :: others := List.get_mem _ _
          have hne : choiceName second others i ≠ first := fun heq => hfirst (heq ▸ hmem)
          have hname : choiceName first (second :: others) i.succ = choiceName second others i := rfl
          rw [hname, choiceIndex?, if_neg hne, ih hothers]
          rfl

theorem recovers_choice (h : (choiceNames first others).Nodup) (i : Fin (others.length + 1)) :
    Recovers (readChoice first others) (.text (choiceName first others i)) i := by
  intro w hw
  obtain ⟨s, rfl, hbody⟩ := hw.quoted.readTextBody_eq
  refine takes_onFirst rfl fun rest _ => ?_
  obtain ⟨h', hbody⟩ := hbody rest
  refine ⟨h', ?_⟩
  simp only [↓reduceIte, hbody, chosen, choiceIndex?_choiceName h]

end Choices

section Starts

/-- The text starts with a character that neither is a blank nor closes a list. -/
def StartsPart (w : List Char) : Prop := ∃ c s, w = c :: s ∧ isSpace c = false ∧ c ≠ ']'

theorem Writes.startsPart {t : Tree} {w : List Char} (h : Writes t w) : StartsPart w := by
  cases h with
  | null | yes | no | list h | record h => exact ⟨_, _, rfl, rfl, by decide⟩
  | text h =>
      obtain ⟨h⟩ := h
      exact ⟨_, _, rfl, rfl, by decide⟩
  | @integer n =>
      obtain ⟨c, s, hw⟩ := exists_toList_integer n
      refine ⟨c, s, hw, ?_⟩
      rcases head_integer hw with rfl | hc
      · decide
      · refine ⟨isSpace_of_isAsciiDigit hc, ?_⟩
        rintro rfl
        cases hc

variable {s t rest : List Char} {c : Char} {α : Type} {writes : α → List Char → Prop}

theorem ends_blanks (hs : Blanks s) (h : Ends rest) : Ends (s ++ rest) := by
  cases s with
  | nil => exact h
  | cons c s =>
      have hc := hs c List.mem_cons_self
      simp only [isSpace, Bool.or_eq_true, decide_eq_true_eq] at hc
      intro d hd
      obtain rfl : c = d := by simpa using hd
      rcases hc with ((rfl | rfl) | rfl) | rfl <;> decide

theorem ends_cons (hc : Unicode.isAsciiDigit c = false) (hc' : c ≠ '.' ∧ c ≠ 'e' ∧ c ≠ 'E') :
    Ends (c :: rest) := by
  intro d hd
  obtain rfl : c = d := by simpa using hd
  exact ⟨hc, hc'⟩

/-- What follows a part, up to the bracket that closes the whole, ends a number. -/
theorem Separated.ends {as : List α} (h : Separated writes false as s) (hrest : Ends rest) :
    Ends (s ++ rest) := by
  cases h with
  | nil hs => exact ends_blanks hs hrest
  | cons hl hw h =>
      cases hl with
      | later hs ht =>
          simp only [List.append_assoc, List.cons_append]
          exact ends_blanks hs (ends_cons rfl (by decide))

end Starts

section Lists
variable {isFirst : Bool} {l s rest rest' : List Char} {c : Char}

theorem nextItem_eq_done (isFirst : Bool) (h : skipSpace s = ']' :: rest) :
    nextItem isFirst s = .ok (.done (']' :: rest) (skipSpace_cons_lt h)) := by
  unfold nextItem
  grind

theorem nextItem_eq_first (h : skipSpace s = c :: rest) (hc : c ≠ ']') :
    nextItem true s = .ok (.more (c :: rest) (skipSpace_cons_lt h)) := by
  unfold nextItem
  grind

theorem nextItem_eq_later (h : skipSpace s = ',' :: rest) (h' : skipSpace rest = c :: rest')
    (hc : c ≠ ']') :
    nextItem false s = .ok (.more (c :: rest') (skipSpace_cons_cons_lt h h')) := by
  unfold nextItem
  grind

theorem skipSpace_later {s t : List Char} (hs : Blanks s) :
    skipSpace (s ++ ',' :: t ++ rest) = ',' :: (t ++ rest) := by
  rw [List.append_assoc]
  exact skipSpace_behind hs rfl

/-- Behind what leads to it, the next item of a list is found. -/
theorem Lead.nextItem_eq (hl : Lead isFirst l) (hs : StartsPart s) :
    ∃ h, nextItem isFirst (l ++ s) = .ok (.more s h) := by
  obtain ⟨c, s, rfl, hspace, hc⟩ := hs
  cases hl with
  | first hl => exact ⟨_, nextItem_eq_first (skipSpace_behind hl hspace) hc⟩
  | later hl hl' =>
      exact ⟨_, nextItem_eq_later (skipSpace_later hl) (skipSpace_behind hl' hspace) hc⟩

/-- Behind what leads to it, the first item is found, and what follows it is left. -/
theorem Separated.exists_item {τ : Type} {writes : τ → List Char → Prop} {t : τ} {ts : List τ}
    (hs : Separated writes isFirst (t :: ts) s) (hstart : ∀ ⦃w⦄, writes t w → StartsPart w)
    (rest : List Char) :
    ∃ w s' h, writes t w ∧ Separated writes false ts s' ∧ Ends (s' ++ ']' :: rest) ∧
      nextItem isFirst (s ++ ']' :: rest) = .ok (.more (w ++ (s' ++ ']' :: rest)) h) := by
  obtain - | @⟨_, l, _, w, _, s, hl, hw, hs⟩ := hs
  have hstarts : StartsPart (w ++ (s ++ ']' :: rest)) := by
    obtain ⟨c, w, rfl, hspace, hc⟩ := hstart hw
    exact ⟨c, _, rfl, hspace, hc⟩
  obtain ⟨_, hnext⟩ := hl.nextItem_eq hstarts
  have htext : l ++ w ++ s ++ ']' :: rest = l ++ (w ++ (s ++ ']' :: rest)) := by simp
  rw [htext]
  exact ⟨w, s, _, hw, hs, hs.ends (ends_cons rfl (by decide)), hnext⟩

/-- Separated notations of items are read as the items, up to the bracket that closes the list. -/
theorem Separated.readItems_eq {α : Type} {item : Reader α} {ts : List Tree} {as : List α}
    (hs : Separated Writes isFirst ts s) (has : List.Forall₂ (Recovers item) ts as)
    (done : List α) {bound : Nat} (hbound : (s ++ ']' :: rest).length < bound) :
    ∃ h, readItems item done isFirst (s ++ ']' :: rest) hbound =
      .ok ⟨done.reverse ++ as, rest, h⟩ := by
  induction has generalizing isFirst s done with
  | nil =>
      cases hs with
      | nil hs =>
          have hnext := nextItem_eq_done isFirst (skipSpace_behind (s := rest) hs rfl)
          refine ⟨by simp at hbound; omega, ?_⟩
          rw [readItems, hnext]
          simp
  | cons ha _ ih =>
      obtain ⟨w, s', h₁, hw, hs', hends, hnext⟩ := hs.exists_item (fun _ hw => hw.startsPart) rest
      obtain ⟨h₂, hitem⟩ : Reads item (w ++ (s' ++ ']' :: rest)) _ _ := ha hw blanks_nil hends
      obtain ⟨h, hrest⟩ := ih hs' (_ :: done) (by omega)
      refine ⟨h, ?_⟩
      rw [readItems, hnext]
      simp only [hitem]
      simpa using hrest

theorem recovers_list {α : Type} {item : Reader α} {ts : List Tree} {as : List α}
    (has : List.Forall₂ (Recovers item) ts as) : Recovers (readList item) (.list ts) as := by
  intro w hw
  obtain ⟨w, rfl, hs⟩ := hw.exists_items
  refine takes_onFirst (w := w ++ [']']) rfl fun rest _ => ?_
  rw [List.append_assoc, List.singleton_append]
  obtain ⟨h, heq⟩ := hs.readItems_eq has [] (length_lt_succ (w ++ ']' :: rest))
  refine ⟨h, ?_⟩
  simpa using heq

end Lists

section Records
variable {σ τ : Type} {writes : τ → List Char → Prop} {dispatch : Dispatch σ} {isFirst : Bool}
  {l s rest rest' : List Char}

/-- By the members one after the other, what is known of a record goes from the first slots to the
last ones. -/
inductive Fills (writes : τ → List Char → Prop) (dispatch : Dispatch σ) :
    σ → List (String × τ) → σ → Prop
  | nil {slots} : Fills writes dispatch slots [] slots
  | cons {slots slots' slots'' key t ms reader} (hd : dispatch key slots = some (.ok reader))
      (hr : ∀ ⦃w⦄, writes t w → Takes reader slots' w)
      (h : Fills writes dispatch slots' ms slots'') :
      Fills writes dispatch slots ((key, t) :: ms) slots''

theorem nextKey_eq_done (isFirst : Bool) (h : skipSpace s = '\x7d' :: rest) :
    nextKey isFirst s = .ok (.done ('\x7d' :: rest) (skipSpace_cons_lt h)) := by
  unfold nextKey
  grind

theorem nextKey_eq_first (h : skipSpace s = '"' :: rest) :
    nextKey true s = .ok (.more rest (skipSpace_cons_lt h)) := by
  unfold nextKey
  grind

theorem nextKey_eq_later (h : skipSpace s = ',' :: rest) (h' : skipSpace rest = '"' :: rest') :
    nextKey false s = .ok (.more rest' (skipSpace_cons_cons_lt h h')) := by
  unfold nextKey
  grind

theorem readColon_eq (h : skipSpace s = ':' :: rest) :
    readColon s = .ok ⟨rest, skipSpace_cons_lt h⟩ := by
  unfold readColon
  grind

/-- Behind what leads to it, the opening quote of the next key of a record is passed. -/
theorem Lead.nextKey_eq (hl : Lead isFirst l) :
    ∃ h, nextKey isFirst (l ++ '"' :: s) = .ok (.more s h) := by
  cases hl with
  | first hl => exact ⟨_, nextKey_eq_first (skipSpace_behind hl rfl)⟩
  | later hl hl' => exact ⟨_, nextKey_eq_later (skipSpace_later hl) (skipSpace_behind hl' rfl)⟩

/-- On the way to the value of the first member, its key and the colon are passed. -/
theorem Separated.exists_member {key : String} {t : τ} {ms : List (String × τ)}
    (hs : Separated (Member writes) isFirst ((key, t) :: ms) s) (rest : List Char) :
    ∃ u v s' t₁ t₂ h₁ h₂ h₃, Blanks u ∧ writes t v ∧ Separated (Member writes) false ms s' ∧
      Ends (s' ++ '\x7d' :: rest) ∧ nextKey isFirst (s ++ '\x7d' :: rest) = .ok (.more t₁ h₁) ∧
      readTextBody t₁ = .ok ⟨key, t₂, h₂⟩ ∧
      readColon t₂ = .ok ⟨u ++ v ++ (s' ++ '\x7d' :: rest), h₃⟩ := by
  obtain - | @⟨_, l, _, w, _, s, hl, hw, hs⟩ := hs
  obtain @⟨_, _, k, s₁, u, v, hk, hs₁, hu, hv⟩ := hw
  obtain ⟨k, rfl, hkey⟩ := hk.readTextBody_eq
  obtain ⟨_, hkey⟩ := hkey (s₁ ++ ':' :: (u ++ v ++ (s ++ '\x7d' :: rest)))
  obtain ⟨_, hnext⟩ := hl.nextKey_eq (s := k ++ (s₁ ++ ':' :: (u ++ v ++ (s ++ '\x7d' :: rest))))
  have hcolon := readColon_eq (skipSpace_behind (s := u ++ v ++ (s ++ '\x7d' :: rest)) hs₁
    (c := ':') rfl)
  have hshape : l ++ ('"' :: k ++ s₁ ++ ':' :: u ++ v) ++ s ++ '\x7d' :: rest =
      l ++ '"' :: (k ++ (s₁ ++ ':' :: (u ++ v ++ (s ++ '\x7d' :: rest)))) := by
    simp
  have hends : Ends (s ++ '\x7d' :: rest) := hs.ends (ends_cons rfl (by decide))
  rw [hshape]
  exact ⟨u, v, s, _, _, _, _, _, hu, hv, hs, hends, hnext, hkey, hcolon⟩

/-- The first member fills its slot, and the members behind it are read next. -/
theorem Separated.readMembers_cons {key : String} {t : τ} {ms : List (String × τ)}
    {slots slots' : σ} {reader : Reader σ}
    (hs : Separated (Member writes) isFirst ((key, t) :: ms) s)
    (hd : dispatch key slots = some (.ok reader)) (hr : ∀ ⦃w⦄, writes t w → Takes reader slots' w)
    {bound : Nat} (hbound : (s ++ '\x7d' :: rest).length < bound) :
    ∃ s' h, Separated (Member writes) false ms s' ∧
      readMembers dispatch slots isFirst (s ++ '\x7d' :: rest) hbound =
        (readMembers dispatch slots' false (s' ++ '\x7d' :: rest) h :
          Except Failure (Read σ bound)) := by
  obtain ⟨u, v, s', _, _, _, h₂, h₃, hu, hv, hs', hends, hnext, hkey, hcolon⟩ :=
    hs.exists_member rest
  obtain ⟨h₄, hvalue⟩ := hr hv hu hends
  refine ⟨s', by omega, hs', ?_⟩
  rw [readMembers, hnext]
  simp only [hkey]
  simp only [hd, hcolon, hvalue]

/-- Separated notations of members fill the slots, up to the bracket that closes the record. -/
theorem Separated.readMembers_eq {ms : List (String × τ)} {slots slots' : σ}
    (hs : Separated (Member writes) isFirst ms s) (hms : Fills writes dispatch slots ms slots')
    {bound : Nat} (hbound : (s ++ '\x7d' :: rest).length < bound) :
    ∃ h, readMembers dispatch slots isFirst (s ++ '\x7d' :: rest) hbound =
      .ok ⟨slots', '\x7d' :: rest, h⟩ := by
  induction hms generalizing isFirst s with
  | nil =>
      cases hs with
      | nil hs =>
          have hnext := nextKey_eq_done isFirst (skipSpace_behind (s := rest) hs rfl)
          refine ⟨by simp at hbound ⊢; omega, ?_⟩
          rw [readMembers, hnext]
  | cons hd hr _ ih =>
      obtain ⟨s', h, hs', heq⟩ := hs.readMembers_cons hd hr hbound
      obtain ⟨h', hrest⟩ := ih hs' h
      exact ⟨h', heq.trans hrest⟩

/-- A record is taken if its members fill the slots. -/
theorem Separated.takes_record {members : Members} {name : String} {ms : List (String × τ)}
    {slots : members.Slots} {values : members.Values} (hs : Separated (Member writes) true ms s)
    (hms : Fills writes members.dispatch members.unknown ms slots)
    (hcomplete : members.complete slots = .ok values) :
    Takes (Shape.record name members).read values ('\x7b' :: (s ++ ['\x7d'])) := by
  refine takes_onFirst rfl fun rest _ => ?_
  rw [List.append_assoc, List.singleton_append]
  obtain ⟨h, heq⟩ := hs.readMembers_eq hms (length_lt_succ (s ++ '\x7d' :: rest))
  refine ⟨by simp; omega, ?_⟩
  simp only [↓reduceIte, heq, hcomplete, List.tail_cons]

theorem recovers_record {members : Members} {name : String} {ms : List (String × Tree)}
    {slots : members.Slots} {values : members.Values}
    (hms : Fills Writes members.dispatch members.unknown ms slots)
    (hcomplete : members.complete slots = .ok values) :
    Recovers (Shape.record name members).read (.record ms) values := by
  intro w hw
  obtain ⟨w, rfl, hs⟩ := hw.exists_members
  exact hs.takes_record hms hcomplete

end Records

namespace Members

/-- All members are known. -/
def filled : (members : Members) → members.Values → members.Slots
  | .nil, () => ()
  | .cons _ _ _ rest, (value, values) => (some value, rest.filled values)

theorem complete_filled : (members : Members) → (values : members.Values) →
    members.complete (members.filled values) = .ok values
  | .nil, () => rfl
  | .cons _ _ _ rest, (value, values) => by
      simp [filled, complete, rest.complete_filled values, Except.map]

/-- The keys of members. -/
def keys : Members → List String
  | .nil => []
  | .cons key _ _ rest => key :: rest.keys

theorem map_fst_toTrees : (members : Members) → (values : members.Values) →
    (members.toTrees values).map Prod.fst = members.keys
  | .nil, _ => rfl
  | .cons key _ _ rest, (_, values) => congrArg (key :: ·) (rest.map_fst_toTrees values)

end Members

section Members
variable {key : String} {isRequired : Bool} {shape : Shape} {rest : Members}

theorem dispatch_key (slots : rest.Slots) :
    (Members.cons key isRequired shape rest).dispatch key (none, slots) =
      some (.ok (mapReader (fun value => (some value, slots)) shape.read)) := by
  rw [Members.dispatch]
  simp only [↓reduceIte, Option.isSome_none, Bool.false_eq_true, Option.some.injEq,
    Except.ok.injEq]
  funext s
  unfold mapReader
  cases shape.read s <;> rfl

theorem dispatch_of_ne {name : String} (hne : name ≠ key) {slots : rest.Slots}
    {reader : Reader rest.Slots} (hd : rest.dispatch name slots = some (.ok reader))
    (slot : Option shape.Value) :
    (Members.cons key isRequired shape rest).dispatch name (slot, slots) =
      some (.ok (mapReader (fun slots => (slot, slots)) reader)) := by
  rw [Members.dispatch]
  simp only [if_neg hne, hd, Option.some.injEq, Except.ok.injEq]
  funext s
  unfold mapReader
  cases reader s <;> rfl

/-- Members fill their slots behind a member of another name as they do without it. -/
theorem Fills.behind {τ : Type} {writes : τ → List Char → Prop} {slots slots' : rest.Slots}
    {ms : List (String × τ)} (h : Fills writes rest.dispatch slots ms slots')
    (hkey : key ∉ ms.map Prod.fst)
    (slot : Option shape.Value) :
    Fills writes (Members.cons key isRequired shape rest).dispatch (slot, slots) ms
      (slot, slots') := by
  induction h with
  | nil => exact .nil
  | cons hd hr _ ih =>
      rw [List.map_cons, List.mem_cons, not_or] at hkey
      exact .cons (dispatch_of_ne (Ne.symm hkey.1) hd slot) (fun _ hw => (hr hw).map _) (ih hkey.2)

end Members

mutual

/-- No record within the shape has two members of one name, and no choice offers a name twice. -/
def Shape.IsDistinct : Shape → Prop
  | .choice first others => (choiceNames first others).Nodup
  | .list item => item.IsDistinct
  | .record _ members => members.AreDistinct
  | _ => True

def Members.AreDistinct : Members → Prop
  | .nil => True
  | .cons key _ shape rest => key ∉ rest.keys ∧ shape.IsDistinct ∧ rest.AreDistinct

end

mutual

/-- The reader for a shape takes a value from every notation of its JSON value. -/
theorem Shape.recovers : (shape : Shape) → shape.IsDistinct → (value : shape.Value) →
    Recovers shape.read (shape.toTree value) value
  | .text, _, _ => fun _ hw => hw.quoted.takes "a string"
  | .flag _, _, true => fun _ hw => by cases hw; exact takes_yes
  | .flag _, _, false => fun _ hw => by cases hw; exact takes_no
  | .id, _, n => fun _ hw => by cases hw; exact takes_id n
  | .word, _, n => fun _ hw => by cases hw; exact takes_word n
  | .choice _ _, h, i => recovers_choice h i
  | .list item, h, _ =>
      recovers_list (List.forall₂_map_left_iff.mpr
        (List.forall₂_same.mpr fun value _ => item.recovers h value))
  | .record _ members, h, values =>
      recovers_record (members.fills h values) (members.complete_filled values)

/-- Members fill their slots with the values that they have in the JSON value. -/
theorem Members.fills : (members : Members) → members.AreDistinct → (values : members.Values) →
    Fills Writes members.dispatch members.unknown (members.toTrees values) (members.filled values)
  | .nil, _, () => .nil
  | .cons key _ shape rest, ⟨hkey, hshape, hrest⟩, (value, values) => by
      have hvalue := (shape.recovers hshape value).map fun value => (some value, rest.unknown)
      refine .cons (dispatch_key rest.unknown) hvalue
        ((rest.fills hrest values).behind ?_ (some value))
      rwa [rest.map_fst_toTrees values]

end

/-- A text that writes the JSON value of a value is decoded as the value. -/
theorem Shape.decode_of_writes {shape : Shape} (h : shape.IsDistinct) {value : shape.Value}
    {pre w post : List Char} (hpre : Blanks pre) (hw : Writes (shape.toTree value) w)
    (hpost : Blanks post) : shape.decode (String.ofList (pre ++ w ++ post)) = .ok value := by
  have hnil : Ends [] := by simp [Ends]
  have hends : Ends post := by simpa using ends_blanks hpost hnil
  obtain ⟨_, hread⟩ := shape.recovers h value hw hpre hends
  rw [Shape.decode, String.toList_ofList, hread]
  simp only [skipSpace_blanks hpost]

/-- A text that writes the JSON value of a value is decoded as the value. -/
theorem Layout.decode_of_writes {α : Type} {l : Layout α} (h : l.shape.IsDistinct) {a : α}
    {pre w post : List Char} (hpre : Blanks pre) (hw : Writes (l.toTree a) w)
    (hpost : Blanks post) : l.decode (String.ofList (pre ++ w ++ post)) = .ok a := by
  rw [Layout.decode, Shape.decode_of_writes h hpre hw hpost]
  exact congrArg Except.ok (l.ofValue_toValue a)

theorem Layout.decode_ofList {α : Type} {l : Layout α} (h : l.shape.IsDistinct) {a : α}
    {w : List Char} (hw : Writes (l.toTree a) w) : l.decode (String.ofList w) = .ok a := by
  simpa using Layout.decode_of_writes h blanks_nil hw blanks_nil

end Lexicon.Json
