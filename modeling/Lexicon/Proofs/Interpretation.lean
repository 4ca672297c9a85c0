import Lexicon.Proofs.Nodes

/-!
# Values of trees

What a shape makes of a tree, member by member and with nothing said about blanks: a record looks
each key up among its members, passes over those that it does not have, and has no value if a key
comes twice, if a value has none, or if a required member is missing. The reader of the shape takes
this value from every text of the tree, and fails at all of them if there is none.
-/

namespace Lexicon.Json

/-- What a reader makes of a text with nothing around it. -/
def alone? {α : Type} (read : Reader α) (w : List Char) : Option α :=
  match read w with
  | .ok r => some r.value
  | .error _ => none

/-- What a reader makes of a token. -/
def Node.token? {α : Type} (read : Reader α) : Node → Option α
  | .token w => alone? read w
  | _ => none

/-- The values of the items of a list. -/
def Node.items? {α : Type} (item : Node → Option α) : Node → Option (List α)
  | .list items => items.mapM item
  | _ => none

/-- The values of the members of a record, by their keys or in their order. -/
def Node.members? {α : Type} (byKey : List (List Char × Node) → Option α)
    (inOrder : List Node → Option α) : Node → Option α
  | .record ms => byKey ms
  | .list items => inOrder items
  | .token _ => none

/-- What is known of a record with one more member, whose key is still quoted. -/
def takeMember? {σ : Type} (put? : σ → String → Node → Option σ) (slots : σ)
    (m : List Char × Node) : Option σ :=
  (textOf? m.1).bind fun name => put? slots name m.2

mutual

/-- The value of a shape that a tree is, if it is one. -/
def Shape.ofNode? : (shape : Shape) → Node → Option shape.Value
  | .text => Node.token? (readText "a string")
  | .flag _ => Node.token? readFlag
  | .id => Node.token? readId
  | .word => Node.token? readWord32
  | .choice first others => Node.token? (readChoice first others)
  | .list item => Node.items? item.ofNode?
  | .record _ members => Node.members?
      (fun ms => (ms.foldlM (takeMember? members.put?) members.unknown).bind fun slots =>
        (members.complete slots).toOption)
      members.inOrder?

/-- What is known of members with one more of them: nothing more if the name is none of theirs. -/
def Members.put? : (members : Members) → members.Slots → String → Node → Option members.Slots
  | .nil => fun slots _ _ => some slots
  | .cons key _ shape rest => fun (slot, slots) name t =>
    if name = key then
      if slot.isSome then none else (shape.ofNode? t).map fun value => (some value, slots)
    else (rest.put? slots name t).map fun slots => (slot, slots)

/-- The values of members that stand one after the other in a list. The last ones may be left out
unless they are required. -/
def Members.inOrder? : (members : Members) → List Node → Option members.Values
  | .nil => fun items => if items.isEmpty then some () else none
  | .cons _ isRequired shape rest => fun
    | [] =>
      if isRequired then none else (rest.inOrder? []).map fun values => (shape.fallback, values)
    | t :: ts =>
      (shape.ofNode? t).bind fun value => (rest.inOrder? ts).map fun values => (value, values)

end

section Puts
variable {key name : String} {isRequired : Bool} {shape : Shape} {rest : Members}
  {slot : Option shape.Value} {slots : rest.Slots} {t : Node}

theorem Members.put?_key : (Members.cons key isRequired shape rest).put? (slot, slots) key t =
    if slot.isSome then none else (shape.ofNode? t).map fun value => (some value, slots) :=
  if_pos rfl

theorem Members.put?_of_ne (hne : name ≠ key) :
    (Members.cons key isRequired shape rest).put? (slot, slots) name t =
      (rest.put? slots name t).map fun slots => (slot, slots) :=
  if_neg hne

end Puts

/-- What is known of members behind some of them. -/
def Members.fill? (members : Members) (slots : members.Slots) (ms : List (List Char × Node)) :
    Option members.Slots :=
  ms.foldlM (takeMember? members.put?) slots

theorem fill?_cons {members : Members} {slots : members.Slots} {m : List Char × Node}
    {ms : List (List Char × Node)} : members.fill? slots (m :: ms) =
      (takeMember? members.put? slots m).bind fun slots => members.fill? slots ms := by
  rw [Members.fill?, List.foldlM_cons]
  rfl

theorem Shape.ofNode?_record (name : String) (members : Members) (ms : List (List Char × Node)) :
    (Shape.record name members).ofNode? (.record ms) =
      (members.fill? members.unknown ms).bind fun slots => (members.complete slots).toOption :=
  rfl

mutual

/-- A shape of texts, of numbers of headwords, and of lists and records of these. -/
def Shape.IsPlain : Shape → Prop
  | .text | .id => True
  | .list item => item.IsPlain
  | .record _ members => members.ArePlain
  | _ => False

def Members.ArePlain : Members → Prop
  | .nil => True
  | .cons _ _ shape rest => shape.IsPlain ∧ rest.ArePlain

end

section Readers
variable {α β : Type} {pre rest w s : List Char} {c : Char} {o : Option α}

theorem yields_iff {read : Reader α} : Yields read w o ↔
    ∀ ⦃pre rest⦄, Blanks pre → Ends rest → Results (read (pre ++ w ++ rest)) o rest := by
  cases o <;> exact Iff.rfl

/-- What a reader yields, it makes of the text alone. -/
theorem Yields.eq_alone? {read : Reader α} (h : Yields read w o) : o = alone? read w := by
  have hnil : Ends [] := by simp [Ends]
  have halone : Results (read w) o [] := by
    have h' := yields_iff.mp h blanks_nil hnil
    rwa [List.nil_append, List.append_nil] at h'
  unfold alone?
  cases o with
  | some a =>
      obtain ⟨_, heq⟩ := halone
      rw [heq]
  | none =>
      obtain ⟨_, heq⟩ := halone
      rw [heq]

/-- A reader that goes by the first character yields what it does with that and what follows. -/
theorem yields_onFirst
    {read : (c : Char) → (s : List Char) → Except Failure (Read α (s.length + 1))}
    (hc : isSpace c = false) (h : ∀ rest, Ends rest → Results (read c (s ++ rest)) o rest) :
    Yields (onFirst read) (c :: s) o := by
  cases o with
  | some a => exact takes_onFirst hc h
  | none =>
      intro pre rest hpre hrest
      obtain ⟨f, hf⟩ := h rest hrest
      rw [List.append_assoc]
      exact ⟨f, onFirst_eq_error hpre hc hf⟩

theorem yields_alone {read : Reader α} (h : ∃ o, Yields read w o) : Yields read w (alone? read w) := by
  obtain ⟨o, ho⟩ := h
  exact ho.eq_alone? ▸ ho

end Readers

section Texts
variable {w : List Char} {wanted : String} {t : Node}

theorem yields_readText_none {c : Char} {s : List Char} (hspace : isSpace c = false)
    (hc : c ≠ '"') : Yields (readText wanted) (c :: s) none :=
  yields_onFirst hspace fun _ _ => ⟨_, if_neg hc⟩

theorem Letters.yields (hw : Letters w) (wanted : String) :
    Yields (readText wanted) ('"' :: w ++ ['"']) (textOf? w) := by
  refine yields_onFirst (s := w ++ ['"']) rfl fun rest _ => ?_
  rw [List.append_assoc, if_pos rfl]
  exact hw.results rest

/-- A text is read from a tree. -/
theorem Spelled.yields_text (h : Spelled t w) (wanted : String) :
    Yields (readText wanted) w (t.token? (readText wanted)) := by
  cases h with
  | list _ | record _ => exact yields_readText_none rfl (by decide)
  | token h =>
      apply yields_alone
      cases h with
      | text hw => exact ⟨_, hw.yields wanted⟩
      | null | yes | no => exact ⟨none, yields_readText_none rfl (by decide)⟩
      | number l =>
          obtain ⟨c, s, hw, hspace, hc⟩ := l.exists_spelling
          refine ⟨none, hw ▸ yields_readText_none hspace ?_⟩
          rintro rfl
          simp [Unicode.isAsciiDigit] at hc

end Texts

section Ids
variable {w : List Char} {t : Node}

theorem yields_readId_none {c : Char} {s : List Char} (hspace : isSpace c = false)
    (hminus : c ≠ '-') (hdigit : Unicode.isAsciiDigit c = false) : Yields readId (c :: s) none := by
  refine yields_onFirst hspace fun rest _ => ?_
  have hnone : readNumberAt c (s ++ rest) = none := by
    rw [readNumberAt, if_neg hminus, if_neg (by simp [hdigit])]
  simp only [hnone]
  split_ifs <;> exact ⟨_, rfl⟩

/-- The number of a headword is read from a tree. -/
theorem Spelled.yields_id (h : Spelled t w) : Yields readId w (t.token? readId) := by
  cases h with
  | list _ | record _ => exact yields_readId_none rfl (by decide) rfl
  | token h =>
      apply yields_alone
      cases h with
      | number l => exact l.exists_yields_readId
      | null | yes | no | text _ => exact ⟨none, yields_readId_none rfl (by decide) rfl⟩

end Ids

section Lists
variable {α : Type} {item : Reader α} {value? : Node → Option α} {items : List Node}
  {isFirst : Bool} {w s rest : List Char} {t : Node}

/-- The items of a list are read, up to the bracket that closes it. -/
theorem Separated.results_items (hs : Separated Spelled isFirst items s)
    (hitems : ∀ t ∈ items, ∀ ⦃w⦄, Spelled t w → Yields item w (value? t)) (done : List α)
    (rest : List Char) {bound : ℕ} (hbound : (s ++ ']' :: rest).length < bound) :
    Results (readItems item done isFirst (s ++ ']' :: rest) hbound)
      ((items.mapM value?).map fun as => done.reverse ++ as) rest := by
  induction items generalizing isFirst s done with
  | nil =>
      cases hs with
      | nil hs =>
          have hnext := nextItem_eq_done isFirst (skipSpace_behind (s := rest) hs rfl)
          refine ⟨by simp at hbound; omega, ?_⟩
          rw [readItems, hnext]
          simp
  | cons t ts ih =>
      obtain ⟨ht, hts⟩ := List.forall_mem_cons.mp hitems
      obtain ⟨w, s', h, hw, hs', hends, hnext⟩ := hs.exists_item (fun _ hw => hw.startsPart) rest
      have hitem : Results (item (w ++ (s' ++ ']' :: rest))) (value? t) _ :=
        yields_iff.mp (ht hw) blanks_nil hends
      rw [List.mapM_cons]
      cases hvalue : value? t with
      | none =>
          rw [hvalue] at hitem
          obtain ⟨f, hf⟩ := hitem
          refine ⟨f, ?_⟩
          rw [readItems, hnext]
          simp only [hf]
      | some a =>
          rw [hvalue] at hitem
          obtain ⟨h', ha⟩ := hitem
          have hrest := ih hs' hts (a :: done) (by omega)
          have hread : readItems item done isFirst (s ++ ']' :: rest) hbound =
              readItems item (a :: done) false (s' ++ ']' :: rest) (by omega) := by
            rw [readItems, hnext]
            simp only [ha]
          rw [hread]
          cases has : ts.mapM value? with
          | none => simpa [has] using hrest
          | some as => simpa [has] using hrest

/-- A list is read from a tree if its items are. -/
theorem Spelled.yields_list (h : Spelled t w)
    (hitem : ∀ ⦃t w⦄, Spelled t w → Yields item w (value? t)) :
    Yields (readList item) w (t.items? value?) := by
  cases h with
  | token h =>
      obtain ⟨c, s, rfl, hspace, -, hc, -⟩ := h.exists_skip
      exact yields_onFirst hspace fun _ _ => ⟨_, if_neg hc⟩
  | record _ => exact yields_onFirst rfl fun _ _ => ⟨_, if_neg (by decide)⟩
  | @list items w hs =>
      refine yields_onFirst (s := w ++ [']']) rfl fun rest _ => ?_
      rw [List.append_assoc, if_pos rfl]
      have hread := hs.results_items (fun _ _ _ hw => hitem hw) [] rest
        (length_lt_succ (w ++ ']' :: rest))
      simpa [Node.items?] using hread

end Lists

section Records
variable {τ : Type} {writes : τ → List Char → Prop} {members : Members} {isFirst : Bool}
  {key s w rest : List Char} {t : τ} {ms : List (List Char × τ)}

/-- On the way to the value of the first member, its key and the colon are passed. -/
theorem Separated.exists_keyed (hs : Separated (Keyed writes) isFirst ((key, t) :: ms) s)
    (rest : List Char) :
    ∃ u v s' t₁ h₁ h₂, Letters key ∧ Blanks u ∧ writes t v ∧ Separated (Keyed writes) false ms s' ∧
      Ends (s' ++ '\x7d' :: rest) ∧
      nextKey isFirst (s ++ '\x7d' :: rest) = .ok (.more (key ++ '"' :: t₁) h₁) ∧
      readColon t₁ = .ok ⟨u ++ v ++ (s' ++ '\x7d' :: rest), h₂⟩ := by
  obtain - | @⟨_, l, _, _, _, s, hl, hw, hs⟩ := hs
  obtain @⟨_, _, u, v, w, hkey, hu, hv, hw⟩ := hw
  have hcolon := readColon_eq (skipSpace_behind (s := v ++ w ++ (s ++ '\x7d' :: rest)) hu
    (c := ':') rfl)
  obtain ⟨_, hnext⟩ :=
    hl.nextKey_eq (s := key ++ '"' :: (u ++ ':' :: (v ++ w ++ (s ++ '\x7d' :: rest))))
  have htext : l ++ ('"' :: key ++ ('"' :: u ++ ':' :: v ++ w)) ++ s ++ '\x7d' :: rest =
      l ++ '"' :: (key ++ '"' :: (u ++ ':' :: (v ++ w ++ (s ++ '\x7d' :: rest)))) := by
    simp
  rw [htext]
  exact ⟨v, w, s, _, _, _, hkey, hv, hw, hs, hs.ends (ends_cons rfl (by decide)), hnext, hcolon⟩

/-- What members do with a key is what is known of them afterwards, if anything is. -/
inductive Dispatches (members : Members) (slots : members.Slots) (name : String) (t : Node) : Prop
  | unknown (hd : members.dispatch name slots = none) (h : members.put? slots name t = some slots)
  | refused (cause) (hd : members.dispatch name slots = some (.error cause))
      (h : members.put? slots name t = none)
  | known {reader} (hd : members.dispatch name slots = some (.ok reader))
      (h : ∀ ⦃w⦄, Spelled t w → Yields reader w (members.put? slots name t))

theorem Dispatches.cons_self {isRequired : Bool} {shape : Shape} {rest : Members} {key : String}
    {t : Node} (h : ∀ ⦃w⦄, Spelled t w → Yields shape.read w (shape.ofNode? t))
    (slot : Option shape.Value) (slots : rest.Slots) :
    Dispatches (.cons key isRequired shape rest) (slot, slots) key t := by
  cases slot with
  | none =>
      refine .known (dispatch_key slots) fun w hw => ?_
      rw [Members.put?_key]
      exact (h hw).map _
  | some value =>
      refine .refused (.duplicateMember key) ?_ Members.put?_key
      simp [Members.dispatch]

theorem Dispatches.cons_of_ne {isRequired : Bool} {shape : Shape} {rest : Members}
    {key name : String} {t : Node} (hne : name ≠ key) {slots : rest.Slots}
    (h : Dispatches rest slots name t) (slot : Option shape.Value) :
    Dispatches (.cons key isRequired shape rest) (slot, slots) name t := by
  cases h with
  | unknown hd h =>
      refine .unknown ?_ (by rw [Members.put?_of_ne hne, h]; rfl)
      rw [Members.dispatch]
      simp only [if_neg hne, hd]
  | refused cause hd h =>
      refine .refused cause ?_ (by rw [Members.put?_of_ne hne, h]; rfl)
      rw [Members.dispatch]
      simp only [if_neg hne, hd]
  | known hd h =>
      refine .known (dispatch_of_ne hne hd slot) fun w hw => ?_
      rw [Members.put?_of_ne hne]
      exact (h hw).map _

/-- The members of a record are read, up to the bracket that closes it. -/
theorem Separated.results_members {ms : List (List Char × Node)}
    (hs : Separated (Keyed Spelled) isFirst ms s)
    (hd : ∀ slots name t, Dispatches members slots name t) (slots : members.Slots)
    (rest : List Char) {bound : ℕ} (hbound : (s ++ '\x7d' :: rest).length < bound) :
    Results (readMembers members.dispatch slots isFirst (s ++ '\x7d' :: rest) hbound)
      (members.fill? slots ms) ('\x7d' :: rest) := by
  induction ms generalizing isFirst s slots with
  | nil =>
      cases hs with
      | nil hs =>
          have hnext := nextKey_eq_done isFirst (skipSpace_behind (s := rest) hs rfl)
          refine ⟨by simp at hbound ⊢; omega, ?_⟩
          rw [readMembers, hnext]
  | cons m ms ih =>
      obtain ⟨key, t⟩ := m
      obtain ⟨u, v, s', t₁, h₁, h₂, hkey, hu, hv, hs', hends, hnext, hcolon⟩ := hs.exists_keyed rest
      have htext := hkey.results t₁
      rw [fill?_cons, takeMember?, Option.bind_assoc]
      cases hname : textOf? key with
      | none =>
          rw [hname] at htext
          obtain ⟨f, hf⟩ := htext
          refine ⟨f, ?_⟩
          rw [readMembers, hnext]
          simp only [hf]
      | some name =>
          rw [hname] at htext
          obtain ⟨h₃, hread⟩ := htext
          rw [Option.bind_some]
          cases hd slots name t with
          | unknown hd h =>
              obtain ⟨h₄, hskip⟩ := hv.skipValue_eq hu hends
              have hrest := ih hs' slots (by omega)
              rw [h, Option.bind_some]
              convert hrest using 1
              rw [readMembers, hnext]
              simp only [hread, hd, hcolon, hskip]
          | refused cause hd h =>
              rw [h]
              refine ⟨.within cause t₁, ?_⟩
              rw [readMembers, hnext]
              simp only [hread, hd]
          | @known reader hd h =>
              have hvalue : Results (reader (u ++ v ++ (s' ++ '\x7d' :: rest))) _ _ :=
                yields_iff.mp (h hv) hu hends
              cases hput : members.put? slots name t with
              | none =>
                  rw [hput] at hvalue
                  obtain ⟨f, hf⟩ := hvalue
                  refine ⟨f, ?_⟩
                  rw [readMembers, hnext]
                  simp only [hread, hd, hcolon, hf]
              | some slots' =>
                  rw [hput] at hvalue
                  obtain ⟨h₄, hf⟩ := hvalue
                  have hrest := ih hs' slots' (by omega)
                  rw [Option.bind_some]
                  convert hrest using 1
                  rw [readMembers, hnext]
                  simp only [hread, hd, hcolon, hf]

end Records

section Orders
variable {α β : Type} {o : Option α} {isFirst : Bool} {s rest : List Char} {items : List Node}
  {bound : ℕ}

/-- A reading of members in their order, and of the end of the list behind them. -/
def closed (e : Except Failure (Read α bound)) : Except Failure (Read α bound) :=
  match e with
  | .error f => .error f.placeInList
  | .ok r =>
    match closeList r.rest with
    | .error f => .error f
    | .ok ⟨rest', h⟩ => .ok ⟨r.value, rest', Nat.lt_trans h r.shorter⟩

theorem results_closed_map (g : α → β) {e : Except Failure (Read α bound)}
    (h : Results (closed e) o rest) : Results (closed (e.map (Read.map g))) (o.map g) rest := by
  cases e with
  | error f =>
      cases o with
      | some a =>
          obtain ⟨_, h⟩ := h
          cases h
      | none => exact ⟨_, rfl⟩
  | ok r =>
      unfold closed at h ⊢
      simp only [Except.map, Read.map] at h ⊢
      cases hclose : closeList r.rest with
      | error f =>
          cases o with
          | some a =>
              rw [hclose] at h
              obtain ⟨_, h⟩ := h
              cases h
          | none => exact ⟨f, rfl⟩
      | ok r' =>
          rw [hclose] at h
          cases o with
          | some a =>
              obtain ⟨h', h⟩ := h
              cases h
              exact ⟨h', rfl⟩
          | none =>
              obtain ⟨_, h⟩ := h
              cases h

theorem closeList_end (hs : Blanks s) (rest : List Char) :
    ∃ h, closeList (s ++ ']' :: rest) = .ok ⟨rest, h⟩ := by
  have hskip : skipSpace (s ++ ']' :: rest) = ']' :: rest := skipSpace_behind hs rfl
  refine ⟨by simp only [List.length_append, List.length_cons]; omega, ?_⟩
  unfold closeList
  split
  · rename_i hnil
    rw [hskip] at hnil
    cases hnil
  · rename_i c t hcons
    rw [hskip] at hcons
    cases hcons
    rfl

theorem closeList_of_ne {c : Char} {t : List Char} (h : skipSpace s = c :: t) (hc : c ≠ ']') :
    ∃ f, closeList s = .error f := by
  unfold closeList
  split
  · exact ⟨_, rfl⟩
  · rename_i d u hcons
    rw [h] at hcons
    cases hcons
    rw [if_neg hc]
    split_ifs
    · split <;> exact ⟨_, rfl⟩
    · exact ⟨_, rfl⟩

/-- Where another item comes, the list does not end. -/
theorem closeList_more {t : Node} (hs : Separated Spelled isFirst (t :: items) s)
    (rest : List Char) : ∃ f, closeList (s ++ ']' :: rest) = .error f := by
  obtain - | @⟨_, l, _, w, _, s, hl, hw, hs⟩ := hs
  obtain ⟨c, w, rfl, hspace, hc⟩ := hw.startsPart
  cases hl with
  | first hl =>
      have htext : l ++ c :: w ++ s ++ ']' :: rest = l ++ c :: (w ++ (s ++ ']' :: rest)) := by simp
      rw [htext]
      exact closeList_of_ne (skipSpace_behind hl hspace) hc
  | @later u v hu hv =>
      have htext : u ++ ',' :: v ++ c :: w ++ s ++ ']' :: rest =
          u ++ ',' :: (v ++ c :: (w ++ (s ++ ']' :: rest))) := by simp
      rw [htext]
      exact closeList_of_ne (skipSpace_behind hu rfl) (by decide)

section Steps
variable {key : String} {isRequired : Bool} {shape : Shape} {members : Members}
  {length : ℕ → Cause} {index : ℕ} {r : List Char}

/-- Where the list ends, the member that comes next is left out. -/
theorem Members.readInOrder_done {h₁} (hnext : nextItem isFirst s = .ok (.done r h₁))
    (h : s.length < bound) :
    (Members.cons key isRequired shape members).readInOrder length index isFirst s h =
      if isRequired then .error (.within (length index) r)
      else (members.readInOrder length (index + 1) isFirst r (Nat.lt_of_le_of_lt h₁ h)).map
        (Read.map fun values => (shape.fallback, values)) := by
  rw [Members.readInOrder]
  simp only [hnext]
  cases members.readInOrder length (index + 1) isFirst r (Nat.lt_of_le_of_lt h₁ h) <;> rfl

/-- Where an item comes, it is read as the member that comes next. -/
theorem Members.readInOrder_more {h₁ value rest' h₂}
    (hnext : nextItem isFirst s = .ok (.more r h₁))
    (hread : shape.read r = .ok ⟨value, rest', h₂⟩) (h : s.length < bound) :
    (Members.cons key isRequired shape members).readInOrder length index isFirst s h =
      (members.readInOrder length (index + 1) false rest'
        (Nat.lt_trans (Nat.lt_of_lt_of_le h₂ h₁) h)).map (Read.map fun values => (value, values)) := by
  rw [Members.readInOrder]
  simp only [hnext, hread]
  cases members.readInOrder length (index + 1) false rest'
    (Nat.lt_trans (Nat.lt_of_lt_of_le h₂ h₁) h) <;> rfl

theorem Members.readInOrder_error {h₁ f} (hnext : nextItem isFirst s = .ok (.more r h₁))
    (hread : shape.read r = .error f) (h : s.length < bound) :
    (Members.cons key isRequired shape members).readInOrder length index isFirst s h = .error f := by
  rw [Members.readInOrder]
  simp only [hnext, hread]

end Steps

/-- Members that stand one after the other in a list are read, up to its end. -/
def ReadsInOrder (members : Members) : Prop :=
  ∀ ⦃items isFirst s⦄, Separated Spelled isFirst items s → ∀ length index rest ⦃bound⦄
    (h : (s ++ ']' :: rest).length < bound),
    Results (closed (members.readInOrder length index isFirst (s ++ ']' :: rest) h))
      (members.inOrder? items) rest

theorem readsInOrder_nil : ReadsInOrder .nil := by
  intro items isFirst s hs length index rest bound h
  cases items with
  | nil =>
      cases hs with
      | nil hs =>
          obtain ⟨h', hclose⟩ := closeList_end hs rest
          refine ⟨Nat.lt_trans h' h, ?_⟩
          simp only [closed, Members.readInOrder, hclose]
  | cons t ts =>
      obtain ⟨f, hclose⟩ := closeList_more hs rest
      refine ⟨f, ?_⟩
      simp only [closed, Members.readInOrder, hclose]

theorem readsInOrder_cons {key : String} {isRequired : Bool} {shape : Shape} {members : Members}
    (hshape : ∀ ⦃t w⦄, Spelled t w → Yields shape.read w (shape.ofNode? t))
    (hmembers : ReadsInOrder members) : ReadsInOrder (.cons key isRequired shape members) := by
  intro items isFirst s hs length index rest bound h
  cases items with
  | nil =>
      cases hs with
      | nil hs =>
          have hnext := nextItem_eq_done isFirst (skipSpace_behind (s := rest) hs rfl)
          rw [Members.readInOrder_done hnext h]
          cases isRequired with
          | true => exact ⟨_, rfl⟩
          | false =>
              have hend : Separated Spelled isFirst [] [] := .nil blanks_nil
              exact results_closed_map _ (hmembers hend length (index + 1) rest _)
  | cons t ts =>
      obtain ⟨w, s', h₁, hw, hs', hends, hnext⟩ := hs.exists_item (fun _ hw => hw.startsPart) rest
      have hvalue : Results (shape.read (w ++ (s' ++ ']' :: rest))) (shape.ofNode? t) _ :=
        yields_iff.mp (hshape hw) blanks_nil hends
      have hinOrder : (Members.cons key isRequired shape members).inOrder? (t :: ts) =
          (shape.ofNode? t).bind fun value => (members.inOrder? ts).map fun values =>
            (value, values) := rfl
      rw [hinOrder]
      cases ht : shape.ofNode? t with
      | none =>
          rw [ht] at hvalue
          obtain ⟨f, hf⟩ := hvalue
          rw [Members.readInOrder_error hnext hf h]
          exact ⟨_, rfl⟩
      | some value =>
          rw [ht] at hvalue
          obtain ⟨h₂, hf⟩ := hvalue
          rw [Members.readInOrder_more hnext hf h]
          exact results_closed_map _ (hmembers hs' length (index + 1) rest _)

end Orders

/-- A record is read from a tree if its members are. -/
theorem Spelled.yields_record {members : Members} {t : Node} {w : List Char} (h : Spelled t w)
    (name : String) (hd : ∀ slots name t, Dispatches members slots name t)
    (ho : ReadsInOrder members) :
    Yields (Shape.record name members).read w ((Shape.record name members).ofNode? t) := by
  cases h with
  | token h =>
      obtain ⟨c, s, rfl, hspace, -, hlist, hrecord, -⟩ := h.exists_skip
      exact yields_onFirst hspace fun _ _ => ⟨_, (if_neg hrecord).trans (if_neg hlist)⟩
  | @list items w hs =>
      refine yields_onFirst (s := w ++ [']']) rfl fun rest _ => ?_
      rw [List.append_assoc, List.singleton_append, if_neg (by decide), if_pos rfl]
      have hread := ho hs (fun n => .wrongLength n name members.count) 0 rest
        (length_lt_succ (w ++ ']' :: rest))
      revert hread
      unfold closed
      simp only
      cases members.readInOrder (fun n => .wrongLength n name members.count) 0 true (w ++ ']' :: rest)
          (length_lt_succ (w ++ ']' :: rest)) with
      | error f => exact id
      | ok r =>
          simp only
          cases closeList r.rest <;> exact id
  | @record ms w hs =>
      refine yields_onFirst (s := w ++ ['\x7d']) rfl fun rest _ => ?_
      rw [List.append_assoc, if_pos rfl, Shape.ofNode?_record]
      have hread := hs.results_members hd members.unknown rest
        (length_lt_succ (w ++ '\x7d' :: rest))
      cases hfill : members.fill? members.unknown ms with
      | none =>
          rw [hfill] at hread
          obtain ⟨f, hf⟩ := hread
          exact ⟨f.placeInRecord, by simp only [List.singleton_append, hf]⟩
      | some slots =>
          rw [hfill] at hread
          obtain ⟨h, hslots⟩ := hread
          rw [Option.bind_some]
          cases hcomplete : members.complete slots with
          | error key =>
              refine ⟨(Failure.within (.missingMember key) ('\x7d' :: rest)).placeInRecord, ?_⟩
              simp only [List.singleton_append, hslots, hcomplete]
          | ok values =>
              refine ⟨Nat.lt_trans (length_lt_succ rest) h, ?_⟩
              simp only [List.singleton_append, hslots, hcomplete, List.tail_cons]

mutual

/-- The reader of a shape takes the value of a tree from its texts. -/
theorem Shape.yields : (shape : Shape) → shape.IsPlain → ∀ ⦃t w⦄, Spelled t w →
    Yields shape.read w (shape.ofNode? t)
  | .text, _ => fun _ _ h => h.yields_text _
  | .id, _ => fun _ _ h => h.yields_id
  | .list item, hitem => fun _ _ h => h.yields_list (item.yields hitem)
  | .record name members, hmembers => fun _ _ h =>
      h.yields_record name (members.dispatches hmembers) (members.readsInOrder hmembers)

theorem Members.dispatches : (members : Members) → members.ArePlain → ∀ slots name t,
    Dispatches members slots name t
  | .nil, _ => fun _ _ _ => .unknown rfl rfl
  | .cons key _ shape rest, ⟨hshape, hrest⟩ => fun (slot, slots) name t => by
      by_cases hname : name = key
      · subst hname
        exact .cons_self (fun _ hw => shape.yields hshape hw) slot slots
      · exact (rest.dispatches hrest slots name t).cons_of_ne hname slot

theorem Members.readsInOrder : (members : Members) → members.ArePlain → ReadsInOrder members
  | .nil, _ => readsInOrder_nil
  | .cons _ _ shape rest, ⟨hshape, hrest⟩ =>
      readsInOrder_cons (shape.yields hshape) (rest.readsInOrder hrest)

end

end Lexicon.Json
