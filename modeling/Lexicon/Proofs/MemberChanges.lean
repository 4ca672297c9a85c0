import Lexicon.Proofs.Documents
import Lexicon.Proofs.Interpretation

/-!
# Changes of the members of records

What a record says does not depend on the order of its members, on members that it does not have, or
on members that say what stands where none is given. A required member has to be there. These are
changes of one record, and they may be made in any record that a value is read from, however deep it
stands.
-/

namespace Lexicon.Json

namespace Members

/-- The members one after the other: their keys, whether they are required, and their shapes. -/
def toList : Members → List (String × Bool × Shape)
  | .nil => []
  | .cons key isRequired shape rest => (key, isRequired, shape) :: rest.toList

theorem map_fst_toList : (members : Members) → members.toList.map Prod.fst = members.keys
  | .nil => rfl
  | .cons key _ _ rest => congrArg (key :: ·) rest.map_fst_toList

theorem mem_keys_of_mem {members : Members} {name : String} {isRequired : Bool} {shape : Shape}
    (h : (name, isRequired, shape) ∈ members.toList) : name ∈ members.keys := by
  rw [← members.map_fst_toList]
  exact List.mem_map_of_mem h

end Members

/-- A change of the members of a record that leaves what they say: they are put in another order, one
that the record does not have comes in, or one goes that says what stands where none is given. -/
inductive Rearranges (members : Members) :
    List (List Char × Node) → List (List Char × Node) → Prop
  | permuted {ms ms'} (h : ms.Perm ms') : Rearranges members ms ms'
  | inserted {front back key t name} (hkey : Spells name.toList key) (hname : name ∉ members.keys) :
      Rearranges members (front ++ back) (front ++ (key, t) :: back)
  | removed {front back key t name shape} (hkey : Spells name.toList key)
      (hmember : (name, false, shape) ∈ members.toList)
      (hvalue : shape.ofNode? t = some shape.fallback) :
      Rearranges members (front ++ (key, t) :: back) (front ++ back)

/-- A change that takes a required member from a record. -/
inductive Strips (members : Members) : List (List Char × Node) → List (List Char × Node) → Prop
  | mk {front back key t name shape} (hkey : Spells name.toList key)
      (hmember : (name, true, shape) ∈ members.toList) :
      Strips members (front ++ (key, t) :: back) (front ++ back)

/-- The change is made in one of the records that a value of the shape is read from: in this one, in
the value of a member, in an item of a list, or in a value of a record that is written as a list. -/
inductive Within (change : Members → List (List Char × Node) → List (List Char × Node) → Prop) :
    Shape → Node → Node → Prop
  | here {name members ms ms'} (h : change members ms ms') :
      Within change (.record name members) (.record ms) (.record ms')
  | member {record members front back key t t' name isRequired shape}
      (hkey : Spells name.toList key) (hmember : (name, isRequired, shape) ∈ members.toList)
      (h : Within change shape t t') :
      Within change (.record record members) (.record (front ++ (key, t) :: back))
        (.record (front ++ (key, t') :: back))
  | item {shape front back t t'} (h : Within change shape t t') :
      Within change (.list shape) (.list (front ++ t :: back)) (.list (front ++ t' :: back))
  | place {record members front back t t' name isRequired shape}
      (hplace : members.toList[front.length]? = some (name, isRequired, shape))
      (h : Within change shape t t') :
      Within change (.record record members) (.list (front ++ t :: back))
        (.list (front ++ t' :: back))

section Keys
variable {name : String} {key : List Char}

theorem textOf?_of_spells (h : Spells name.toList key) : textOf? key = some name := by
  obtain ⟨_, heq⟩ := h.closes [] [] (length_lt_succ _)
  rw [textOf?, readTextBody, heq]
  simp

end Keys

section Fallbacks
variable {members : Members} {name : String} {key : List Char} {front back : List (List Char × Node)}

/-- An empty list may be left out where a list need not be given. -/
theorem Rearranges.removed_list {item : Shape} (hkey : Spells name.toList key)
    (hmember : (name, false, .list item) ∈ members.toList) :
    Rearranges members (front ++ (key, .list []) :: back) (front ++ back) :=
  .removed hkey hmember rfl

end Fallbacks

section Puts
variable {key name name' : String} {isRequired : Bool} {shape : Shape} {rest : Members}

/-- A member that the record does not have changes nothing. -/
theorem put?_of_notMem : (members : Members) → {name : String} → name ∉ members.keys →
    ∀ slots t, members.put? slots name t = some slots
  | .nil, _, _ => fun _ _ => rfl
  | .cons key _ _ rest, name, hname => by
      rintro ⟨slot, slots⟩ t
      rw [Members.keys, List.mem_cons, not_or] at hname
      rw [Members.put?_of_ne hname.1, put?_of_notMem rest hname.2]
      rfl

theorem put?_comm_key (hne : name ≠ key) (slot : Option shape.Value) (slots : rest.Slots)
    (t t' : Node) :
    (((Members.cons key isRequired shape rest).put? (slot, slots) key t).bind fun slots =>
        (Members.cons key isRequired shape rest).put? slots name t') =
      ((Members.cons key isRequired shape rest).put? (slot, slots) name t').bind fun slots =>
        (Members.cons key isRequired shape rest).put? slots key t := by
  rw [Members.put?_key, Members.put?_of_ne hne]
  cases slot with
  | some value =>
      cases rest.put? slots name t' with
      | none => rfl
      | some slots' =>
          exact (@Members.put?_key key isRequired shape rest (some value) slots' t).symm
  | none =>
      cases hvalue : shape.ofNode? t with
      | none =>
          cases rest.put? slots name t' with
          | none => rfl
          | some slots' => exact (Members.put?_key.trans (by rw [hvalue]; rfl)).symm
      | some value =>
          refine (Members.put?_of_ne hne).trans ?_
          cases rest.put? slots name t' with
          | none => rfl
          | some slots' => exact (Members.put?_key.trans (by rw [hvalue]; rfl)).symm

theorem put?_twice (slot : Option shape.Value) (slots : rest.Slots) (t t' : Node) :
    (((Members.cons key isRequired shape rest).put? (slot, slots) key t).bind fun slots =>
      (Members.cons key isRequired shape rest).put? slots key t') = none := by
  rw [Members.put?_key]
  cases slot with
  | some value => rfl
  | none =>
      cases shape.ofNode? t with
      | none => rfl
      | some value => exact Members.put?_key

/-- Which of two members comes first makes no difference. -/
theorem put?_comm : (members : Members) → ∀ (slots : members.Slots) (name name' : String)
    (t t' : Node), ((members.put? slots name t).bind fun slots => members.put? slots name' t') =
      (members.put? slots name' t').bind fun slots => members.put? slots name t
  | .nil => fun _ _ _ _ _ => rfl
  | .cons key _ shape rest => by
      rintro ⟨slot, slots⟩ name name' t t'
      by_cases hname : name = key
      · by_cases hname' : name' = key
        · subst hname hname'
          rw [put?_twice, put?_twice]
        · subst hname
          exact put?_comm_key hname' slot slots t t'
      · by_cases hname' : name' = key
        · subst hname'
          exact (put?_comm_key hname slot slots t' t).symm
        · have hrest := put?_comm rest slots name name' t t'
          rw [Members.put?_of_ne hname, Members.put?_of_ne hname']
          cases h : rest.put? slots name t with
          | none =>
              cases h' : rest.put? slots name' t' with
              | none => rfl
              | some slots' =>
                  rw [h, h'] at hrest
                  have hnone : rest.put? slots' name t = none := hrest.symm
                  exact ((Members.put?_of_ne hname).trans (by rw [hnone]; rfl)).symm
          | some slots' =>
              refine (Members.put?_of_ne hname').trans ?_
              cases h' : rest.put? slots name' t' with
              | none =>
                  rw [h, h'] at hrest
                  exact congrArg _ hrest
              | some slots'' =>
                  rw [h, h'] at hrest
                  exact (congrArg _ hrest).trans (Members.put?_of_ne hname).symm

end Puts

section Completion
variable {name : String} {shape : Shape} {t : Node}

theorem ne_key_of_mem {key name : String} {isRequired : Bool} {shape : Shape} {rest : Members}
    (hkey : key ∉ rest.keys) (h : (name, isRequired, shape) ∈ rest.toList) : name ≠ key := by
  rintro rfl
  exact hkey (Members.mem_keys_of_mem h)

/-- A member that says what stands where none is given might as well be left out. -/
theorem complete_of_fallback : (members : Members) → members.AreDistinct →
    (name, false, shape) ∈ members.toList → shape.ofNode? t = some shape.fallback →
    ∀ {slots slots'}, members.put? slots name t = some slots' →
      members.complete slots' = members.complete slots
  | .nil, _, hmem, _, _, _, _ => nomatch hmem
  | .cons key isRequired shape' rest, ⟨hkey, _, hrest⟩, hmem, hvalue, (slot, slots), _, hput => by
      rcases List.mem_cons.mp hmem with heq | hmem
      · cases heq
        rw [Members.put?_key, hvalue] at hput
        cases slot with
        | some value => cases hput
        | none =>
            cases hput
            rfl
      · rw [Members.put?_of_ne (ne_key_of_mem hkey hmem)] at hput
        obtain ⟨slots', hslots, rfl⟩ := Option.map_eq_some_iff.mp hput
        have hcomplete := complete_of_fallback rest hrest hmem hvalue hslots
        cases slot with
        | some value => simp only [Members.complete, hcomplete]
        | none => simp only [Members.complete, hcomplete]

/-- A required member is missing where it can still be put. -/
theorem complete_of_missing : (members : Members) → members.AreDistinct →
    (name, true, shape) ∈ members.toList →
    ∀ {slots slots'}, members.put? slots name t = some slots' →
      ∃ key, members.complete slots = .error key
  | .nil, _, hmem, _, _, _ => nomatch hmem
  | .cons key isRequired shape' rest, ⟨hkey, _, hrest⟩, hmem, (slot, slots), _, hput => by
      rcases List.mem_cons.mp hmem with heq | hmem
      · cases heq
        rw [Members.put?_key] at hput
        cases slot with
        | some value => cases hput
        | none => exact ⟨name, rfl⟩
      · rw [Members.put?_of_ne (ne_key_of_mem hkey hmem)] at hput
        obtain ⟨slots', hslots, rfl⟩ := Option.map_eq_some_iff.mp hput
        obtain ⟨missing, hmissing⟩ := complete_of_missing rest hrest hmem hslots
        cases slot with
        | some value => exact ⟨missing, by simp only [Members.complete, hmissing, Except.map]⟩
        | none =>
            cases isRequired with
            | true => exact ⟨key, rfl⟩
            | false => exact ⟨missing, by
                simp only [Members.complete, hmissing, Except.map, Bool.false_eq_true, ↓reduceIte]⟩

end Completion

section Fills
variable {members : Members} {slots : members.Slots} {m : List Char × Node}
  {ms ms' front back : List (List Char × Node)}

theorem fill?_append : members.fill? slots (front ++ back) =
    (members.fill? slots front).bind fun slots => members.fill? slots back := by
  rw [Members.fill?, List.foldlM_append]
  rfl

theorem takeMember?_comm (slots : members.Slots) (m m' : List Char × Node) :
    ((takeMember? members.put? slots m).bind fun slots => takeMember? members.put? slots m') =
      (takeMember? members.put? slots m').bind fun slots => takeMember? members.put? slots m := by
  unfold takeMember?
  cases textOf? m.1 with
  | none => cases (textOf? m'.1).bind fun name => members.put? slots name m'.2 <;> rfl
  | some name =>
      cases textOf? m'.1 with
      | none => simp
      | some name' => exact put?_comm members slots name name' m.2 m'.2

/-- The order of the members makes no difference. -/
theorem fill?_perm (h : ms.Perm ms') (slots : members.Slots) :
    members.fill? slots ms = members.fill? slots ms' := by
  induction h generalizing slots with
  | nil => rfl
  | cons m _ ih => simp only [fill?_cons, ih]
  | swap m m' ms =>
      simp only [fill?_cons, ← Option.bind_assoc]
      rw [takeMember?_comm]
  | trans _ _ ih ih' => exact (ih slots).trans (ih' slots)

/-- A member counts as it does behind all others. -/
theorem fill?_middle : members.fill? slots (front ++ m :: back) =
    (members.fill? slots (front ++ back)).bind fun slots => takeMember? members.put? slots m := by
  have hperm : (front ++ m :: back).Perm ((front ++ back) ++ [m]) :=
    List.perm_middle.trans (List.perm_append_singleton m _).symm
  rw [fill?_perm hperm, fill?_append]
  congr 1
  funext slots
  rw [fill?_cons]
  exact Option.bind_fun_some _

theorem takeMember?_of_spells {name : String} {key : List Char} (hkey : Spells name.toList key)
    (slots : members.Slots) (t : Node) :
    takeMember? members.put? slots (key, t) = members.put? slots name t := by
  rw [takeMember?, textOf?_of_spells hkey]
  rfl

end Fills

section Changes
variable {members : Members} {record : String} {ms ms' : List (List Char × Node)}

/-- A change that leaves what the members say leaves the value of the record. -/
theorem Rearranges.ofNode?_eq (h : Rearranges members ms ms') (hdistinct : members.AreDistinct)
    {values : (Shape.record record members).Value}
    (hvalues : (Shape.record record members).ofNode? (.record ms) = some values) :
    (Shape.record record members).ofNode? (.record ms') = some values := by
  rw [Shape.ofNode?_record] at hvalues ⊢
  cases h with
  | permuted h => rwa [← fill?_perm h]
  | @inserted front back key t name hkey hname =>
      rw [fill?_middle]
      simp only [takeMember?_of_spells hkey, put?_of_notMem members hname, Option.bind_fun_some]
      exact hvalues
  | @removed front back key t name shape hkey hmember hvalue =>
      rw [fill?_middle] at hvalues
      simp only [takeMember?_of_spells hkey] at hvalues
      cases hfill : members.fill? members.unknown (front ++ back) with
      | none =>
          rw [hfill] at hvalues
          cases hvalues
      | some slots =>
          rw [hfill, Option.bind_some] at hvalues
          obtain ⟨slots', hput, hcomplete⟩ := Option.bind_eq_some_iff.mp hvalues
          rw [Option.bind_some, ← complete_of_fallback members hdistinct hmember hvalue hput]
          exact hcomplete

/-- Without one of its required members, a record has no value. -/
theorem Strips.ofNode?_eq (h : Strips members ms ms') (hdistinct : members.AreDistinct)
    {values : (Shape.record record members).Value}
    (hvalues : (Shape.record record members).ofNode? (.record ms) = some values) :
    (Shape.record record members).ofNode? (.record ms') = none := by
  rw [Shape.ofNode?_record] at hvalues ⊢
  obtain @⟨front, back, key, t, name, shape, hkey, hmember⟩ := h
  rw [fill?_middle] at hvalues
  simp only [takeMember?_of_spells hkey] at hvalues
  cases hfill : members.fill? members.unknown (front ++ back) with
  | none => rfl
  | some slots =>
      rw [hfill, Option.bind_some] at hvalues
      obtain ⟨slots', hput, -⟩ := Option.bind_eq_some_iff.mp hvalues
      obtain ⟨missing, hmissing⟩ := complete_of_missing members hdistinct hmember hput
      rw [Option.bind_some, hmissing]
      rfl

end Changes

/-- What the whole says is a function of what the part says, and nothing if that says nothing. -/
def Depends {α β : Type} (whole : Node → Option α) (part : Node → Option β)
    (place : Node → Node) : Prop :=
  ∃ g : Option β → Option α, g none = none ∧ ∀ t, whole (place t) = g (part t)

section Places
variable {α β : Type} {whole : Node → Option α} {part : Node → Option β} {place : Node → Node}
  {t t' : Node} {a : α}

theorem Depends.isSome (h : Depends whole part place) (ha : whole (place t) = some a) :
    ∃ b, part t = some b := by
  obtain ⟨g, hnone, hplace⟩ := h
  rw [← Option.isSome_iff_exists, Option.isSome_iff_ne_none]
  intro hpart
  rw [hplace, hpart, hnone] at ha
  cases ha

theorem Depends.congr (h : Depends whole part place) (ht : part t' = part t) :
    whole (place t') = whole (place t) := by
  obtain ⟨g, -, hplace⟩ := h
  rw [hplace, hplace, ht]

theorem Depends.eq_none (h : Depends whole part place) (ht : part t = none) :
    whole (place t) = none := by
  obtain ⟨g, hnone, hplace⟩ := h
  rw [hplace, ht, hnone]

variable {name : String} {isRequired : Bool} {shape : Shape} {key : List Char}

theorem depends_item (shape : Shape) (front back : List Node) :
    Depends (Shape.list shape).ofNode? shape.ofNode? fun t => .list (front ++ t :: back) := by
  refine ⟨fun o => (front.mapM shape.ofNode?).bind fun as => o.bind fun a =>
    (back.mapM shape.ofNode?).map fun bs => as ++ a :: bs, ?_, fun t => ?_⟩
  · simp
  · have hlist : (Shape.list shape).ofNode? (.list (front ++ t :: back)) =
        (front ++ t :: back).mapM shape.ofNode? := rfl
    rw [hlist, List.mapM_append, List.mapM_cons]
    cases front.mapM shape.ofNode? with
    | none => rfl
    | some as =>
        cases shape.ofNode? t with
        | none => rfl
        | some a => cases back.mapM shape.ofNode? <;> rfl

theorem exists_put?_eq : (members : Members) → members.AreDistinct →
    (name, isRequired, shape) ∈ members.toList →
    ∃ g : members.Slots → Option shape.Value → Option members.Slots,
      (∀ slots, g slots none = none) ∧
        ∀ slots t, members.put? slots name t = g slots (shape.ofNode? t)
  | .nil, _, hmem => nomatch hmem
  | .cons key _ shape' rest, ⟨hkey, _, hrest⟩, hmem => by
      rcases List.mem_cons.mp hmem with heq | hmem
      · cases heq
        refine ⟨fun slots o => if slots.1.isSome then none else
          o.map fun value => (some value, slots.2), ?_, ?_⟩
        · rintro ⟨slot, slots⟩
          cases slot <;> rfl
        · rintro ⟨slot, slots⟩ t
          exact Members.put?_key
      · obtain ⟨g, hnone, hput⟩ := exists_put?_eq rest hrest hmem
        refine ⟨fun slots o => (g slots.2 o).map fun slots' => (slots.1, slots'), ?_, ?_⟩
        · rintro ⟨slot, slots⟩
          simp only [hnone]
          rfl
        · rintro ⟨slot, slots⟩ t
          rw [Members.put?_of_ne (ne_key_of_mem hkey hmem), hput]
          rfl

theorem depends_member (record : String) {members : Members} (hdistinct : members.AreDistinct)
    (hkey : Spells name.toList key) (hmember : (name, isRequired, shape) ∈ members.toList)
    (front back : List (List Char × Node)) :
    Depends (Shape.record record members).ofNode? shape.ofNode?
      fun t => .record (front ++ (key, t) :: back) := by
  obtain ⟨g, hnone, hput⟩ := exists_put?_eq members hdistinct hmember
  refine ⟨fun o => ((members.fill? members.unknown (front ++ back)).bind fun slots =>
    g slots o).bind fun slots => (members.complete slots).toOption, ?_, fun t => ?_⟩
  · simp only [hnone, Option.bind_fun_none]
    rfl
  · rw [Shape.ofNode?_record, fill?_middle]
    simp only [takeMember?_of_spells hkey, hput]
    rfl

theorem exists_inOrder?_eq : (members : Members) → (front back : List Node) →
    members.toList[front.length]? = some (name, isRequired, shape) →
    ∃ g : Option shape.Value → Option members.Values,
      g none = none ∧ ∀ t, members.inOrder? (front ++ t :: back) = g (shape.ofNode? t)
  | .nil, _, _, hplace => by simp [Members.toList] at hplace
  | .cons _ _ _ rest, [], back, hplace => by
      cases hplace
      exact ⟨fun o => o.bind fun value => (rest.inOrder? back).map fun values => (value, values),
        rfl, fun t => rfl⟩
  | .cons _ _ shape' rest, s :: front, back, hplace => by
      obtain ⟨g, hnone, hrest⟩ := exists_inOrder?_eq rest front back hplace
      refine ⟨fun o => (shape'.ofNode? s).bind fun value => (g o).map fun values =>
        (value, values), ?_, fun t => ?_⟩
      · simp only [hnone]
        cases shape'.ofNode? s <;> rfl
      · show ((shape'.ofNode? s).bind fun value =>
          (rest.inOrder? (front ++ t :: back)).map fun values => (value, values)) = _
        rw [hrest]
        rfl

theorem depends_place (record : String) {members : Members} {front : List Node}
    (hplace : members.toList[front.length]? = some (name, isRequired, shape)) (back : List Node) :
    Depends (Shape.record record members).ofNode? shape.ofNode?
      fun t => .list (front ++ t :: back) :=
  exists_inOrder?_eq members front back hplace

theorem isDistinct_of_mem : (members : Members) → members.AreDistinct →
    (name, isRequired, shape) ∈ members.toList → shape.IsDistinct
  | .nil, _, hmem => nomatch hmem
  | .cons _ _ _ rest, ⟨_, hshape, hrest⟩, hmem => by
      rcases List.mem_cons.mp hmem with heq | hmem
      · cases heq
        exact hshape
      · exact isDistinct_of_mem rest hrest hmem

/-- A change that leaves what the members of a record say leaves the value, wherever the record
stands. -/
theorem Within.ofNode?_eq_some (h : Within Rearranges shape t t') (hdistinct : shape.IsDistinct)
    {value : shape.Value} (hvalue : shape.ofNode? t = some value) :
    shape.ofNode? t' = some value := by
  induction h with
  | here h => exact h.ofNode?_eq hdistinct hvalue
  | @member record _ front back _ _ _ _ _ _ hkey hmember _ ih =>
      have hdepends := depends_member record hdistinct hkey hmember front back
      obtain ⟨b, hb⟩ := hdepends.isSome hvalue
      have hpart := ih (isDistinct_of_mem _ hdistinct hmember) hb
      rw [hdepends.congr (hpart.trans hb.symm), hvalue]
  | @item shape front back _ _ _ ih =>
      have hdepends := depends_item shape front back
      obtain ⟨b, hb⟩ := hdepends.isSome hvalue
      rw [hdepends.congr ((ih hdistinct hb).trans hb.symm), hvalue]
  | @place record _ _ back _ _ _ _ _ hplace _ ih =>
      have hdepends := depends_place record hplace back
      obtain ⟨b, hb⟩ := hdepends.isSome hvalue
      have hpart := ih (isDistinct_of_mem _ hdistinct (List.mem_of_getElem? hplace)) hb
      rw [hdepends.congr (hpart.trans hb.symm), hvalue]

/-- Where a required member is taken from a record, nothing has a value that the record stands in. -/
theorem Within.ofNode?_eq_none (h : Within Strips shape t t') (hdistinct : shape.IsDistinct)
    {value : shape.Value} (hvalue : shape.ofNode? t = some value) : shape.ofNode? t' = none := by
  induction h with
  | here h => exact h.ofNode?_eq hdistinct hvalue
  | @member record _ front back _ _ _ _ _ _ hkey hmember _ ih =>
      have hdepends := depends_member record hdistinct hkey hmember front back
      obtain ⟨b, hb⟩ := hdepends.isSome hvalue
      exact hdepends.eq_none (ih (isDistinct_of_mem _ hdistinct hmember) hb)
  | @item shape front back _ _ _ ih =>
      have hdepends := depends_item shape front back
      obtain ⟨b, hb⟩ := hdepends.isSome hvalue
      exact hdepends.eq_none (ih hdistinct hb)
  | @place record _ _ back _ _ _ _ _ hplace _ ih =>
      have hdepends := depends_place record hplace back
      obtain ⟨b, hb⟩ := hdepends.isSome hvalue
      exact hdepends.eq_none (ih (isDistinct_of_mem _ hdistinct (List.mem_of_getElem? hplace)) hb)

/-- A tree becomes another by any number of changes that leave what the members of records say. -/
def Rearranged (shape : Shape) : Node → Node → Prop := Relation.ReflTransGen (Within Rearranges shape)

theorem Rearranged.ofNode?_eq_some (h : Rearranged shape t t') (hdistinct : shape.IsDistinct)
    {value : shape.Value} (hvalue : shape.ofNode? t = some value) :
    shape.ofNode? t' = some value := by
  induction h with
  | refl => exact hvalue
  | tail _ h ih => exact h.ofNode?_eq_some hdistinct ih

end Places

end Lexicon.Json
