import Lexicon.Proofs.AcceptedTokens
import Lexicon.Proofs.Interpretation

/-!
# Accepted texts

What is passed over is a tree, and so is what is read as a value: a text that is decoded is the text
of a tree, with blanks around it. What the brackets that are open still demand of a text is carried
along.
-/

namespace Lexicon.Json

section Blanks
variable {pre s l : List Char} {isFirst : Bool}

theorem exists_blanks (s : List Char) : ∃ pre, Blanks pre ∧ s = pre ++ skipSpace s :=
  ⟨s.takeWhile isSpace, fun _ hc => List.mem_takeWhile_imp hc,
    List.takeWhile_append_dropWhile.symm⟩

theorem Blanks.append (hpre : Blanks pre) (hs : Blanks s) : Blanks (pre ++ s) :=
  List.forall_mem_append.mpr ⟨hpre, hs⟩

/-- Blanks belong to what leads to a part. -/
theorem Lead.append_blanks (hl : Lead isFirst l) (hs : Blanks s) : Lead isFirst (l ++ s) := by
  cases hl with
  | first h => exact .first (h.append hs)
  | later h h' =>
      rw [List.append_assoc]
      exact .later h (h'.append hs)

end Blanks

/-- In front of what follows stands a tree, behind blanks. -/
def Begins (s rest : List Char) : Prop :=
  ∃ pre t w, Blanks pre ∧ Spelled t w ∧ s = pre ++ w ++ rest

/-- In front of what follows stands a part of a list or of a record, behind blanks. -/
inductive Part : Bracket → List Char → List Char → Prop
  | item {pre t w rest} (hpre : Blanks pre) (hw : Spelled t w) : Part .list (pre ++ w ++ rest) rest
  | member {pre m w rest} (hpre : Blanks pre) (hw : Keyed Spelled m w) :
      Part .record (pre ++ w ++ rest) rest

/-- The text goes on with the parts of the open brackets, up to the end of the last of them. -/
inductive Completes : List Bracket → (isFirst : Bool) → List Char → List Char → Prop
  | done {isFirst rest} : Completes [] isFirst rest rest
  | list {outer isFirst items w s rest} (hs : Separated Spelled isFirst items w)
      (h : Completes outer false s rest) : Completes (.list :: outer) isFirst (w ++ ']' :: s) rest
  | record {outer isFirst members w s rest} (hs : Separated (Keyed Spelled) isFirst members w)
      (h : Completes outer false s rest) :
      Completes (.record :: outer) isFirst (w ++ '\x7d' :: s) rest

section Passing
variable {stack outer : List Bracket} {bracket : Bracket} {isFirst : Bool} {l s s' rest : List Char}
  {bound : ℕ}

theorem completes_closing (hs : Blanks s) (isFirst : Bool) (h : Completes outer false s' rest) :
    Completes (bracket :: outer) isFirst (s ++ bracket.closing :: s') rest := by
  cases bracket with
  | list => exact .list (.nil hs) h
  | record => exact .record (.nil hs) h

/-- One part more goes in front of the others. -/
theorem Completes.cons (hl : Lead isFirst l) (hpart : Part bracket s s')
    (h : Completes (bracket :: outer) false s' rest) :
    Completes (bracket :: outer) isFirst (l ++ s) rest := by
  cases hpart with
  | @item pre t w _ hpre hw =>
      obtain - | @⟨_, _, items, v, u, _, hs, h⟩ := h
      have htext : l ++ (pre ++ w ++ (v ++ ']' :: u)) = (l ++ pre) ++ w ++ v ++ ']' :: u := by simp
      rw [htext]
      exact .list (.cons (hl.append_blanks hpre) hw hs) h
  | @member pre m w _ hpre hw =>
      obtain - | - | @⟨_, _, members, v, u, _, hs, h⟩ := h
      have htext : l ++ (pre ++ w ++ (v ++ '\x7d' :: u)) = (l ++ pre) ++ w ++ v ++ '\x7d' :: u := by
        simp
      rw [htext]
      exact .record (.cons (hl.append_blanks hpre) hw hs) h

theorem skipKey_eq_ok {r} (h : skipKey s = .ok r) :
    ∃ pre key t, Blanks pre ∧ Letters key ∧ Blanks t ∧
      s = pre ++ '"' :: key ++ '"' :: t ++ ':' :: r.val := by
  obtain ⟨pre, hpre, hs⟩ := exists_blanks s
  unfold skipKey at h
  split at h
  · cases h
  · rename_i c rest hskip
    split_ifs at h with hquote
    split at h
    · cases h
    · rename_i u hle hkey
      obtain ⟨key, hletters, htext⟩ := skipCharacters_eq_ok hkey
      obtain ⟨t, ht, hu⟩ := exists_blanks u
      split at h
      · cases h
      · rename_i d v hskip'
        split_ifs at h with hcolon
        obtain rfl := Except.ok.inj h
        refine ⟨pre, key, t, hpre, hletters, ht, ?_⟩
        simp only at htext
        rw [hskip'] at hu
        rw [hskip, hquote, htext, hu, hcolon] at hs
        simpa using hs

mutual

/-- What is passed over as a value is a tree, and what follows completes the open brackets. -/
theorem skipWithin_eq_ok {stack : List Bracket} {bound : ℕ} {s : List Char} {h : s.length ≤ bound} {r : { r : List Char // r.length < bound }}
    (hskip : skipWithin stack s h = .ok r) : ∃ u, Begins s u ∧ Completes stack false u r.val := by
  obtain ⟨pre, hpre, hs⟩ := exists_blanks s
  rw [skipWithin.eq_def] at hskip
  split at hskip
  · cases hskip
  · rename_i c rest hcons
    have := skipSpace_cons_lt hcons
    rw [hcons] at hs
    simp only at hskip
    split_ifs at hskip with hlist hrecord
    · obtain - | @⟨_, _, items, w, u, _, hitems, hrest⟩ := skipAfter_eq_ok hskip
      refine ⟨u, ⟨pre, _, _, hpre, .list hitems, ?_⟩, hrest⟩
      rw [hs, hlist]
      simp
    · obtain - | - | @⟨_, _, members, w, u, _, hmembers, hrest⟩ := skipAfter_eq_ok hskip
      refine ⟨u, ⟨pre, _, _, hpre, .record hmembers, ?_⟩, hrest⟩
      rw [hs, hrecord]
      simp
    · split at hskip
      · cases hskip
      · rename_i u hle hscalar
        obtain ⟨w, hw, htext⟩ := skipScalar_eq_ok hscalar
        refine ⟨u, ⟨pre, _, _, hpre, .token hw, ?_⟩, skipAfter_eq_ok hskip⟩
        rw [hs, htext]
        simp
termination_by 3 * s.length

theorem skipAfter_eq_ok {stack : List Bracket} {behindValue : Bool} {bound : ℕ} {s : List Char}
    {h : s.length < bound}
    {r : { r : List Char // r.length < bound }} (hskip : skipAfter stack behindValue s h = .ok r) :
    Completes stack (!behindValue) s r.val := by
  rw [skipAfter.eq_def] at hskip
  split at hskip
  · cases hskip
    exact .done
  · rename_i bracket outer
    obtain ⟨pre, hpre, hs⟩ := exists_blanks s
    split at hskip
    · cases hskip
    · rename_i c rest hcons
      have := skipSpace_cons_lt hcons
      rw [hcons] at hs
      simp only at hskip
      split_ifs at hskip with hcomma hclosing hbehind
      · obtain ⟨u, hpart, hrest⟩ := skipMember_eq_ok hskip
        obtain ⟨hc, rfl⟩ := Bool.and_eq_true_iff.mp hcomma
        have hlead := hrest.cons (.later hpre blanks_nil) hpart
        rw [hs, of_decide_eq_true hc]
        simpa using hlead
      · have hrest := skipAfter_eq_ok hskip
        rw [hs, hclosing]
        exact completes_closing hpre _ hrest
      · obtain ⟨u, hpart, hrest⟩ := skipMember_eq_ok hskip
        obtain rfl : behindValue = false := Bool.eq_false_iff.mpr hbehind
        rw [hs]
        exact hrest.cons (.first hpre) hpart
termination_by 3 * s.length + 2

theorem skipMember_eq_ok {bracket : Bracket} {outer : List Bracket} {bound : ℕ} {s : List Char}
    {h : s.length ≤ bound} {r : { r : List Char // r.length < bound }}
    (hskip : skipMember bracket outer s h = .ok r) :
    ∃ u, Part bracket s u ∧ Completes (bracket :: outer) false u r.val := by
  rw [skipMember.eq_def] at hskip
  split at hskip
  · obtain ⟨u, ⟨pre, t, w, hpre, hw, rfl⟩, hrest⟩ := skipWithin_eq_ok hskip
    exact ⟨u, .item hpre hw, hrest⟩
  · split at hskip
    · cases hskip
    · rename_i v hle hkey
      obtain ⟨pre, key, t, hpre, hletters, ht, hs⟩ := skipKey_eq_ok hkey
      obtain ⟨u, ⟨pre', value, w, hpre', hw, hv⟩, hrest⟩ := skipWithin_eq_ok hskip
      simp only at hs
      have hkeyed : Keyed Spelled (key, value) _ := .mk hletters ht hpre' hw
      have hpart := @Part.member pre _ _ u hpre hkeyed
      refine ⟨u, ?_, hrest⟩
      rw [hs, hv]
      simpa using hpart
termination_by 3 * s.length + 1

end

end Passing

section Reading
variable {α : Type} {isFirst : Bool} {s rest : List Char} {bound : ℕ}

/-- Whatever the reader reads is a tree. -/
def ReadsTrees (read : Reader α) : Prop :=
  ∀ ⦃s : List Char⦄ ⦃r⦄, read s = .ok r → Begins s r.rest

theorem readsTrees_onFirst
    {read : (c : Char) → (s : List Char) → Except Failure (Read α (s.length + 1))}
    (h : ∀ c s r, read c s = .ok r → ∃ t w, Spelled t w ∧ c :: s = w ++ r.rest) :
    ReadsTrees (onFirst read) := by
  intro s r hread
  obtain ⟨pre, hpre, hs⟩ := exists_blanks s
  unfold onFirst at hread
  split at hread
  · cases hread
  · rename_i c rest hskip
    split at hread
    · rename_i r' hread'
      cases hread
      obtain ⟨t, w, hw, htext⟩ := h c rest r' hread'
      refine ⟨pre, t, w, hpre, hw, ?_⟩
      have hrest : skipSpace s = w ++ r'.rest := hskip.trans htext
      rw [hrest, ← List.append_assoc] at hs
      exact hs
    · cases hread

theorem skipValue_eq_ok {r} (h : skipValue s = .ok r) : Begins s r.val := by
  obtain ⟨u, hu, hrest⟩ := skipWithin_eq_ok h
  cases hrest
  exact hu

theorem readsTrees_text (wanted : String) : ReadsTrees (readText wanted) := by
  refine readsTrees_onFirst fun c s r h => ?_
  split_ifs at h with hc
  obtain ⟨w, hw, hs⟩ := readTextBody_eq_ok h
  refine ⟨_, _, .token (.text hw), ?_⟩
  rw [hc, List.append_assoc]
  exact congrArg ('"' :: ·) hs

theorem readsTrees_id : ReadsTrees readId := by
  refine readsTrees_onFirst fun c s r h => ?_
  split at h
  · rename_i hnumber
    split at h
    · cases h
      obtain ⟨l, hs⟩ := readNumberAt_eq_ok hnumber
      exact ⟨_, _, .token (.number l), hs⟩
    · cases h
  · cases h
  · split_ifs at h

/-- Behind blanks comes what closes the whole, or a part comes behind what leads to it. -/
def Comes {n : ℕ} (closing : Char) (front : List Char) (isFirst : Bool) : NextPart s n → Prop
  | .done rest _ => ∃ pre, Blanks pre ∧ rest = closing :: rest.tail ∧ s = pre ++ rest
  | .more rest _ => ∃ l, Lead isFirst l ∧ s = l ++ (front ++ rest)

theorem nextItem_eq_ok {p} (h : nextItem isFirst s = .ok p) : Comes ']' [] isFirst p := by
  obtain ⟨pre, hpre, hs⟩ := exists_blanks s
  unfold nextItem at h
  split at h
  · cases h
  · rename_i c rest hskip
    rw [hskip] at hs
    split_ifs at h with hclosing hfirst hcomma
    · cases h
      exact ⟨pre, hpre, by rw [hclosing]; rfl, hs⟩
    · cases h
      obtain rfl : isFirst = true := hfirst
      exact ⟨pre, .first hpre, hs⟩
    · split at h
      · cases h
      · rename_i d rest' hskip'
        obtain ⟨pre', hpre', hrest⟩ := exists_blanks rest
        rw [hskip'] at hrest
        split_ifs at h
        cases h
        obtain rfl := Bool.eq_false_iff.mpr hfirst
        exact ⟨_, .later hpre hpre', by rw [hs, hcomma, hrest]; simp⟩

theorem nextKey_eq_ok {p} (h : nextKey isFirst s = .ok p) : Comes '\x7d' ['"'] isFirst p := by
  obtain ⟨pre, hpre, hs⟩ := exists_blanks s
  unfold nextKey at h
  split at h
  · cases h
  · rename_i c rest hskip
    rw [hskip] at hs
    split_ifs at h with hclosing hfirst hquote hcomma
    · cases h
      exact ⟨pre, hpre, by rw [hclosing]; rfl, hs⟩
    · cases h
      obtain rfl : isFirst = true := hfirst
      exact ⟨pre, .first hpre, by rw [hs, hquote]; rfl⟩
    · split at h
      · cases h
      · rename_i d rest' hskip'
        obtain ⟨pre', hpre', hrest⟩ := exists_blanks rest
        rw [hskip'] at hrest
        split_ifs at h with hquote
        cases h
        obtain rfl := Bool.eq_false_iff.mpr hfirst
        exact ⟨_, .later hpre hpre', by rw [hs, hcomma, hrest, hquote]; simp⟩

theorem readColon_eq_ok {r} (h : readColon s = .ok r) :
    ∃ pre, Blanks pre ∧ s = pre ++ ':' :: r.val := by
  obtain ⟨pre, hpre, hs⟩ := exists_blanks s
  unfold readColon at h
  split at h
  · cases h
  · rename_i c rest hskip
    split_ifs at h with hcolon
    obtain rfl := Except.ok.inj h
    rw [hskip, hcolon] at hs
    exact ⟨pre, hpre, hs⟩

theorem closeList_eq_ok {r} (h : closeList s = .ok r) :
    ∃ pre, Blanks pre ∧ s = pre ++ ']' :: r.val := by
  obtain ⟨pre, hpre, hs⟩ := exists_blanks s
  unfold closeList at h
  split at h
  · cases h
  · rename_i c rest hskip
    split_ifs at h with hclosing hcomma
    · obtain rfl := Except.ok.inj h
      rw [hskip, hclosing] at hs
      exact ⟨pre, hpre, hs⟩
    · split at h <;> cases h

/-- A tree behind what leads to it is an item in front of the others. -/
theorem exists_item_cons {u s' tail : List Char} {h₁} (hnext : nextItem isFirst s = .ok (.more u h₁))
    (hitem : Begins u s')
    (hrest : ∃ items w, Separated Spelled false items w ∧ s' = w ++ tail) :
    ∃ items w, Separated Spelled isFirst items w ∧ s = w ++ tail := by
  obtain ⟨l, hl, hs⟩ := nextItem_eq_ok hnext
  obtain ⟨pre, t, w, hpre, hw, hu⟩ := hitem
  obtain ⟨items, v, hitems, hs'⟩ := hrest
  refine ⟨t :: items, _, .cons (hl.append_blanks hpre) hw hitems, ?_⟩
  rw [hs, hu, hs']
  simp

/-- What is read as the items of a list are trees. -/
theorem readItems_eq_ok {item : Reader α} (hitem : ReadsTrees item) {done : List α}
    {h : s.length < bound} {r : Read (List α) bound}
    (hread : readItems item done isFirst s h = .ok r) :
    ∃ items w, Separated Spelled isFirst items w ∧ s = w ++ ']' :: r.rest := by
  fun_induction readItems item done isFirst s h with
  | case1 => cases hread
  | case2 done isFirst s h rest h₁ hnext =>
      cases hread
      obtain ⟨pre, hpre, hrest, hs⟩ := nextItem_eq_ok hnext
      exact ⟨[], pre, .nil hpre, hs.trans (congrArg (pre ++ ·) hrest)⟩
  | case3 => cases hread
  | case4 done isFirst s h rest h₁ hnext r' hr' _ ih =>
      exact exists_item_cons hnext (hitem hr') (ih hread)

theorem readsTrees_list {item : Reader α} (hitem : ReadsTrees item) :
    ReadsTrees (readList item) := by
  refine readsTrees_onFirst fun c s r h => ?_
  split_ifs at h with hc
  obtain ⟨items, w, hitems, hs⟩ := readItems_eq_ok hitem h
  refine ⟨_, _, .list hitems, ?_⟩
  rw [hc, List.append_assoc]
  exact congrArg ('[' :: ·) hs

/-- A key that is read, a colon and a tree are a member in front of the others. -/
theorem exists_keyed_cons {t s' tail : List Char} {key : Read String (t.length + 1)} {h₁} {u}
    (hnext : nextKey isFirst s = .ok (.more t h₁)) (hkey : readTextBody t = .ok key)
    (hcolon : readColon key.rest = .ok u) (hvalue : Begins u.val s')
    (hrest : ∃ members w, Separated (Keyed Spelled) false members w ∧ s' = w ++ tail) :
    ∃ members w, Separated (Keyed Spelled) isFirst members w ∧ s = w ++ tail := by
  obtain ⟨l, hl, hs⟩ := nextKey_eq_ok hnext
  obtain ⟨name, hname, ht⟩ := readTextBody_eq_ok hkey
  obtain ⟨pre, hpre, hcolon⟩ := readColon_eq_ok hcolon
  obtain ⟨pre', value, w, hpre', hw, hu⟩ := hvalue
  obtain ⟨members, v, hmembers, hs'⟩ := hrest
  have hkeyed : Keyed Spelled (name, value) _ := .mk hname hpre hpre' hw
  refine ⟨_, _, .cons hl hkeyed hmembers, ?_⟩
  rw [hs, ht, hcolon, hu, hs']
  simp

/-- What is read as the members of a record are trees under keys. -/
theorem readMembers_eq_ok {σ : Type} {dispatch : Dispatch σ}
    (hd : ∀ ⦃name slots reader⦄, dispatch name slots = some (.ok reader) → ReadsTrees reader)
    {slots : σ} {h : s.length < bound} {r : Read σ bound}
    (hread : readMembers dispatch slots isFirst s h = .ok r) :
    ∃ members w, Separated (Keyed Spelled) isFirst members w ∧ s = w ++ '\x7d' :: r.rest.tail := by
  fun_induction readMembers dispatch slots isFirst s h with
  | case2 slots isFirst s h rest h₁ hnext =>
      cases hread
      obtain ⟨pre, hpre, hrest, hs⟩ := nextKey_eq_ok hnext
      exact ⟨[], pre, .nil hpre, hs.trans (congrArg (pre ++ ·) hrest)⟩
  | case7 slots isFirst s h t h₁ hnext key hkey _ hd u h₂ hcolon s' h₃ hskip ih =>
      exact exists_keyed_cons hnext hkey hcolon (skipValue_eq_ok hskip) (ih hread)
  | case10 slots isFirst s h t h₁ hnext key hkey _ reader hreader u h₂ hcolon r' hr' _ ih =>
      exact exists_keyed_cons hnext hkey hcolon (hd hreader hr') (ih hread)
  | _ => cases hread

/-- What is read one after the other as the members of a record is part of a list of trees. -/
theorem readsTrees_record (name : String) {members : Members}
    (hd : ∀ ⦃name slots reader⦄, members.dispatch name slots = some (.ok reader) → ReadsTrees reader)
    (ho : ∀ ⦃length index isFirst bound s h⦄ ⦃r : Read members.Values bound⦄ ⦃q⦄,
      members.readInOrder length index isFirst s h = .ok r → closeList r.rest = .ok q →
      ∃ items w, Separated Spelled isFirst items w ∧ s = w ++ ']' :: q.val) :
    ReadsTrees (Shape.record name members).read := by
  refine readsTrees_onFirst fun c s r h => ?_
  split_ifs at h with hrecord hlist
  · split at h
    · cases h
    · rename_i r' hr'
      split at h
      · cases h
        obtain ⟨ms, w, hms, hs⟩ := readMembers_eq_ok hd hr'
        refine ⟨_, _, .record hms, ?_⟩
        rw [hrecord, List.append_assoc]
        exact congrArg ('\x7b' :: ·) hs
      · cases h
  · simp only at h
    split at h
    · cases h
    · rename_i r' hr'
      split at h
      · cases h
      · rename_i hclose
        cases h
        obtain ⟨items, w, hitems, hs⟩ := ho hr' hclose
        refine ⟨_, _, .list hitems, ?_⟩
        rw [hlist, List.append_assoc]
        exact congrArg ('[' :: ·) hs

end Reading

section Shapes

theorem Separated.blanks_append {α : Type} {writes : α → List Char → Prop} {isFirst : Bool}
    {as : List α} {pre s : List Char} (hpre : Blanks pre) (h : Separated writes isFirst as s) :
    Separated writes isFirst as (pre ++ s) := by
  cases h with
  | nil hs => exact .nil (hpre.append hs)
  | cons hl hw hs =>
      rw [← List.append_assoc, ← List.append_assoc]
      refine .cons ?_ hw hs
      cases hl with
      | first hl => exact .first (hpre.append hl)
      | later hl hl' =>
          rw [← List.append_assoc]
          exact .later (hpre.append hl) hl'

mutual

/-- Whatever is read as a value of a shape is a tree. -/
theorem Shape.readsTrees : (shape : Shape) → shape.IsPlain → ReadsTrees shape.read
  | .text, _ => readsTrees_text _
  | .id, _ => readsTrees_id
  | .list item, hitem => readsTrees_list (item.readsTrees hitem)
  | .record name members, hmembers =>
      readsTrees_record name (members.dispatch_readsTrees hmembers) (members.readInOrder_eq_ok hmembers)

theorem Members.dispatch_readsTrees : (members : Members) → members.ArePlain →
    ∀ ⦃name slots reader⦄, members.dispatch name slots = some (.ok reader) → ReadsTrees reader
  | .nil, _ => fun _ _ _ h => nomatch h
  | .cons key _ shape rest, ⟨hshape, hrest⟩ => by
      rintro name ⟨slot, slots⟩ reader h
      rw [Members.dispatch] at h
      simp only at h
      split_ifs at h with hname hslot
      · cases h
      · cases h
        intro s r hread
        simp only at hread
        split at hread
        · rename_i hvalue
          cases hread
          exact shape.readsTrees hshape hvalue
        · cases hread
      · split at h
        · cases h
        · cases h
        · rename_i hreader
          cases h
          intro s r hread
          simp only at hread
          split at hread
          · rename_i hvalue
            cases hread
            exact rest.dispatch_readsTrees hrest hreader hvalue
          · cases hread

theorem Members.readInOrder_eq_ok : (members : Members) → members.ArePlain →
    ∀ ⦃length index isFirst bound s h⦄ ⦃r : Read members.Values bound⦄ ⦃q⦄,
      members.readInOrder length index isFirst s h = .ok r → closeList r.rest = .ok q →
      ∃ items w, Separated Spelled isFirst items w ∧ s = w ++ ']' :: q.val
  | .nil, _ => by
      intro length index isFirst bound s h r q hread hclose
      cases hread
      obtain ⟨pre, hpre, hs⟩ := closeList_eq_ok hclose
      exact ⟨[], pre, .nil hpre, hs⟩
  | .cons _ _ shape rest, ⟨hshape, hrest⟩ => by
      intro length index isFirst bound s h r q hread hclose
      rw [Members.readInOrder] at hread
      simp only at hread
      split at hread
      · cases hread
      · rename_i u h₁ hnext
        split_ifs at hread
        split at hread
        · rename_i hvalues
          cases hread
          obtain ⟨pre, hpre, -, hs⟩ := nextItem_eq_ok hnext
          obtain ⟨items, w, hitems, hu⟩ := rest.readInOrder_eq_ok hrest hvalues hclose
          exact ⟨items, pre ++ w, hitems.blanks_append hpre, by rw [hs, hu, List.append_assoc]⟩
        · cases hread
      · rename_i u h₁ hnext
        split at hread
        · cases hread
        · rename_i value hvalue
          split at hread
          · rename_i hvalues
            cases hread
            have hitems := rest.readInOrder_eq_ok hrest hvalues hclose
            exact exists_item_cons hnext (shape.readsTrees hshape hvalue) hitems
          · cases hread

end

/-- The text is the tree, with blanks around it. -/
def Written (t : Node) (text : String) : Prop :=
  ∃ pre w post, Blanks pre ∧ Spelled t w ∧ Blanks post ∧ text = String.ofList (pre ++ w ++ post)

/-- A text that is decoded is the text of a tree. -/
theorem Shape.exists_written {shape : Shape} (hshape : shape.IsPlain) {text : String}
    {value : shape.Value} (h : shape.decode text = .ok value) : ∃ t, Written t text := by
  unfold Shape.decode at h
  simp only at h
  split at h
  · cases h
  · rename_i r hread
    split at h
    · rename_i hblank
      obtain ⟨pre, t, w, hpre, hw, hs⟩ := shape.readsTrees hshape hread
      obtain ⟨post, hpost, hrest⟩ := exists_blanks r.rest
      rw [hblank, List.append_nil] at hrest
      refine ⟨t, pre, w, post, hpre, hw, hpost, ?_⟩
      rw [← hrest, ← hs, String.ofList_toList]
    · cases h

end Shapes

end Lexicon.Json
