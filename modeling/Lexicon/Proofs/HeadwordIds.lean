import Lexicon.Entry.Layout
import Lexicon.Proofs.Decoding
import Lexicon.Proofs.NumberLiterals

/-!
# Numbers of headwords

The number of a headword stands in its record as a literal, and the target of a link is such a
record as well. The record is accepted just when the number that the literal is taken for is an
integer of 64 bits with a sign, and that integer is the number of the headword.
-/

namespace Lexicon.Json

/-- The reader takes the value from the text, or fails at the text if there is none. -/
def Yields {α : Type} (read : Reader α) (w : List Char) : Option α → Prop
  | some a => Takes read a w
  | none => ∀ ⦃pre rest⦄, Blanks pre → Ends rest → ∃ f, read (pre ++ w ++ rest) = .error f

section Readers
variable {α β : Type} {pre rest w : List Char} {c : Char}

theorem Yields.map {read : Reader α} {o : Option α} (h : Yields read w o) (f : α → β) :
    Yields (mapReader f read) w (o.map f) := by
  cases o with
  | some a => exact Takes.map h f
  | none =>
      intro pre rest hpre hrest
      obtain ⟨e, heq⟩ := h hpre hrest
      exact ⟨e, by rw [mapReader, heq]⟩

/-- A reader that goes by the first character fails as it does behind blanks. -/
theorem onFirst_eq_error {f : Failure}
    {read : (c : Char) → (s : List Char) → Except Failure (Read α (s.length + 1))}
    (hpre : Blanks pre) (hc : isSpace c = false) (h : read c w = .error f) :
    onFirst read (pre ++ c :: w) = .error f := by
  unfold onFirst
  split
  · rename_i hskip
    rw [skipSpace_behind hpre hc] at hskip
    cases hskip
  · rename_i d s' hskip
    rw [skipSpace_behind hpre hc] at hskip
    cases hskip
    rw [h]

end Readers

section Ids
variable {l : NumberLiteral}

theorem NumberLiteral.exists_spelling (l : NumberLiteral) :
    ∃ c w, l.spelling = c :: w ∧ isSpace c = false ∧ (c = '-' ∨ Unicode.isAsciiDigit c = true) := by
  obtain ⟨d, ds, hw⟩ := List.exists_cons_of_ne_nil l.whole.ne_nil
  have hd : Unicode.isAsciiDigit d = true := (NumberLiteral.whole_digits hw).1 d List.mem_cons_self
  have hunsigned := NumberLiteral.unsigned_append hw []
  rw [List.append_nil] at hunsigned
  cases hsign : l.negative with
  | true => exact ⟨'-', l.unsigned, by rw [spelling, hsign]; rfl, rfl, .inl rfl⟩
  | false =>
      exact ⟨d, _, by rw [spelling, hsign, hunsigned]; rfl, isSpace_of_isAsciiDigit hd, .inr hd⟩

/-- A literal is read as the integer that its value is taken for. -/
theorem yields_readId (hl : l.IsWhole ∨ l.IsShort) {o : Option Int64}
    (ho : ∀ i, o = some i ↔ taken l.value = i.toInt) : Yields readId l.spelling o := by
  obtain ⟨c, w, hw, hc, -⟩ := l.exists_spelling
  have hnumber : ∀ rest, Ends rest → ∃ result,
      readNumberAt c (w ++ rest) = some result ∧ GivesRead (taken l.value) rest result :=
    fun rest hrest => l.exists_readNumberAt hl (by rw [hw, List.cons_append]) hrest
  rw [hw]
  cases o with
  | some i =>
      intro pre rest hpre hrest
      obtain ⟨result, hresult, hgives⟩ := hnumber rest hrest
      have hi := (ho i).mp rfl
      rw [List.append_assoc, List.cons_append]
      cases result with
      | error f => exact absurd hi (hgives i)
      | ok r =>
          obtain ⟨hshort, hid⟩ := hgives
          have hn := Number.toInt64?_eq_some_iff.mpr ((hid i).mpr hi)
          obtain ⟨n, r, h⟩ := r
          obtain rfl : r = rest := hshort
          apply reads_onFirst hpre hc
          exact ⟨h, by simp only [hresult, hn]⟩
  | none =>
      intro pre rest hpre hrest
      obtain ⟨result, hresult, hgives⟩ := hnumber rest hrest
      rw [List.append_assoc, List.cons_append]
      cases result with
      | error f => exact ⟨f, onFirst_eq_error hpre hc (by simp only [hresult])⟩
      | ok r =>
          have hn : r.value.toInt64? = none := by
            rw [Option.eq_none_iff_forall_ne_some]
            intro i hi
            have hvalue := (hgives.2 i).mp (Number.toInt64?_eq_some_iff.mp hi)
            cases (ho i).mpr hvalue
          refine ⟨.within (.idNotInteger r.value) r.rest, onFirst_eq_error hpre hc ?_⟩
          simp only [hresult, hn]

end Ids

section Records
variable {σ τ : Type} {writes : τ → List Char → Prop} {dispatch : Dispatch σ} {isFirst : Bool}
  {key : String} {t : τ} {ms ms' : List (String × τ)} {s rest : List Char}

/-- Behind members that fill their slots, the reading of a record stops at one that is refused. -/
theorem Separated.exists_readMembers_error {slots slots' : σ} {reader : Reader σ}
    (hs : Separated (Member writes) isFirst (ms ++ (key, t) :: ms') s)
    (hms : Fills writes dispatch slots ms slots') (hd : dispatch key slots' = some (.ok reader))
    (hr : ∀ ⦃w⦄, writes t w → Yields reader w none) {bound : ℕ}
    (hbound : (s ++ '\x7d' :: rest).length < bound) :
    ∃ f, readMembers dispatch slots isFirst (s ++ '\x7d' :: rest) hbound = .error f := by
  induction hms generalizing isFirst s with
  | nil =>
      obtain ⟨u, v, s', _, _, _, _, _, hu, hv, -, hends, hnext, hkey, hcolon⟩ :=
        hs.exists_member rest
      obtain ⟨f, hvalue⟩ := hr hv hu hends
      refine ⟨f, ?_⟩
      rw [readMembers, hnext]
      simp only [hkey]
      simp only [hd, hcolon, hvalue]
  | cons hd' hr' _ ih =>
      obtain ⟨s', h, hs', heq⟩ := hs.readMembers_cons hd' hr' hbound
      obtain ⟨f, hrest⟩ := ih hs' hd h
      exact ⟨f, heq.trans hrest⟩

/-- A record is refused if the value of one of its members is. -/
theorem Separated.refuses_record {members : Members} {name : String} {slots : members.Slots}
    {reader : Reader members.Slots} (ms : List (String × τ))
    (hs : Separated (Member writes) true (ms ++ (key, t) :: ms') s)
    (hms : Fills writes members.dispatch members.unknown ms slots)
    (hd : members.dispatch key slots = some (.ok reader))
    (hr : ∀ ⦃w⦄, writes t w → Yields reader w none) :
    Yields (Shape.record name members).read ('\x7b' :: (s ++ ['\x7d'])) none := by
  intro pre rest hpre hrest
  obtain ⟨f, hmembers⟩ :=
    hs.exists_readMembers_error hms hd hr (length_lt_succ (s ++ '\x7d' :: rest))
  refine ⟨f.placeInRecord, ?_⟩
  rw [List.append_assoc, List.cons_append, List.append_assoc, List.singleton_append]
  apply onFirst_eq_error hpre rfl
  simp only [↓reduceIte, hmembers]

/-- A record of two members has a value if both of its members have one. -/
theorem Separated.yields_pair {name key key' : String} {isRequired isRequired' : Bool}
    {shape shape' : Shape} {w w' : List Char} {o : Option shape.Value} {o' : Option shape'.Value}
    (hs : Separated (Member Eq) true [(key, w), (key', w')] s) (hne : key' ≠ key)
    (h : Yields shape.read w o) (h' : Yields shape'.read w' o') :
    Yields (Shape.record name (.cons key isRequired shape (.cons key' isRequired' shape' .nil))).read
      ('\x7b' :: (s ++ ['\x7d'])) (o.bind fun a => o'.map fun b => (a, b, ())) := by
  have hd' : ∀ slot, (Members.cons key isRequired shape
      (.cons key' isRequired' shape' .nil)).dispatch key' (slot, none, ()) = _ :=
    dispatch_of_ne hne (dispatch_key Members.nil.unknown)
  cases o with
  | none =>
      refine hs.refuses_record [] .nil (dispatch_key _) ?_
      rintro _ rfl
      exact h.map _
  | some a =>
      have hfirst := h.map fun a => (some a, ((none, ()) : Option shape'.Value × Unit))
      cases o' with
      | none =>
          refine hs.refuses_record [(key, w)]
            (.cons (dispatch_key _) (fun _ hw => hw ▸ hfirst) .nil) (hd' _) ?_
          rintro _ rfl
          exact (h'.map _).map _
      | some b =>
          have hcomplete : (Members.cons key isRequired shape
              (.cons key' isRequired' shape' .nil)).complete (some a, some b, ()) =
              .ok (a, b, ()) := rfl
          refine hs.takes_record (.cons (dispatch_key _) (fun _ hw => hw ▸ hfirst)
            (.cons (hd' _) ?_ .nil)) hcomplete
          rintro _ rfl
          exact (h'.map _).map _

end Records

section Decoding
variable {pre w post : List Char}

/-- A text with blanks around it is decoded as the value that it yields. -/
theorem Shape.decode_eq_ok_iff {shape : Shape} {o : Option shape.Value}
    (h : Yields shape.read w o) (hpre : Blanks pre) (hpost : Blanks post) (value : shape.Value) :
    shape.decode (String.ofList (pre ++ w ++ post)) = .ok value ↔ o = some value := by
  have hnil : Ends [] := by simp [Ends]
  have hends : Ends post := by simpa using ends_blanks hpost hnil
  rw [Shape.decode, String.toList_ofList]
  cases o with
  | some a =>
      obtain ⟨_, hread⟩ : Reads shape.read (pre ++ w ++ post) a post := h hpre hends
      simp only [hread, skipSpace_blanks hpost, Except.ok.injEq, Option.some.injEq]
  | none =>
      obtain ⟨f, hread⟩ := h hpre hends
      simp only [hread, reduceCtorEq]

theorem Layout.decode_append_eq_ok_iff {α : Type} {layout : Layout α}
    {o : Option layout.shape.Value} {a : α} (h : Yields layout.shape.read w o) (hpre : Blanks pre)
    (hpost : Blanks post) :
    layout.decode (String.ofList (pre ++ w ++ post)) = .ok a ↔
      o.map layout.ofValue = some a := by
  have hdecode := Shape.decode_eq_ok_iff h hpre hpost
  rw [Layout.decode, Option.map_eq_some_iff]
  simp only [← hdecode]
  cases layout.shape.decode (String.ofList (pre ++ w ++ post)) with
  | ok v => simp [Except.map]
  | error e => simp [Except.map]

theorem Layout.decode_eq_ok_iff {α : Type} {layout : Layout α} {o : Option layout.shape.Value}
    {a : α} (h : Yields layout.shape.read w o) :
    layout.decode (String.ofList w) = .ok a ↔ o.map layout.ofValue = some a := by
  simpa using @Layout.decode_append_eq_ok_iff [] w [] _ _ _ a h blanks_nil blanks_nil

end Decoding

end Lexicon.Json

namespace Lexicon

open Json

/-- Two members without blanks. -/
theorem separated_pair (key key' : String) (w w' : List Char) :
    Separated (Member Eq) true [(key, w), (key', w')]
      (writeText key ++ ':' :: w ++ (',' :: (writeText key' ++ ':' :: w'))) := by
  have hm : Member Eq (key, w) (writeText key ++ [] ++ ':' :: [] ++ w) :=
    .mk (quoted_writeText key) blanks_nil blanks_nil rfl
  have hm' : Member Eq (key', w') (writeText key' ++ [] ++ ':' :: [] ++ w') :=
    .mk (quoted_writeText key') blanks_nil blanks_nil rfl
  have hlater : Lead false ([] ++ ',' :: []) := .later blanks_nil blanks_nil
  simpa using Separated.cons (.first blanks_nil) hm (.cons hlater hm' (.nil blanks_nil))

namespace Json.NumberLiteral

theorem toDigits_eq_zero {n : ℕ} (h : (Nat.toDigits 10 n).head? = some '0') :
    Nat.toDigits 10 n = ['0'] := by
  obtain ⟨c, ds, hds⟩ := List.exists_cons_of_ne_nil (Nat.toDigits_ne_nil : Nat.toDigits 10 n ≠ [])
  rcases Nat.eq_zero_or_pos n with rfl | hn
  · rfl
  · rw [hds, List.head?_cons, Option.some.injEq] at h
    exact absurd h (head_toDigits_ne_zero hn hds)

/-- The usual literal of an integer. -/
def ofInt (n : ℤ) : NumberLiteral where
  negative := n < 0
  whole := ⟨Nat.toDigits 10 n.natAbs, Nat.toDigits_ne_nil, fun _ => isAsciiDigit_of_mem_toDigits⟩
  isPlain := toDigits_eq_zero
  fraction := none
  exponent := none

theorem isWhole_ofInt (n : ℤ) : (ofInt n).IsWhole := ⟨rfl, rfl⟩

theorem value_ofInt (n : ℤ) : (ofInt n).value = n := by
  have hdigits : Nat.ofDigitChars 10 (ofInt n).whole.chars 0 = n.natAbs :=
    Nat.ofDigitChars_ten_toDigits
  rw [(isWhole_ofInt n).value_eq, hdigits, withSign, Nat.cast_natAbs]
  rcases lt_or_ge n 0 with hn | hn
  · simp [ofInt, hn, abs_of_neg hn]
  · simp [ofInt, not_lt.mpr hn, abs_of_nonneg hn]

/-- A thousand, as `1e3`. -/
def thousand : NumberLiteral where
  negative := false
  whole := ⟨['1'], List.cons_ne_nil _ _, List.forall_mem_singleton.mpr rfl⟩
  isPlain := by decide
  fraction := none
  exponent := some
    ⟨'e', .inl rfl, none, ⟨['3'], List.cons_ne_nil _ _, List.forall_mem_singleton.mpr rfl⟩⟩

theorem value_thousand : thousand.value = 1000 := by
  have hsignificand : thousand.significand = 1 := rfl
  have hscale : thousand.scale = 3 := rfl
  rw [value, hsignificand, hscale]
  norm_num [thousand, withSign]

theorem isShort_thousand : thousand.IsShort where
  significand_le := by decide
  onGrid := Decimal.Binary64.onGrid_of_le (by decide)
  exponent_lt := by
    intro e he
    obtain rfl := Option.some_inj.mp he
    decide
  scale_ge := by decide
  size := by
    refine .inr (.inl ⟨by decide, ?_⟩)
    have hgrid : Decimal.Binary64.OnGrid (1000 : ℕ) := Decimal.Binary64.onGrid_of_le (by norm_num)
    rw [value_thousand]
    simpa using hgrid

end Json.NumberLiteral

section Headwords
open Json.NumberLiteral

variable {id : Option Int64} {idText formText labelText target link : List Char}
  {form label : String}

/-- A headword is read if its number is. -/
theorem Headword.yields (hid : Yields readId idText id) (hform : Quoted form formText)
    (hs : Separated (Member Eq) true [("id", idText), ("form", formText)] target) :
    Yields Headword.layout.shape.read ('\x7b' :: (target ++ ['\x7d']))
      (id.bind fun id => (some form).map fun form => (id, form, ())) :=
  hs.yields_pair (by decide) hid (hform.takes "a string")

/-- A link is read if its target is. -/
theorem Relation.yields (hlabel : Quoted label labelText)
    {headword : Option Headword.layout.shape.Value}
    (htarget : Yields Headword.layout.shape.read target headword)
    (hs : Separated (Member Eq) true [("title", labelText), ("entry", target)] link) :
    Yields Relation.layout.shape.read ('\x7b' :: (link ++ ['\x7d']))
      ((some label).bind fun label => headword.map fun headword => (label, headword, ())) :=
  hs.yields_pair (by decide) (hlabel.takes "a string") htarget

/-- A number is at most one integer of 64 bits. -/
theorem exists_int64 (q : ℚ) : ∃ id : Option Int64, ∀ i, id = some i ↔ q = i.toInt := by
  by_cases h : ∃ i : Int64, q = i.toInt
  · obtain ⟨i, rfl⟩ := h
    exact ⟨some i, fun j => by simp [Int64.toInt_inj]⟩
  · refine ⟨none, fun j => iff_of_false (by simp) ?_⟩
    intro hj
    exact h ⟨j, hj⟩

/-- The number of a headword, or of the target of a link, may stand there as any literal without
fraction and exponent, or as any that is short. What is decoded has the number that the value of the
literal is taken for, and nothing is decoded if that is no integer of 64 bits. -/
theorem decode_eq_ok_iff_taken {l : NumberLiteral} (hl : l.IsWhole ∨ l.IsShort)
    (hform : Quoted form formText) (hlabel : Quoted label labelText)
    (htarget : Separated (Member Eq) true [("id", l.spelling), ("form", formText)] target)
    (hlink : Separated (Member Eq) true
      [("title", labelText), ("entry", '\x7b' :: (target ++ ['\x7d']))] link) :
    (∀ h : Headword,
      Headword.layout.decode (String.ofList ('\x7b' :: (target ++ ['\x7d']))) = .ok h ↔
        h.form = form ∧ (h.id.toInt : ℚ) = taken l.value) ∧
    ∀ r : Relation,
      Relation.layout.decode (String.ofList ('\x7b' :: (link ++ ['\x7d']))) = .ok r ↔
        r.label = label ∧ r.target.form = form ∧ (r.target.id.toInt : ℚ) = taken l.value := by
  obtain ⟨id, hid⟩ := exists_int64 (taken l.value)
  have hid' : ∀ i : Int64, id = some i ↔ (i.toInt : ℚ) = taken l.value := fun i =>
    (hid i).trans eq_comm
  have hread := yields_readId hl hid
  have hheadword := Headword.yields hread hform htarget
  have hrelation := Relation.yields hlabel hheadword hlink
  constructor
  · rintro ⟨n, f⟩
    rw [Layout.decode_eq_ok_iff hheadword, ← hid']
    cases id with
    | none => simp
    | some id =>
        have hvalue : (some ⟨id, form⟩ : Option Headword) = some ⟨n, f⟩ ↔
            f = form ∧ some id = some n := by
          simp [and_comm, eq_comm]
        exact hvalue
  · rintro ⟨t, n, f⟩
    rw [Layout.decode_eq_ok_iff hrelation, ← hid']
    cases id with
    | none =>
        have hvalue : (none : Option Relation) = some ⟨t, n, f⟩ ↔
            t = label ∧ f = form ∧ (none : Option Int64) = some n := by
          simp
        exact hvalue
    | some id =>
        have hvalue : (some ⟨label, id, form⟩ : Option Relation) = some ⟨t, n, f⟩ ↔
            t = label ∧ f = form ∧ some id = some n := by
          simp [and_comm, eq_comm]
        exact hvalue

theorem decode_thousand :
    thousand.spelling = "1e3".toList ∧ thousand.IsShort ∧ thousand.value = 1000 ∧
      Headword.layout.decode "\x7b\"id\":1e3,\"form\":\"Maß\"\x7d" = .ok ⟨1000, "Maß"⟩ ∧
      Relation.layout.decode
          "\x7b\"title\":\"see\",\"entry\":\x7b\"id\":1e3,\"form\":\"Maß\"\x7d\x7d" =
        .ok ⟨"see", 1000, "Maß"⟩ := by
  have h := decode_eq_ok_iff_taken (.inr isShort_thousand) (quoted_writeText "Maß")
    (quoted_writeText "see") (separated_pair ..) (separated_pair ..)
  have htaken : ((1000 : Int64).toInt : ℚ) = taken thousand.value := by
    have hint : (1000 : Int64).toInt = 1000 := by decide
    rw [isShort_thousand.taken_value, value_thousand, hint]
    norm_num
  exact ⟨rfl, isShort_thousand, value_thousand, (h.1 _).mpr ⟨rfl, htaken⟩,
    (h.2 _).mpr ⟨rfl, rfl, htaken⟩⟩

example : Headword.layout.decode "\x7b\"id\":1e18,\"form\":\"Maß\"\x7d" =
    .ok ⟨1000000000000000000, "Maß"⟩ := by
  decide +kernel

/-- An integer that 64 bits do not hold is taken for another one. -/
theorem headword_belowInt64 :
    (ofInt (-9223372036854775809)).value = -9223372036854775809 ∧
      (ofInt (-9223372036854775809)).spelling = "-9223372036854775809".toList ∧
      Headword.layout.decode "\x7b\"id\":-9223372036854775809,\"form\":\"\"\x7d" =
        .ok ⟨-9223372036854775808, ""⟩ := by
  have hvalue := value_ofInt (-9223372036854775809)
  have htaken : taken (ofInt (-9223372036854775809)).value =
      (-9223372036854775808 : Int64).toInt := by
    have hleast : (-9223372036854775808 : Int64).toInt = -9223372036854775808 := by decide
    rw [hvalue, taken, if_pos (by norm_num), hleast]
    norm_num
  have hid : ∀ i : Int64, some (-9223372036854775808) = some i ↔
      taken (ofInt (-9223372036854775809)).value = i.toInt := by
    intro i
    rw [htaken, Int.cast_inj, Int64.toInt_inj, Option.some_inj]
  have hread := yields_readId (.inl (isWhole_ofInt _)) hid
  have hheadword := Headword.yields hread (quoted_writeText "") (separated_pair ..)
  refine ⟨hvalue.trans (by norm_num), rfl, ?_⟩
  exact (Layout.decode_eq_ok_iff hheadword).mpr rfl

end Headwords

end Lexicon
