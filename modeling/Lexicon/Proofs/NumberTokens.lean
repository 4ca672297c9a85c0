import Lexicon.Proofs.HeadwordIds

/-!
# Numbers to their end

Every number literal is passed over to its end, and reading it ends there as well or fails. Which
number is read does not depend on what follows, as long as no number goes on with it. Neither its
size nor its precision plays a part here.
-/

namespace Lexicon.Json

open Unicode (isAsciiDigit)

section Reading

/-- The result of a reading, if there is one. -/
def outcome {α : Type} {P : α → Prop} : Except Failure { r : α // P r } → Option α
  | .ok r => some r.1
  | .error _ => none

/-- Behind the text, the reading of a number leaves whatever cannot go on with it, and gives the
same number or none. -/
def Settles {P : List Char → Number × List Char → Prop} (w : List Char)
    (read : (s : List Char) → Except Failure { r : Number × List Char // P s r }) : Prop :=
  ∃ o : Option Number, ∀ rest, Ends rest → outcome (read (w ++ rest)) = o.map fun n => (n, rest)

variable {ds text : List Char}

theorem numberOfParts_cases (negative : Bool) (s : ℕ) (scale : ℤ) :
    (∃ n, ∀ rest, numberOfParts negative s scale rest = .ok n) ∨
      ∀ rest, numberOfParts negative s scale rest = .error (.here .numberOutOfRange rest) := by
  unfold numberOfParts
  cases (Decimal.Binary64.ofNat s).bind fun x => x.scaleByTen scale with
  | some x => exact .inl ⟨_, fun _ => rfl⟩
  | none => exact .inr fun _ => rfl

theorem settles_finishNumber (negative : Bool) (s : ℕ) (scale : ℤ) :
    Settles [] (finishNumber negative s scale) := by
  rcases numberOfParts_cases negative s scale with ⟨n, hn⟩ | hn
  · exact ⟨some n, fun rest _ => by simp only [List.nil_append, finishNumber, hn]; rfl⟩
  · exact ⟨none, fun rest _ => by simp only [List.nil_append, finishNumber, hn]; rfl⟩

theorem settles_readExponent (e : ExponentPart) (negative : Bool) (s : ℕ) (scale : ℤ) :
    Settles e.tail (readExponent negative s scale) := by
  have htail := fun rest => @readExponent_tail negative s scale rest e
  cases hexponent : readExponent.exponentOf e.digits.chars with
  | inl k =>
      simp only [hexponent] at htail
      rcases numberOfParts_cases negative s (scale + if e.sign = some true then -(k : ℤ) else k)
        with ⟨n, hn⟩ | hn
      · refine ⟨some n, fun rest hrest => ?_⟩
        obtain ⟨_, heq⟩ := htail rest hrest
        simp only [heq, hn]
        rfl
      · refine ⟨none, fun rest hrest => ?_⟩
        obtain ⟨_, heq⟩ := htail rest hrest
        simp only [heq, hn]
        rfl
  | inr unread =>
      simp only [hexponent] at htail
      cases hrange : s != 0 && !decide (e.sign = some true) with
      | true =>
          simp only [hrange, ↓reduceIte] at htail
          refine ⟨none, fun rest hrest => ?_⟩
          obtain ⟨_, heq⟩ := htail rest hrest
          rw [heq]
          rfl
      | false =>
          simp only [hrange, Bool.false_eq_true, ↓reduceIte] at htail
          refine ⟨some (.real negative .zero), fun rest hrest => ?_⟩
          obtain ⟨_, heq⟩ := htail rest hrest
          rw [heq]
          rfl

theorem settles_readScale (exponent : Option ExponentPart) (negative : Bool) (s : ℕ) (scale : ℤ) :
    Settles (exponentText exponent) (readScale negative s scale) := by
  cases exponent with
  | none =>
      obtain ⟨o, ho⟩ := settles_finishNumber negative s scale
      refine ⟨o, fun rest hrest => ?_⟩
      rw [exponentText, List.nil_append, readScale_of_ends hrest]
      exact ho rest hrest
  | some e =>
      obtain ⟨o, ho⟩ := settles_readExponent e negative s scale
      have hletter : (decide (e.letter = 'e') || decide (e.letter = 'E')) = true := by
        simpa using e.isLetter
      refine ⟨o, fun rest hrest => ?_⟩
      rw [← ho rest hrest]
      simp only [exponentText, List.cons_append, readScale, hletter, ↓reduceIte]
      cases readExponent negative s scale (e.tail ++ rest) <;> rfl

/-- Which digits are taken, and which are left, does not depend on what follows them. -/
theorem exists_takeSignificand (hds : ∀ d ∈ ds, isAsciiDigit d = true) (n count : ℕ) :
    ∃ value count' back, (∀ d ∈ back, isAsciiDigit d = true) ∧
      ∀ text, (∀ c ∈ text.head?, isAsciiDigit c = false) →
        ∃ h, takeSignificand n count (ds ++ text) = (value, count', ⟨back ++ text, h⟩) := by
  induction ds generalizing n count with
  | nil =>
      refine ⟨n, count, [], by simp, fun text htext => ⟨Nat.le_refl _, ?_⟩⟩
      cases text with
      | nil => simp [takeSignificand]
      | cons c text => simp [takeSignificand, htext c rfl]
  | cons d ds ih =>
      obtain ⟨hd, hrest⟩ := List.forall_mem_cons.mp hds
      by_cases hnext : n * 10 + (d.toNat - '0'.toNat) ≤ maxUnsigned
      · obtain ⟨value, count', back, hback, htake⟩ :=
          ih hrest (n * 10 + (d.toNat - '0'.toNat)) (count + 1)
        refine ⟨value, count', back, hback, fun text htext => ?_⟩
        obtain ⟨h, heq⟩ := htake text htext
        refine ⟨Nat.le_succ_of_le h, ?_⟩
        simp only [List.cons_append, takeSignificand, hd, hnext, decide_true, Bool.and_self,
          ↓reduceIte, heq]
      · refine ⟨n, count, d :: ds, hds, fun text _ => ⟨Nat.le_refl _, ?_⟩⟩
        simp only [List.cons_append, takeSignificand, hnext, decide_false, Bool.and_false,
          Bool.false_eq_true, ↓reduceIte]

theorem outcome_finish (negative : Bool) (scale : ℤ) (s : List Char) (value count : ℕ)
    (h : text.length ≤ s.length) :
    outcome (readFraction.finish negative scale s value count text h) =
      outcome (readScale negative value (scale - count) text) := by
  unfold readFraction.finish
  cases readScale negative value (scale - count) text <;> rfl

theorem settles_readFraction (digits : Digits) (exponent : Option ExponentPart) (negative : Bool)
    (s : ℕ) (scale : ℤ) :
    Settles (digits.chars ++ exponentText exponent) (readFraction negative s scale) := by
  obtain ⟨value, count, back, hback, htake⟩ := exists_takeSignificand digits.isDigit s 0
  obtain ⟨o, ho⟩ := settles_readScale exponent negative value (scale - count)
  -- Without digits that are left, there may be none at all.
  refine ⟨if back = [] ∧ count = 0 then none else o, fun rest hrest => ?_⟩
  have hhead := fun c hc => (head_exponentText exponent hrest c hc).1
  obtain ⟨h, heq⟩ := htake _ hhead
  have hscale := ho rest hrest
  rw [List.append_assoc]
  generalize exponentText exponent ++ rest = text at *
  unfold readFraction
  generalize takeSignificand s 0 (digits.chars ++ text) = taken at heq ⊢
  subst heq
  cases back with
  | nil =>
      by_cases hcount : count = 0
      · cases text with
        | nil => simp [hcount, outcome]
        | cons c text => simp [hcount, hhead c rfl, outcome]
      · rw [if_neg fun h => hcount h.2, ← hscale]
        cases text with
        | nil => simp only [List.nil_append, if_neg hcount, outcome_finish]
        | cons c text =>
            simp only [List.nil_append, hhead c rfl, Bool.false_eq_true, if_neg hcount, ↓reduceIte,
              outcome_finish]
  | cons d back =>
      have hskip := skipDigits_append hback hhead
      rw [if_neg (by simp), ← hscale]
      simp only [List.cons_append, hback d List.mem_cons_self, ↓reduceIte, outcome_finish]
      rw [← List.cons_append, hskip]

theorem settles_readTail (fraction : Option Digits) (exponent : Option ExponentPart)
    (negative : Bool) (s dropped : ℕ) :
    Settles (fractionText fraction ++ exponentText exponent) (readTail negative s dropped) := by
  cases fraction with
  | some digits =>
      obtain ⟨o, ho⟩ := settles_readFraction digits exponent negative s dropped
      refine ⟨o, fun rest hrest => ?_⟩
      rw [← ho rest hrest]
      simp only [fractionText, List.cons_append, readTail]
      cases readFraction negative s dropped (digits.chars ++ exponentText exponent ++ rest) <;> rfl
  | none =>
      obtain ⟨o, ho⟩ := settles_readScale exponent negative s dropped
      by_cases hscale : dropped ≠ 0 ∨ exponent.isSome ∨
          (negative = true ∧ (s = 0 ∨ 0x8000000000000000 < s))
      · refine ⟨o, fun rest hrest => ?_⟩
        rw [fractionText, List.nil_append, ← ho rest hrest, readTail_eq_readScale]
        · exact fun c hc => (head_exponentText exponent hrest c hc).2
        · refine hscale.imp_right (Or.imp_left fun h => ?_)
          obtain ⟨e, rfl⟩ := Option.isSome_iff_exists.mp h
          exact ⟨e.letter, rfl, e.isLetter⟩
      · simp only [not_or, not_and, not_not, Bool.not_eq_true, Option.isSome_eq_false_iff,
          Option.isNone_iff_eq_none, Nat.not_lt] at hscale
        obtain ⟨rfl, rfl, hsign⟩ := hscale
        refine ⟨some (.integer (signed negative s)), fun rest hrest => ?_⟩
        have hsize := fun h => (⟨Nat.pos_of_ne_zero (hsign h).1, (hsign h).2⟩ : 0 < s ∧ _)
        rw [fractionText, exponentText, List.nil_append, List.nil_append,
          readTail_of_ends hsize hrest]
        rfl

theorem NumberLiteral.settles_readDigits (l : NumberLiteral) {c : Char}
    (hw : l.whole.chars = c :: ds) (negative : Bool) :
    Settles (ds ++ (fractionText l.fraction ++ exponentText l.exponent))
      (readDigits negative c) := by
  obtain ⟨hdigits, hplain⟩ := NumberLiteral.whole_digits hw
  obtain ⟨hc, hds⟩ := List.forall_mem_cons.mp hdigits
  have hhead := fun rest hrest => @head_fractionText rest l.exponent l.fraction hrest
  by_cases hzero : c = '0'
  · obtain rfl := hplain hzero
    subst hzero
    obtain ⟨o, ho⟩ := settles_readTail l.fraction l.exponent negative 0 0
    refine ⟨o, fun rest hrest => ?_⟩
    have hread := ho rest hrest
    have hnone := hhead rest hrest
    rw [List.append_assoc] at hread
    rw [List.nil_append, List.append_assoc, ← hread]
    generalize fractionText l.fraction ++ (exponentText l.exponent ++ rest) = text at hnone
    have hany : text.head?.any isAsciiDigit = false := by
      cases text with
      | nil => rfl
      | cons d text => simpa using hnone d rfl
    simp only [readDigits, hany, ↓reduceIte, Bool.false_eq_true]
  · obtain ⟨value, count, back, hback, htake⟩ :=
      exists_takeSignificand hds (c.toNat - '0'.toNat) 1
    obtain ⟨o, ho⟩ := settles_readTail l.fraction l.exponent negative value back.length
    refine ⟨o, fun rest hrest => ?_⟩
    obtain ⟨_, heq⟩ := htake _ (hhead rest hrest)
    have hskip := skipDigits_append hback (hhead rest hrest)
    have hread := ho rest hrest
    rw [List.append_assoc] at hread
    rw [List.append_assoc, List.append_assoc, ← hread]
    generalize fractionText l.fraction ++ (exponentText l.exponent ++ rest) = text at *
    have htail : outcome (readTail negative value (skipDigits (back ++ text)).count
        (skipDigits (back ++ text)).rest) = outcome (readTail negative value back.length text) := by
      rw [hskip]
    unfold readDigits
    rw [if_neg hzero, if_pos hc, ← htail]
    generalize takeSignificand _ _ _ = taken at heq ⊢
    subst heq
    simp only
    cases readTail negative value (skipDigits (back ++ text)).count
        (skipDigits (back ++ text)).rest <;> rfl

theorem outcome_eq_some {α : Type} {P : α → Prop} {e : Except Failure { r : α // P r }} {a : α}
    (h : outcome e = some a) : ∃ h, e = .ok ⟨a, h⟩ := by
  cases e with
  | ok r =>
      obtain rfl := Option.some.inj h
      exact ⟨r.2, rfl⟩
  | error f => cases h

theorem outcome_eq_none {α : Type} {P : α → Prop} {e : Except Failure { r : α // P r }}
    (h : outcome e = none) : ∃ f, e = .error f := by
  cases e with
  | ok r => cases h
  | error f => exact ⟨f, rfl⟩

/-- From its first character on, a number is read as it is behind its sign. -/
theorem NumberLiteral.exists_digits (l : NumberLiteral) {c : Char} {w : List Char}
    (hw : l.spelling = c :: w) :
    ∃ d ds, l.whole.chars = d :: ds ∧ ∀ rest,
      let read := readDigits l.negative d
        (ds ++ (fractionText l.fraction ++ exponentText l.exponent) ++ rest)
      (∀ n h, read = .ok ⟨(n, rest), h⟩ →
        ∃ h, readNumberAt c (w ++ rest) = some (.ok ⟨n, rest, h⟩)) ∧
      ∀ f, read = .error f → readNumberAt c (w ++ rest) = some (.error f) := by
  obtain ⟨d, ds, hds⟩ := List.exists_cons_of_ne_nil l.whole.ne_nil
  have hd : isAsciiDigit d = true := (NumberLiteral.whole_digits hds).1 d List.mem_cons_self
  refine ⟨d, ds, hds, fun rest => ?_⟩
  have hunsigned := NumberLiteral.unsigned_append hds rest
  rw [← List.append_assoc (fractionText _), ← List.append_assoc ds] at hunsigned
  generalize ds ++ (fractionText l.fraction ++ exponentText l.exponent) ++ rest = text at hunsigned
  rw [spelling] at hw
  cases hsign : l.negative with
  | true =>
      rw [hsign, if_pos rfl, List.singleton_append] at hw
      obtain ⟨rfl, rfl⟩ := List.cons_eq_cons.mp hw
      rw [hunsigned, readNumberAt, if_pos rfl, readUnsigned]
      constructor
      · intro n h hread
        exact ⟨Nat.lt_succ_of_le (Nat.le_succ_of_le h), by simp only [hread]⟩
      · intro f hread
        simp only [hread]
  | false =>
      rw [hsign, if_neg Bool.false_ne_true, List.nil_append] at hw
      rw [hw, List.cons_append] at hunsigned
      obtain ⟨rfl, hrest⟩ := List.cons_eq_cons.mp hunsigned
      rw [hrest, readNumberAt, if_neg (ne_sign_of_isAsciiDigit hd).2, if_pos hd]
      constructor
      · intro n h hread
        exact ⟨Nat.lt_succ_of_le h, by simp only [hread]⟩
      · intro f hread
        simp only [hread]

/-- The number of a headword is read from a literal, the same whatever follows, or cannot be
read. -/
theorem NumberLiteral.exists_yields_readId (l : NumberLiteral) :
    ∃ o, Yields readId l.spelling o := by
  obtain ⟨c, w, hw, hc, -⟩ := l.exists_spelling
  obtain ⟨d, ds, hds, hnumber⟩ := l.exists_digits hw
  obtain ⟨o, ho⟩ := l.settles_readDigits hds l.negative
  rw [hw]
  have hfails : (∀ rest, Ends rest → ∃ f, readNumberAt c (w ++ rest) = some (.error f)) →
      Yields readId (c :: w) none := by
    intro h pre rest hpre hrest
    obtain ⟨f, hf⟩ := h rest hrest
    rw [List.append_assoc, List.cons_append]
    exact ⟨f, onFirst_eq_error hpre hc (by simp only [hf])⟩
  cases o with
  | none =>
      refine ⟨none, hfails fun rest hrest => ?_⟩
      obtain ⟨f, hf⟩ := outcome_eq_none (ho rest hrest)
      exact ⟨f, (hnumber rest).2 f hf⟩
  | some n =>
      have hread : ∀ rest, Ends rest →
          ∃ h, readNumberAt c (w ++ rest) = some (.ok ⟨n, rest, h⟩) := fun rest hrest =>
        have ⟨_, hdigits⟩ := outcome_eq_some (ho rest hrest)
        (hnumber rest).1 n _ hdigits
      cases hid : n.toInt64? with
      | some i =>
          refine ⟨some i, fun pre rest hpre hrest => ?_⟩
          obtain ⟨h, heq⟩ := hread rest hrest
          rw [List.append_assoc, List.cons_append]
          exact reads_onFirst hpre hc ⟨h, by simp only [heq, hid]⟩
      | none =>
          refine ⟨none, fun pre rest hpre hrest => ?_⟩
          obtain ⟨h, heq⟩ := hread rest hrest
          rw [List.append_assoc, List.cons_append]
          exact ⟨.within (.idNotInteger n) rest, onFirst_eq_error hpre hc (by simp only [heq, hid])⟩

end Reading

section Passing
variable {rest : List Char}

theorem skipDigits_digits (ds : Digits) {text : List Char}
    (hhead : ∀ c ∈ text.head?, isAsciiDigit c = false) :
    skipDigits (ds.chars ++ text) = ⟨ds.chars.length, text, by simp⟩ ∧ ds.chars.length ≠ 0 :=
  ⟨skipDigits_append ds.isDigit hhead, fun h => ds.ne_nil (List.length_eq_zero_iff.mp h)⟩

/-- Behind its letter, an exponent is passed over. -/
theorem skipExponent_eq (e : ExponentPart) (hrest : Ends rest) :
    ∃ h, skipExponent (e.tail ++ rest) = .ok ⟨rest, h⟩ := by
  obtain ⟨d, ds, hd⟩ := List.exists_cons_of_ne_nil e.digits.ne_nil
  obtain ⟨hplus, hminus⟩ := ne_sign_of_isAsciiDigit (e.digits.isDigit d (by simp [hd]))
  obtain ⟨hskip, hcount⟩ := skipDigits_digits e.digits fun c hc => (hrest c hc).1
  refine ⟨by simp, ?_⟩
  unfold skipExponent
  split
  rename_i s' hs heq
  obtain rfl : s' = e.digits.chars ++ rest := by
    obtain ⟨letter, hletter, sign, digits⟩ := e
    match sign with
    | none =>
      simp only [ExponentPart.tail] at heq hs
      revert heq hs
      generalize htext : digits.chars ++ rest = text
      rw [hd, List.cons_append] at htext
      intro hs heq
      split at heq
      · exact absurd (List.cons_eq_cons.mp htext).1 hplus
      · exact absurd (List.cons_eq_cons.mp htext).1 hminus
      · cases heq
        rfl
    | some false =>
      cases heq
      rfl
    | some true =>
      cases heq
      rfl
  simp only [hskip, hcount, ↓reduceIte]

theorem skipScale_eq (exponent : Option ExponentPart) (hrest : Ends rest) :
    ∃ h, skipScale (exponentText exponent ++ rest) = .ok ⟨rest, h⟩ := by
  refine ⟨by simp, ?_⟩
  cases exponent with
  | none =>
      cases rest with
      | nil => rfl
      | cons c rest => simp [exponentText, skipScale, (hrest c rfl).2.2]
  | some e =>
      have hletter : (decide (e.letter = 'e') || decide (e.letter = 'E')) = true := by
        simpa using e.isLetter
      obtain ⟨_, hskip⟩ := skipExponent_eq e hrest
      simp only [exponentText, List.cons_append, skipScale, hletter, ↓reduceIte, hskip]

section Unsigned
variable {whole : Digits} {text : List Char}

theorem no_leading_zero (hplain : whole.chars.head? = some '0' → whole.chars = ['0'])
    (text : List Char) : (decide ((whole.chars ++ text).head? = some '0') &&
      decide (1 < whole.chars.length)) = false := by
  rw [Bool.and_eq_false_imp, decide_eq_true_eq, decide_eq_false_iff_not,
    List.head?_append_of_ne_nil _ whole.ne_nil]
  intro hzero
  rw [hplain hzero]
  decide

theorem skipNumber_whole (hplain : whole.chars.head? = some '0' → whole.chars = ['0'])
    (hhead : ∀ c ∈ text.head?, isAsciiDigit c = false ∧ c ≠ '.') {hle}
    (hscale : skipScale text = .ok ⟨rest, hle⟩) :
    ∃ h, skipNumber (whole.chars ++ text) = .ok ⟨rest, h⟩ := by
  obtain ⟨hskip, hcount⟩ := skipDigits_digits whole fun c hc => (hhead c hc).1
  refine ⟨by simp only [List.length_append]; omega, ?_⟩
  have hback : (skipDigits (whole.chars ++ text)).rest = text := by rw [hskip]
  obtain ⟨_, hscale⟩ : ∃ h, skipScale (skipDigits (whole.chars ++ text)).rest = .ok ⟨rest, h⟩ := by
    rw [hback]
    exact ⟨hle, hscale⟩
  unfold skipNumber
  simp only [hskip, hcount, no_leading_zero hplain, ↓reduceDIte, Bool.false_eq_true, ↓reduceIte]
  split
  · rename_i heq _
    obtain rfl := hback.symm.trans heq
    exact absurd rfl (hhead '.' rfl).2
  · simp only [hscale]

theorem skipNumber_fraction (hplain : whole.chars.head? = some '0' → whole.chars = ['0'])
    (ds : Digits) (hhead : ∀ c ∈ text.head?, isAsciiDigit c = false) {hle}
    (hscale : skipScale text = .ok ⟨rest, hle⟩) :
    ∃ h, skipNumber (whole.chars ++ '.' :: (ds.chars ++ text)) = .ok ⟨rest, h⟩ := by
  have hpoint : ∀ c ∈ ('.' :: (ds.chars ++ text)).head?, isAsciiDigit c = false := by
    intro c hc
    obtain rfl := Option.some.inj hc
    rfl
  obtain ⟨hskip, hcount⟩ := skipDigits_digits whole hpoint
  obtain ⟨hskip', hcount'⟩ := skipDigits_digits ds hhead
  refine ⟨by simp only [List.length_append, List.length_cons]; omega, ?_⟩
  have hback : (skipDigits (whole.chars ++ '.' :: (ds.chars ++ text))).rest =
      '.' :: (ds.chars ++ text) := by rw [hskip]
  obtain ⟨_, hscale⟩ : ∃ h, skipScale (skipDigits (ds.chars ++ text)).rest = .ok ⟨rest, h⟩ := by
    rw [hskip']
    exact ⟨hle, hscale⟩
  unfold skipNumber
  simp only [hskip, hcount, no_leading_zero hplain, ↓reduceDIte, Bool.false_eq_true, ↓reduceIte]
  split
  · rename_i heq _
    obtain rfl := (List.cons_eq_cons.mp (hback.symm.trans heq)).2
    simp only [hskip', hcount', ↓reduceIte, hscale]
  · rename_i hbound hne
    rw [hback] at hbound
    exact absurd (proof_irrel_heq _ _) (hne _ hbound hback)

end Unsigned

/-- Behind its sign, a number literal is passed over. -/
theorem NumberLiteral.skipNumber_eq (l : NumberLiteral) (hrest : Ends rest) :
    ∃ h, skipNumber (l.unsigned ++ rest) = .ok ⟨rest, h⟩ := by
  have hhead := head_exponentText l.exponent hrest
  obtain ⟨_, hscale⟩ := skipScale_eq l.exponent hrest
  rw [unsigned, List.append_assoc, List.append_assoc]
  cases l.fraction with
  | none => exact skipNumber_whole l.isPlain hhead hscale
  | some ds => exact skipNumber_fraction l.isPlain ds (fun c hc => (hhead c hc).1) hscale

end Passing

end Lexicon.Json
