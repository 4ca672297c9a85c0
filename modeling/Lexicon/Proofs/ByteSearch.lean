import Lexicon.Proofs.CodePointOrder
import Mathlib.Data.List.Infix

/-!
# Searching in bytes

A needle stands in a text just where its bytes stand among those of the text. No encoding begins
another one, and the first byte of a character is none that continues a character, so that bytes that
encode a needle can stand only where characters of the text begin.
-/

namespace Lexicon.Text

variable {needle s t : List Char} {c : Char} {u v : List UInt8}

theorem isContinuation_iff {b : UInt8} :
    isContinuation b = true ↔ 128 ≤ b.toNat ∧ b.toNat ≤ 191 := by
  simp only [isContinuation, Bool.and_eq_true, decide_eq_true_eq, UInt8.le_iff_toNat_le]
  rfl

theorem isContinuation_ofNat_iff {n : Nat} (hn : n < 256) :
    isContinuation (UInt8.ofNat n) = true ↔ 128 ≤ n ∧ n ≤ 191 := by
  rw [isContinuation_iff, UInt8.toNat_ofNat_of_lt' hn]

/-- The first byte of a character does not continue one, and the others do. -/
theorem exists_encodeChar_eq_cons (c : Char) : ∃ b bs, String.utf8EncodeChar c = b :: bs ∧
    isContinuation b = false ∧ ∀ x ∈ bs, isContinuation x = true := by
  have hmax := val_lt c
  simp only [← Bool.not_eq_true, String.utf8EncodeChar]
  generalize c.val.toNat = n at *
  split_ifs
  all_goals
    refine ⟨_, _, rfl, ?_, ?_⟩
    · rw [isContinuation_ofNat_iff (by omega)]
      omega
    · simp (disch := omega) only [List.forall_mem_cons, List.not_mem_nil, false_implies,
        implies_true, and_true, isContinuation_ofNat_iff] <;> omega

@[simp] theorem encode_append (s t : List Char) : encode (s ++ t) = encode s ++ encode t := by
  simp [encode]

/-- The first character is determined by the bytes, whatever follows. -/
theorem encodeChar_append_inj {d : Char}
    (h : String.utf8EncodeChar c ++ u = String.utf8EncodeChar d ++ v) : c = d ∧ u = v := by
  have hcd : c = d := by
    rcases lt_trichotomy c d with hlt | heq | hgt
    · exact absurd (h ▸ encodeChar_append_lt hlt u v) (List.lt_irrefl _)
    · exact heq
    · exact absurd (h ▸ encodeChar_append_lt hgt v u) (List.lt_irrefl _)
  subst hcd
  exact ⟨rfl, List.append_cancel_left h⟩

/-- If the bytes of a text begin those of another, the text begins the other. -/
theorem exists_eq_append (h : encode needle ++ v = encode t) :
    ∃ rest, t = needle ++ rest ∧ v = encode rest := by
  induction needle generalizing t with
  | nil => exact ⟨t, rfl, h⟩
  | cons c needle ih =>
      cases t with
      | nil =>
          obtain ⟨b, bs, hb, -⟩ := exists_encodeChar_eq_cons c
          simp [hb] at h
      | cons d t =>
          rw [encode_cons, encode_cons, List.append_assoc] at h
          obtain ⟨rfl, hrest⟩ := encodeChar_append_inj h
          obtain ⟨rest, rfl, hv⟩ := ih hrest
          exact ⟨rest, rfl, hv⟩

/-- Where the bytes of a needle stand among those of a text, the needle stands in the text. -/
theorem exists_eq_append_append (hne : needle ≠ []) (h : u ++ (encode needle ++ v) = encode t) :
    ∃ before behind, t = before ++ (needle ++ behind) ∧ u = encode before ∧ v = encode behind := by
  induction t generalizing u with
  | nil =>
      obtain ⟨c, needle, rfl⟩ := List.exists_cons_of_ne_nil hne
      obtain ⟨b, bs, hb, -⟩ := exists_encodeChar_eq_cons c
      simp [hb] at h
  | cons d t ih =>
      rw [encode_cons, List.append_eq_append_iff] at h
      rcases h with ⟨w, hd, hrest⟩ | ⟨u, rfl, hrest⟩
      · cases w with
        | nil =>
            -- The needle begins behind the first character, or the text with it.
            obtain ⟨rest, rfl, rfl⟩ := exists_eq_append hrest
            refine ⟨[d], rest, rfl, ?_, rfl⟩
            simpa using hd.symm
        | cons x w =>
            cases u with
            | nil =>
                rw [List.nil_append] at hd
                rw [← hd, ← encode_cons] at hrest
                obtain ⟨rest, ht, rfl⟩ := exists_eq_append hrest
                exact ⟨[], rest, ht, rfl, rfl⟩
            | cons y u =>
                -- Within a character there are only bytes that continue it.
                obtain ⟨c, needle, rfl⟩ := List.exists_cons_of_ne_nil hne
                obtain ⟨b, bs, hb, hfirst, -⟩ := exists_encodeChar_eq_cons c
                obtain ⟨b', bs', hb', -, hlater⟩ := exists_encodeChar_eq_cons d
                rw [hb', List.cons_append, List.cons_eq_cons] at hd
                have hx : isContinuation x = true := hlater x (by simp [hd.2])
                rw [encode_cons, hb] at hrest
                simp only [List.cons_append, List.cons.injEq] at hrest
                rw [hrest.1, hx] at hfirst
                cases hfirst
      · obtain ⟨before, behind, rfl, rfl, hv⟩ := ih hrest.symm
        exact ⟨d :: before, behind, rfl, by rw [encode_cons], hv⟩

/-- A text begins with the needle if its bytes begin with those of the needle. -/
theorem encode_prefix_iff : encode needle <+: encode t ↔ needle <+: t := by
  constructor
  · rintro ⟨v, h⟩
    obtain ⟨rest, rfl, -⟩ := exists_eq_append h
    exact List.prefix_append _ _
  · rintro ⟨rest, rfl⟩
    rw [encode_append]
    exact List.prefix_append _ _

/-- A text ends with the needle if its bytes end with those of the needle. -/
theorem encode_suffix_iff : encode needle <:+ encode t ↔ needle <:+ t := by
  constructor
  · rintro ⟨u, h⟩
    rcases eq_or_ne needle [] with rfl | hne
    · exact List.nil_suffix
    · rw [← List.append_nil (encode needle)] at h
      obtain ⟨before, behind, rfl, -, hbehind⟩ := exists_eq_append_append hne h
      obtain rfl : behind = [] := encode_inj.mp hbehind.symm
      rw [List.append_nil]
      exact List.suffix_append _ _
  · rintro ⟨before, rfl⟩
    rw [encode_append]
    exact List.suffix_append _ _

/-- The needle stands in a text if its bytes stand among those of the text. -/
theorem encode_infix_iff : encode needle <:+: encode t ↔ needle <:+: t := by
  constructor
  · rintro ⟨u, v, h⟩
    rcases eq_or_ne needle [] with rfl | hne
    · exact List.nil_infix
    · rw [List.append_assoc] at h
      obtain ⟨before, behind, rfl, -, -⟩ := exists_eq_append_append hne h
      exact List.infix_append' _ _ _
  · rintro ⟨before, behind, rfl⟩
    rw [encode_append, encode_append]
    exact List.infix_append _ _ _

end Lexicon.Text
