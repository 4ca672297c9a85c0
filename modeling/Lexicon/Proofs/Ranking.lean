import Lexicon.Search.Outcome
import Mathlib.Data.Char
import Mathlib.Data.List.Perm.Basic
import Mathlib.Data.String.Basic
import Mathlib.Tactic.SplitIfs

/-!
# Ranking

Comparing the bytes of UTF-8 orders texts as their code points do: the encoding of a smaller
character is smaller at a byte that both encodings have. So ranking sorts by the forms of the
headwords in code point order, and since the sort is stable, its result is the only one.
-/

namespace Lexicon

namespace Text

theorem ofNat_cons_lt_iff {a b : Nat} (ha : a < 256) (hb : b < 256) {s t : List UInt8} :
    UInt8.ofNat a :: s < UInt8.ofNat b :: t ↔ a < b ∨ a = b ∧ s < t := by
  rw [List.cons_lt_cons_iff, UInt8.lt_iff_toNat_lt, ← UInt8.toNat_inj, UInt8.toNat_ofNat_of_lt' ha,
    UInt8.toNat_ofNat_of_lt' hb]

theorem val_lt (c : Char) : c.val.toNat < 1114112 := by
  have := c.valid
  simp only [UInt32.isValidChar, Nat.isValidChar] at this
  omega

/-- A smaller character has the smaller encoding, whatever follows. -/
theorem encodeChar_append_lt {c d : Char} (h : c < d) (s t : List UInt8) :
    String.utf8EncodeChar c ++ s < String.utf8EncodeChar d ++ t := by
  have hlt : c.val.toNat < d.val.toNat := h
  have hmax := val_lt d
  -- The digits in base 64 are split off one by one, so that each is what the last one left over.
  have hsq (n : Nat) : n / 4096 = n / 64 / 64 := by omega
  have hcb (n : Nat) : n / 262144 = n / 64 / 64 / 64 := by omega
  simp only [String.utf8EncodeChar, hsq, hcb]
  generalize c.val.toNat = v at *
  generalize d.val.toNat = w at *
  split_ifs
  all_goals
    simp (disch := omega) only [List.cons_append, List.nil_append, ofNat_cons_lt_iff]
    omega

theorem encode_lt {s t : List Char} (h : s < t) : encode s < encode t := by
  induction h with
  | @nil d t =>
      obtain ⟨b, bs, hb⟩ := List.exists_cons_of_ne_nil (String.utf8EncodeChar_ne_nil (c := d))
      rw [encode_nil, encode_cons, hb]
      exact List.nil_lt_cons _ _
  | rel h =>
      rw [encode_cons, encode_cons]
      exact encodeChar_append_lt h _ _
  | cons _ ih =>
      rw [encode_cons, encode_cons]
      exact List.append_left_lt ih

/-- Encodings are in the order of the texts, which is the order of code points. -/
theorem encode_lt_iff {s t : List Char} : encode s < encode t ↔ s < t := by
  refine ⟨?_, encode_lt⟩
  intro h
  by_contra hn
  rcases List.le_iff_lt_or_eq.mp (List.not_lt.mp hn) with hlt | rfl
  · exact List.lt_irrefl _ (List.lt_trans h (encode_lt hlt))
  · exact List.lt_irrefl _ h

end Text

namespace Search

theorem ranksBefore_iff {a b : String} : ranksBefore a b = true ↔ a ≤ b := by
  rw [ranksBefore, decide_eq_true_iff, ← List.not_lt, Text.encode_lt_iff, ← String.lt_iff_toList_lt,
    not_lt]

/-- A ranking of hits: the same hits, in the order of their forms, and hits of one form in the order
in which they were found. -/
structure IsRanking (found ranked : List Hit) : Prop where
  perm : ranked.Perm found
  sorted : ranked.Pairwise fun a b => a.form ≤ b.form
  stable : ∀ form, (ranked.filter fun h => h.form = form) = found.filter fun h => h.form = form

theorem ranksBefore_trans (a b c : Hit) : ranksBefore a.form b.form = true →
    ranksBefore b.form c.form = true → ranksBefore a.form c.form = true := by
  simpa only [ranksBefore_iff] using le_trans

theorem ranksBefore_total (a b : Hit) :
    (ranksBefore a.form b.form || ranksBefore b.form a.form) = true := by
  simpa only [Bool.or_eq_true, ranksBefore_iff] using le_total a.form b.form

theorem sorted_rank (hits : List Hit) : (rank hits).Pairwise fun a b => a.form ≤ b.form := by
  simp only [← ranksBefore_iff]
  exact List.pairwise_mergeSort ranksBefore_trans ranksBefore_total hits

theorem filter_rank (hits : List Hit) (form : String) :
    ((rank hits).filter fun h => h.form = form) = hits.filter fun h => h.form = form := by
  have heq : (hits.filter fun h => h.form = form).Pairwise fun a b =>
      ranksBefore a.form b.form = true := by
    apply List.pairwise_of_forall_mem_list
    intro a ha b hb
    simp only [List.mem_filter, decide_eq_true_eq] at ha hb
    exact ranksBefore_iff.mpr (le_of_eq (ha.2.trans hb.2.symm))
  have hsub : (hits.filter fun h => h.form = form).Sublist (rank hits) :=
    List.sublist_mergeSort ranksBefore_trans ranksBefore_total heq List.filter_sublist
  have hsub' := hsub.filter fun h => h.form = form
  rw [List.filter_filter] at hsub'
  simp only [Bool.and_self] at hsub'
  exact (hsub'.eq_of_length ((List.mergeSort_perm hits _).filter _).length_eq.symm).symm

theorem isRanking_rank (hits : List Hit) : IsRanking hits (rank hits) where
  perm := List.mergeSort_perm hits _
  sorted := sorted_rank hits
  stable := filter_rank hits

theorem eq_of_sorted_of_filter_eq {hits hits' : List Hit} (hp : hits.Perm hits')
    (hs : hits.Pairwise fun a b => a.form ≤ b.form)
    (hs' : hits'.Pairwise fun a b => a.form ≤ b.form)
    (hf : ∀ form, (hits.filter fun h => h.form = form) = hits'.filter fun h => h.form = form) :
    hits = hits' := by
  induction hits generalizing hits' with
  | nil => exact hp.nil_eq
  | cons a hits ih =>
      cases hits' with
      | nil => exact hp.eq_nil
      | cons b hits' =>
          have hle : ∀ x ∈ a :: hits, a.form ≤ x.form :=
            List.forall_mem_cons.mpr ⟨le_refl _, (List.pairwise_cons.mp hs).1⟩
          have hle' : ∀ x ∈ b :: hits', b.form ≤ x.form :=
            List.forall_mem_cons.mpr ⟨le_refl _, (List.pairwise_cons.mp hs').1⟩
          have hab : b.form = a.form :=
            le_antisymm (hle' a (hp.mem_iff.mp (by simp))) (hle b (hp.mem_iff.mpr (by simp)))
          obtain rfl : a = b := by
            have h := hf a.form
            simp only [List.filter_cons, hab, decide_true, ↓reduceIte] at h
            exact (List.cons.inj h).1
          congr 1
          apply ih hp.cons_inv (List.pairwise_cons.mp hs).2 (List.pairwise_cons.mp hs').2
          intro form
          have h := hf form
          simp only [List.filter_cons] at h
          split at h
          · exact (List.cons.inj h).2
          · exact h

/-- There is one ranking only. -/
theorem IsRanking.unique {found ranked ranked' : List Hit} (h : IsRanking found ranked)
    (h' : IsRanking found ranked') : ranked = ranked' :=
  eq_of_sorted_of_filter_eq (h.perm.trans h'.perm.symm) h.sorted h'.sorted
    fun form => (h.stable form).trans (h'.stable form).symm

/-- Leaving hits out of a ranking gives the ranking of the others. -/
theorem rank_filter (keep : Hit → Bool) (hits : List Hit) :
    (rank hits).filter keep = rank (hits.filter keep) := by
  have h := isRanking_rank hits
  have hkept : IsRanking (hits.filter keep) ((rank hits).filter keep) := by
    refine ⟨h.perm.filter keep, h.sorted.filter keep, ?_⟩
    intro form
    rw [List.filter_comm, h.stable, List.filter_comm]
  exact hkept.unique (isRanking_rank _)

theorem isRanking_iff {found ranked : List Hit} : IsRanking found ranked ↔ ranked = rank found := by
  constructor
  · intro h
    exact h.unique (isRanking_rank found)
  · rintro rfl
    exact isRanking_rank found

end Search

end Lexicon
