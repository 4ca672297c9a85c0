import Lexicon.Proofs.Ranking

/-!
# Ranking by code points

The order in which texts rank is the lexicographic order of their code points, and comparing the
bytes of their encodings decides it, whatever the lengths of the encodings. A ranking is therefore
determined by the hits and by the code points of their forms alone; ranking again changes nothing,
and hits may be left out before or after.
-/

namespace Lexicon

namespace Text

/-- The code points of a text. -/
def codePoints (s : String) : List Nat := s.toList.map Char.toNat

theorem strictMono_codePoints : StrictMono codePoints := by
  intro s t h
  apply List.map_lt
  · intro c d hcd
    exact hcd
  · exact String.lt_iff_toList_lt.mp h

/-- Texts are in the order of their code points. -/
theorem codePoints_le_iff {s t : String} : codePoints s ≤ codePoints t ↔ s ≤ t :=
  strictMono_codePoints.le_iff_le

theorem encode_lt_iff_codePoints {s t : String} :
    encode s.toList < encode t.toList ↔ codePoints s < codePoints t := by
  rw [encode_lt_iff, ← String.lt_iff_toList_lt, strictMono_codePoints.lt_iff_lt]

/-- No two texts have one encoding. -/
theorem encode_inj {s t : List Char} : encode s = encode t ↔ s = t := by
  constructor
  · intro h
    have hnot : ¬ s < t ∧ ¬ t < s := by
      rw [← encode_lt_iff, ← encode_lt_iff, h]
      exact ⟨List.lt_irrefl _, List.lt_irrefl _⟩
    exact List.le_antisymm (List.not_lt.mp hnot.2) (List.not_lt.mp hnot.1)
  · rintro rfl
    rfl

end Text

namespace Search

open Text (codePoints)

/-- Ranking hits that are ranked already leaves them as they are. -/
theorem rank_rank (hits : List Hit) : rank (rank hits) = rank hits := by
  have h : IsRanking (rank hits) (rank hits) := ⟨.refl _, sorted_rank hits, fun _ => rfl⟩
  exact (isRanking_iff.mp h).symm

/-- Of all orders in which hits can stand, ranking picks the only one in which the code points of
the forms ascend and hits of one form stand as they stood before. Comparing bytes tells texts apart
and orders them as code points do. Ranking twice is ranking once, and hits may be left out before or
after. -/
theorem rank_by_codePoints (hits : List Hit) :
    (∀ ranked, (ranked.Perm hits ∧
        (ranked.Pairwise fun a b => codePoints a.form ≤ codePoints b.form) ∧
        ∀ form, (ranked.filter fun h => h.form = form) = hits.filter fun h => h.form = form) ↔
      ranked = rank hits) ∧
    (∀ s t : String,
      (ranksBefore s t = true ↔ codePoints s ≤ codePoints t) ∧
        (Text.encode s.toList < Text.encode t.toList ↔ codePoints s < codePoints t) ∧
        (Text.encode s.toList = Text.encode t.toList ↔ codePoints s = codePoints t)) ∧
    rank (rank hits) = rank hits ∧
    ∀ keep, (rank hits).filter keep = rank (hits.filter keep) := by
  refine ⟨fun ranked => ?_, fun s t => ⟨?_, Text.encode_lt_iff_codePoints, ?_⟩, rank_rank hits,
    fun keep => rank_filter keep hits⟩
  · simp only [Text.codePoints_le_iff, ← isRanking_iff]
    constructor
    · rintro ⟨hperm, hsorted, hstable⟩
      exact ⟨hperm, hsorted, hstable⟩
    · rintro ⟨hperm, hsorted, hstable⟩
      exact ⟨hperm, hsorted, hstable⟩
  · rw [ranksBefore_iff, Text.codePoints_le_iff]
  · rw [Text.encode_inj, String.toList_inj, Text.strictMono_codePoints.injective.eq_iff]

/-- The last character of the first plane ranks before one of the second. -/
example : ranksBefore "\uffff" "😀" = true := by decide

end Search

end Lexicon
