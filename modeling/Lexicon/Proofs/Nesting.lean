import Lexicon.Proofs.Parsing
import Mathlib.Data.Nat.Basic
import Mathlib.Order.MinMax

/-!
# How deep scripts nest

Every parenthesis opens a level up to its partner, and every negation opens one up to the end of its
operand. The nesting of a script is the greatest number of levels that are open at a time. It is
read off the tokens alone, and it is what a limit on derivations bounds: whatever is derived within
some limit is derived within another one exactly if its levels fit in there.
-/

namespace Lexicon.Script

/-- What opens a level. -/
inductive Level where
  | group
  | negation
deriving Repr, DecidableEq

/-- The open levels, from the innermost on, when an operand is over: the negations in front of it
are over as well. -/
def afterOperand : List Level → List Level
  | .negation :: levels => afterOperand levels
  | levels => levels

/-- The open levels behind a token. -/
def afterToken (levels : List Level) : Token → List Level
  | .leftParen => .group :: levels
  | .neg => .negation :: levels
  | .rightParen => afterOperand levels.tail
  | .constant _ | .name _ => afterOperand levels
  | _ => levels

/-- The open levels behind some tokens. -/
def afterTokens (levels : List Level) (ts : List Token) : List Level :=
  ts.foldl afterToken levels

/-- The greatest number of levels that are open at a time, before the tokens or behind one of
them. -/
def deepest (levels : List Level) : List Token → Nat
  | [] => levels.length
  | t :: ts => max levels.length (deepest (afterToken levels t) ts)

/-- How deep a text nests that is cut into tokens. -/
def nesting (source : String) : Nat :=
  match tokenize source with
  | .ok ps => deepest [] (ps.map Placed.token)
  | .error _ => 0

theorem afterOperand_length_le (levels : List Level) :
    (afterOperand levels).length ≤ levels.length := by
  fun_induction afterOperand levels with
  | case1 levels ih => exact Nat.le_succ_of_le ih
  | case2 => exact Nat.le_refl _

theorem afterTokens_append (levels : List Level) (us vs : List Token) :
    afterTokens levels (us ++ vs) = afterTokens (afterTokens levels us) vs :=
  List.foldl_append

theorem deepest_append (levels : List Level) (us vs : List Token) :
    deepest levels (us ++ vs) =
      max (deepest levels us) (deepest (afterTokens levels us) vs) := by
  induction us generalizing levels with
  | nil =>
      cases vs with
      | nil => simp [deepest, afterTokens]
      | cons v vs => simp [deepest, afterTokens]
  | cons u us ih =>
      rw [List.cons_append, deepest, ih, deepest, max_assoc]
      rfl

theorem length_le_deepest (levels : List Level) (ts : List Token) :
    levels.length ≤ deepest levels ts := by
  cases ts with
  | nil => exact Nat.le_refl _
  | cons t ts => exact Nat.le_max_left _ _

/-- No negation waits for its operand where a chain begins. -/
def Settled (levels : List Level) : Category → Prop
  | .disjunction | .conjunction => afterOperand levels = levels
  | .unary | .primary | .test => True

/-- Wherever they stand as a phrase of the category, the tokens have as many levels open beyond
those around them as they have alone, and behind them an operand is over. -/
def Spans (c : Category) (ts : List Token) : Prop :=
  ∀ levels, Settled levels c →
    afterTokens levels ts = afterOperand levels ∧
      deepest levels ts = levels.length + deepest [] ts

section Chains
variable {c c' : Category} {separator : Token} {ts : List Token}
  {more : List (List Token × Expr)}

/-- Further members of a chain, each behind a separator, open no more levels than each of them
does. -/
theorem spans_more (hsep : ∀ levels, afterToken levels separator = levels)
    (hc : ∀ levels, afterOperand levels = levels → Settled levels c)
    (hm : ∀ m ∈ more, Spans c m.1) (levels : List Level) (hl : afterOperand levels = levels) :
    afterTokens levels (more.flatMap fun m => separator :: m.1) = levels ∧
      ∀ k, deepest levels (more.flatMap fun m => separator :: m.1) ≤ levels.length + k ↔
        ∀ m ∈ more, deepest [] m.1 ≤ k := by
  induction more with
  | nil => exact ⟨rfl, by simp [deepest]⟩
  | cons m more ih =>
      obtain ⟨hfirst, hrest⟩ := List.forall_mem_cons.mp hm
      obtain ⟨hafter, hdeep⟩ := hfirst levels (hc levels hl)
      obtain ⟨hafter', hdeep'⟩ := ih hrest
      have hover : afterTokens levels (separator :: m.1) = levels := by
        rw [afterTokens, List.foldl_cons, hsep]
        exact hafter.trans hl
      rw [List.flatMap_cons, afterTokens_append, hover]
      refine ⟨hafter', ?_⟩
      intro k
      rw [deepest_append, hover, max_le_iff, hdeep', List.forall_mem_cons, deepest, hsep, hdeep]
      apply and_congr_left
      intro _
      omega

/-- A chain opens no more levels than each of its members does. -/
theorem spans_members (hsep : ∀ levels, afterToken levels separator = levels)
    (hc : ∀ levels, afterOperand levels = levels → Settled levels c) (hf : Spans c ts)
    (hm : ∀ m ∈ more, Spans c m.1) (levels : List Level) (hl : afterOperand levels = levels) :
    afterTokens levels (ts ++ more.flatMap fun m => separator :: m.1) = levels ∧
      ∀ k, deepest levels (ts ++ more.flatMap fun m => separator :: m.1) ≤ levels.length + k ↔
        deepest [] ts ≤ k ∧ ∀ m ∈ more, deepest [] m.1 ≤ k := by
  obtain ⟨hafter, hdeep⟩ := hf levels (hc levels hl)
  obtain ⟨hafter', hdeep'⟩ := spans_more hsep hc hm levels hl
  rw [hl] at hafter
  rw [afterTokens_append, hafter]
  refine ⟨hafter', ?_⟩
  intro k
  rw [deepest_append, hafter, max_le_iff, hdeep', hdeep, Nat.add_le_add_iff_left]

theorem deepest_chain_le_iff (hsep : ∀ levels, afterToken levels separator = levels)
    (hc : ∀ levels, afterOperand levels = levels → Settled levels c) (hf : Spans c ts)
    (hm : ∀ m ∈ more, Spans c m.1) {k : Nat} :
    deepest [] (ts ++ more.flatMap fun m => separator :: m.1) ≤ k ↔
      deepest [] ts ≤ k ∧ ∀ m ∈ more, deepest [] m.1 ≤ k := by
  simpa using (spans_members hsep hc hf hm [] rfl).2 k

theorem spans_chain (hsep : ∀ levels, afterToken levels separator = levels)
    (hc : ∀ levels, afterOperand levels = levels → Settled levels c)
    (hc' : ∀ levels, Settled levels c' → afterOperand levels = levels) (hf : Spans c ts)
    (hm : ∀ m ∈ more, Spans c m.1) :
    Spans c' (ts ++ more.flatMap fun m => separator :: m.1) := by
  intro levels hl
  have hl := hc' levels hl
  obtain ⟨hafter, hdeep⟩ := spans_members hsep hc hf hm levels hl
  refine ⟨hafter.trans hl.symm, ?_⟩
  have halone {k : Nat} := deepest_chain_le_iff (k := k) hsep hc hf hm
  have hge := length_le_deepest levels (ts ++ more.flatMap fun m => separator :: m.1)
  have hle := (hdeep _).mpr (halone.mp (Nat.le_refl _))
  obtain ⟨k, hk⟩ := Nat.exists_eq_add_of_le hge
  have hle' := halone.mpr ((hdeep k).mp hk.le)
  omega

end Chains

section Derivations
variable {limit limit' n n' : Nat} {c : Category} {ts : List Token} {e : Expr}

theorem Spans.neg (h : Spans .unary ts) :
    Spans .unary (.neg :: ts) ∧ deepest [] (.neg :: ts) = deepest [] ts + 1 := by
  have hdeep (levels : List Level) :
      deepest levels (.neg :: ts) = levels.length + (deepest [] ts + 1) := by
    rw [deepest, afterToken, (h (.negation :: levels) trivial).2, List.length_cons]
    omega
  have halone : deepest [] (.neg :: ts) = deepest [] ts + 1 := by simpa using hdeep []
  refine ⟨?_, halone⟩
  intro levels _
  exact ⟨(h (.negation :: levels) trivial).1, halone ▸ hdeep levels⟩

theorem Spans.parens (h : Spans .disjunction ts) :
    Spans .primary (.leftParen :: ts ++ [.rightParen]) ∧
      deepest [] (.leftParen :: ts ++ [.rightParen]) = deepest [] ts + 1 := by
  have hafter (levels : List Level) : afterTokens (.group :: levels) ts = .group :: levels :=
    (h (.group :: levels) rfl).1
  have hdeep (levels : List Level) :
      deepest levels (.leftParen :: ts ++ [.rightParen]) =
        levels.length + (deepest [] ts + 1) := by
    have hle := afterOperand_length_le levels
    rw [List.cons_append, deepest, afterToken, deepest_append, hafter,
      (h (.group :: levels) rfl).2]
    simp only [deepest, afterToken, List.tail_cons, List.length_cons]
    omega
  have halone : deepest [] (.leftParen :: ts ++ [.rightParen]) = deepest [] ts + 1 := by
    simpa using hdeep []
  refine ⟨?_, halone⟩
  intro levels _
  refine ⟨?_, halone ▸ hdeep levels⟩
  rw [List.cons_append, afterTokens, List.foldl_cons, ← afterTokens, afterToken,
    afterTokens_append, hafter]
  rfl

/-- A test or a constant opens no level. -/
theorem spans_atom (hafter : ∀ levels, afterTokens levels ts = afterOperand levels)
    (hdeep : ∀ levels, deepest levels ts = max levels.length (afterOperand levels).length) :
    Spans c ts ∧ deepest [] ts = 0 := by
  have halone : deepest [] ts = 0 := hdeep []
  refine ⟨?_, halone⟩
  intro levels _
  rw [hdeep, halone, max_eq_left (afterOperand_length_le levels)]
  exact ⟨hafter levels, rfl⟩

/-- The tokens of a phrase end what they open. -/
theorem Derives.spans (d : Derives limit n c ts e) : Spans c ts := by
  induction d with
  | disjunct _ ih => exact ih
  | disjunction _ _ _ ihf ihm =>
      exact spans_chain (fun _ => rfl) (fun _ => id) (fun _ => id) ihf ihm
  | conjunct _ ih => exact fun levels _ => ih levels trivial
  | conjunction _ _ _ ihf ihm =>
      exact spans_chain (c := .unary) (fun _ => rfl) (fun _ _ => trivial) (fun _ => id) ihf ihm
  | negation _ _ ih => exact ih.neg.1
  | primary _ ih => exact ih
  | group _ _ ih => exact ih.parens.1
  | constant => exact (spans_atom (fun _ => rfl) (by simp [deepest, afterToken])).1
  | test _ ih => exact ih
  | compareId | compareText | present =>
      exact (spans_atom (fun _ => rfl) (by simp [deepest, afterToken])).1

/-- The levels of a phrase fit into the limit within which it is derived. -/
theorem Derives.deepest_le (d : Derives limit n c ts e) (hn : n ≤ limit) :
    deepest [] ts ≤ limit - n := by
  induction d with
  | disjunct _ ih | conjunct _ ih | primary _ ih | test _ ih => exact ih hn
  | disjunction _ hf hm ihf ihm =>
      exact (deepest_chain_le_iff (fun _ => rfl) (fun _ => id) hf.spans fun m h => (hm m h).spans).mpr
        ⟨ihf hn, fun m h => ihm m h hn⟩
  | conjunction _ hf hm ihf ihm =>
      exact (deepest_chain_le_iff (c := .unary) (fun _ => rfl) (fun _ _ => trivial) hf.spans
        fun m h => (hm m h).spans).mpr ⟨ihf hn, fun m h => ihm m h hn⟩
  | negation room d ih =>
      have := ih room
      rw [d.spans.neg.2]
      omega
  | group room d ih =>
      have := ih room
      rw [d.spans.parens.2]
      omega
  | _ => simp [deepest, afterToken, afterOperand]

/-- A phrase is derived within every limit into which its levels fit. -/
theorem Derives.within (d : Derives limit n c ts e) (h : n' + deepest [] ts ≤ limit') :
    Derives limit' n' c ts e := by
  induction d generalizing n' with
  | disjunct _ ih => exact .disjunct (ih h)
  | disjunction ne hf hm ihf ihm =>
      obtain ⟨hfirst, hmore⟩ := (deepest_chain_le_iff (fun _ => rfl) (fun _ => id) hf.spans
        fun m hmem => (hm m hmem).spans).mp (Nat.le_sub_of_add_le' h)
      refine .disjunction ne (ihf (by omega)) fun m hmem => ?_
      have := hmore m hmem
      exact ihm m hmem (by omega)
  | conjunct _ ih => exact .conjunct (ih h)
  | conjunction ne hf hm ihf ihm =>
      obtain ⟨hfirst, hmore⟩ := (deepest_chain_le_iff (c := .unary) (fun _ => rfl)
        (fun _ _ => trivial) hf.spans fun m hmem => (hm m hmem).spans).mp
        (Nat.le_sub_of_add_le' h)
      refine .conjunction ne (ihf (by omega)) fun m hmem => ?_
      have := hmore m hmem
      exact ihm m hmem (by omega)
  | negation _ d ih =>
      rw [d.spans.neg.2] at h
      exact .negation (by omega) (ih (by omega))
  | primary _ ih => exact .primary (ih h)
  | group _ d ih =>
      rw [d.spans.parens.2] at h
      exact .group (by omega) (ih (by omega))
  | constant => exact .constant
  | test _ ih => exact .test (ih h)
  | compareId hn => exact .compareId hn
  | compareText hn => exact .compareText hn
  | present hn => exact .present hn

end Derivations

end Lexicon.Script
