import Lexicon.Proofs.Grammar
import Lexicon.Script.Parser

/-!
# The parser and the grammar

The parser accepts a list of tokens exactly when the grammar derives it, and then returns the tree
of the derivation. Each phrase of the parser is described by what it reads from the front of the
tokens; the budget of a phrase and the depth of a derivation always add up to the limit.
-/

namespace Lexicon.Script

/-- From the front of the tokens a phrase reads an expression, and it leaves the rest. -/
def Reads (p : Phrase) (ts : List Placed) (e : Expr) (rest : List Placed) : Prop :=
  ∃ h, p ts = .ok ⟨e, rest, h⟩

theorem Reads.of_eq {p : Phrase} {ts : List Placed} {r : Parsed ts} (h : p ts = .ok r) :
    Reads p ts r.expr r.rest :=
  ⟨r.shorter, h⟩

/-- A phrase reads at most one expression from given tokens. -/
theorem Reads.functional {p : Phrase} {ts : List Placed} {e e' : Expr} {rest rest' : List Placed}
    (h : Reads p ts e rest) (h' : Reads p ts e' rest') : e = e' ∧ rest = rest' := by
  obtain ⟨_, h⟩ := h
  obtain ⟨_, h'⟩ := h'
  rw [h] at h'
  injection h' with h'
  exact ⟨congrArg Parsed.expr h', congrArg Parsed.rest h'⟩

section Chains
variable {separator : Token} {node : List Expr → Expr} {member : Phrase}

/-- From the front of the tokens a chain reads further members, each behind a separator. -/
inductive ReadsMore (separator : Token) (member : Phrase) :
    List Placed → List Expr → List Placed → Prop
  | stop {ts} (h : ∀ t ∈ ts.head?, t.token ≠ separator) : ReadsMore separator member ts [] ts
  | more {t ts us e es rest} (ht : t.token = separator) (first : Reads member ts e us)
      (tail : ReadsMore separator member us es rest) :
      ReadsMore separator member (t :: ts) (e :: es) rest

theorem readsMore_of_eq {start done ts : _} {h : ts.length < start.length} {ms : Members start}
    (he : moreMembers separator member done ts h = .ok ms) :
    ∃ es, ms.exprs = done.reverse ++ es ∧ ReadsMore separator member ts es ms.rest := by
  fun_induction moreMembers separator member done ts h with
  | case1 done h =>
      cases he
      exact ⟨[], by simp, .stop (by simp)⟩
  | case2 done t rest h ht p hp _ _ ih =>
      obtain ⟨es, hes, hr⟩ := ih he
      exact ⟨p.expr :: es, by simp [hes], .more ht (.of_eq hp) hr⟩
  | case3 => cases he
  | case4 done t rest h ht =>
      cases he
      exact ⟨[], by simp, .stop (by simpa using ht)⟩

theorem ReadsMore.eq {ts rest : List Placed} {es : List Expr}
    (hr : ReadsMore separator member ts es rest) {start : List Placed} (done : List Expr)
    (h : ts.length < start.length) :
    ∃ h', moreMembers separator member done ts h =
      .ok (⟨done.reverse ++ es, rest, h'⟩ : Members start) := by
  induction hr generalizing done with
  | @stop ts hts =>
      refine ⟨h, ?_⟩
      cases ts with
      | nil => simp [moreMembers]
      | cons t ts => simp [moreMembers, show t.token ≠ separator from hts t rfl]
  | @more t ts us e es rest ht first _ ih =>
      obtain ⟨hlt, hp⟩ := first
      have hus : us.length < start.length := by
        simp only [List.length_cons] at h; omega
      obtain ⟨h', he⟩ := ih (e :: done) hus
      refine ⟨h', ?_⟩
      rw [moreMembers]
      simp only [ht, ↓reduceIte, hp]
      simpa using he

/-- A chain reads a first member and then all further ones. -/
theorem reads_chain_iff {ts rest : List Placed} {e : Expr} :
    Reads (chain separator node member) ts e rest ↔
      ∃ first us more, Reads member ts first us ∧ ReadsMore separator member us more rest ∧
        e = joinMembers node (first :: more) := by
  constructor
  · rintro ⟨hlt, h⟩
    rw [chain] at h
    split at h
    · cases h
    · rename_i first hf
      split at h
      · cases h
      · rename_i ms hms
        cases h
        obtain ⟨more, hes, hr⟩ := readsMore_of_eq hms
        exact ⟨first.expr, first.rest, more, .of_eq hf, hr, by simp [hes]⟩
  · rintro ⟨first, us, more, ⟨hlt, hf⟩, hr, rfl⟩
    obtain ⟨h', hms⟩ := hr.eq [first] hlt
    refine ⟨h', ?_⟩
    simp only [chain, hf, hms, List.reverse_singleton, List.singleton_append]

end Chains

section Phrases
variable {fin : Nat} {e : Expr} {ts rest : List Placed}

/-- A negation reads the phrase behind it with one level less to spend. -/
theorem reads_neg_iff {budget offset : Nat} :
    Reads (unary fin budget) (⟨offset, .neg⟩ :: ts) e rest ↔
      ∃ less inner, budget = less + 1 ∧ Reads (unary fin less) ts inner rest ∧ e = .not inner := by
  cases budget with
  | zero => simp [Reads, unary]
  | succ less =>
      rw [Reads, unary]
      constructor
      · rintro ⟨hlt, h⟩
        split at h
        · rename_i p hp
          cases h
          exact ⟨less, p.expr, rfl, .of_eq hp, rfl⟩
        · cases h
      · rintro ⟨_, inner, ⟨⟩, ⟨hlt, hp⟩, rfl⟩
        exact ⟨Nat.lt_succ_of_lt hlt, by simp [hp]⟩

theorem closeParen_eq_ok_iff {t : Placed} {p : Parsed ts} :
    (∃ h, closeParen fin t p = .ok ⟨e, rest, h⟩) ↔
      e = p.expr ∧ ∃ close, p.rest = ⟨close, .rightParen⟩ :: rest := by
  constructor
  · rintro ⟨hlt, h⟩
    rw [closeParen] at h
    split at h
    · rename_i close rest' hr
      cases h
      exact ⟨rfl, close, hr⟩
    · cases h
    · cases h
  · rintro ⟨rfl, close, hr⟩
    have hlt : rest.length < (t :: ts).length := by
      have := p.shorter
      simp only [hr, List.length_cons] at this ⊢
      omega
    refine ⟨hlt, ?_⟩
    rw [closeParen]
    split
    · rename_i h
      simp_all
    · rename_i hne h
      simp_all
    · rename_i h
      simp_all

/-- A parenthesis reads the disjunction behind it with one level less to spend, and its closing
partner. -/
theorem reads_leftParen_iff {budget offset : Nat} :
    Reads (unary fin budget) (⟨offset, .leftParen⟩ :: ts) e rest ↔
      ∃ less close, budget = less + 1 ∧
        Reads (disjunction (unary fin less)) ts e (⟨close, .rightParen⟩ :: rest) := by
  cases budget with
  | zero => simp [Reads, unary]
  | succ less =>
      rw [Reads, unary]
      constructor
      · rintro ⟨hlt, h⟩
        split at h
        · rename_i p hp
          obtain ⟨rfl, close, hr⟩ := closeParen_eq_ok_iff.mp ⟨hlt, h⟩
          exact ⟨less, close, rfl, hr ▸ .of_eq hp⟩
        · cases h
      · rintro ⟨_, close, ⟨⟩, ⟨hlt, hp⟩⟩
        simp only [hp]
        exact closeParen_eq_ok_iff.mpr ⟨rfl, close, rfl⟩

/-- Away from negations and parentheses a unary phrase is an atom. -/
theorem unary_eq_atom {budget : Nat}
    (h : ∀ t ∈ ts.head?, t.token ≠ .neg ∧ t.token ≠ .leftParen) :
    unary fin budget ts = atom fin ts := by
  rw [unary]
  · rintro offset rest rfl
    exact (h _ rfl).1 rfl
  · rintro offset rest rfl
    exact (h _ rfl).2 rfl

theorem reads_constant_iff {offset : Nat} {value : Bool} :
    Reads (atom fin) (⟨offset, .constant value⟩ :: ts) e rest ↔ e = .const value ∧ rest = ts := by
  rw [Reads, atom]
  constructor
  · rintro ⟨hlt, h⟩
    cases h
    exact ⟨rfl, rfl⟩
  · rintro ⟨rfl, rfl⟩
    exact ⟨by simp, rfl⟩

/-- A comparison of the number is an operator and an integer. -/
theorem readComparison_eq_ok_iff {t : Placed} :
    (∃ h, readComparison fin t ts = .ok ⟨e, rest, h⟩) ↔
      ∃ o o' comparison value, e = .compareId comparison value ∧
        ts = ⟨o, .operator (Comparison.operator comparison)⟩ :: ⟨o', .integer value⟩ :: rest := by
  constructor
  · rintro ⟨hlt, h⟩
    unfold readComparison at h
    split at h
    · rename_i o op rest₁
      split at h
      · cases h
      · rename_i comparison hop
        split at h
        · rename_i o' value rest₂
          cases h
          exact ⟨o, o', comparison, value, rfl, by rw [comparison?_eq_some_iff.mp hop]⟩
        · cases h
        · cases h
    · cases h
    · cases h
  · rintro ⟨o, o', comparison, value, rfl, rfl⟩
    have hop := comparison?_eq_some_iff.mpr (rfl : comparison.operator = _)
    exact ⟨by simp only [List.length_cons]; omega, by simp only [readComparison, hop]⟩

/-- Behind a field stand an operator and a text, or the phrase is over. -/
theorem readTest_eq_ok_iff {field : Field} {t : Placed} :
    (∃ h, readTest fin field t ts = .ok ⟨e, rest, h⟩) ↔
      (e = .present field ∧ rest = ts ∧ ∀ u ∈ ts.head?, ∀ op, u.token ≠ .operator op) ∨
      ∃ o o' relation literal, e = .test field relation literal ∧
        ts = ⟨o, .operator (TextRelation.operator relation)⟩ :: ⟨o', .text literal⟩ :: rest := by
  constructor
  · rintro ⟨hlt, h⟩
    unfold readTest at h
    split at h
    · rename_i o op rest₁
      split at h
      · cases h
      · rename_i relation hop
        split at h
        · rename_i o' literal rest₂
          cases h
          exact .inr ⟨o, o', relation, literal, rfl, by rw [textRelation?_eq_some_iff.mp hop]⟩
        · cases h
        · cases h
    · rename_i hne
      cases h
      apply Or.inl
      refine ⟨rfl, rfl, ?_⟩
      intro u hu op hop
      cases ts with
      | nil => simp at hu
      | cons v vs =>
          obtain rfl : v = u := by simpa using hu
          exact hne v.offset op vs (by rw [← hop])
  · rintro (⟨rfl, rfl, hne⟩ | ⟨o, o', relation, literal, rfl, rfl⟩)
    · refine ⟨by simp, ?_⟩
      rw [readTest]
      rintro o op rest₁ rfl
      exact hne _ rfl op rfl
    · have hop := textRelation?_eq_some_iff.mpr (rfl : relation.operator = _)
      exact ⟨by simp only [List.length_cons]; omega, by simp only [readTest, hop]⟩

/-- A name begins a comparison of the number, or a test of a field. -/
theorem reads_name_iff {offset : Nat} {name : String} :
    Reads (atom fin) (⟨offset, .name name⟩ :: ts) e rest ↔
      (NamesId name ∧ ∃ h, readComparison fin ⟨offset, .name name⟩ ts = .ok ⟨e, rest, h⟩) ∨
      ∃ field, Field.Named field name ∧
        ∃ h, readTest fin field ⟨offset, .name name⟩ ts = .ok ⟨e, rest, h⟩ := by
  rw [Reads, atom]
  by_cases hid : isIdName name = true
  · have hn := isIdName_iff.mp hid
    simp [hid, hn, not_named_of_namesId hn]
  · have hn : ¬ NamesId name := fun h => hid (isIdName_iff.mpr h)
    simp only [hid, hn, Bool.false_eq_true, ↓reduceIte, false_and, false_or]
    cases hf : Field.ofName? name with
    | none => simp [← ofName?_eq_some_iff, hf]
    | some field => simp [← ofName?_eq_some_iff, hf]

/-- No other token begins an atom. -/
theorem not_reads_atom {t : Placed} (hc : ∀ value, t.token ≠ .constant value)
    (hn : ∀ name, t.token ≠ .name name) : ¬ Reads (atom fin) (t :: ts) e rest := by
  rintro ⟨hlt, h⟩
  rw [atom] at h
  split at h
  · exact hc _ ‹_›
  · exact hn _ ‹_›
  · cases h

end Phrases

section Soundness
variable {separator : Token} {node : List Expr → Expr} {member : Phrase}
  {derives : List Token → Expr → Prop} {ts rest : List Placed} {e : Expr} {es : List Expr}

/-- Whatever the phrase reads has a derivation. -/
def IsSound (p : Phrase) (derives : List Token → Expr → Prop) : Prop :=
  ∀ ⦃ts e rest⦄, Reads p ts e rest → ∃ us, ts = us ++ rest ∧ derives (us.map Placed.token) e

theorem ReadsMore.sound (hm : IsSound member derives)
    (h : ReadsMore separator member ts es rest) :
    ∃ us, ∃ more : List (List Token × Expr), ts = us ++ rest ∧
      us.map Placed.token = (more.flatMap fun m => separator :: m.1) ∧
      es = more.map Prod.snd ∧ ∀ m ∈ more, derives m.1 m.2 := by
  induction h with
  | stop => exact ⟨[], [], rfl, rfl, rfl, by simp⟩
  | @more t ts us e es rest ht first _ ih =>
      obtain ⟨vs, rfl, hd⟩ := hm first
      obtain ⟨ws, more, rfl, htok, hes, hall⟩ := ih
      refine ⟨t :: vs ++ ws, (vs.map Placed.token, e) :: more, by simp, ?_, by simp [hes], ?_⟩
      · simp [ht, htok]
      · exact List.forall_mem_cons.mpr ⟨hd, hall⟩

/-- A chain of phrases that are sound splits into derived members. -/
theorem chain_sound (hm : IsSound member derives)
    (h : Reads (chain separator node member) ts e rest) :
    ∃ us vs first, ∃ more : List (List Token × Expr), ts = us ++ rest ∧
      us.map Placed.token = (vs ++ more.flatMap fun m => separator :: m.1) ∧ derives vs first ∧
      (∀ m ∈ more, derives m.1 m.2) ∧ e = joinMembers node (first :: more.map Prod.snd) := by
  obtain ⟨first, mid, es, hf, hr, rfl⟩ := reads_chain_iff.mp h
  obtain ⟨us, rfl, hd⟩ := hm hf
  obtain ⟨vs, more, rfl, htok, rfl, hall⟩ := hr.sound hm
  exact ⟨us ++ vs, _, first, more, by simp, by simp [htok], hd, hall, rfl⟩

theorem joinMembers_cons_of_ne_nil (node : List Expr → Expr) {es : List Expr} (h : es ≠ []) :
    joinMembers node (e :: es) = node (e :: es) := by
  cases es with
  | nil => exact absurd rfl h
  | cons => rfl

/-- A chain is sound for what is derived from one member alone and from several members. -/
theorem chain_isSound {derives' : List Token → Expr → Prop} (hm : IsSound member derives)
    (hone : ∀ {vs e}, derives vs e → derives' vs e)
    (hmany : ∀ {vs e} {more : List (List Token × Expr)}, more ≠ [] → derives vs e →
      (∀ m ∈ more, derives m.1 m.2) →
        derives' (vs ++ more.flatMap fun m => separator :: m.1) (node (e :: more.map Prod.snd))) :
    IsSound (chain separator node member) derives' := by
  intro ts e rest h
  obtain ⟨us, vs, first, more, rfl, htok, hd, hall, rfl⟩ := chain_sound hm h
  refine ⟨us, rfl, ?_⟩
  rw [htok]
  by_cases hne : more = []
  · subst hne
    simpa [joinMembers] using hone hd
  · rw [joinMembers_cons_of_ne_nil _ (by simpa using hne)]
    exact hmany hne hd hall

variable {limit n fin budget : Nat}

theorem disjunction_sound (hu : IsSound (unary fin budget) (Derives limit n .unary)) :
    IsSound (disjunction (unary fin budget)) (Derives limit n .disjunction) := by
  have hconj : IsSound (chain .conj .all (unary fin budget)) (Derives limit n .conjunction) :=
    chain_isSound hu .conjunct .conjunction
  exact chain_isSound hconj .disjunct .disjunction

theorem atom_sound : IsSound (atom fin) (Derives limit n .primary) := by
  intro ts e rest h
  cases ts with
  | nil =>
      obtain ⟨_, h⟩ := h
      cases h
  | cons t ts =>
      obtain ⟨offset, token⟩ := t
      cases token with
      | constant value =>
          obtain ⟨rfl, rfl⟩ := reads_constant_iff.mp h
          exact ⟨[_], rfl, .constant⟩
      | name name =>
          rcases reads_name_iff.mp h with ⟨hn, hc⟩ | ⟨field, hn, ht⟩
          · obtain ⟨o, o', comparison, value, rfl, rfl⟩ := readComparison_eq_ok_iff.mp hc
            exact ⟨[_, _, _], rfl, .test (.compareId hn)⟩
          · rcases readTest_eq_ok_iff.mp ht with
              ⟨rfl, rfl, -⟩ | ⟨o, o', relation, literal, rfl, rfl⟩
            · exact ⟨[_], rfl, .test (.present hn)⟩
            · exact ⟨[_, _, _], rfl, .test (.compareText hn)⟩
      | _ => exact absurd h (not_reads_atom (by simp) (by simp))

/-- What a unary phrase reads is derived at the depth that makes up the limit with its budget. -/
theorem unary_sound (h : n + budget = limit) :
    IsSound (unary fin budget) (Derives limit n .unary) := by
  -- The members of a group are read with the lesser budget, by the chains over `unary`; so the
  -- induction is on the budget and each chain takes the hypothesis as it stands.
  induction budget using Nat.strongRecOn generalizing n with
  | ind budget ih =>
      intro ts e rest hr
      have hatom : Reads (atom fin) ts e rest →
          ∃ us, ts = us ++ rest ∧ Derives limit n .unary (us.map Placed.token) e := by
        intro ha
        obtain ⟨us, hus, hd⟩ := atom_sound ha
        exact ⟨us, hus, .primary hd⟩
      cases ts with
      | nil => exact hatom (by rwa [Reads, ← unary_eq_atom (by simp)])
      | cons t ts =>
          obtain ⟨offset, token⟩ := t
          cases token with
          | neg =>
              obtain ⟨less, inner, rfl, hi, rfl⟩ := reads_neg_iff.mp hr
              obtain ⟨us, rfl, hd⟩ := ih less (by omega) (by omega : n + 1 + less = limit) hi
              exact ⟨_ :: us, rfl, .negation (by omega) hd⟩
          | leftParen =>
              obtain ⟨less, close, rfl, hi⟩ := reads_leftParen_iff.mp hr
              have hd := disjunction_sound (ih less (by omega) (by omega : n + 1 + less = limit))
              obtain ⟨us, rfl, hd⟩ := hd hi
              refine ⟨⟨offset, .leftParen⟩ :: us ++ [⟨close, .rightParen⟩], by simp, .primary ?_⟩
              simpa using Derives.group (by omega) hd
          | _ => exact hatom (by rwa [Reads, ← unary_eq_atom (by simp)])

end Soundness

section Completeness
variable {separator : Token} {node : List Expr → Expr} {member : Phrase} {limit fin n : Nat}
  {ts rest : List Placed} {us : List Token} {e : Expr}

/-- Holds of the tokens that a phrase of the category goes on with where it could be over. -/
def Token.continues : Category → Token → Bool
  | _, .operator _ => true
  | .conjunction, .conj => true
  | .disjunction, .conj => true
  | .disjunction, .disj => true
  | _, _ => false

/-- A phrase of the category is over before these tokens. -/
def Stops (c : Category) (rest : List Placed) : Prop :=
  ∀ t ∈ rest.head?, t.token.continues c = false

theorem stops_nil {c : Category} : Stops c [] := by
  simp [Stops]

theorem stops_cons {c : Category} {t : Placed} :
    Stops c (t :: rest) ↔ t.token.continues c = false := by
  simp [Stops]

theorem Stops.tighter {c c' : Category} (h : Stops c rest)
    (hc : ∀ t : Token, t.continues c = false → t.continues c' = false) : Stops c' rest :=
  fun t ht => hc _ (h t ht)

/-- However the tokens are placed, and whatever ends the phrase behind them, the phrase reads the
expression from them. -/
def Accepts (p : Phrase) (c : Category) (us : List Token) (e : Expr) : Prop :=
  ∀ ⦃ts rest⦄, ts.map Placed.token = us → Stops c rest → Reads p (ts ++ rest) e rest

theorem readsMore_of_accepts {c c' : Category} (hc : separator.continues c = false)
    (hstop : ∀ rest, Stops c' rest → Stops c rest ∧ ∀ t ∈ rest.head?, t.token ≠ separator)
    {more : List (List Token × Expr)} (hall : ∀ m ∈ more, Accepts member c m.1 m.2)
    (hts : ts.map Placed.token = more.flatMap fun m => separator :: m.1) (hr : Stops c' rest) :
    ReadsMore separator member (ts ++ rest) (more.map Prod.snd) rest ∧ Stops c (ts ++ rest) := by
  induction more generalizing ts with
  | nil =>
      obtain rfl : ts = [] := by simpa using hts
      exact ⟨.stop (hstop _ hr).2, (hstop _ hr).1⟩
  | cons m more ih =>
      simp only [List.flatMap_cons, List.cons_append] at hts
      obtain ⟨t, vs, rfl, ht, hvs⟩ := List.map_eq_cons_iff.mp hts
      obtain ⟨ws, xs, rfl, hws, hxs⟩ := List.map_eq_append_iff.mp hvs
      obtain ⟨hm, hrest⟩ := List.forall_mem_cons.mp hall
      obtain ⟨htail, hstops⟩ := ih hrest hxs
      refine ⟨?_, stops_cons.mpr (ht ▸ hc)⟩
      rw [List.cons_append, List.append_assoc]
      exact .more ht (hm hws hstops) htail

/-- A chain reads members that are read one by one. -/
theorem chain_accepts (node : List Expr → Expr) (more : List (List Token × Expr))
    {c c' : Category} (hc : separator.continues c = false)
    (hstop : ∀ rest, Stops c' rest → Stops c rest ∧ ∀ t ∈ rest.head?, t.token ≠ separator)
    (hf : Accepts member c us e) (hall : ∀ m ∈ more, Accepts member c m.1 m.2) :
    Accepts (chain separator node member) c' (us ++ more.flatMap fun m => separator :: m.1)
      (joinMembers node (e :: more.map Prod.snd)) := by
  intro ts rest hts hr
  obtain ⟨vs, ws, rfl, hvs, hws⟩ := List.map_eq_append_iff.mp hts
  obtain ⟨hmore, hstops⟩ := readsMore_of_accepts hc hstop hall hws hr
  rw [List.append_assoc]
  exact reads_chain_iff.mpr ⟨e, ws ++ rest, _, hf hvs hstops, hmore, rfl⟩

/-- Where a chain is over, so is its last member, and no separator follows. -/
theorem Stops.ofChain {c c' : Category} (h : Stops c' rest)
    (hc : ∀ t : Token, t.continues c' = false → t.continues c = false)
    (hs : separator.continues c' = true) :
    Stops c rest ∧ ∀ t ∈ rest.head?, t.token ≠ separator := by
  refine ⟨h.tighter hc, ?_⟩
  intro t ht he
  have hover := h t ht
  rw [he, hs] at hover
  cases hover

theorem stops_conjunction (h : Stops .conjunction rest) :
    Stops .unary rest ∧ ∀ t ∈ rest.head?, t.token ≠ .conj := by
  apply h.ofChain
  · intro t
    cases t <;> simp [Token.continues]
  · rfl

theorem stops_disjunction (h : Stops .disjunction rest) :
    Stops .conjunction rest ∧ ∀ t ∈ rest.head?, t.token ≠ .disj := by
  apply h.ofChain
  · intro t
    cases t <;> simp [Token.continues]
  · rfl

/-- The phrase of the parser that reads a category. -/
def reader (fin budget : Nat) : Category → Phrase
  | .disjunction => disjunction (unary fin budget)
  | .conjunction => chain .conj .all (unary fin budget)
  | .unary => unary fin budget
  | .primary => unary fin budget
  | .test => unary fin budget

theorem stops_unary (h : Stops .unary rest) : Stops .primary rest := by
  apply h.tighter
  intro t ht
  cases t <;> simp_all [Token.continues]

theorem stops_primary (h : Stops .primary rest) : Stops .test rest := by
  apply h.tighter
  intro t ht
  cases t <;> simp_all [Token.continues]

/-- An atom is read in the place of any unary phrase. -/
theorem accepts_of_atom {budget : Nat} {c : Category} (hne : us ≠ [])
    (hn : ∀ t ∈ us.head?, t ≠ .neg ∧ t ≠ .leftParen) (h : Accepts (atom fin) c us e) :
    Accepts (unary fin budget) c us e := by
  intro ts rest hts hr
  have ha := h hts hr
  rw [Reads] at ha ⊢
  rw [unary_eq_atom]
  · exact ha
  · intro t ht
    subst hts
    cases ts with
    | nil => exact absurd rfl hne
    | cons u us =>
        obtain rfl : u = t := by simpa using ht
        exact hn _ rfl

/-- The parser reads whatever is derived, if its budget makes up the limit with the depth. -/
theorem Derives.accepts {c : Category} (h : Derives limit n c us e) (fin : Nat) {budget : Nat}
    (hb : n + budget = limit) : Accepts (reader fin budget c) c us e := by
  induction h generalizing budget with
  -- A phrase of one member is a chain without further members.
  | disjunct h ih =>
      simpa [joinMembers, reader, Script.disjunction] using
        chain_accepts .any [] rfl (fun _ => stops_disjunction) (ih hb) (by simp)
  | disjunction ne _ _ ihf ihm =>
      rw [← joinMembers_cons_of_ne_nil .any (by simpa using ne)]
      exact chain_accepts .any _ rfl (fun _ => stops_disjunction) (ihf hb) fun m hm => ihm m hm hb
  | conjunct h ih =>
      simpa [joinMembers, reader] using
        chain_accepts .all [] rfl (fun _ => stops_conjunction) (ih hb) (by simp)
  | conjunction ne _ _ ihf ihm =>
      rw [← joinMembers_cons_of_ne_nil .all (by simpa using ne)]
      exact chain_accepts .all _ rfl (fun _ => stops_conjunction) (ihf hb) fun m hm => ihm m hm hb
  | @negation n us e room _ ih =>
      intro ts rest hts hr
      obtain ⟨⟨offset, _⟩, vs, rfl, rfl, hvs⟩ := List.map_eq_cons_iff.mp hts
      obtain ⟨less, rfl⟩ : ∃ less, budget = less + 1 := ⟨budget - 1, by omega⟩
      have hinner := ih (by omega : n + 1 + less = limit) hvs hr
      exact reads_neg_iff.mpr ⟨less, e, rfl, hinner, rfl⟩
  | primary _ ih =>
      intro ts rest hts hr
      exact ih hb hts (stops_unary hr)
  | @group n us e room _ ih =>
      intro ts rest hts hr
      obtain ⟨⟨offset, _⟩, vs, rfl, rfl, hvs⟩ := List.map_eq_cons_iff.mp hts
      obtain ⟨ws, close, rfl, hws, hclose⟩ := List.map_eq_append_iff.mp hvs
      obtain ⟨⟨o, _⟩, _, rfl, rfl, hnil⟩ := List.map_eq_cons_iff.mp hclose
      obtain rfl := List.map_eq_nil_iff.mp hnil
      obtain ⟨less, rfl⟩ : ∃ less, budget = less + 1 := ⟨budget - 1, by omega⟩
      have hinner := @ih less (by omega) ws (⟨o, .rightParen⟩ :: rest) hws (stops_cons.mpr rfl)
      apply reads_leftParen_iff.mpr
      exact ⟨less, o, rfl, by simpa [reader] using hinner⟩
  | constant =>
      apply accepts_of_atom (by simp) (by simp)
      intro ts rest hts _
      obtain ⟨⟨o, _⟩, _, rfl, rfl, hnil⟩ := List.map_eq_cons_iff.mp hts
      obtain rfl := List.map_eq_nil_iff.mp hnil
      exact reads_constant_iff.mpr ⟨rfl, rfl⟩
  | test _ ih =>
      intro ts rest hts hr
      exact ih hb hts (stops_primary hr)
  | compareId hn =>
      apply accepts_of_atom (by simp) (by simp)
      intro ts rest hts _
      simp only [List.map_eq_cons_iff, List.map_eq_nil_iff] at hts
      obtain ⟨⟨o, _⟩, _, rfl, rfl, ⟨o', _⟩, _, rfl, rfl, ⟨o'', _⟩, _, rfl, rfl, rfl⟩ := hts
      apply reads_name_iff.mpr
      exact .inl ⟨hn, readComparison_eq_ok_iff.mpr ⟨o', o'', _, _, rfl, rfl⟩⟩
  | @compareText _ _ field _ _ hn =>
      apply accepts_of_atom (by simp) (by simp)
      intro ts rest hts _
      simp only [List.map_eq_cons_iff, List.map_eq_nil_iff] at hts
      obtain ⟨⟨o, _⟩, _, rfl, rfl, ⟨o', _⟩, _, rfl, rfl, ⟨o'', _⟩, _, rfl, rfl, rfl⟩ := hts
      apply reads_name_iff.mpr
      exact .inr ⟨field, hn, readTest_eq_ok_iff.mpr (.inr ⟨o', o'', _, _, rfl, rfl⟩)⟩
  | @present _ _ field hn =>
      apply accepts_of_atom (by simp) (by simp)
      intro ts rest hts hr
      simp only [List.map_eq_cons_iff, List.map_eq_nil_iff] at hts
      obtain ⟨⟨o, _⟩, _, rfl, rfl, rfl⟩ := hts
      have hop : ∀ u ∈ rest.head?, ∀ op, u.token ≠ .operator op := by
        intro u hu op hop
        simpa [hop, Token.continues] using hr u hu
      apply reads_name_iff.mpr
      exact .inr ⟨field, hn, readTest_eq_ok_iff.mpr (.inl ⟨rfl, rfl, hop⟩)⟩

end Completeness

theorem Derives.ne_nil {limit n : Nat} {c : Category} {ts : List Token} {e : Expr}
    (h : Derives limit n c ts e) : ts ≠ [] := by
  induction h with
  | disjunct _ ih | conjunct _ ih | primary _ ih | test _ ih => exact ih
  | disjunction _ _ _ ih _ | conjunction _ _ _ ih _ =>
      exact fun h => ih (List.append_eq_nil_iff.mp h).1
  | _ => simp

/-- A list of tokens has at most one tree. -/
theorem Derives.unique {limit : Nat} {ts : List Token} {e e' : Expr}
    (h : Derives limit 0 .disjunction ts e) (h' : Derives limit 0 .disjunction ts e') : e = e' := by
  have hts : (ts.map (Placed.mk 0)).map Placed.token = ts := by
    rw [List.map_map]
    exact List.map_id ts
  have hr := h.accepts 0 (Nat.zero_add limit) hts stops_nil
  have hr' := h'.accepts 0 (Nat.zero_add limit) hts stops_nil
  exact (hr.functional hr').1

theorem parseTokens_eq_ok_iff_reads {fin : Nat} {ts : List Placed} {e : Expr} :
    parseTokens fin ts = .ok e ↔
      ts ≠ [] ∧ Reads (disjunction (unary fin maxNesting)) ts e [] := by
  cases ts with
  | nil => simp [parseTokens]
  | cons t ts =>
      simp only [parseTokens, List.isEmpty_cons, Bool.false_eq_true, ↓reduceIte, ne_eq,
        reduceCtorEq, not_false_eq_true, true_and]
      constructor
      · intro h
        split at h
        · cases h
        · rename_i p hp
          split at h
          · rename_i hrest
            cases h
            exact hrest ▸ .of_eq hp
          · cases h
      · rintro ⟨hlt, h⟩
        simp [h]

/-- The parser accepts the tokens that are derived within the limit, with their tree. -/
theorem parseTokens_eq_ok_iff {fin : Nat} {ts : List Placed} {e : Expr} :
    parseTokens fin ts = .ok e ↔
      Derives maxNesting 0 .disjunction (ts.map Placed.token) e := by
  rw [parseTokens_eq_ok_iff_reads]
  constructor
  · rintro ⟨-, h⟩
    obtain ⟨us, rfl, hd⟩ := disjunction_sound (unary_sound (Nat.zero_add maxNesting)) h
    simpa using hd
  · intro h
    refine ⟨by simpa using h.ne_nil, ?_⟩
    simpa [reader] using h.accepts fin (Nat.zero_add _) rfl stops_nil

theorem parse_eq_parseTokens {source : String} {tokens : List Placed}
    (h : tokenize source = .ok tokens) :
    parse source = parseTokens source.utf8ByteSize tokens := by
  simp only [parse, h]
  rfl

theorem tokenize_of_parse {source : String} {e : Expr} (h : parse source = .ok e) :
    ∃ tokens, tokenize source = .ok tokens ∧
      Derives maxNesting 0 .disjunction (tokens.map Placed.token) e := by
  cases ht : tokenize source with
  | error problem => simp [parse, ht, bind, Except.bind] at h
  | ok tokens =>
      rw [parse_eq_parseTokens ht] at h
      exact ⟨tokens, rfl, parseTokens_eq_ok_iff.mp h⟩

/-- A script has a tree exactly when all its tokens together derive it, with at most 128
negations and parentheses open at a time. The tree is unique, and a script without one is
refused. -/
theorem parse_eq_ok_iff_derives {source : String} {tokens : List Placed}
    (h : tokenize source = .ok tokens) :
    (∀ e, parse source = .ok e ↔ Derives 128 0 .disjunction (tokens.map Placed.token) e) ∧
      (∀ e e', Derives 128 0 .disjunction (tokens.map Placed.token) e →
        Derives 128 0 .disjunction (tokens.map Placed.token) e' → e = e') ∧
      ((∃ problem, parse source = .error problem) ↔
        ∀ e, ¬ Derives 128 0 .disjunction (tokens.map Placed.token) e) := by
  have hiff (e : Expr) : parse source = .ok e ↔
      Derives 128 0 .disjunction (tokens.map Placed.token) e := by
    rw [parse_eq_parseTokens h]
    exact parseTokens_eq_ok_iff
  refine ⟨hiff, fun e e' => Derives.unique, ?_⟩
  simp only [← hiff]
  cases parse source with
  | ok e => simp
  | error problem => simp

/-- Two groups side by side, the second one negated: neither counts against the other. -/
theorem parse_siblings :
    tokenize "(tag) AND !(word or ID < 3)" = .ok
        [⟨0, .leftParen⟩, ⟨1, .name "tag"⟩, ⟨4, .rightParen⟩, ⟨6, .conj⟩, ⟨10, .neg⟩,
          ⟨11, .leftParen⟩, ⟨12, .name "word"⟩, ⟨17, .disj⟩, ⟨20, .name "ID"⟩,
          ⟨23, .operator .lt⟩, ⟨25, .integer 3⟩, ⟨26, .rightParen⟩] ∧
      parse "(tag) AND !(word or ID < 3)" =
        .ok (.all [.present .tag, .not (.any [.present .headword, .compareId .lt 3])]) := by
  have h : tokenize "(tag) AND !(word or ID < 3)" = .ok
      [⟨0, .leftParen⟩, ⟨1, .name "tag"⟩, ⟨4, .rightParen⟩, ⟨6, .conj⟩, ⟨10, .neg⟩,
        ⟨11, .leftParen⟩, ⟨12, .name "word"⟩, ⟨17, .disj⟩, ⟨20, .name "ID"⟩,
        ⟨23, .operator .lt⟩, ⟨25, .integer 3⟩, ⟨26, .rightParen⟩] := by decide +kernel
  refine ⟨h, ((parse_eq_ok_iff_derives h).1 _).mpr ?_⟩
  have hname {name : String} {f : Field} (hn : Field.ofName? name = some f) (n : Nat) :
      Derives 128 n .unary [.name name] (.present f) :=
    .primary (.test (.present (ofName?_eq_some_iff.mp hn)))
  have hid : Derives 128 2 .unary [.name "ID", .operator .lt, .integer 3] (.compareId .lt 3) :=
    .primary (.test (@Derives.compareId 128 2 _ .lt _ (isIdName_iff.mp (by decide))))
  have htag : Derives 128 0 .unary [.leftParen, .name "tag", .rightParen] (.present .tag) :=
    .primary (.group (by decide) (.disjunct (.conjunct (hname (by decide) 1))))
  have hor := @Derives.disjunction 128 2 _ _ [(_, _)] (by simp)
    (.conjunct (hname (by decide : Field.ofName? "word" = some .headword) 2))
    (List.forall_mem_singleton.mpr (.conjunct hid))
  have hnot := Derives.negation (by decide) (.primary (.group (by decide) hor))
  have hall := @Derives.conjunction 128 0 _ _ [(_, _)] (by simp) htag
    (List.forall_mem_singleton.mpr hnot)
  exact .disjunct hall

end Lexicon.Script
