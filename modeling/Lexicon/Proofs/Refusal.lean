import Lexicon.Proofs.Nesting

/-!
# Where the parser refuses tokens

A phrase is refused at the end of the tokens, or at one of them. What stands before that token can
be completed to a phrase, and once the token is there, nothing behind it helps. The phrase inside a
negation, a group or a chain brings its refusal along: what completes it completes the phrase around
it.

The levels that an inner phrase may open are its budget; so a derivation within a budget is one at
depth zero with the budget as its limit.
-/

namespace Lexicon.Script

section Budgets
variable {c : Category} {us : List Token} {e : Expr} {budget b : Nat}

/-- Within a budget of levels the tokens are a phrase of the category. -/
def IsPhrase (budget : Nat) (c : Category) (us : List Token) : Prop :=
  ∃ e, Derives budget 0 c us e

theorem Derives.mono (d : Derives budget 0 c us e) (hb : budget ≤ b) : Derives b 0 c us e := by
  have hdeep := d.deepest_le (Nat.zero_le _)
  exact d.within (by omega)

/-- A phrase within a budget is one inside a level, if the level is added to the budget. -/
theorem Derives.deeper (d : Derives budget 0 c us e) : Derives (budget + 1) 1 c us e := by
  have hdeep := d.deepest_le (Nat.zero_le _)
  exact d.within (by omega)

theorem IsPhrase.neg (h : IsPhrase budget .unary us) :
    IsPhrase (budget + 1) .unary (.neg :: us) := by
  obtain ⟨e, d⟩ := h
  exact ⟨_, .negation (Nat.succ_pos _) d.deeper⟩

theorem IsPhrase.parens (h : IsPhrase budget .disjunction us) :
    IsPhrase (budget + 1) .unary (.leftParen :: us ++ [.rightParen]) := by
  obtain ⟨e, d⟩ := h
  exact ⟨e, .primary (.group (Nat.succ_pos _) d.deeper)⟩

end Budgets

section Stretches
variable {separator : Token} {node : List Expr → Expr} {member : Nat → Phrase} {budget fin : Nat}
  {ts us rest : List Placed} {e : Expr}

/-- Whatever is read within the budget is a stretch of the tokens. It is read with more budget as
well, and in front of other tokens, if the first one stays. -/
def Persists (read : Nat → Phrase) (budget : Nat) : Prop :=
  ∀ ⦃ts e rest⦄, Reads (read budget) ts e rest → ∃ us, ts = us ++ rest ∧
    ∀ b, budget ≤ b → ∀ rest', rest'.head? = rest.head? → Reads (read b) (us ++ rest') e rest'

theorem head?_append_congr {rest rest' : List Placed} (h : rest'.head? = rest.head?)
    (us : List Placed) : (us ++ rest').head? = (us ++ rest).head? := by
  rw [List.head?_append, List.head?_append, h]

theorem ReadsMore.persists {es : List Expr} (hm : Persists member budget)
    (h : ReadsMore separator (member budget) ts es rest) : ∃ us, ts = us ++ rest ∧
      ∀ b, budget ≤ b → ∀ rest', rest'.head? = rest.head? →
        ReadsMore separator (member b) (us ++ rest') es rest' := by
  induction h with
  | @stop ts hts =>
      refine ⟨[], rfl, ?_⟩
      intro b _ rest' hrest
      exact .stop (hrest ▸ hts)
  | @more t ts mid e es rest ht first _ ih =>
      obtain ⟨us, rfl, hus⟩ := hm first
      obtain ⟨vs, rfl, hvs⟩ := ih
      refine ⟨t :: us ++ vs, by simp, ?_⟩
      intro b hb rest' hrest
      have hfirst := hus b hb (vs ++ rest') (head?_append_congr hrest vs)
      rw [List.append_assoc]
      exact .more ht hfirst (hvs b hb rest' hrest)

theorem chain_persists (node : List Expr → Expr) (hm : Persists member budget) :
    Persists (fun b => chain separator node (member b)) budget := by
  intro ts e rest h
  obtain ⟨first, mid, more, hf, hr, rfl⟩ := reads_chain_iff.mp h
  obtain ⟨us, rfl, hus⟩ := hm hf
  obtain ⟨vs, rfl, hvs⟩ := hr.persists hm
  refine ⟨us ++ vs, by simp, ?_⟩
  intro b hb rest' hrest
  have hfirst := hus b hb (vs ++ rest') (head?_append_congr hrest vs)
  rw [List.append_assoc]
  exact reads_chain_iff.mpr ⟨first, vs ++ rest', more, hfirst, hvs b hb rest' hrest, rfl⟩

theorem disjunction_persists {read : Nat → Phrase} (h : Persists read budget) :
    Persists (fun b => disjunction (read b)) budget :=
  chain_persists .any (chain_persists .all h)

/-- An atom does not use the budget, and it does not look beyond the token behind it. -/
theorem reads_atom_append (h : Reads (atom fin) ts e rest) :
    ∃ t us, ts = t :: us ++ rest ∧ t.token ≠ .neg ∧ t.token ≠ .leftParen ∧
      ∀ rest', rest'.head? = rest.head? → Reads (atom fin) (t :: us ++ rest') e rest' := by
  cases ts with
  | nil =>
      obtain ⟨_, h⟩ := h
      cases h
  | cons t ts =>
      obtain ⟨offset, token⟩ := t
      cases token with
      | constant value =>
          obtain ⟨rfl, rfl⟩ := reads_constant_iff.mp h
          refine ⟨⟨offset, .constant value⟩, [], rfl, by simp, by simp, ?_⟩
          intro rest' _
          exact reads_constant_iff.mpr ⟨rfl, rfl⟩
      | name name =>
          rcases reads_name_iff.mp h with ⟨hn, hc⟩ | ⟨field, hn, ht⟩
          · obtain ⟨o, o', comparison, value, rfl, rfl⟩ := readComparison_eq_ok_iff.mp hc
            refine ⟨⟨offset, .name name⟩, [_, _], rfl, by simp, by simp, ?_⟩
            intro rest' _
            apply reads_name_iff.mpr
            exact .inl ⟨hn, readComparison_eq_ok_iff.mpr ⟨o, o', comparison, value, rfl, rfl⟩⟩
          · rcases readTest_eq_ok_iff.mp ht with
              ⟨rfl, rfl, hop⟩ | ⟨o, o', relation, literal, rfl, rfl⟩
            · refine ⟨⟨offset, .name name⟩, [], rfl, by simp, by simp, ?_⟩
              intro rest' hrest
              apply reads_name_iff.mpr
              exact .inr ⟨field, hn, readTest_eq_ok_iff.mpr (.inl ⟨rfl, rfl, hrest ▸ hop⟩)⟩
            · refine ⟨⟨offset, .name name⟩, [_, _], rfl, by simp, by simp, ?_⟩
              intro rest' _
              apply reads_name_iff.mpr
              exact .inr ⟨field, hn, readTest_eq_ok_iff.mpr (.inr ⟨o, o', relation, literal, rfl, rfl⟩)⟩
      | _ => exact absurd h (not_reads_atom (by simp) (by simp))

theorem unary_eq_atom_cons {t : Placed} (hneg : t.token ≠ .neg) (hparen : t.token ≠ .leftParen)
    (budget : Nat) (ts : List Placed) : unary fin budget (t :: ts) = atom fin (t :: ts) := by
  apply unary_eq_atom
  intro u hu
  obtain rfl := Option.some.inj hu
  exact ⟨hneg, hparen⟩

theorem unary_persists (fin budget : Nat) : Persists (unary fin) budget := by
  induction budget using Nat.strongRecOn with
  | ind budget ih =>
      intro ts e rest h
      have hatom (ha : Reads (atom fin) ts e rest) : ∃ us, ts = us ++ rest ∧
          ∀ b, budget ≤ b → ∀ rest', rest'.head? = rest.head? →
            Reads (unary fin b) (us ++ rest') e rest' := by
        obtain ⟨t, us, rfl, hneg, hparen, hagain⟩ := reads_atom_append ha
        refine ⟨t :: us, rfl, ?_⟩
        intro b _ rest' hrest
        have hread := hagain rest' hrest
        rwa [Reads, List.cons_append, ← unary_eq_atom_cons hneg hparen b] at hread
      cases ts with
      | nil => exact hatom (by rwa [Reads, ← unary_eq_atom (by simp)])
      | cons t ts =>
          obtain ⟨offset, token⟩ := t
          cases token with
          | neg =>
              obtain ⟨less, inner, rfl, hi, rfl⟩ := reads_neg_iff.mp h
              obtain ⟨us, rfl, hus⟩ := ih less (Nat.lt_succ_self _) hi
              refine ⟨⟨offset, .neg⟩ :: us, rfl, ?_⟩
              intro b hb rest' hrest
              obtain ⟨b, rfl⟩ : ∃ k, b = k + 1 := ⟨b - 1, by omega⟩
              exact reads_neg_iff.mpr ⟨b, inner, rfl, hus b (by omega) rest' hrest, rfl⟩
          | leftParen =>
              obtain ⟨less, close, rfl, hi⟩ := reads_leftParen_iff.mp h
              obtain ⟨us, rfl, hus⟩ := disjunction_persists (ih less (Nat.lt_succ_self _)) hi
              refine ⟨⟨offset, .leftParen⟩ :: us ++ [⟨close, .rightParen⟩], by simp, ?_⟩
              intro b hb rest' hrest
              obtain ⟨b, rfl⟩ : ∃ k, b = k + 1 := ⟨b - 1, by omega⟩
              have hinner := hus b (by omega) (⟨close, .rightParen⟩ :: rest') rfl
              simpa using @reads_leftParen_iff fin e (us ++ ⟨close, .rightParen⟩ :: rest') rest'
                (b + 1) offset |>.mpr ⟨b, close, rfl, hinner⟩
          | _ => exact hatom (by rwa [Reads, ← unary_eq_atom (by simp)])

end Stretches

section Reaching
variable {separator : Token} {node : List Expr → Expr} {member : Phrase} {ts vs : List Placed}

/-- Behind a first member, a chain reads further ones up to where the next one is to begin. -/
inductive Reaches (separator : Token) (member : Phrase) : List Placed → List Placed → Prop
  | next {t ts} (ht : t.token = separator) : Reaches separator member (t :: ts) ts
  | more {t ts us e vs} (ht : t.token = separator) (first : Reads member ts e us)
      (tail : Reaches separator member us vs) : Reaches separator member (t :: ts) vs

theorem Reaches.moreMembers_eq {error : CompileError} (hr : Reaches separator member ts vs)
    (he : member vs = .error error) {start : List Placed} (done : List Expr)
    (h : ts.length < start.length) :
    (moreMembers separator member done ts h : Except _ (Members start)) = .error error := by
  induction hr generalizing done with
  | next ht => simp [moreMembers, ht, he]
  | @more t ts us e vs ht first _ ih =>
      obtain ⟨hlt, hp⟩ := first
      rw [moreMembers]
      simp only [ht, ↓reduceIte, hp]
      apply ih he

theorem reaches_of_eq {error : CompileError} {start done} {h : ts.length < start.length}
    (he : (moreMembers separator member done ts h : Except _ (Members start)) = .error error) :
    ∃ vs, Reaches separator member ts vs ∧ member vs = .error error := by
  fun_induction moreMembers separator member done ts h with
  | case1 => cases he
  | case2 done t rest h ht p hp _ _ ih =>
      obtain ⟨vs, hr, hvs⟩ := ih he
      exact ⟨vs, .more ht (.of_eq hp) hr, hvs⟩
  | case3 done t rest h ht error' hp =>
      cases he
      exact ⟨rest, .next ht, hp⟩
  | case4 => cases he

/-- A chain is refused if its first member is, or one that it reaches. -/
theorem chain_eq_error_iff {error : CompileError} :
    chain separator node member ts = .error error ↔
      member ts = .error error ∨ ∃ e us vs, Reads member ts e us ∧
        Reaches separator member us vs ∧ member vs = .error error := by
  constructor
  · intro h
    rw [chain] at h
    split at h
    · rename_i hf
      cases h
      exact .inl hf
    · rename_i first hf
      split at h
      · rename_i hm
        cases h
        obtain ⟨vs, hr, hvs⟩ := reaches_of_eq hm
        exact .inr ⟨first.expr, first.rest, vs, .of_eq hf, hr, hvs⟩
      · cases h
  · rintro (h | ⟨e, us, vs, ⟨hlt, hf⟩, hr, hvs⟩)
    · rw [chain, h]
    · rw [chain, hf]
      simp only [hr.moreMembers_eq hvs]

/-- What a chain reads up to its next member ends in a separator, and it reads the same with more
budget and whatever comes next. -/
theorem Reaches.persists {read : Nat → Phrase} {budget : Nat}
    {derives : List Token → Expr → Prop} (hp : Persists read budget)
    (hs : IsSound (read budget) derives) (h : Reaches separator (read budget) ts vs) :
    ∃ us, ∃ more : List (List Token × Expr), ts = us ++ vs ∧
      us.map Placed.token = (more.flatMap fun m => separator :: m.1) ++ [separator] ∧
      (∀ m ∈ more, derives m.1 m.2) ∧
      ∀ b, budget ≤ b → ∀ vs', Reaches separator (read b) (us ++ vs') vs' := by
  induction h with
  | @next t ts ht =>
      refine ⟨[t], [], rfl, by simp [ht], by simp, ?_⟩
      intro b _ vs'
      exact .next ht
  | @more t ts mid e vs ht first _ ih =>
      obtain ⟨us, rfl, hus⟩ := hp first
      obtain ⟨us', hsame, hd⟩ := hs first
      obtain rfl := List.append_cancel_right hsame
      obtain ⟨ws, more, rfl, htok, hall, hws⟩ := ih
      refine ⟨t :: us ++ ws, (us.map Placed.token, e) :: more, by simp, ?_,
        List.forall_mem_cons.mpr ⟨hd, hall⟩, ?_⟩
      · simp [ht, htok]
      · intro b hb vs'
        have hne : ws ≠ [] := by
          rintro rfl
          simp at htok
        have hfirst := hus b hb (ws ++ vs') (by
          rw [List.head?_append_of_ne_nil _ hne, List.head?_append_of_ne_nil _ hne])
        rw [List.append_assoc]
        exact .more ht hfirst (hws b hb vs')

end Reaching

/-- The tokens with which tokens are completed to a phrase. -/
def fillers : List Token :=
  [.constant true, .rightParen, .operator .eq, .text "", .integer 0]

/-- The tokens at which it shows that a token is refused: it alone, or the name of the number with
a token behind it that compares nothing. -/
inductive Shows (t : Placed) : List Placed → Prop
  | itself : Shows t [t]
  | uncompared {name u} (ht : t.token = .name name) (hn : NamesId name)
      (hu : ∀ op, u.token ≠ .operator op) : Shows t [t, u]

theorem Shows.exists_cons {t : Placed} {seen : List Placed} (h : Shows t seen) :
    ∃ more, seen = t :: more := by
  cases h with
  | itself => exact ⟨_, rfl⟩
  | uncompared => exact ⟨_, rfl⟩

/-- The token opens a level for which there is no budget left, and with one level more it could
stand. -/
structure Overflows (budget : Nat) (c : Category) (before : List Token) (t : Token) : Prop where
  opens : t = .leftParen ∨ t = .neg
  levels : ∀ levels, Settled levels c →
    (afterTokens levels before).length = levels.length + budget
  fits : ∃ more, IsPhrase (budget + 1) c (before ++ t :: more)

/-- The error lies at the end of the tokens, which can be completed to a phrase within the budget,
or at a token of which this holds no longer: the tokens before it can be completed, and whatever
begins with the tokens up to it, is rejected. -/
inductive Refused (fin budget : Nat) (c : Category) (rejects : List Placed → Prop)
    (ts : List Placed) (e : CompileError) : Prop
  | atEnd {more} (ho : e.offset = fin) (hdeep : e.problem ≠ .tooDeep) (hne : more ≠ [])
      (hmore : ∀ t ∈ more, t ∈ fillers) (h : IsPhrase budget c (ts.map Placed.token ++ more))
  | atToken {before t seen after more} (hts : ts = before ++ (seen ++ after)) (hseen : Shows t seen)
      (ho : e.offset = t.offset) (hmore : ∀ t ∈ more, t ∈ fillers)
      (h : IsPhrase budget c (before.map Placed.token ++ more))
      (hr : ∀ after, rejects (before ++ (seen ++ after)))
      (hdeep : e.problem = .tooDeep →
        seen = [t] ∧ Overflows budget c (before.map Placed.token) t.token)

section Refusals
variable {fin budget : Nat} {c c' : Category} {rejects rejects' : List Placed → Prop}
  {ts : List Placed} {e : CompileError}

/-- What is rejected may be said otherwise of tokens that begin alike. -/
theorem Refused.imp (h : Refused fin budget c rejects ts e)
    (hr : ∀ vs, vs.head? = ts.head? → rejects vs → rejects' vs) :
    Refused fin budget c rejects' ts e := by
  cases h with
  | atEnd ho hdeep hne hmore h => exact .atEnd ho hdeep hne hmore h
  | @atToken before t seen after more hts hseen ho hmore h hrejects hdeep =>
      refine .atToken hts hseen ho hmore h ?_ hdeep
      intro after'
      apply hr _ _ (hrejects after')
      obtain ⟨more, rfl⟩ := hseen.exists_cons
      have hhead : (t :: more ++ after').head? = (t :: more ++ after).head? := rfl
      rw [hts, head?_append_congr hhead before]

/-- The refusal of a phrase is one of the phrase around it, of which `front` and `back` are the
tokens on both sides. -/
theorem Refused.inside {budget' : Nat} (front : List Placed) (back : List Token)
    (h : Refused fin budget c rejects ts e) (hback : ∀ t ∈ back, t ∈ fillers)
    (hphrase : ∀ k us, IsPhrase (budget + k) c us →
      IsPhrase (budget' + k) c' (front.map Placed.token ++ us ++ back))
    (hlevels : ∀ levels, Settled levels c' →
      Settled (afterTokens levels (front.map Placed.token)) c ∧
        (afterTokens levels (front.map Placed.token)).length + budget = levels.length + budget')
    (hr : ∀ vs, rejects vs → rejects' (front ++ vs)) :
    Refused fin budget' c' rejects' (front ++ ts) e := by
  cases h with
  | @atEnd more ho hdeep hne hmore h =>
      have hphrase' := hphrase 0 _ h
      rw [List.append_assoc, List.append_assoc, ← List.append_assoc, ← List.map_append] at hphrase'
      refine .atEnd ho hdeep ?_ (List.forall_mem_append.mpr ⟨hmore, hback⟩) hphrase'
      exact List.append_ne_nil_of_left_ne_nil hne back
  | @atToken before t seen after more hts hseen ho hmore h hrejects hdeep =>
      have hts' : front ++ ts = (front ++ before) ++ (seen ++ after) := by
        rw [hts, List.append_assoc]
      have hphrase' : IsPhrase budget' c'
          ((front ++ before).map Placed.token ++ (more ++ back)) := by
        simpa using hphrase 0 _ h
      have hrejects' (after : List Placed) : rejects' ((front ++ before) ++ (seen ++ after)) := by
        rw [List.append_assoc]
        exact hr _ (hrejects after)
      refine .atToken hts' hseen ho (List.forall_mem_append.mpr ⟨hmore, hback⟩) hphrase' hrejects' ?_
      intro htoo
      obtain ⟨hone, hopens, hdepth, more', hfits⟩ := hdeep htoo
      refine ⟨hone, hopens, ?_, more' ++ back, ?_⟩
      · intro levels hl
        obtain ⟨hsettled, hlength⟩ := hlevels levels hl
        rw [List.map_append, afterTokens_append, hdepth _ hsettled, hlength]
      · simpa using hphrase 1 _ hfits

/-- With the budget, and with more unless that is what is missing, the phrase is refused for the
same reason. -/
def Rejects (read : Nat → Phrase) (budget : Nat) (e : CompileError) (ts : List Placed) : Prop :=
  ∀ b, budget ≤ b → (e.problem = .tooDeep → b = budget) → read b ts = .error e

end Refusals

section Atoms
variable {fin offset : Nat} {ts : List Placed} {name : String} {e : CompileError}

theorem isPhrase_constant (budget : Nat) : IsPhrase budget .unary [.constant true] :=
  ⟨_, .primary .constant⟩

theorem isPhrase_compareId (hn : NamesId name) (comparison : Comparison) (budget : Nat) :
    IsPhrase budget .unary [.name name, .operator comparison.operator, .integer 0] :=
  ⟨_, .primary (.test (.compareId hn))⟩

theorem isPhrase_compareText {field : Field} (hn : field.Named name) (relation : TextRelation)
    (budget : Nat) :
    IsPhrase budget .unary [.name name, .operator relation.operator, .text ""] :=
  ⟨_, .primary (.test (.compareText hn))⟩

theorem isPhrase_present {field : Field} (hn : field.Named name) (budget : Nat) :
    IsPhrase budget .unary [.name name] :=
  ⟨_, .primary (.test (.present hn))⟩

section Places
variable {budget : Nat} {c : Category} {rejects : List Placed → Prop} {problem : Problem}

theorem refused_atEnd (more : List Token) (hproblem : problem ≠ .tooDeep) (hne : more ≠ [])
    (hmore : ∀ t ∈ more, t ∈ fillers) (h : IsPhrase budget c (ts.map Placed.token ++ more)) :
    Refused fin budget c rejects ts ⟨fin, problem⟩ :=
  .atEnd rfl hproblem hne hmore h

theorem refused_atToken (before : List Placed) {t : Placed} {after : List Placed}
    (more : List Token) (hproblem : problem ≠ .tooDeep) (hmore : ∀ t ∈ more, t ∈ fillers)
    (h : IsPhrase budget c (before.map Placed.token ++ more))
    (hr : ∀ after, rejects (before ++ t :: after)) :
    Refused fin budget c rejects (before ++ t :: after) ⟨t.offset, problem⟩ :=
  .atToken rfl .itself rfl hmore h hr fun hdeep => absurd hdeep hproblem

end Places

/-- A comparison of the number is refused at the operator, at what is compared, or at the name. -/
theorem readComparison_refused (hn : NamesId name)
    (h : readComparison fin ⟨offset, .name name⟩ ts = .error e) (budget : Nat) :
    Refused fin budget .unary
      (fun us => ∃ vs, us = ⟨offset, .name name⟩ :: vs ∧
        readComparison fin ⟨offset, .name name⟩ vs = .error e)
      (⟨offset, .name name⟩ :: ts) e := by
  unfold readComparison at h
  split at h
  · rename_i o op rest
    split at h
    · rename_i hop
      cases h
      refine refused_atToken [⟨offset, .name name⟩] [.operator .eq, .integer 0] (by simp) (by decide)
        (isPhrase_compareId hn .eq budget) ?_
      intro after
      exact ⟨_, rfl, by simp [readComparison, hop]⟩
    · rename_i comparison hop
      obtain rfl := comparison?_eq_some_iff.mp hop
      split at h
      · cases h
      · rename_i o' found rest' hne
        cases h
        refine refused_atToken [⟨offset, .name name⟩, ⟨o, .operator comparison.operator⟩]
          [.integer 0] (by simp) (by decide) (isPhrase_compareId hn comparison budget) ?_
        intro after
        exact ⟨_, rfl, by simp [readComparison, hop]⟩
      · cases h
        exact refused_atEnd [.integer 0] (by simp) (by simp) (by decide)
          (isPhrase_compareId hn comparison budget)
  · rename_i o found rest hne
    cases h
    have hseen : Shows ⟨offset, .name name⟩ [⟨offset, .name name⟩, ⟨o, found⟩] :=
      .uncompared rfl hn hne
    refine @Refused.atToken fin budget .unary _ _ _ [] _ _ rest [.constant true] rfl hseen rfl
      (by decide) (isPhrase_constant budget) ?_ (by simp)
    intro after
    exact ⟨_, rfl, by simp [readComparison]⟩
  · cases h
    exact refused_atEnd [.operator .eq, .integer 0] (by simp) (by simp) (by decide)
      (isPhrase_compareId hn .eq budget)

/-- A test of a field is refused at the operator or at what it is tested against. -/
theorem readTest_refused {field : Field} (hn : field.Named name)
    (h : readTest fin field ⟨offset, .name name⟩ ts = .error e) (budget : Nat) :
    Refused fin budget .unary
      (fun us => ∃ vs, us = ⟨offset, .name name⟩ :: vs ∧
        readTest fin field ⟨offset, .name name⟩ vs = .error e)
      (⟨offset, .name name⟩ :: ts) e := by
  unfold readTest at h
  split at h
  · rename_i o op rest
    split at h
    · rename_i hop
      cases h
      refine refused_atToken [⟨offset, .name name⟩] [] (by simp) (by decide)
        (isPhrase_present hn budget) ?_
      intro after
      exact ⟨_, rfl, by simp [readTest, hop]⟩
    · rename_i relation hop
      obtain rfl := textRelation?_eq_some_iff.mp hop
      split at h
      · cases h
      · rename_i o' found rest' hne
        cases h
        refine refused_atToken [⟨offset, .name name⟩, ⟨o, .operator relation.operator⟩]
          [.text ""] (by simp) (by decide) (isPhrase_compareText hn relation budget) ?_
        intro after
        exact ⟨_, rfl, by simp [readTest, hop]⟩
      · cases h
        exact refused_atEnd [.text ""] (by simp) (by simp) (by decide)
          (isPhrase_compareText hn relation budget)
  · cases h

/-- An atom is refused where it has come to, and the budget has no part in it. -/
theorem atom_refused (h : atom fin ts = .error e) (budget : Nat) :
    Refused fin budget .unary (fun us => atom fin us = .error e) ts e := by
  cases ts with
  | nil =>
      cases h
      exact refused_atEnd [.constant true] (by simp) (by simp) (by decide) (isPhrase_constant budget)
  | cons t ts =>
      obtain ⟨offset, token⟩ := t
      -- No phrase begins with a token that begins no atom.
      have hfirst {problem : Problem} (hproblem : problem ≠ .tooDeep)
          (hr : ∀ after, atom fin (⟨offset, token⟩ :: after) = .error ⟨offset, problem⟩) :
          Refused fin budget .unary (fun us => atom fin us = .error ⟨offset, problem⟩)
            (⟨offset, token⟩ :: ts) ⟨offset, problem⟩ :=
        refused_atToken [] [.constant true] hproblem (by decide) (isPhrase_constant budget) hr
      cases token with
      | constant value => cases h
      | name name =>
          by_cases hid : isIdName name = true
          · have hatom (us : List Placed) : atom fin (⟨offset, .name name⟩ :: us) =
                readComparison fin ⟨offset, .name name⟩ us := by simp [atom, hid]
            rw [hatom] at h
            apply (readComparison_refused (isIdName_iff.mp hid) h budget).imp
            rintro vs - ⟨us, rfl, hus⟩
            rw [hatom, hus]
          · cases hf : Field.ofName? name with
            | none =>
                have hatom (us : List Placed) : atom fin (⟨offset, .name name⟩ :: us) =
                    .error ⟨offset, .unknownField name⟩ := by simp [atom, hid, hf]
                rw [hatom] at h
                cases h
                exact hfirst (by simp) hatom
            | some field =>
                have hatom (us : List Placed) : atom fin (⟨offset, .name name⟩ :: us) =
                    readTest fin field ⟨offset, .name name⟩ us := by simp [atom, hid, hf]
                rw [hatom] at h
                apply (readTest_refused (ofName?_eq_some_iff.mp hf) h budget).imp
                rintro vs - ⟨us, rfl, hus⟩
                rw [hatom, hus]
      | _ =>
          cases h
          exact hfirst (by simp) fun _ => rfl

end Atoms

section Chains
variable {separator : Token} {node : List Expr → Expr} {member : Nat → Phrase} {fin budget : Nat}
  {c c' : Category} {ts : List Placed} {e : CompileError}

/-- Phrases of one category, with the separator between them, are a phrase of the other one. No
operand waits for its end at the separator. -/
structure IsChain (separator : Token) (c c' : Category) : Prop where
  single : ∀ {b us}, IsPhrase b c us → IsPhrase b c' us
  several : ∀ {b us vs e} {more : List (List Token × Expr)}, Derives b 0 c us e →
    (∀ m ∈ more, Derives b 0 c m.1 m.2) → IsPhrase b c vs →
    IsPhrase b c' (us ++ (more.flatMap fun m => separator :: m.1) ++ separator :: vs)
  level : ∀ levels, afterToken levels separator = levels
  inner : ∀ levels, afterOperand levels = levels → Settled levels c
  outer : ∀ levels, Settled levels c' → afterOperand levels = levels

theorem isChain_conjunction : IsChain .conj .unary .conjunction where
  single := fun ⟨e, d⟩ => ⟨e, .conjunct d⟩
  several := by
    rintro b us vs e more d hm ⟨f, d'⟩
    have hall : ∀ m ∈ more ++ [(vs, f)], Derives b 0 .unary m.1 m.2 :=
      List.forall_mem_append.mpr ⟨hm, List.forall_mem_singleton.mpr d'⟩
    exact ⟨_, by simpa using Derives.conjunction (by simp) d hall⟩
  level := fun _ => rfl
  inner := fun _ _ => trivial
  outer := fun _ => id

theorem isChain_disjunction : IsChain .disj .conjunction .disjunction where
  single := fun ⟨e, d⟩ => ⟨e, .disjunct d⟩
  several := by
    rintro b us vs e more d hm ⟨f, d'⟩
    have hall : ∀ m ∈ more ++ [(vs, f)], Derives b 0 .conjunction m.1 m.2 :=
      List.forall_mem_append.mpr ⟨hm, List.forall_mem_singleton.mpr d'⟩
    exact ⟨_, by simpa using Derives.disjunction (by simp) d hall⟩
  level := fun _ => rfl
  inner := fun _ => id
  outer := fun _ => id

/-- A chain is refused where its first member is, or where a later one is. -/
theorem chain_refused (hc : IsChain separator c c') (hp : Persists member budget)
    (hs : IsSound (member budget) (Derives budget 0 c))
    (hm : ∀ {ts e}, member budget ts = .error e →
      Refused fin budget c (Rejects member budget e) ts e)
    (h : chain separator node (member budget) ts = .error e) :
    Refused fin budget c' (Rejects (fun b => chain separator node (member b)) budget e) ts e := by
  rcases chain_eq_error_iff.mp h with h | ⟨first, mid, vs, hf, hr, hvs⟩
  · apply Refused.inside [] [] (hm h) (List.forall_mem_nil _)
    · intro k us hus
      simpa using hc.single hus
    · intro levels hl
      exact ⟨hc.inner _ (hc.outer _ hl), rfl⟩
    · intro vs hvs b hb hdeep
      exact chain_eq_error_iff.mpr (.inl (hvs b hb hdeep))
  · obtain ⟨us, rfl, hus⟩ := hp hf
    obtain ⟨us', hsame, hd⟩ := hs hf
    obtain rfl := List.append_cancel_right hsame
    obtain ⟨ws, more, rfl, htok, hall, hws⟩ := hr.persists hp hs
    have hne : ws ≠ [] := by
      rintro rfl
      simp at htok
    rw [← List.append_assoc]
    apply Refused.inside (us ++ ws) [] (hm hvs) (List.forall_mem_nil _)
    · intro k xs hxs
      have hseveral := hc.several (hd.mono (Nat.le_add_right _ k))
        (fun m hmem => (hall m hmem).mono (Nat.le_add_right _ k)) hxs
      simpa [htok] using hseveral
    · intro levels hl
      have hl := hc.outer _ hl
      have hafter := (spans_members hc.level hc.inner hd.spans (fun m hmem => (hall m hmem).spans)
        levels hl).1
      rw [List.map_append, htok, ← List.append_assoc, afterTokens_append, hafter]
      have hsep : afterTokens levels [separator] = levels := hc.level levels
      rw [hsep]
      exact ⟨hc.inner _ hl, rfl⟩
    · intro vs' hvs' b hb hdeep
      have hhead : (ws ++ vs').head? = (ws ++ vs).head? := by
        rw [List.head?_append_of_ne_nil _ hne, List.head?_append_of_ne_nil _ hne]
      have hfirst := hus b hb (ws ++ vs') hhead
      rw [List.append_assoc]
      exact chain_eq_error_iff.mpr
        (.inr ⟨first, ws ++ vs', vs', hfirst, hws b hb vs', hvs' b hb hdeep⟩)

end Chains

section Phrases
variable {fin budget : Nat} {ts : List Placed} {e : CompileError}

theorem disjunction_refused
    (hm : ∀ {ts e}, unary fin budget ts = .error e →
      Refused fin budget .unary (Rejects (unary fin) budget e) ts e)
    (h : disjunction (unary fin budget) ts = .error e) :
    Refused fin budget .disjunction (Rejects (fun b => disjunction (unary fin b)) budget e) ts e := by
  have hp := unary_persists fin budget
  have hs : IsSound (unary fin budget) (Derives budget 0 .unary) := unary_sound (Nat.zero_add _)
  have hs' : IsSound (chain .conj .all (unary fin budget)) (Derives budget 0 .conjunction) :=
    chain_isSound hs .conjunct .conjunction
  apply chain_refused isChain_disjunction (chain_persists .all hp) hs' _ h
  intro ts e h
  exact chain_refused isChain_conjunction hp hs hm h

theorem closeParen_eq_error_iff {t : Placed} {p : Parsed ts} :
    closeParen fin t p = .error e ↔
      (p.rest = [] ∧ e = ⟨fin, .missing .closingParen⟩) ∨
      ∃ u rest, p.rest = u :: rest ∧ u.token ≠ .rightParen ∧
        e = ⟨u.offset, .mismatch .closingParen u.token⟩ := by
  unfold closeParen
  split
  · rename_i close rest hrest
    simp [hrest]
  · rename_i o found rest hne hrest
    constructor
    · intro h
      cases h
      exact .inr ⟨_, rest, hrest, hne, rfl⟩
    · rintro (⟨hnil, -⟩ | ⟨u, rest', hcons, -, rfl⟩)
      · rw [hrest] at hnil
        cases hnil
      · rw [hrest] at hcons
        cases hcons
        rfl
  · rename_i hrest
    simp [hrest, eq_comm]

theorem isPhrase_of_reads {us rest : List Placed} {inner : Expr}
    (h : Reads (disjunction (unary fin budget)) ts inner rest) (hts : ts = us ++ rest) :
    IsPhrase budget .disjunction (us.map Placed.token) := by
  obtain ⟨us', hsame, d⟩ := disjunction_sound (unary_sound (Nat.zero_add budget)) h
  rw [hts] at hsame
  obtain rfl := List.append_cancel_right hsame
  exact ⟨inner, d⟩

/-- A parenthesis in front of what was read as a disjunction is refused where its partner is
missing. -/
theorem closeParen_refused {offset : Nat} {p : Parsed ts}
    (hp : disjunction (unary fin budget) ts = .ok p)
    (h : closeParen fin ⟨offset, .leftParen⟩ p = .error e) :
    Refused fin (budget + 1) .unary (Rejects (unary fin) (budget + 1) e)
      (⟨offset, .leftParen⟩ :: ts) e := by
  have hread := Reads.of_eq hp
  obtain ⟨us, hus, hagain⟩ := disjunction_persists (unary_persists fin budget) hread
  have hphrase : IsPhrase (budget + 1) .unary
      ((⟨offset, .leftParen⟩ :: us).map Placed.token ++ [.rightParen]) :=
    (isPhrase_of_reads hread hus).parens
  rcases closeParen_eq_error_iff.mp h with ⟨hrest, rfl⟩ | ⟨u, rest, hrest, hu, rfl⟩
  · rw [hrest, List.append_nil] at hus
    rw [hus]
    exact refused_atEnd [.rightParen] (by simp) (by simp) (by decide) hphrase
  · rw [hus, hrest]
    refine refused_atToken (⟨offset, .leftParen⟩ :: us) [.rightParen] (by simp) (by decide) hphrase ?_
    intro after b hb _
    obtain ⟨b, rfl⟩ : ∃ k, b = k + 1 := ⟨b - 1, by omega⟩
    obtain ⟨_, hinner⟩ := hagain b (by omega) (u :: after) (by rw [hrest]; rfl)
    rw [List.cons_append, unary]
    simp only [hinner]
    exact closeParen_eq_error_iff.mpr (.inr ⟨u, after, rfl, hu, rfl⟩)

/-- Without budget no level opens. -/
theorem refused_tooDeep {t : Placed} (ht : t.token = .leftParen ∨ t.token = .neg)
    (ts : List Placed) :
    Refused fin 0 .unary (Rejects (unary fin) 0 ⟨t.offset, .tooDeep⟩) (t :: ts)
      ⟨t.offset, .tooDeep⟩ := by
  have hfits : ∃ more, IsPhrase 1 .unary (t.token :: more) := by
    rcases ht with ht | ht
    · rw [ht]
      exact ⟨_, IsPhrase.parens ⟨_, .disjunct (.conjunct (.primary (@Derives.constant 0 0 true)))⟩⟩
    · rw [ht]
      exact ⟨_, (isPhrase_constant 0).neg⟩
  refine @Refused.atToken fin 0 .unary _ _ _ [] t [t] ts [.constant true] rfl .itself rfl
    (by decide) (isPhrase_constant 0) ?_ ?_
  · intro after b _ hb
    obtain rfl := hb rfl
    obtain ⟨offset, token⟩ := t
    rcases ht with rfl | rfl
    · rfl
    · rfl
  · intro _
    exact ⟨rfl, ht, fun _ _ => rfl, hfits⟩

theorem negation_refused (offset : Nat)
    (h : Refused fin budget .unary (Rejects (unary fin) budget e) ts e) :
    Refused fin (budget + 1) .unary (Rejects (unary fin) (budget + 1) e)
      (⟨offset, .neg⟩ :: ts) e := by
  apply Refused.inside [⟨offset, .neg⟩] [] h (List.forall_mem_nil _)
  · intro k us hus
    have hneg := hus.neg
    rw [Nat.add_right_comm] at hneg
    simpa using hneg
  · intro levels _
    exact ⟨trivial, Nat.add_right_comm levels.length 1 budget⟩
  · intro vs hvs b hb hdeep
    obtain ⟨b, rfl⟩ : ∃ k, b = k + 1 := ⟨b - 1, by omega⟩
    have hinner := hvs b (by omega) fun htoo => Nat.succ_injective (hdeep htoo)
    rw [List.singleton_append, unary]
    simp only [hinner]

theorem group_refused (offset : Nat)
    (h : Refused fin budget .disjunction (Rejects (fun b => disjunction (unary fin b)) budget e) ts e) :
    Refused fin (budget + 1) .unary (Rejects (unary fin) (budget + 1) e)
      (⟨offset, .leftParen⟩ :: ts) e := by
  apply Refused.inside [⟨offset, .leftParen⟩] [.rightParen] h (by decide)
  · intro k us hus
    have hparens := hus.parens
    rw [Nat.add_right_comm] at hparens
    simpa using hparens
  · intro levels _
    exact ⟨rfl, Nat.add_right_comm levels.length 1 budget⟩
  · intro vs hvs b hb hdeep
    obtain ⟨b, rfl⟩ : ∃ k, b = k + 1 := ⟨b - 1, by omega⟩
    have hinner := hvs b (by omega) fun htoo => Nat.succ_injective (hdeep htoo)
    rw [List.singleton_append, unary]
    simp only at hinner
    simp only [hinner]

theorem unary_refused (h : unary fin budget ts = .error e) :
    Refused fin budget .unary (Rejects (unary fin) budget e) ts e := by
  induction budget using Nat.strongRecOn generalizing ts e with
  | ind budget ih =>
      have hatom (hts : ∀ t ∈ ts.head?, t.token ≠ .neg ∧ t.token ≠ .leftParen) :
          Refused fin budget .unary (Rejects (unary fin) budget e) ts e := by
        rw [unary_eq_atom hts] at h
        apply (atom_refused h budget).imp
        intro vs hvs hrejected b _ _
        rw [unary_eq_atom (hvs ▸ hts), hrejected]
      cases ts with
      | nil => exact hatom (by simp)
      | cons t ts =>
          obtain ⟨offset, token⟩ := t
          cases token with
          | neg =>
              cases budget with
              | zero =>
                  cases h
                  exact @refused_tooDeep fin ⟨offset, .neg⟩ (.inr rfl) ts
              | succ budget =>
                  rw [unary] at h
                  split at h
                  · cases h
                  · rename_i hinner
                    cases h
                    exact negation_refused offset (ih budget (Nat.lt_succ_self _) hinner)
          | leftParen =>
              cases budget with
              | zero =>
                  cases h
                  exact @refused_tooDeep fin ⟨offset, .leftParen⟩ (.inl rfl) ts
              | succ budget =>
                  rw [unary] at h
                  split at h
                  · rename_i p hp
                    exact closeParen_refused hp h
                  · rename_i hinner
                    cases h
                    exact group_refused offset
                      (disjunction_refused (ih budget (Nat.lt_succ_self _)) hinner)
          | _ => exact hatom (by simp)

theorem IsPhrase.reads (h : IsPhrase budget .disjunction (ts.map Placed.token)) (fin : Nat) :
    ∃ e, Reads (disjunction (unary fin budget)) ts e [] := by
  obtain ⟨e, d⟩ := h
  exact ⟨e, by simpa [reader] using d.accepts fin (Nat.zero_add _) rfl stops_nil⟩

/-- With the limit, or with any greater one unless a level is missing, the tokens are no script. -/
def IsNoScript (e : CompileError) (ts : List Placed) : Prop :=
  ∀ b, maxNesting ≤ b → (e.problem = .tooDeep → b = maxNesting) →
    ¬ IsPhrase b .disjunction (ts.map Placed.token)

theorem parseTokens_refused (hne : ts ≠ []) (h : parseTokens fin ts = .error e) :
    Refused fin maxNesting .disjunction (IsNoScript e) ts e := by
  rw [parseTokens, if_neg (by simpa using hne)] at h
  split at h
  · rename_i hd
    cases h
    apply (disjunction_refused unary_refused hd).imp
    intro vs _ hrejected b hb hdeep hphrase
    obtain ⟨_, _, hread⟩ := hphrase.reads fin
    have herror : disjunction (unary fin b) vs = .error e := hrejected b hb hdeep
    rw [hread] at herror
    cases herror
  · rename_i p hd
    have hread := Reads.of_eq hd
    obtain ⟨us, hus, hagain⟩ := disjunction_persists (unary_persists fin maxNesting) hread
    split at h
    · cases h
    · rename_i t rest hrest
      cases h
      rw [hus, hrest]
      refine refused_atToken us [] (by simp) (List.forall_mem_nil _) ?_ ?_
      · simpa using isPhrase_of_reads hread hus
      · intro after b hb _ hphrase
        obtain ⟨_, hwhole⟩ := hphrase.reads fin
        have hstops := hagain b hb (t :: after) (by rw [hrest]; rfl)
        cases (hstops.functional hwhole).2

end Phrases

end Lexicon.Script
