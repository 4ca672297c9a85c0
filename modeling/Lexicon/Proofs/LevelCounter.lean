import Lexicon.Proofs.Parsing
import Mathlib.Order.Nat

/-!
# Counting open levels

The parser spends a budget, which is given to it from outside. It can as well keep one counter of the
levels that are open, which goes up at every negation and parenthesis, is compared with the limit, and
goes down again behind the inner phrase. Both ways to parse give the same answers. Behind a phrase the
counter is back at its value in front of it, and on the way it was never above the limit.
-/

namespace Lexicon.Script

/-- The number of levels that are open, and the greatest number that was open so far. -/
structure LevelCounter where
  depth : Nat := 0
  peak : Nat := 0
deriving Repr, DecidableEq

namespace LevelCounter

/-- Opens a level. -/
def enter (k : LevelCounter) : LevelCounter := ⟨k.depth + 1, max k.peak (k.depth + 1)⟩

/-- Closes a level. -/
def leave (k : LevelCounter) : LevelCounter := { k with depth := k.depth - 1 }

/-- The answer of a phrase, with the counter behind it. -/
abbrev Answer (α : Type) := Except CompileError (α × LevelCounter)

/-- A way to read an expression from the front of tokens, of which there are at most so many, that
starts with a counter and ends with another one. -/
abbrev CountedPhrase (n : Nat) :=
  LevelCounter → (ts : List Placed) → ts.length ≤ n → Answer (Parsed ts)

/-- Reads the members of a chain that follow the first ones. The counter goes from member to
member. -/
def moreMembers {n : Nat} (separator : Token) (member : CountedPhrase n) {start : List Placed}
    (hn : start.length ≤ n) (done : List Expr) (k : LevelCounter) (ts : List Placed)
    (h : ts.length < start.length) : Answer (Members start) :=
  match ts with
  | [] => .ok (⟨done.reverse, [], h⟩, k)
  | t :: rest =>
    if t.token = separator then
      match member k rest (by simp only [List.length_cons] at h; omega) with
      | .ok (p, k) =>
        have := p.shorter
        moreMembers separator member hn (p.expr :: done) k p.rest
          (by simp only [List.length_cons] at h; omega)
      | .error e => .error e
    else .ok (⟨done.reverse, t :: rest, h⟩, k)
termination_by ts.length
decreasing_by simp only [List.length_cons]; omega

/-- Reads a chain of members with separators between them. -/
def chain {n : Nat} (separator : Token) (node : List Expr → Expr) (member : CountedPhrase n) :
    CountedPhrase n := fun k ts h =>
  match member k ts h with
  | .error e => .error e
  | .ok (first, k) =>
    match moreMembers separator member h [first.expr] k first.rest first.shorter with
    | .error e => .error e
    | .ok (ms, k) => .ok (⟨joinMembers node ms.exprs, ms.rest, ms.shorter⟩, k)

/-- Reads a disjunction of conjunctions of unary phrases. -/
def disjunctionOf {n : Nat} (unary : CountedPhrase n) : CountedPhrase n :=
  chain .disj .any (chain .conj .all unary)

mutual

/-- Reads a unary phrase. -/
def unary (fin : Nat) (k : LevelCounter) (ts : List Placed) : Answer (Parsed ts) :=
  match ts with
  | ⟨offset, .neg⟩ :: rest =>
    let k := k.enter
    if maxNesting < k.depth then .error ⟨offset, .tooDeep⟩
    else
      match unary fin k rest with
      | .ok (p, k) => .ok (⟨.not p.expr, p.rest, Nat.lt_succ_of_lt p.shorter⟩, k.leave)
      | .error e => .error e
  | ts => primary fin k ts
termination_by (ts.length, 1)

/-- Reads a group, a constant or a test. -/
def primary (fin : Nat) (k : LevelCounter) (ts : List Placed) : Answer (Parsed ts) :=
  match ts with
  | ⟨offset, .leftParen⟩ :: rest =>
    let k := k.enter
    if maxNesting < k.depth then .error ⟨offset, .tooDeep⟩
    else
      match disjunctionOf (fun k us _ => unary fin k us) k rest (Nat.le_refl rest.length) with
      | .ok (p, k) => (closeParen fin ⟨offset, .leftParen⟩ p).map (·, k.leave)
      | .error e => .error e
  | ts => (atom fin ts).map (·, k)
termination_by (ts.length, 0)

end

/-- An answer with a counter is the one without. If it is an expression, the counter is back where it
was, and it was never above the limit in between. -/
inductive Returns {α : Type} (k : LevelCounter) : Answer α → Except CompileError α → Prop
  | ok {a k'} (depth : k'.depth = k.depth) (peak : k'.peak ≤ max k.peak maxNesting) :
      Returns k (.ok (a, k')) (.ok a)
  | error {e} : Returns k (.error e) (.error e)

section Chains
variable {α : Type} {n d : Nat} {separator : Token} {node : List Expr → Expr}
  {member : CountedPhrase n} {plain : Phrase} {k k' : LevelCounter}

theorem Returns.after {counted : Answer α} {answer : Except CompileError α}
    (hdepth : k'.depth = k.depth) (hpeak : k'.peak ≤ max k.peak maxNesting)
    (h : Returns k' counted answer) : Returns k counted answer := by
  cases h with
  | ok hdepth' hpeak' => exact .ok (hdepth'.trans hdepth) (by omega)
  | error => exact .error

theorem returns_ok_iff {counted : Answer α} {a : α} :
    Returns k counted (.ok a) ↔
      ∃ k', counted = .ok (a, k') ∧ k'.depth = k.depth ∧ k'.peak ≤ max k.peak maxNesting := by
  constructor
  · rintro (⟨hdepth, hpeak⟩ | _)
    exact ⟨_, rfl, hdepth, hpeak⟩
  · rintro ⟨k', rfl, hdepth, hpeak⟩
    exact .ok hdepth hpeak

theorem returns_error_iff {counted : Answer α} {e : CompileError} :
    Returns k counted (.error e) ↔ counted = .error e := by
  constructor
  · rintro ⟨⟩
    rfl
  · rintro rfl
    exact .error

/-- From one depth on, a counted phrase answers as a plain one does. -/
def Follows (d : Nat) (member : CountedPhrase n) (plain : Phrase) : Prop :=
  ∀ k ts h, k.depth = d → Returns k (member k ts h) (plain ts)

theorem returns_moreMembers (separator : Token) (hm : Follows d member plain)
    {start : List Placed} (hn : start.length ≤ n) (done : List Expr) (ts : List Placed)
    (h : ts.length < start.length) (hk : k.depth = d) :
    Returns k (moreMembers separator member hn done k ts h)
      (Script.moreMembers separator plain done ts h) := by
  fun_induction Script.moreMembers separator plain done ts h generalizing k with
  | case1 done h =>
      rw [moreMembers]
      exact .ok rfl (Nat.le_max_left ..)
  | case2 done t rest h ht p hp _ _ ih =>
      have hlen : rest.length ≤ n := (Nat.lt_of_succ_lt h).le.trans hn
      obtain ⟨k', hanswer, hdepth, hpeak⟩ := returns_ok_iff.mp (hp ▸ hm k rest hlen hk)
      simp only [moreMembers, if_pos ht, hanswer]
      exact .after hdepth hpeak (ih (hdepth.trans hk))
  | case3 done t rest h ht e he =>
      have hlen : rest.length ≤ n := (Nat.lt_of_succ_lt h).le.trans hn
      have hanswer := returns_error_iff.mp (he ▸ hm k rest hlen hk)
      simp only [moreMembers, if_pos ht, hanswer]
      exact .error
  | case4 done t rest h ht =>
      rw [moreMembers, if_neg ht]
      exact .ok rfl (Nat.le_max_left ..)

/-- A chain of counted members answers as a chain of plain ones does. -/
theorem Follows.chain (hm : Follows d member plain) :
    Follows d (chain separator node member) (Script.chain separator node plain) := by
  intro k ts h hk
  rw [LevelCounter.chain, Script.chain]
  have hfirst := hm k ts h hk
  generalize member k ts h = counted at hfirst
  generalize plain ts = answer at hfirst
  cases hfirst with
  | error => exact .error
  | @ok first k' hdepth hpeak =>
      have hmore := returns_moreMembers separator hm h [first.expr] first.rest first.shorter
        (hdepth.trans hk)
      dsimp only
      generalize moreMembers separator member h [first.expr] k' first.rest first.shorter = counted
        at hmore
      generalize Script.moreMembers separator plain [first.expr] first.rest first.shorter = answer
        at hmore
      cases hmore with
      | error => exact .error
      | ok hdepth' hpeak' => exact .after hdepth hpeak (.ok hdepth' hpeak')

theorem Follows.disjunctionOf (hm : Follows d member plain) :
    Follows d (disjunctionOf member) (disjunction plain) :=
  hm.chain.chain

end Chains

section Phrases
variable {fin : Nat} {k k' : LevelCounter} {ts : List Placed}

/-- A level can be opened if and as long as the budget that the counter leaves is not spent. -/
theorem enter_cases (k : LevelCounter) :
    (maxNesting < k.enter.depth ∧ maxNesting - k.depth = 0) ∨
      (¬ maxNesting < k.enter.depth ∧
        maxNesting - k.depth = maxNesting - k.enter.depth + 1) := by
  simp only [enter]
  omega

theorem leave_of_enter (hroom : ¬ maxNesting < k.enter.depth) (hdepth : k'.depth = k.enter.depth)
    (hpeak : k'.peak ≤ max k.enter.peak maxNesting) :
    k'.leave.depth = k.depth ∧ k'.leave.peak ≤ max k.peak maxNesting := by
  simp only [enter, leave] at *
  omega

theorem returns_atom : Returns k ((atom fin ts).map (·, k)) (atom fin ts) := by
  cases atom fin ts with
  | ok p => exact .ok rfl (Nat.le_max_left ..)
  | error e => exact .error

theorem returns_negation {offset : Nat}
    (ih : ∀ k, Returns k (unary fin k ts) (Script.unary fin (maxNesting - k.depth) ts)) :
    Returns k (unary fin k (⟨offset, .neg⟩ :: ts))
      (Script.unary fin (maxNesting - k.depth) (⟨offset, .neg⟩ :: ts)) := by
  rw [unary]
  rcases enter_cases k with ⟨hfull, hbudget⟩ | ⟨hroom, hbudget⟩
  · rw [hbudget, Script.unary]
    exact (if_pos hfull) ▸ .error
  · rw [hbudget, Script.unary, if_neg hroom]
    have hinner := ih k.enter
    generalize unary fin k.enter ts = counted at hinner
    generalize Script.unary fin (maxNesting - k.enter.depth) ts = answer at hinner
    cases hinner with
    | error => exact .error
    | ok hdepth hpeak =>
        obtain ⟨hdepth', hpeak'⟩ := leave_of_enter hroom hdepth hpeak
        exact .ok hdepth' hpeak'

theorem returns_group {offset : Nat}
    (ih : ∀ us : List Placed, us.length ≤ ts.length → ∀ k,
      Returns k (unary fin k us) (Script.unary fin (maxNesting - k.depth) us)) :
    Returns k (primary fin k (⟨offset, .leftParen⟩ :: ts))
      (Script.unary fin (maxNesting - k.depth) (⟨offset, .leftParen⟩ :: ts)) := by
  rw [primary]
  rcases enter_cases k with ⟨hfull, hbudget⟩ | ⟨hroom, hbudget⟩
  · rw [hbudget, Script.unary]
    exact (if_pos hfull) ▸ .error
  · rw [hbudget, Script.unary, if_neg hroom]
    have hmember : Follows k.enter.depth (n := ts.length) (fun k us _ => unary fin k us)
        (Script.unary fin (maxNesting - k.enter.depth)) := by
      intro k' us hus hk'
      exact hk' ▸ ih us hus k'
    have hinner := hmember.disjunctionOf k.enter ts (Nat.le_refl _) rfl
    generalize disjunctionOf (fun k us _ => unary fin k us) k.enter ts (Nat.le_refl _) = counted
      at hinner
    generalize disjunction (Script.unary fin (maxNesting - k.enter.depth)) ts = answer at hinner
    cases hinner with
    | error => exact .error
    | @ok p k' hdepth hpeak =>
        obtain ⟨hdepth', hpeak'⟩ := leave_of_enter hroom hdepth hpeak
        dsimp only
        cases closeParen fin ⟨offset, .leftParen⟩ p with
        | ok q => exact .ok hdepth' hpeak'
        | error e => exact .error

theorem unary_eq_primary (h : ∀ t ∈ ts.head?, t.token ≠ .neg) :
    unary fin k ts = primary fin k ts := by
  rw [unary]
  rintro offset rest rfl
  exact h _ rfl rfl

theorem primary_eq_atom (h : ∀ t ∈ ts.head?, t.token ≠ .leftParen) :
    primary fin k ts = (atom fin ts).map (·, k) := by
  rw [primary]
  rintro offset rest rfl
  exact h _ rfl rfl

/-- What the parser reads where no negation may stand. -/
def operand (fin budget : Nat) : Phrase := fun ts =>
  if ∃ t ∈ ts.head?, t.token = .neg then atom fin ts else Script.unary fin budget ts

/-- A phrase that is counted answers as one with the budget that the counter leaves. -/
theorem returns_unary (fin : Nat) (ts : List Placed) (k : LevelCounter) :
    Returns k (unary fin k ts) (Script.unary fin (maxNesting - k.depth) ts) := by
  -- The recursion goes down on the tokens: a negation and a group read behind their first token.
  induction hlen : ts.length using Nat.strongRecOn generalizing ts k with
  | ind n ih =>
      have hatom (h : ∀ t ∈ ts.head?, t.token ≠ .neg ∧ t.token ≠ .leftParen) :
          Returns k (unary fin k ts) (Script.unary fin (maxNesting - k.depth) ts) := by
        rw [unary_eq_primary fun t ht => (h t ht).1, primary_eq_atom fun t ht => (h t ht).2,
          unary_eq_atom h]
        exact returns_atom
      cases ts with
      | nil => exact hatom (by simp)
      | cons t ts =>
          obtain ⟨offset, token⟩ := t
          have hshorter : ts.length < n := by
            rw [← hlen]
            exact Nat.lt_succ_self _
          cases token with
          | neg => exact returns_negation fun k => ih ts.length hshorter ts k rfl
          | leftParen =>
              rw [unary_eq_primary (by simp)]
              exact returns_group fun us hus k => ih us.length (hus.trans_lt hshorter) us k rfl
          | _ => exact hatom (by simp)

theorem returns_primary (fin : Nat) (ts : List Placed) (k : LevelCounter) :
    Returns k (primary fin k ts) (operand fin (maxNesting - k.depth) ts) := by
  rw [operand]
  split
  · rename_i hneg
    obtain ⟨t, ht, hneg⟩ := hneg
    rw [primary_eq_atom]
    · exact returns_atom
    · intro u hu hparen
      obtain rfl := Option.mem_unique ht hu
      cases hneg.symm.trans hparen
  · rename_i hneg
    rw [← unary_eq_primary fun t ht htoken => hneg ⟨t, ht, htoken⟩]
    exact returns_unary fin ts k

end Phrases

/-- Reads a conjunction of unary phrases. -/
def conjunction (fin : Nat) (k : LevelCounter) (ts : List Placed) : Answer (Parsed ts) :=
  chain .conj .all (fun k us _ => unary fin k us) k ts (Nat.le_refl ts.length)

/-- Reads a disjunction of conjunctions. -/
def disjunction (fin : Nat) (k : LevelCounter) (ts : List Placed) : Answer (Parsed ts) :=
  disjunctionOf (fun k us _ => unary fin k us) k ts (Nat.le_refl ts.length)

/-- Reads an expression that takes up all the tokens of a script with `fin` bytes. -/
def parseTokens (fin : Nat) (ts : List Placed) : Answer Expr :=
  if ts.isEmpty then .error ⟨0, .emptyScript⟩
  else
    match disjunction fin {} ts with
    | .error e => .error e
    | .ok (p, k) =>
      match p.rest with
      | [] => .ok (p.expr, k)
      | t :: _ => .error ⟨t.offset, .trailing t.token⟩

/-- The tree of a script, and the counter behind it. -/
def parse (source : String) : Answer Expr :=
  match tokenize source with
  | .error e => .error e
  | .ok tokens => parseTokens source.utf8ByteSize tokens

section Scripts
variable {fin : Nat} {k : LevelCounter} {ts : List Placed}

theorem follows_unary (fin n d : Nat) :
    Follows d (n := n) (fun k us _ => unary fin k us) (Script.unary fin (maxNesting - d)) := by
  rintro k ts - rfl
  exact returns_unary fin ts k

theorem returns_conjunction (fin : Nat) (ts : List Placed) (k : LevelCounter) :
    Returns k (conjunction fin k ts)
      (Script.chain .conj .all (Script.unary fin (maxNesting - k.depth)) ts) :=
  (follows_unary fin ts.length k.depth).chain k ts (Nat.le_refl _) rfl

theorem returns_disjunction (fin : Nat) (ts : List Placed) (k : LevelCounter) :
    Returns k (disjunction fin k ts)
      (Script.disjunction (Script.unary fin (maxNesting - k.depth)) ts) :=
  (follows_unary fin ts.length k.depth).disjunctionOf k ts (Nat.le_refl _) rfl

theorem returns_parseTokens (fin : Nat) (ts : List Placed) :
    Returns {} (parseTokens fin ts) (Script.parseTokens fin ts) := by
  rw [parseTokens, Script.parseTokens]
  split
  · exact .error
  · have h : Returns {} (disjunction fin {} ts)
        (Script.disjunction (Script.unary fin maxNesting) ts) := returns_disjunction fin ts {}
    generalize disjunction fin {} ts = counted at h
    generalize Script.disjunction (Script.unary fin maxNesting) ts = answer at h
    cases h with
    | error => exact .error
    | @ok p k hdepth hpeak =>
        dsimp only
        cases p.rest with
        | nil => exact .ok hdepth hpeak
        | cons t rest => exact .error

/-- Counting the open levels makes no difference to the answer for a script. -/
theorem returns_parse (source : String) : Returns {} (parse source) (Script.parse source) := by
  rw [parse]
  cases h : tokenize source with
  | error e =>
      have hparse : Script.parse source = .error e := by
        rw [Script.parse, h]
        rfl
      rw [hparse]
      exact .error
  | ok tokens =>
      rw [parse_eq_parseTokens h]
      exact returns_parseTokens _ tokens

end Scripts

/-- The phrases with a counter answer as those of the parser do with the budget that the counter
leaves. Behind each of them the counter is back where it was, and it was never above the limit in
between. -/
structure KeepsCount (fin : Nat) : Prop where
  disjunction (ts : List Placed) (k : LevelCounter) : Returns k (disjunction fin k ts)
    (Script.disjunction (Script.unary fin (maxNesting - k.depth)) ts)
  conjunction (ts : List Placed) (k : LevelCounter) : Returns k (conjunction fin k ts)
    (Script.chain .conj .all (Script.unary fin (maxNesting - k.depth)) ts)
  unary (ts : List Placed) (k : LevelCounter) :
    Returns k (unary fin k ts) (Script.unary fin (maxNesting - k.depth) ts)
  primary (ts : List Placed) (k : LevelCounter) :
    Returns k (primary fin k ts) (operand fin (maxNesting - k.depth) ts)

theorem keepsCount (fin : Nat) : KeepsCount fin :=
  ⟨returns_disjunction fin, returns_conjunction fin, returns_unary fin, returns_primary fin⟩

end LevelCounter

end Lexicon.Script
