import Lexicon.Script.Expr
import Mathlib.Data.List.Basic

/-!
# The grammar of scripts

A derivation says why a list of tokens is a phrase and which tree it has. It is written without the
parser: no position, no budget, no order of attempts. Every phrase stands at a depth, the number of
negations and parentheses open around it, and a limit bounds the depth at which one may open.

The names of fields are compared as spelt in the table, up to the case of ASCII letters.
-/

namespace Lexicon.Script

/-- Two texts are the same up to the case of ASCII letters. -/
def EqIgnoringCase (s t : String) : Prop :=
  s.toList.map Char.toLower = t.toList.map Char.toLower

/-- A name is one of the names of a field, in any case. -/
def Field.Named (f : Field) (name : String) : Prop :=
  ∃ known, (known, f) ∈ Field.names ∧ EqIgnoringCase name known

/-- A name is the one under which the number of an entry is compared, in any case. -/
def NamesId (name : String) : Prop := EqIgnoringCase name "id"

/-- The operator that writes a relation of texts. -/
def TextRelation.operator : TextRelation → Operator
  | .startsWith => .startsWith
  | .endsWith => .endsWith
  | .contains => .contains
  | .regexp => .regexp
  | .eq => .eq
  | .ne => .ne

/-- The operator that writes a comparison of numbers. -/
def Comparison.operator : Comparison → Operator
  | .eq => .eq
  | .ne => .ne
  | .lt => .lt
  | .le => .le
  | .gt => .gt
  | .ge => .ge

/-- The kinds of phrases, from the loosest to the tightest. -/
inductive Category where
  | disjunction
  | conjunction
  | unary
  | primary
  | test
deriving Repr, DecidableEq

/-- With the given number of levels open around them, the tokens are a phrase of the category and
have the tree. The members of a chain after the first are given with their tokens. -/
inductive Derives (limit : Nat) : Nat → Category → List Token → Expr → Prop
  | disjunct {n ts e} (h : Derives limit n .conjunction ts e) : Derives limit n .disjunction ts e
  | disjunction {n ts e} {more : List (List Token × Expr)} (ne : more ≠ [])
      (first : Derives limit n .conjunction ts e)
      (each : ∀ m ∈ more, Derives limit n .conjunction m.1 m.2) :
      Derives limit n .disjunction (ts ++ more.flatMap fun m => .disj :: m.1)
        (.any (e :: more.map Prod.snd))
  | conjunct {n ts e} (h : Derives limit n .unary ts e) : Derives limit n .conjunction ts e
  | conjunction {n ts e} {more : List (List Token × Expr)} (ne : more ≠ [])
      (first : Derives limit n .unary ts e)
      (each : ∀ m ∈ more, Derives limit n .unary m.1 m.2) :
      Derives limit n .conjunction (ts ++ more.flatMap fun m => .conj :: m.1)
        (.all (e :: more.map Prod.snd))
  | negation {n ts e} (room : n < limit) (h : Derives limit (n + 1) .unary ts e) :
      Derives limit n .unary (.neg :: ts) (.not e)
  | primary {n ts e} (h : Derives limit n .primary ts e) : Derives limit n .unary ts e
  | group {n ts e} (room : n < limit) (h : Derives limit (n + 1) .disjunction ts e) :
      Derives limit n .primary (.leftParen :: ts ++ [.rightParen]) e
  | constant {n value} : Derives limit n .primary [.constant value] (.const value)
  | test {n ts e} (h : Derives limit n .test ts e) : Derives limit n .primary ts e
  | compareId {n name comparison value} (h : NamesId name) :
      Derives limit n .test [.name name, .operator (Comparison.operator comparison), .integer value]
        (.compareId comparison value)
  | compareText {n name field relation literal} (h : Field.Named field name) :
      Derives limit n .test [.name name, .operator (TextRelation.operator relation), .text literal]
        (.test field relation literal)
  | present {n name field} (h : Field.Named field name) :
      Derives limit n .test [.name name] (.present field)

theorem lowerAscii_eq_iff {name known : String}
    (h : Text.lowerAscii known.toList = known) :
    Text.lowerAscii name.toList = known ↔ EqIgnoringCase name known := by
  rw [EqIgnoringCase, ← String.ofList_inj]
  exact Eq.congr_right h.symm

theorem lowerAscii_names : ∀ p ∈ Field.names, Text.lowerAscii p.1.toList = p.1 := by
  decide

theorem nodup_names : (Field.names.map Prod.fst).Nodup := by
  decide

/-- Looking a name up finds the field that the name, in any case, stands for. -/
theorem ofName?_eq_some_iff {name : String} {f : Field} :
    Field.ofName? name = some f ↔ f.Named name := by
  rw [Field.ofName?, List.lookup_eq_some_iff]
  constructor
  · rintro ⟨before, after, he, -⟩
    have hm : (Text.lowerAscii name.toList, f) ∈ Field.names := by simp [he]
    exact ⟨_, hm, (lowerAscii_eq_iff (lowerAscii_names _ hm)).mp rfl⟩
  · rintro ⟨known, hm, hk⟩
    obtain ⟨before, after, he⟩ := List.append_of_mem hm
    rw [(lowerAscii_eq_iff (lowerAscii_names _ hm)).mpr hk]
    refine ⟨before, after, he, fun p hp => ?_⟩
    have hd := nodup_names
    rw [he, List.map_append, List.nodup_append] at hd
    have hne := hd.2.2 p.1 (List.mem_map_of_mem hp) known (by simp)
    simpa [bne_iff_ne] using hne.symm

theorem isIdName_iff {name : String} : isIdName name = true ↔ NamesId name := by
  rw [isIdName, decide_eq_true_iff]
  exact lowerAscii_eq_iff (by decide)

/-- No field goes by the name of the number. -/
theorem not_named_of_namesId {name : String} (h : NamesId name) (f : Field) : ¬ f.Named name := by
  rintro ⟨known, hm, hk⟩
  have hid : EqIgnoringCase known "id" := hk.symm.trans h
  have hne : ∀ p ∈ Field.names, Text.lowerAscii p.1.toList ≠ "id" := by decide
  exact hne _ hm ((lowerAscii_eq_iff (by decide)).mpr hid)

theorem textRelation?_eq_some_iff {op : Operator} {r : TextRelation} :
    op.textRelation? = some r ↔ op = r.operator := by
  cases op <;> cases r <;> decide

theorem comparison?_eq_some_iff {op : Operator} {c : Comparison} :
    op.comparison? = some c ↔ op = c.operator := by
  cases op <;> cases c <;> decide

end Lexicon.Script
