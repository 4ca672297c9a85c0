import Lexicon.Proofs.Outcomes
import Lexicon.Proofs.TestScripts
import Lexicon.Session.Basic

/-!
# Queries written as scripts

Every query can be written as a script of one test. The script takes a way of its own: the needle is
quoted and read back, the field is looked up among the names of the expression language, and the
test becomes a filter. It finds the same entries, and it is refused for the same patterns.
-/

namespace Lexicon.Search

open Script (testScript)

/-- The name under which scripts know a field. -/
def Field.scriptName : Field → String
  | headword => "headword"
  | translation => "translation"
  | translationTag => "translation.label"
  | tag => "tag"
  | variationTag => "variation.label"
  | everything => "everything"

/-- The operator with which scripts write a strategy. -/
def Strategy.scriptOperator : Strategy → String
  | startsWith => "startswith"
  | endsWith => "endswith"
  | contains => "contains"
  | regexp => "matches"

/-- The script of a query. -/
def Query.script (q : Query) : String :=
  String.ofList (q.field.scriptName.toList ++ ' ' ::
    (q.strategy.scriptOperator.toList ++ ' ' :: singleQuoted q.needle))

/-- The field of the expression language that covers the same texts. -/
def Field.scriptField : Field → Script.Field
  | headword => .headword
  | translation => .translation
  | translationTag => .translationLabel
  | tag => .tag
  | variationTag => .variationLabel
  | everything => .everything

/-- The relation of a text to the needle that a strategy asks for. -/
def Strategy.relation : Strategy → Script.TextRelation
  | startsWith => .startsWith
  | endsWith => .endsWith
  | contains => .contains
  | regexp => .regexp

theorem Field.locations_scriptField (f : Field) : f.scriptField.locations = f.locations := by
  cases f <;> rfl

theorem Field.named_scriptName (f : Field) : f.scriptField.Named f.scriptName := by
  rw [← Script.ofName?_eq_some_iff]
  cases f <;> decide

/-- The script of a query is a test of its field. -/
theorem Query.script_eq (q : Query) :
    q.script = testScript q.field.scriptName q.strategy.relation q.needle := by
  obtain ⟨field, strategy, needle⟩ := q
  cases strategy <;> rfl

/-- The relation of a strategy makes the same test as the strategy. -/
theorem toFilter_relation (strategy : Strategy) (locations : List Location) (needle : String) :
    strategy.relation.toFilter locations needle =
      (TextTest.ofStrategy strategy needle).map (.test locations) := by
  cases strategy <;> rfl

/-- The script of a query compiles to the test of the query. -/
theorem compile_script (q : Query) :
    Script.compile q.script = (TextTest.ofStrategy q.strategy q.needle).map fun t =>
      ⟨q.script, .test q.field.locations t⟩ := by
  rw [q.script_eq, Script.compile_testScript q.field.named_scriptName, ← q.script_eq,
    Field.locations_scriptField, toFilter_relation]
  cases TextTest.ofStrategy q.strategy q.needle <;> rfl

/-- A test of a field and the script of that test find the same. -/
theorem execute_script (f : Field) (t : TextTest) (source : String) (s : Snapshot) :
    execute (.script ⟨source, .test f.locations t⟩) s = execute (.field ⟨f, t⟩) s := by
  rw [execute_eq, execute_eq]
  rfl

theorem ofStrategy_cases (strategy : Strategy) (needle : String) :
    (∃ t, TextTest.ofStrategy strategy needle = .ok t) ∨
      ∃ refusal, strategy = .regexp ∧ Pattern.compile needle = .error refusal ∧
        TextTest.ofStrategy strategy needle = .error (.pattern needle refusal) := by
  cases strategy with
  | regexp =>
      simp only [TextTest.ofStrategy, TextTest.ofPattern]
      cases Pattern.compile needle with
      | ok p => exact .inl ⟨_, rfl⟩
      | error refusal => exact .inr ⟨refusal, trivial, rfl, rfl⟩
  | _ => exact .inl ⟨_, rfl⟩

/-- A query, a session that keeps it, and a session that keeps its script return the same outcome,
in which nothing fails, or all refuse the needle as a pattern. Whatever else the sessions keep, a
search that succeeds replaces their outcomes and one that is refused leaves them. -/
theorem script_agrees_with_query (q : Query) (s : Snapshot) (a b : Session) :
    let matrix := (a.setQuery q).setMode .matrix
    let expression := (b.setScript q.script).setMode .expression
    (∃ o, run q s = .ok o ∧ o.failures = [] ∧
        matrix.execute s = ({ matrix with outcome := o }, .ok o.count) ∧
        expression.execute s = ({ expression with outcome := o }, .ok o.count)) ∨
      ∃ refusal, q.strategy = .regexp ∧ Pattern.compile q.needle = .error refusal ∧
        run q s = .error (.pattern q.needle refusal) ∧
        matrix.execute s = (matrix, .error (.pattern q.needle refusal)) ∧
        expression.execute s = (expression, .error (.pattern q.needle refusal)) := by
  intro matrix expression
  have hmatrix : matrix.predicate = (FieldTest.ofQuery q).map .field := rfl
  have hexpression : expression.predicate = (Script.compile q.script).map .script := rfl
  rw [compile_script] at hexpression
  rcases ofStrategy_cases q.strategy q.needle with ⟨t, ht⟩ | ⟨refusal, hstrategy, hrefused, ht⟩
  · left
    have hquery : FieldTest.ofQuery q = .ok ⟨q.field, t⟩ := by rw [FieldTest.ofQuery, ht]; rfl
    refine ⟨execute (.field ⟨q.field, t⟩) s, ?_, ?_, ?_, ?_⟩
    · rw [run, hquery]
      rfl
    · simp [execute_eq, failing, Predicate.failure?]
    · rw [hquery] at hmatrix
      simp only [Session.execute, hmatrix, Except.map]
    · rw [ht] at hexpression
      simp only [Session.execute, hexpression, Except.map, execute_script]
  · right
    have hquery : FieldTest.ofQuery q = .error (.pattern q.needle refusal) := by
      rw [FieldTest.ofQuery, ht]; rfl
    refine ⟨refusal, hstrategy, hrefused, ?_, ?_, ?_⟩
    · rw [run, hquery]
      rfl
    · rw [hquery] at hmatrix
      simp only [Session.execute, hmatrix, Except.map]
    · rw [ht] at hexpression
      simp only [Session.execute, hexpression, Except.map]

end Lexicon.Search
