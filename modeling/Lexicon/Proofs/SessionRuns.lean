import Lexicon.Proofs.StoreRuns
import Lexicon.Session.Basic

/-!
# Runs of a session

A session and a store change by operations in any order. What the session holds as its outcome is
what the latest of its executions that succeeded has found, with the predicate and over the snapshot
that it had at the time, unless the outcome was cleared since.
-/

namespace Lexicon.Session

open Search (Query HostPredicate Outcome)

/-- A session, and the store beside it. -/
structure State where
  session : Session
  store : Store

/-- A call that may change a session, or the store beside it. -/
inductive Operation where
  | setQuery (query : Query)
  | setField (field : Search.Field)
  | setStrategy (strategy : Search.Strategy)
  | setNeedle (needle : String)
  | setMode (mode : Mode)
  | setScript (script : String)
  | setHost (host : HostPredicate)
  | allowHost
  | execute
  | executeSnapshot (snapshot : Snapshot)
  | clearOutcome
  | store (op : Store.Operation)

namespace Operation

/-- The snapshot that an execution searches. -/
def snapshot? (st : State) : Operation → Option Snapshot
  | execute => some st.store.snapshot
  | executeSnapshot snapshot => some snapshot
  | _ => none

/-- The state after an operation. -/
def apply (st : State) : Operation → State
  | setQuery query => { st with session := st.session.setQuery query }
  | setField field => { st with session := st.session.setField field }
  | setStrategy strategy => { st with session := st.session.setStrategy strategy }
  | setNeedle needle => { st with session := st.session.setNeedle needle }
  | setMode mode => { st with session := st.session.setMode mode }
  | setScript script => { st with session := st.session.setScript script }
  | setHost host => { st with session := st.session.setHost host }
  | allowHost => { st with session := st.session.allowHost }
  | execute => { st with session := (st.session.execute st.store.snapshot).1 }
  | executeSnapshot snapshot => { st with session := (st.session.execute snapshot).1 }
  | clearOutcome => { st with session := st.session.clearOutcome }
  | store op => { st with store := op.apply st.store }

/-- Holds of the operation that clears the outcome. -/
def isClear : Operation → Bool
  | clearOutcome => true
  | _ => false

/-- What an execution that succeeds finds, with the predicate that the session has. -/
def found? (st : State) (op : Operation) : Option Outcome :=
  match op.snapshot? st, st.session.predicate with
  | some snapshot, .ok p => some (Search.execute p snapshot)
  | _, _ => none

end Operation

/-- The state after operations, one after the other. -/
def run (st : State) (ops : List Operation) : State := ops.foldl Operation.apply st

/-- The operations of a run, each with the state in which it began. -/
def steps : State → List Operation → List (State × Operation)
  | _, [] => []
  | st, op :: ops => (st, op) :: steps (op.apply st) ops

/-- What the latest execution that succeeded has found, of those since the outcome was last cleared.
If there was none, it is empty. -/
def latestFound (steps : List (State × Operation)) : Outcome :=
  ((steps.reverse.takeWhile fun step => !step.2.isClear).findSome? fun step =>
    step.2.found? step.1).getD {}

/-- How a state becomes another by the search of a snapshot: the search succeeds, replaces the
outcome alone, and answers the number of its hits; or it fails, and changes nothing. -/
inductive Searches (st : State) (snapshot : Snapshot) : State → Prop
  | success {p} (hp : st.session.predicate = .ok p)
      (hanswer : (st.session.execute snapshot).2 = .ok (Search.execute p snapshot).hits.length) :
      Searches st snapshot
        { st with session := { st.session with outcome := Search.execute p snapshot } }
  | failure {e} (he : st.session.predicate = .error e)
      (hanswer : (st.session.execute snapshot).2 = .error e) : Searches st snapshot st

section Steps
variable {st : State} {op : Operation}

theorem searches_execute (st : State) (snapshot : Snapshot) :
    Searches st snapshot { st with session := (st.session.execute snapshot).1 } := by
  cases hp : st.session.predicate with
  | ok p =>
      have hexecute : st.session.execute snapshot =
          ({ st.session with outcome := Search.execute p snapshot },
            .ok (Search.execute p snapshot).hits.length) := by
        rw [execute, hp]
        rfl
      rw [hexecute]
      exact .success hp (by rw [hexecute])
  | error e =>
      have hexecute : st.session.execute snapshot = (st.session, .error e) := by
        rw [execute, hp]
      rw [hexecute]
      exact .failure hp (by rw [hexecute])

/-- An operation that searches a snapshot does nothing else. -/
theorem searches_apply {snapshot : Snapshot} (h : op.snapshot? st = some snapshot) :
    Searches st snapshot (op.apply st) := by
  cases op with
  | execute =>
      cases h
      exact searches_execute st st.store.snapshot
  | executeSnapshot =>
      cases h
      exact searches_execute st snapshot
  | _ => cases h

theorem Searches.outcome_eq {snapshot : Snapshot} {st' : State} (h : Searches st snapshot st')
    (hop : op.snapshot? st = some snapshot) :
    st'.session.outcome = (op.found? st).getD st.session.outcome := by
  cases h with
  | success hp => simp [Operation.found?, hop, hp]
  | failure he => simp [Operation.found?, hop, he]

/-- An operation leaves the outcome as it is, unless it clears it or finds a new one. -/
theorem outcome_apply (st : State) (op : Operation) :
    (op.apply st).session.outcome =
      if op.isClear then {} else (op.found? st).getD st.session.outcome := by
  cases op with
  | execute | executeSnapshot => exact (searches_apply rfl).outcome_eq rfl
  | _ => rfl

end Steps

section Runs

theorem run_append (st : State) (ops ops' : List Operation) :
    run st (ops ++ ops') = run (run st ops) ops' :=
  List.foldl_append

theorem steps_append (st : State) (ops : List Operation) (op : Operation) :
    steps st (ops ++ [op]) = steps st ops ++ [(run st ops, op)] := by
  induction ops generalizing st with
  | nil => rfl
  | cons first ops ih => exact congrArg ((st, first) :: ·) (ih (first.apply st))

theorem latestFound_append (xs : List (State × Operation)) (st : State) (op : Operation) :
    latestFound (xs ++ [(st, op)]) =
      if op.isClear then {} else (op.found? st).getD (latestFound xs) := by
  unfold latestFound
  rw [List.reverse_concat, List.takeWhile_cons]
  cases op.isClear with
  | true => simp
  | false =>
      simp only [Bool.not_false, ↓reduceIte, List.findSome?_cons]
      cases op.found? st <;> simp

/-- The outcome after a run is what its executions have found, if it was empty at the beginning. -/
theorem outcome_run {st : State} (hst : st.session.outcome = {}) (ops : List Operation) :
    (run st ops).session.outcome = latestFound (steps st ops) := by
  induction ops using List.reverseRecOn with
  | nil => exact hst
  | append_singleton ops op ih =>
      rw [run_append, steps_append, latestFound_append, ← ih]
      exact outcome_apply (run st ops) op

/-- What a session holds after a run is what the latest execution that succeeded has found, with the
predicate that the session had and over the snapshot that was searched; and an execution in the
state that is reached changes the outcome alone, or fails and changes nothing. -/
theorem run_holds_latest (settings : Settings) (store : Store) (ops : List Operation) :
    let start : State := ⟨ofSettings settings, store⟩
    let reached := run start ops
    reached.session.outcome = latestFound (steps start ops) ∧
      Searches reached reached.store.snapshot (Operation.execute.apply reached) ∧
      ∀ snapshot, Searches reached snapshot ((Operation.executeSnapshot snapshot).apply reached) :=
  ⟨outcome_run rfl ops, searches_apply rfl, fun _ => searches_apply rfl⟩

/-- A new session is one that begins with the default settings. -/
example : ofSettings {} = {} := rfl

end Runs

end Lexicon.Session
