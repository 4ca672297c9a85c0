import Lexicon.Search.Outcome
import Lexicon.Session.Mode
import Lexicon.Session.Settings

/-!
# Search sessions

A session keeps the parameters of the next search, under each of its modes, and the outcome of the
last search that succeeded. A search looks at a snapshot. When it fails it changes nothing, and host
predicates do not run before they were allowed.
-/

namespace Lexicon

open Search (Query QueryError Predicate HostPredicate Outcome)
open Session (Mode)

/-- The state of a search session. -/
structure Session where
  query : Query := {}
  mode : Mode := .matrix
  script : String := ""
  host : Option HostPredicate := none
  allowsHost : Bool := false
  outcome : Outcome := {}

namespace Session

/-- The session that begins with settings. -/
def ofSettings (s : Settings) : Session where
  query := ⟨s.defaultField, s.defaultStrategy, ""⟩
  allowsHost := s.allowsHost

/-- The session with another query. -/
def setQuery (s : Session) (query : Query) : Session := { s with query }

/-- The session with another field. -/
def setField (s : Session) (field : Search.Field) : Session :=
  s.setQuery { s.query with field }

/-- The session with another strategy. -/
def setStrategy (s : Session) (strategy : Search.Strategy) : Session :=
  s.setQuery { s.query with strategy }

/-- The session with another needle. -/
def setNeedle (s : Session) (needle : String) : Session :=
  s.setQuery { s.query with needle }

/-- The session in another mode. -/
def setMode (s : Session) (mode : Mode) : Session := { s with mode }

/-- The session with another script. -/
def setScript (s : Session) (script : String) : Session := { s with script }

/-- The session with a host predicate. -/
def setHost (s : Session) (host : HostPredicate) : Session := { s with host := some host }

/-- The session in which host predicates may run. -/
def allowHost (s : Session) : Session := { s with allowsHost := true }

/-- The session without an outcome. -/
def clearOutcome (s : Session) : Session := { s with outcome := {} }

/-- The predicate of the next search. -/
def predicate (s : Session) : Except QueryError Predicate :=
  match s.mode with
  | .matrix => (Search.FieldTest.ofQuery s.query).map .field
  | .expression => (Script.compile s.script).map .script
  | .host =>
    if s.allowsHost then
      match s.host with
      | some host => .ok (.host host)
      | none => .error (.compile ⟨0, .noHostPredicate⟩)
    else .error .hostDisabled

/-- Runs a search. Its outcome replaces the one before, and the number of its hits is returned. -/
def execute (s : Session) (snapshot : Snapshot) : Session × Except QueryError Nat :=
  match s.predicate with
  | .ok p =>
    let outcome := Search.execute p snapshot
    ({ s with outcome }, .ok outcome.count)
  | .error e => (s, .error e)

/-- The events of running a search. One that is refused logs nothing. -/
def executeEvents (s : Session) (snapshot : Snapshot) : List LogEvent :=
  match s.predicate with
  | .ok p =>
    let outcome := Search.execute p snapshot
    p.events ++ outcome.events p ++
      [{ level := .debug
         message := "session executed"
         fields := [("mode", s.mode.caption), ("results", s!"{outcome.hits.length}"),
           ("failed", s!"{outcome.failures.length}")] }]
  | .error _ => []

end Session

end Lexicon
