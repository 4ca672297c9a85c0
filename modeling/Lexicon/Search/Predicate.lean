import Lexicon.Script.Filter
import Lexicon.Search.Query

/-!
# Predicates

A search asks a predicate about every entry. The predicate is a test of one field, a compiled
script, or a function of the host program; only the last can fail on an entry.
-/

namespace Lexicon.Search

/-- A test of the texts of a field. -/
structure FieldTest where
  field : Field
  test : TextTest

namespace FieldTest

/-- The test of a query. Only the needle of a pattern can be refused. -/
def ofQuery (q : Query) : Except QueryError FieldTest :=
  (TextTest.ofStrategy q.strategy q.needle).map (FieldTest.mk q.field)

/-- Whether some text of the field passes. -/
def holds (t : FieldTest) (e : Entry) : Bool :=
  (t.field.texts e).any fun s => t.test.passes s

end FieldTest

/-- What a host function does with an entry. -/
inductive HostReply where
  | answer (holds : Bool)
  | failure (message : String)
  /-- The function breaks off, with a text that says why or without one. -/
  | panic (text : Option String)
deriving Repr, DecidableEq

/-- The answer of a host function, or why there is none. -/
def HostReply.verdict : HostReply → Except String Bool
  | .answer holds => .ok holds
  | .failure message => .error message
  | .panic (some text) => .error s!"script panicked: {text}"
  | .panic none => .error "script panicked"

/-- A function of the host program, under a label. -/
structure HostPredicate where
  label : String
  reply : Entry → HostReply

/-- How a host predicate is shown. -/
def HostPredicate.describe (h : HostPredicate) : String :=
  s!"RawScript \x7b label: {Text.quoted h.label}, .. \x7d"

/-- What a search asks about every entry. -/
inductive Predicate where
  | field (test : FieldTest)
  | script (program : Script.Program)
  | host (predicate : HostPredicate)

namespace Predicate

/-- Whether the predicate holds of an entry, or why that is not known. -/
def verdict (e : Entry) : Predicate → Except String Bool
  | field test => .ok (test.holds e)
  | script program => .ok (program.holds e)
  | host predicate => (predicate.reply e).verdict

/-- The kind of the predicate. -/
def kind : Predicate → String
  | field _ => "field"
  | script _ => "script"
  | host _ => "raw"

/-- The events of making the predicate. -/
def events : Predicate → List LogEvent
  | script program => [program.event]
  | field _ | host _ => []

end Predicate

end Lexicon.Search
