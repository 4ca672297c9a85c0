import Lexicon.Log
import Lexicon.Script.Parser
import Lexicon.Search.TextTest
import Lexicon.Text.Quoted

/-!
# Filters

A script that was accepted becomes a filter, a tree of the same form whose tests are ready to run:
fields are replaced by their locations, and patterns are compiled. That a text differs from a
literal is asked of all texts of a field at once, so it is the negation of a test.
-/

namespace Lexicon.Script

open Search (TextTest QueryError)

/-- A condition on entries, ready to run. -/
inductive Filter where
  | const (value : Bool)
  | all (parts : List Filter)
  | any (parts : List Filter)
  | not (part : Filter)
  | test (locations : List Location) (test : TextTest)
  | present (locations : List Location)
  | compareId (comparison : Comparison) (value : Int64)

namespace Filter

/-- Whether an entry meets a filter. -/
def holds (e : Entry) : Filter → Bool
  | const value => value
  | all parts => allHold parts
  | any parts => anyHolds parts
  | not part => !part.holds e
  | test locations t => (Location.textsAt locations e).any fun s => t.passes s
  | present locations => locations.any fun l => l.isPresent e
  | compareId comparison value => comparison.holds e.id value
where
  /-- Whether an entry meets every filter. -/
  allHold : List Filter → Bool
    | [] => true
    | part :: parts => part.holds e && allHold parts
  /-- Whether an entry meets some filter. -/
  anyHolds : List Filter → Bool
    | [] => false
    | part :: parts => part.holds e || anyHolds parts

end Filter

/-- The filter of a test of texts against a literal. -/
def TextRelation.toFilter (locations : List Location) (literal : String) :
    TextRelation → Except QueryError Filter
  | .startsWith => .ok (.test locations (.startsWith literal))
  | .endsWith => .ok (.test locations (.endsWith literal))
  | .contains => .ok (.test locations (.contains literal))
  | .eq => .ok (.test locations (.equals literal))
  | .ne => .ok (.not (.test locations (.equals literal)))
  | .regexp => (TextTest.ofPattern literal).map (.test locations)

mutual

/-- The filter of an expression, or the first of its patterns that is refused. -/
def Expr.toFilter : Expr → Except QueryError Filter
  | .const value => .ok (.const value)
  | .all parts => (toFilters parts).map .all
  | .any parts => (toFilters parts).map .any
  | .not part => part.toFilter.map .not
  | .test field relation literal => relation.toFilter field.locations literal
  | .present field => .ok (.present field.locations)
  | .compareId comparison value => .ok (.compareId comparison value)

/-- The filters of expressions. -/
def toFilters : List Expr → Except QueryError (List Filter)
  | [] => .ok []
  | part :: parts => do return (← part.toFilter) :: (← toFilters parts)

end

/-- A compiled script, with the text that it was compiled from. -/
structure Program where
  source : String
  filter : Filter

/-- Whether an entry meets a compiled script. -/
def Program.holds (p : Program) (e : Entry) : Bool := p.filter.holds e

/-- The event that a script is compiled. -/
def Program.event (p : Program) : LogEvent where
  level := .debug
  message := "compiled script"
  fields := [("script", Text.quoted p.source)]

/-- Compiles a script. What is wrong with its form comes before what is wrong with its patterns. -/
def compile (source : String) : Except QueryError Program :=
  match parse source with
  | .error e => .error (.compile e)
  | .ok expr => expr.toFilter.map (Program.mk source)

end Lexicon.Script
