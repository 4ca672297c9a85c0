import Lexicon.CommandLine.Switch
import Lexicon.Search.Field

/-!
# Commands

A command line is a verb with operands and switches. The switches for debugging and for plain output
may also stand before the verb. A command line that does not fit is refused as a whole.
-/

namespace Lexicon.CommandLine

open Search (Field Strategy)

/-- What a command line asks for. -/
inductive Verb where
  | search
  | script
  | check
  | list
  | config
deriving Repr, DecidableEq

namespace Verb

/-- The verb of a name. -/
def ofName? : String → Option Verb
  | "search" => some search
  | "script" => some script
  | "check" => some check
  | "list" => some list
  | "config" => some config
  | _ => none

/-- The switches that may stand anywhere. -/
def globalSwitches : List Switch := [.debug, .noColor]

/-- The switches that may follow a verb. -/
def switches : Verb → List Switch
  | search => globalSwitches ++ [.field, .strategy, .exclude, .json, .count, .details]
  | script => globalSwitches ++ [.exclude, .json, .count, .details]
  | check | list => globalSwitches
  | config => globalSwitches ++ [.init]

end Verb

/-- The files of a search, those left out, and how its results are shown. -/
structure Selection where
  files : List String
  exclude : List String
  isJson : Bool
  isCounted : Bool
  isDetailed : Bool
deriving Repr, DecidableEq

/-- A verb with what it needs. -/
inductive Command where
  | search (needle : String) (field : Option Field) (strategy : Option Strategy)
      (selection : Selection)
  | script (source : String) (selection : Selection)
  | check (source : String)
  | list (files : List String)
  | config (isInit : Bool)
deriving Repr, DecidableEq

/-- The files that a command reads. -/
def Command.files : Command → List String
  | .search _ _ _ selection | .script _ selection => selection.files
  | .list files => files
  | .check _ | .config _ => []

/-- A command line that fits. -/
structure Invocation where
  command : Command
  isPlain : Bool
  isDebugging : Bool
deriving Repr, DecidableEq

/-- Cuts arguments before the verb, which nothing but switches for the whole program precedes. -/
def splitVerb : List String → Option (List Item × Verb × List String)
  | [] => none
  | argument :: rest =>
    match Verb.ofName? argument with
    | some verb => some ([], verb, rest)
    | none => do
      let r ← if namesSwitch argument then readArgument Verb.globalSwitches argument else none
      let (items, verb, behind) ← splitVerb rest
      return (r.items ++ items, verb, behind)

/-- The names of files: there is at least one, and none is empty. -/
def fileNames? (names : List String) : Option (List String) :=
  if names.isEmpty || names.any String.isEmpty then none else some names

/-- The selection that switches and the names of files make. -/
def selection? (items : List Item) (files : List String) : Option Selection := do
  return {
    files := ← fileNames? files
    exclude := valuesOf .exclude items
    isJson := isGiven .json items
    isCounted := isGiven .count items
    isDetailed := isGiven .details items }

/-- What a switch is set to, by name, if it is given. -/
def named? {α : Type} (ofName? : String → Option α) : List String → Option (Option α)
  | [] => some none
  | name :: _ => (ofName? name).map some

/-- The command of a verb, with the pieces that follow it. -/
def command? (verb : Verb) (items : List Item) : Option Command :=
  match verb, operands items with
  | .search, needle :: files => do
    let field ← named? Field.ofName? (valuesOf .field items)
    let strategy ← named? Strategy.ofName? (valuesOf .strategy items)
    return .search needle field strategy (← selection? items files)
  | .script, source :: files => (selection? items files).map (.script source)
  | .check, [source] => some (.check source)
  | .list, files => (fileNames? files).map .list
  | .config, [] => some (.config (isGiven .init items))
  | _, _ => none

/-- The invocation that arguments write. -/
def Invocation.ofArguments? (arguments : List String) : Option Invocation := do
  let (before, verb, rest) ← splitVerb arguments
  let items ← readArguments verb.switches none rest
  if isGivenOnce before && isGivenOnce items then
    return {
      command := ← command? verb items
      isPlain := isGiven .noColor before || isGiven .noColor items
      isDebugging := isGiven .debug before || isGiven .debug items }
  else none

end Lexicon.CommandLine
