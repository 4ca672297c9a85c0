import Lexicon.CommandLine.Command
import Lexicon.CommandLine.Files
import Lexicon.CommandLine.Report
import Lexicon.Display.Listing
import Lexicon.Display.Results
import Lexicon.Session.Basic

/-!
# Running commands

A command is a function of its surroundings: the files that can be read, the settings file, and what
is asked of the log. A file that cannot be read at all ends the command. A file that is no UTF-8 or
no dictionary is left out with a warning, once in the log and once beside it. The exit code is 0, or
1 if a search finds nothing, or 2 for an error.
-/

namespace Lexicon.CommandLine

/-- What a command finds around it. -/
structure Surroundings where
  contentOf : String → Except FileFault (List UInt8)
  settingsPath : String
  /-- The content of the settings file, if there is one. -/
  settingsFile : Option (Except FileFault (List UInt8))
  /-- The events of the log that are asked for, if something is. -/
  logFilter : Option (LogEvent → Bool)

namespace Surroundings

/-- The settings that the settings file writes, or why it cannot be used. Without the file they are
the default ones. -/
def readSettings (w : Surroundings) : Except String Settings :=
  match w.settingsFile with
  | none => .ok {}
  | some content =>
    match content.map Text.decode with
    | .ok (.ok text) =>
      (Settings.read (String.ofList text)).mapError Settings.ReadFailure.message
    | _ => .error s!"Failed to read config file {w.settingsPath}"

/-- The settings in force: those of the settings file, if it can be used. -/
def settings (w : Surroundings) : Settings :=
  match w.readSettings with
  | .ok s => s
  | .error _ => {}

/-- The events of reading the settings. -/
def settingsEvents (w : Surroundings) : List LogEvent :=
  match w.readSettings with
  | .ok _ => []
  | .error message =>
    [{ level := .warning, message := "using default config", fields := [("error", message)] }]

/-- Which events the log shows. In debugging these are all. Otherwise they are what is asked for, or
else the warnings. -/
def shows (w : Surroundings) (isDebugging : Bool) (e : LogEvent) : Bool :=
  isDebugging || (w.logFilter.getD LogEvent.isWarning) e

end Surroundings

/-- The warning that a file is no UTF-8. -/
def encodingWarning (name : String) (e : Text.DecodeError) : String :=
  s!"warning: skipping '{name}': not valid UTF-8 ({e.message})\n"

/-- The event that a file is no UTF-8. -/
def encodingEvent (name : String) (e : Text.DecodeError) : LogEvent where
  level := .warning
  message := "skipping undecodable dictionary"
  fields := [("dictionary", name), ("error", e.message)]

/-- What is written about a file that is no UTF-8. -/
def encodingNotice (name : String) (e : Text.DecodeError) : List Message :=
  [.event (encodingEvent name e), .text (encodingWarning name e)]

/-- The warning that a text is no dictionary. -/
def parseWarning (e : ParseError) : String := s!"warning: {e.message}\n"

/-- The warning that a dictionary to be left out is not there. -/
def exclusionWarning (name : String) : String := s!"warning: no dictionary named '{name}'\n"

/-- The text that reports a file that cannot be read at all. -/
def fileErrorText (path : String) (fault : FileFault) : String :=
  s!"Error: Failed to read {path}: {fault.message}\n"

/-- Reads files one after the other, up to one that cannot be read at all. The messages come
first. -/
def readFiles (w : Surroundings) :
    List String → List Message × Except String (List (String × String))
  | [] => ([], .ok [])
  | path :: paths =>
    match w.contentOf path with
    | .error fault => ([], .error (fileErrorText path fault))
    | .ok bytes =>
      let (messages, rest) := readFiles w paths
      match Text.decode bytes with
      | .ok text => (messages, rest.map ((displayName path, String.ofList text) :: ·))
      | .error e => (encodingNotice (displayName path) e ++ messages, rest)

/-- The store of the dictionaries in files. The messages come first. -/
def loadStore (w : Surroundings) (paths : List String) : List Message × Except String Store :=
  let (messages, contents) := readFiles w paths
  match contents with
  | .error message => (messages, .error message)
  | .ok files =>
    let (store, report) := Store.load {} files
    let warnings := report.failures.map fun e => .text (parseWarning e)
    (messages ++ (Store.loadEvents {} files).map .event ++ warnings, .ok store)

/-- Leaves dictionaries out by name. The warnings come second. -/
def excludeAll (store : Store) : List String → Store × List Message
  | [] => (store, [])
  | name :: names =>
    let (store, n) := store.setIncludedByName name false
    let (store, warnings) := excludeAll store names
    (store, if n = 0 then .text (exclusionWarning name) :: warnings else warnings)

/-- How the hits of a search are shown. -/
def shownHits (o : Selection) (isColored : Bool) (hits : List Search.Hit) : String :=
  if o.isCounted then s!"{hits.length}\n"
  else if o.isJson then Display.json hits
  else Display.render isColored (Display.results o.isDetailed hits)

/-- The report of a session that has searched. -/
def outcomeReport (o : Selection) (isColored : Bool) (found : Search.Outcome) : Report where
  exitCode := if found.isEmpty then 1 else 0
  output := shownHits o isColored found.hits
  messages := (Display.failureWarnings found.failures).map .text

/-- Searches the files of a selection. -/
def runSearch (w : Surroundings) (session : Session) (o : Selection) (isColored : Bool) : Report :=
  match loadStore w o.files with
  | (messages, .error message) => { exitCode := 2, messages := messages ++ [.text message] }
  | (messages, .ok store) =>
    let (store, exclusions) := excludeAll store o.exclude
    let events := session.executeEvents store.snapshot
    let report := match session.execute store.snapshot with
      | (session, .ok _) => outcomeReport o isColored session.outcome
      | (session, .error e) => queryFailed session.script e
    report.after (messages ++ exclusions ++ events.map .event)

/-- Compiles a script without running it. -/
def runCheck (source : String) : Report :=
  match Script.compile source with
  | .ok program => { exitCode := 0, output := "ok\n", messages := [.event program.event] }
  | .error e => queryFailed source e

/-- Lists the dictionaries in files. -/
def runList (w : Surroundings) (paths : List String) (isColored : Bool) : Report :=
  match loadStore w paths with
  | (messages, .error message) => { exitCode := 2, messages := messages ++ [.text message] }
  | (messages, .ok store) =>
    { exitCode := 0
      output := Display.render isColored (Display.listing store.summaries)
      messages }

/-- Shows the settings, and saves them if that is asked for. -/
def runConfig (w : Surroundings) (isInit : Bool) : Report :=
  let text := w.settings.toText
  { exitCode := 0
    output := s!"{w.settingsPath}\n{text}\n"
    messages := if isInit then [.text s!"wrote {w.settingsPath}\n"] else []
    saved := if isInit then some text else none }

/-- The session of a built-in search. What is not given is taken from the settings. -/
def searchSession (s : Settings) (needle : String) (field : Option Search.Field)
    (strategy : Option Search.Strategy) : Session :=
  let session := Session.ofSettings s
  session.setQuery
    ⟨field.getD session.query.field, strategy.getD session.query.strategy, needle⟩

/-- The session of a search by script. -/
def scriptSession (s : Settings) (source : String) : Session :=
  ((Session.ofSettings s).setMode .expression).setScript source

/-- Runs a command, with the whole log. -/
def Command.run (w : Surroundings) (isColored : Bool) (c : Command) : Report :=
  match c with
  | .search needle field strategy o =>
    runSearch w (searchSession w.settings needle field strategy) o isColored
  | .script source o => runSearch w (scriptSession w.settings source) o isColored
  | .check source => runCheck source
  | .list files => runList w files isColored
  | .config isInit => runConfig w isInit

/-- Runs an invocation. The settings are read first. -/
def run (w : Surroundings) (i : Invocation) : Report :=
  let report := i.command.run w (w.settings.isColored && !i.isPlain)
  (report.after (w.settingsEvents.map .event)).showing (w.shows i.isDebugging)

/-- Runs a command line, unless it is refused. -/
def respond? (w : Surroundings) (arguments : List String) : Option Report :=
  (Invocation.ofArguments? arguments).map (run w)

end Lexicon.CommandLine
