import Lexicon.Log
import Lexicon.Search.QueryError
import Lexicon.Text.Utf8

/-!
# Reports

What a command leaves behind: the exit code, what it writes to the output and to the error output,
and the settings that it saves. The error output takes the texts of the command and the log, in the
order in which they are written.
-/

namespace Lexicon.CommandLine

open Search (QueryError)

/-- A piece of the error output. -/
inductive Message where
  | text (text : String)
  /-- An event of the log. -/
  | event (event : LogEvent)
deriving Repr, DecidableEq

namespace Message

/-- The text of a message that is not from the log. -/
def text? : Message → Option String
  | text s => some s
  | event _ => none

/-- Whether a message is written if the log shows some events. -/
def isShown (shows : LogEvent → Bool) : Message → Bool
  | text _ => true
  | event e => shows e

/-- How a message is written. -/
def written : Message → String
  | text s => s
  | event e => e.line

end Message

/-- What a command leaves behind. -/
structure Report where
  exitCode : UInt32
  output : String := ""
  messages : List Message := []
  saved : Option String := none
deriving Repr, DecidableEq

namespace Report

/-- The error output without the log. -/
def errors (r : Report) : String := String.join (r.messages.filterMap Message.text?)

/-- The error output. -/
def errorOutput (r : Report) : String := String.join (r.messages.map Message.written)

/-- The report with messages before its own. -/
def after (messages : List Message) (r : Report) : Report :=
  { r with messages := messages ++ r.messages }

/-- The report with some events of the log only. -/
def showing (shows : LogEvent → Bool) (r : Report) : Report :=
  { r with messages := r.messages.filter (Message.isShown shows) }

end Report

/-- The text that points at a byte of a script. -/
def pointer (source : String) (offset : Nat) : String :=
  let column := (Text.charactersBefore? offset source.toList).getD 0
  s!"  {source}\n  " ++ String.ofList (List.replicate column ' ') ++ "^\n"

/-- The text that reports an error of a query. A compile error is pointed at in the script. -/
def queryErrorText (source : String) (e : QueryError) : String :=
  s!"error: {e.message}\n" ++
    match e with
    | .compile error => if source.isEmpty then "" else pointer source error.offset
    | .pattern .. | .hostDisabled => ""

/-- The report that a query failed. -/
def queryFailed (source : String) (e : QueryError) : Report where
  exitCode := 2
  messages := [.text (queryErrorText source e)]

end Lexicon.CommandLine
