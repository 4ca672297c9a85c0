import Lexicon.Proofs.CommandRuns

/-!
# What is written in a load

A file that is no UTF-8 is written about as soon as it is read. The files that are left are loaded,
which the log follows one by one and sums up. The warnings about those that are no dictionaries come
last.
-/

namespace Lexicon

namespace Store

/-- Why the text of a file cannot be read, if so. -/
def refusal? (file : String × String) : Option ParseError :=
  match Document.read file.1 file.2 with
  | .ok _ => none
  | .error e => some e

theorem refusal?_of_ok {name text : String} {entries : List Entry}
    (h : Document.layout.decode text = .ok entries) : refusal? (name, text) = none := by
  rw [refusal?, Document.read, h]
  rfl

theorem refusal?_of_error {name text : String} {e : Json.ReadError}
    (h : Document.layout.decode text = .error e) : refusal? (name, text) = some ⟨name, e⟩ := by
  rw [refusal?, Document.read, h]
  rfl

theorem isReadable_eq_isNone (file : String × String) :
    isReadable file = (refusal? file).isNone := by
  obtain ⟨name, text⟩ := file
  cases h : Document.layout.decode text with
  | ok entries => rw [isReadable_of_ok h, refusal?_of_ok h, Option.isNone_none]
  | error e => rw [isReadable_of_error h, refusal?_of_error h, Option.isNone_some]

theorem Becomes.failures_eq_refusals {n m : UInt32} {k l : Nat} {files : List (String × String)}
    {ds : List Dictionary} {report : LoadReport} (h : Becomes n k files ds report m l) :
    report.failures = files.filterMap refusal? := by
  induction h with
  | nil => rfl
  | dictionary hread _ ih => rw [List.filterMap_cons_none (refusal?_of_ok hread), ← ih]; rfl
  | failure hread _ ih => rw [List.filterMap_cons_some (refusal?_of_error hread), ← ih]; rfl

/-- A text that is passed over leaves its event in the log, and nothing else. -/
theorem ingestAllEvents_cons_of_refusal? {s : Store} {file : String × String} {e : ParseError}
    (h : refusal? file = some e) (files : List (String × String)) :
    s.ingestAllEvents (file :: files) = e.event :: s.ingestAllEvents files := by
  obtain ⟨name, text⟩ := file
  cases hread : Document.read name text with
  | ok entries => simp [refusal?, hread] at h
  | error e' =>
      obtain rfl : e' = e := by simpa [refusal?, hread] using h
      rw [ingestAllEvents, ingestEvent, ingest, hread]

end Store

namespace CommandLine

section Texts
variable {r : Report} {messages : List Message}

theorem filterMap_text?_event (events : List LogEvent) :
    (events.map Message.event).filterMap Message.text? = [] := by
  rw [List.filterMap_map, List.filterMap_eq_nil_iff]
  exact fun _ _ => rfl

theorem filterMap_text?_text (texts : List String) :
    (texts.map Message.text).filterMap Message.text? = texts := by
  rw [List.filterMap_map]
  exact List.filterMap_some

/-- The log does not hold back what is not from it. -/
theorem filterMap_text?_filter (shows : LogEvent → Bool) (messages : List Message) :
    (messages.filter (Message.isShown shows)).filterMap Message.text? =
      messages.filterMap Message.text? := by
  rw [List.filterMap_filter]
  congr 1
  funext message
  cases message with
  | text s => rfl
  | event e => exact ite_self none

theorem errors_showing (shows : LogEvent → Bool) (r : Report) : (r.showing shows).errors = r.errors :=
  congrArg String.join (filterMap_text?_filter shows r.messages)

theorem errors_after (messages : List Message) (r : Report) :
    (r.after messages).errors = String.join (messages.filterMap Message.text?) ++ r.errors := by
  rw [Report.errors, Report.after, List.filterMap_append, String.join_append]
  rfl

end Texts

namespace Surroundings

/-- What is written about a file that is no UTF-8, if so. -/
def encodingMessages (w : Surroundings) (path : String) : List Message :=
  match (w.contentOf path).map Text.decode with
  | .ok (.error e) => encodingNotice (displayName path) e
  | _ => []

/-- The warning that a file is no UTF-8, if so. -/
def encodingWarning? (w : Surroundings) (path : String) : Option String :=
  match (w.contentOf path).map Text.decode with
  | .ok (.error e) => some (encodingWarning (displayName path) e)
  | _ => none

/-- The name and the text of a file, if it is UTF-8. -/
def file? (w : Surroundings) (path : String) : Option (String × String) :=
  match (w.contentOf path).map Text.decode with
  | .ok (.ok text) => some (displayName path, String.ofList text)
  | _ => none

/-- Why the text of a file is no dictionary, if so. -/
def parseError? (w : Surroundings) (path : String) : Option ParseError :=
  (w.file? path).bind Store.refusal?

/-- The warning that the text of a file is no dictionary, if so. -/
def parseWarning? (w : Surroundings) (path : String) : Option String :=
  (w.parseError? path).map parseWarning

/-- The warnings of a load. -/
def warnings (w : Surroundings) (paths : List String) : List String :=
  paths.filterMap w.encodingWarning? ++ paths.filterMap w.parseWarning?

/-- What is written in a load. -/
def loadMessages (w : Surroundings) (paths : List String) : List Message :=
  paths.flatMap w.encodingMessages ++
    (Store.loadEvents {} (paths.filterMap w.file?)).map .event ++
    (paths.filterMap w.parseWarning?).map .text

theorem filterMap_text?_encodingMessages (w : Surroundings) (paths : List String) :
    (paths.flatMap w.encodingMessages).filterMap Message.text? =
      paths.filterMap w.encodingWarning? := by
  rw [List.filterMap_flatMap, List.filterMap_eq_flatMap_toList]
  congr 1
  funext path
  rw [encodingMessages, encodingWarning?]
  split <;> rfl

/-- The warnings are what is written but for the log. -/
theorem filterMap_text?_loadMessages (w : Surroundings) (paths : List String) :
    (w.loadMessages paths).filterMap Message.text? = w.warnings paths := by
  rw [loadMessages, List.filterMap_append, List.filterMap_append, filterMap_text?_encodingMessages,
    filterMap_text?_event, filterMap_text?_text, List.append_nil, warnings]

end Surroundings

section Loads
variable {w : Surroundings} {paths : List String}

theorem readFiles_of_readable (h : ∀ path ∈ paths, ∃ bytes, w.contentOf path = .ok bytes) :
    readFiles w paths =
      (paths.flatMap w.encodingMessages, .ok (paths.filterMap w.file?)) := by
  induction paths with
  | nil => rfl
  | cons path paths ih =>
      obtain ⟨⟨bytes, hcontent⟩, hpaths⟩ := List.forall_mem_cons.mp h
      rw [readFiles, hcontent]
      dsimp only
      rw [ih hpaths]
      cases hdecode : Text.decode bytes with
      | ok text =>
          simp [hdecode, Surroundings.encodingMessages, Surroundings.file?, hcontent, Except.map]
      | error e =>
          simp [hdecode, Surroundings.encodingMessages, Surroundings.file?, hcontent, Except.map]

/-- A load of files that can be read succeeds. -/
theorem loadStore_of_readable (h : ∀ path ∈ paths, ∃ bytes, w.contentOf path = .ok bytes) :
    loadStore w paths =
      (w.loadMessages paths, .ok (Store.load {} (paths.filterMap w.file?)).1) := by
  have hfailures := (Store.becomes_load {} (paths.filterMap w.file?)).failures_eq_refusals
  have hwarnings : (List.filterMap Store.refusal? (paths.filterMap w.file?)).map
      (fun e => Message.text (parseWarning e)) =
        (paths.filterMap w.parseWarning?).map .text := by
    rw [List.filterMap_filterMap, List.map_filterMap, List.map_filterMap]
    simp only [Surroundings.parseWarning?, Surroundings.parseError?, Option.map_map]
    rfl
  rw [loadStore, readFiles_of_readable h]
  dsimp only
  rw [hfailures, hwarnings, Surroundings.loadMessages]

end Loads

end CommandLine

end Lexicon
