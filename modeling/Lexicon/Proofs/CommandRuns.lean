import Lexicon.Proofs.Arguments
import Lexicon.Proofs.Loading

/-!
# Runs of commands

A command first loads its files. What it answers is then a function of the store, which knows
neither the files nor what was skipped. A file that cannot be read at all, and a query or script that
is refused, leave nothing on the output.
-/

namespace Lexicon.CommandLine

open Search (TextTest)

/-- What is reported after a load: that it failed, or what is answered from the store. The messages
of the load come first. -/
def reportLoad (loaded : List Message × Except String Store) (answer : Store → Report) : Report :=
  match loaded with
  | (messages, .error message) => { exitCode := 2, messages := messages ++ [.text message] }
  | (messages, .ok store) => (answer store).after messages

/-- The answer of a search from a store. -/
def searchReport (session : Session) (o : Selection) (isColored : Bool) (store : Store) : Report :=
  let (left, exclusions) := excludeAll store o.exclude
  let report := match session.predicate with
    | .ok p => outcomeReport o isColored (Search.execute p left.snapshot)
    | .error e => queryFailed session.script e
  report.after (exclusions ++ (session.executeEvents left.snapshot).map .event)

/-- The answer of a command from the store of its files. -/
def Command.answer (w : Surroundings) (isColored : Bool) (c : Command) (store : Store) : Report :=
  match c with
  | .search needle field strategy o =>
    searchReport (searchSession w.settings needle field strategy) o isColored store
  | .script source o => searchReport (scriptSession w.settings source) o isColored store
  | .check source => runCheck source
  | .list _ =>
    { exitCode := 0, output := Display.render isColored (Display.listing store.summaries) }
  | .config isInit => runConfig w isInit

/-- Holds of a command that loads files. -/
def Command.loads : Command → Bool
  | .search .. | .script .. | .list _ => true
  | .check _ | .config _ => false

/-- Holds of a command that searches for something that is refused: a pattern or a script. -/
def Command.IsInvalid (s : Settings) : Command → Prop
  | .search needle _ strategy _ =>
    ∃ e, TextTest.ofStrategy (strategy.getD s.defaultStrategy) needle = .error e
  | .script source _ => ∃ e, Script.compile source = .error e
  | .check _ | .list _ | .config _ => False

/-- Holds if some file of a command cannot be read at all. -/
def Command.LacksFile (w : Surroundings) (c : Command) : Prop :=
  ∃ path ∈ c.files, ∃ fault, w.contentOf path = .error fault

section Loads
variable {w : Surroundings} {paths : List String}

theorem readFiles_eq_error_iff :
    (∃ message, (readFiles w paths).2 = .error message) ↔
      ∃ path ∈ paths, ∃ fault, w.contentOf path = .error fault := by
  induction paths with
  | nil => simp [readFiles]
  | cons path paths ih =>
      rw [readFiles, List.exists_mem_cons_iff]
      cases w.contentOf path with
      | error fault => simp
      | ok bytes =>
          rw [← ih]
          cases hdecode : Text.decode bytes with
          | ok text => cases hfiles : (readFiles w paths).2 <;> simp [hdecode, hfiles, Except.map]
          | error e => simp [hdecode]

/-- A load fails just if a file cannot be read at all. -/
theorem loadStore_eq_error_iff :
    (∃ message, (loadStore w paths).2 = .error message) ↔
      ∃ path ∈ paths, ∃ fault, w.contentOf path = .error fault := by
  rw [← readFiles_eq_error_iff, loadStore]
  obtain ⟨messages, contents⟩ := readFiles w paths
  cases contents <;> simp

end Loads

section Answers
variable {w : Surroundings} {c : Command} {o : Selection}

theorem after_after (r : Report) (messages messages' : List Message) :
    (r.after messages).after messages' = r.after (messages' ++ messages) := by
  simp [Report.after, List.append_assoc]

theorem runSearch_eq (w : Surroundings) (session : Session) (o : Selection) (isColored : Bool) :
    runSearch w session o isColored =
      reportLoad (loadStore w o.files) (searchReport session o isColored) := by
  rw [runSearch]
  obtain ⟨messages, loaded⟩ := loadStore w o.files
  cases loaded with
  | error message => rfl
  | ok store =>
      simp only [reportLoad, searchReport, Session.execute, after_after, List.append_assoc]
      cases session.predicate <;> rfl

theorem runList_eq (w : Surroundings) (files : List String) (isColored : Bool) :
    runList w files isColored =
      reportLoad (loadStore w files) ((Command.list files).answer w isColored) := by
  rw [runList]
  obtain ⟨messages, loaded⟩ := loadStore w files
  cases loaded with
  | error message => rfl
  | ok store => simp [reportLoad, Command.answer, Report.after]

/-- A command that loads files answers from the store of these. -/
theorem Command.run_eq (hc : c.loads = true) (isColored : Bool) :
    c.run w isColored = reportLoad (loadStore w c.files) (c.answer w isColored) := by
  cases c with
  | search needle field strategy o => exact runSearch_eq ..
  | script source o => exact runSearch_eq ..
  | list files => exact runList_eq ..
  | check | config => cases hc

theorem loads_of_files_ne_nil (h : c.files ≠ []) : c.loads = true := by
  cases c with
  | check | config => exact absurd rfl h
  | _ => rfl

theorem loads_of_selection? (ho : c.selection? = some o) : c.loads = true := by
  cases c with
  | check | list | config => cases ho
  | _ => rfl

theorem loads_withFiles (c : Command) (files : List String) : (c.withFiles files).loads = c.loads := by
  cases c <;> rfl

theorem loads_showing (c : Command) (isCounted isJson : Bool) :
    (c.showing isCounted isJson).loads = c.loads := by
  cases c <;> rfl

theorem answer_withFiles (c : Command) (files : List String) (isColored : Bool) :
    (c.withFiles files).answer w isColored = c.answer w isColored := by
  cases c <;> rfl

theorem files_withFiles_of_files_ne_nil {c : Command} {files : List String} (h : c.files ≠ []) :
    (c.withFiles files).files = files := by
  cases c with
  | check | config => exact absurd rfl h
  | _ => rfl

theorem files_showing (c : Command) (isCounted isJson : Bool) :
    (c.showing isCounted isJson).files = c.files := by
  cases c <;> rfl

theorem predicate_searchSession (s : Settings) (needle : String) (field : Option Search.Field)
    (strategy : Option Search.Strategy) :
    (searchSession s needle field strategy).predicate =
      ((TextTest.ofStrategy (strategy.getD s.defaultStrategy) needle).map
        (Search.FieldTest.mk (field.getD s.defaultField))).map .field :=
  rfl

theorem predicate_scriptSession (s : Settings) (source : String) :
    (scriptSession s source).predicate = (Script.compile source).map .script :=
  rfl

/-- A search and a script answer from a session, which has no predicate just if the command is
invalid. How the hits are shown makes no difference to it. -/
theorem exists_session (ho : c.selection? = some o) (w : Surroundings) :
    ∃ session : Session, ((∃ e, session.predicate = .error e) ↔ c.IsInvalid w.settings) ∧
      ∀ isCounted isJson isColored,
        (c.showing isCounted isJson).answer w isColored =
          searchReport session (o.showing isCounted isJson) isColored := by
  cases c with
  | search needle field strategy selection =>
      cases ho
      refine ⟨searchSession w.settings needle field strategy, ?_, fun _ _ _ => rfl⟩
      rw [Command.IsInvalid, predicate_searchSession]
      cases TextTest.ofStrategy (strategy.getD w.settings.defaultStrategy) needle <;>
        simp [Except.map]
  | script source selection =>
      cases ho
      refine ⟨scriptSession w.settings source, ?_, fun _ _ _ => rfl⟩
      rw [Command.IsInvalid, predicate_scriptSession]
      cases Script.compile source <;> simp [Except.map]
  | check | list | config => cases ho

end Answers

end Lexicon.CommandLine
