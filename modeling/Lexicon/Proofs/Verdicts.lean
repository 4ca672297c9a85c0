import Lexicon.Proofs.LoadMessages

/-!
# Verdicts on scripts

A script is checked without files, or run over some. Both compile it first, and a script that is
refused is reported in the same words by both. What the files hold, which dictionaries are left out,
how hits are shown and what the settings are make no difference to the verdict: they only add their
warnings in front of the report of a run, and what the log shows of it.
-/

namespace Lexicon.CommandLine

/-- The names of the dictionaries that files become. -/
def Surroundings.loadedNames (w : Surroundings) (paths : List String) : List String :=
  ((paths.filterMap w.file?).filter Store.isReadable).map Prod.fst

/-- The warnings that dictionaries to be left out are not there. -/
def Surroundings.exclusionWarnings (w : Surroundings) (o : Selection) : List String :=
  (o.exclude.filter fun name => name ∉ w.loadedNames o.files).map exclusionWarning

/-- The report of a check and that of a run, behind some warnings, agree on a script. Either it
compiles, and both accept it, or both refuse it in the same words, which come last, and show nothing
else. -/
structure VerdictsAgree (source : String) (warnings : List String) (check run : Report) : Prop where
  exitCode : check.exitCode = 0 ↔ run.exitCode = 0 ∨ run.exitCode = 1
  ofAccepted (h : check.exitCode = 0) :
    (∃ p, Script.compile source = .ok p) ∧ check.output = "ok\n" ∧ check.errors = ""
  ofRefused (h : check.exitCode ≠ 0) :
    ∃ e, Script.compile source = .error e ∧
      check.exitCode = 2 ∧ check.output = "" ∧ check.errors = queryErrorText source e ∧
      run.exitCode = 2 ∧ run.output = "" ∧ run.errors = String.join warnings ++ check.errors ∧
      check.messages.getLast? = some (.text check.errors) ∧
      run.messages.getLast? = some (.text check.errors)

section Exclusions

theorem map_name_setIncludedByName (store : Store) (name : String) (isIncluded : Bool) :
    (store.setIncludedByName name isIncluded).1.dictionaries.map Dictionary.name =
      store.dictionaries.map Dictionary.name := by
  rw [Store.setIncludedByName, List.map_map]
  apply List.map_congr_left
  intro d _
  by_cases h : d.name = name <;> simp [h, Dictionary.including]

/-- Leaving dictionaries out warns of the names that no dictionary has. -/
theorem excludeAll_warnings (store : Store) (names : List String) :
    (excludeAll store names).2 =
      ((names.filter fun name => name ∉ store.dictionaries.map Dictionary.name).map
        exclusionWarning).map .text := by
  induction names generalizing store with
  | nil => rfl
  | cons name names ih =>
      have hcount : (store.setIncludedByName name false).2 = 0 ↔
          name ∉ store.dictionaries.map Dictionary.name := by
        simp [Store.setIncludedByName, List.countP_eq_zero]
      rw [excludeAll]
      dsimp only
      -- Dictionaries that are left out keep their names, so the later ones are sought among the same.
      rw [ih, map_name_setIncludedByName]
      by_cases hname : name ∈ store.dictionaries.map Dictionary.name
      · rw [if_neg (mt hcount.mp (not_not_intro hname)),
          List.filter_cons_of_neg (by simpa using hname)]
      · rw [if_pos (hcount.mpr hname), List.filter_cons_of_pos (by simpa using hname),
          List.map_cons, List.map_cons]

theorem map_name_load (files : List (String × String)) :
    (Store.load {} files).1.dictionaries.map Dictionary.name =
      (files.filter Store.isReadable).map Prod.fst := by
  have h := congrArg (List.map Prod.fst) (Store.becomes_load {} files).dictionaries_eq
  rw [List.map_map, List.map_map] at h
  exact h

theorem excludeAll_load (w : Surroundings) (o : Selection) :
    (excludeAll (Store.load {} (o.files.filterMap w.file?)).1 o.exclude).2 =
      (w.exclusionWarnings o).map .text := by
  rw [excludeAll_warnings, map_name_load]
  rfl

end Exclusions

section Verdicts
variable {w w' : Surroundings} {arguments arguments' : List String} {i i' : Invocation}
  {source : String} {o : Selection}

/-- What a run of a script reports about what it compiles to. -/
def verdictReport (o : Selection) (isColored : Bool) (source : String) (snapshot : Snapshot) :
    Report :=
  match Script.compile source with
  | .ok p => outcomeReport o isColored (Search.execute (.script p) snapshot)
  | .error e => queryFailed source e

theorem searchReport_scriptSession (s : Settings) (isColored : Bool) (store : Store) :
    ∃ events : List LogEvent, searchReport (scriptSession s source) o isColored store =
      (verdictReport o isColored source (excludeAll store o.exclude).1.snapshot).after
        ((excludeAll store o.exclude).2 ++ events.map .event) := by
  rw [searchReport, predicate_scriptSession, verdictReport]
  cases Script.compile source <;> exact ⟨_, rfl⟩

/-- A run over files that can be read reports about what the script compiles to, behind the warnings
of the load and those of the exclusions. -/
theorem run_script_eq (hcommand : i.command = .script source o)
    (hreadable : ∀ path ∈ o.files, ∃ bytes, w.contentOf path = .ok bytes) :
    ∃ isColored snapshot messages,
      run w i = ((verdictReport o isColored source snapshot).after messages).showing
        (w.shows i.isDebugging) ∧
      messages.filterMap Message.text? = w.warnings o.files ++ w.exclusionWarnings o := by
  have hloads : (Command.script source o).loads = true := rfl
  let isColored := w.settings.isColored && !i.isPlain
  let store := (Store.load {} (o.files.filterMap w.file?)).1
  obtain ⟨events, hreport⟩ := @searchReport_scriptSession source o w.settings isColored store
  let messages := w.loadMessages o.files ++
    ((w.exclusionWarnings o).map .text ++ events.map Message.event)
  have hrun : (Command.script source o).run w isColored =
      (verdictReport o isColored source (excludeAll store o.exclude).1.snapshot).after messages := by
    rw [Command.run_eq hloads, Command.files, loadStore_of_readable hreadable, reportLoad,
      Command.answer, hreport, excludeAll_load, after_after]
  refine ⟨isColored, (excludeAll store o.exclude).1.snapshot,
    w.settingsEvents.map .event ++ messages, ?_, ?_⟩
  · rw [run, hcommand, hrun, after_after]
  · rw [List.filterMap_append, List.filterMap_append, List.filterMap_append,
      filterMap_text?_event, filterMap_text?_event, filterMap_text?_text,
      Surroundings.filterMap_text?_loadMessages, List.nil_append, List.append_nil]

theorem outcomeReport_exitCode (o : Selection) (isColored : Bool) (found : Search.Outcome) :
    (outcomeReport o isColored found).exitCode = 0 ∨
      (outcomeReport o isColored found).exitCode = 1 := by
  rw [outcomeReport]
  cases found.isEmpty with
  | false => exact .inl rfl
  | true => exact .inr rfl

/-- Messages that come first, and what the log shows, make no difference to the last text. -/
theorem getLast?_queryFailed (shows : LogEvent → Bool) (messages : List Message)
    (e : Search.QueryError) :
    (((queryFailed source e).after messages).showing shows).messages.getLast? =
      some (.text (queryErrorText source e)) := by
  rw [Report.showing, Report.after, queryFailed, List.filter_append]
  exact List.getLast?_concat ..

theorem verdictsAgree (shows shows' : LogEvent → Bool) (isColored : Bool) (snapshot : Snapshot)
    {events messages : List Message} (hevents : events.filterMap Message.text? = []) :
    VerdictsAgree source (messages.filterMap Message.text?)
      (((runCheck source).after events).showing shows)
      (((verdictReport o isColored source snapshot).after messages).showing shows') := by
  have hcheck : (((runCheck source).after events).showing shows).errors =
      (runCheck source).errors := by
    rw [errors_showing, errors_after, hevents]
    exact String.empty_append
  cases hcompile : Script.compile source with
  | ok p =>
      have haccepted : runCheck source = ⟨0, "ok\n", [.event p.event], none⟩ := by
        rw [runCheck, hcompile]
      rw [haccepted] at hcheck ⊢
      rw [verdictReport, hcompile]
      refine ⟨iff_of_true rfl (outcomeReport_exitCode o isColored _), ?_, ?_⟩
      · exact fun _ => ⟨⟨p, hcompile⟩, rfl, hcheck⟩
      · exact fun hrefused => absurd rfl hrefused
  | error e =>
      have hrefused : runCheck source = queryFailed source e := by rw [runCheck, hcompile]
      have hcode : (2 : UInt32) ≠ 0 := by decide
      have hrun : ¬ ((2 : UInt32) = 0 ∨ (2 : UInt32) = 1) := by decide
      have htext : (queryFailed source e).errors = queryErrorText source e := String.empty_append
      rw [hrefused, htext] at hcheck
      rw [hrefused, verdictReport, hcompile]
      refine ⟨iff_of_false hcode hrun, fun haccepted => absurd haccepted hcode, ?_⟩
      refine fun _ => ⟨e, hcompile, rfl, rfl, hcheck, rfl, rfl, ?_, ?_, ?_⟩
      · rw [errors_showing, errors_after, htext, hcheck]
      · rw [hcheck, getLast?_queryFailed]
      · rw [hcheck, getLast?_queryFailed]

/-- A check of a script and a run of it agree, whatever their surroundings and the switches of their
command lines are, as long as both command lines fit and the files of the run can be read. The check
accepts the script exactly if the run goes through, with hits or without. Otherwise both exit with 2,
show nothing, and report the same error, the run behind the warnings of its files and exclusions. -/
theorem check_agrees_with_run (hi : Invocation.ofArguments? arguments = some i)
    (hcheck : i.command = .check source) (hi' : Invocation.ofArguments? arguments' = some i')
    (hscript : i'.command = .script source o)
    (hreadable : ∀ path ∈ o.files, ∃ bytes, w'.contentOf path = .ok bytes) :
    ∃ check report, respond? w arguments = some check ∧ respond? w' arguments' = some report ∧
      VerdictsAgree source (w'.warnings o.files ++ w'.exclusionWarnings o) check report := by
  obtain ⟨isColored, snapshot, messages, hrun, hmessages⟩ := run_script_eq hscript hreadable
  refine ⟨run w i, run w' i', ?_, ?_, ?_⟩
  · rw [respond?, hi, Option.map_some]
  · rw [respond?, hi', Option.map_some]
  · rw [run, hcheck, hrun, ← hmessages]
    exact verdictsAgree _ _ isColored snapshot (filterMap_text?_event _)

/-- A script without its last parenthesis, checked, and run over a file that is no dictionary with
another one to be left out. -/
theorem check_agrees_open_group :
    let w : Surroundings := ⟨fun _ => .error .missing, "", none, none⟩
    let w' : Surroundings := ⟨fun _ => .ok (Text.encode ['\x7b']), "", none, none⟩
    let o : Selection := ⟨["broken.json"], ["none"], false, true, false⟩
    let i : Invocation := ⟨.check "(tag", false, false⟩
    let i' : Invocation := ⟨.script "(tag" o, true, false⟩
    let arguments := ["check", "--", "(tag"]
    let arguments' := ["script", "-x", "none", "(tag", "--no-color", "broken.json", "-c"]
    Invocation.ofArguments? arguments = some i ∧ Invocation.ofArguments? arguments' = some i' ∧
      (∀ path ∈ o.files, ∃ bytes, w'.contentOf path = .ok bytes) ∧
      ∃ check report, respond? w arguments = some check ∧ respond? w' arguments' = some report ∧
        VerdictsAgree "(tag" (w'.warnings o.files ++ w'.exclusionWarnings o) check report ∧
        check = ⟨2, "", [.text ("error: compile error at offset 4: expected ')', found end of " ++
          "script\n  (tag\n      ^\n")], none⟩ ∧
        report.exitCode = 2 ∧ report.output = "" := by
  intro w w' o i i' arguments arguments'
  have hi : Invocation.ofArguments? arguments = some i := by decide
  have hi' : Invocation.ofArguments? arguments' = some i' := by decide
  have hreadable : ∀ path ∈ o.files, ∃ bytes, w'.contentOf path = .ok bytes :=
    fun _ _ => ⟨_, rfl⟩
  obtain ⟨check, report, hrespond, hrespond', hagree⟩ :=
    check_agrees_with_run (w := w) hi rfl hi' rfl hreadable
  have hcheck : respond? w arguments = some ⟨2, "",
      [.text ("error: compile error at offset 4: expected ')', found end of " ++
        "script\n  (tag\n      ^\n")], none⟩ := by decide +kernel
  obtain rfl := Option.some.inj (hrespond.symm.trans hcheck)
  obtain ⟨e, -, -, -, -, hcode, houtput, -⟩ := hagree.ofRefused (by decide)
  exact ⟨hi, hi', hreadable, _, report, hrespond, hrespond', hagree, rfl, hcode, houtput⟩

end Verdicts

end Lexicon.CommandLine
