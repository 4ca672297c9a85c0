import Lexicon.Proofs.LoadMessages
import Mathlib.Data.List.Flatten

/-!
# Files that are skipped

A file that is no UTF-8 is skipped before the load, and a file whose text is no dictionary within it.
Either way a command answers as if the file were not among its arguments. The error output lacks what
is written about the file, which is an event of the log and a warning. Where the log shows that the
load is finished, it also counts a text that is no dictionary.
-/

namespace Lexicon.CommandLine

/-- What is written about a text that is no dictionary: the event stands among those of the load, and
the warning behind them. -/
def parseNotice (e : ParseError) : List Message := [.event e.event, .text (parseWarning e)]

/-- A file is skipped with a notice: for its bytes, which are no UTF-8, or for its text, which is no
dictionary. -/
inductive Skipped (w : Surroundings) (path : String) : (notice : List Message) → Prop
  | encoding {bytes e} (hcontent : w.contentOf path = .ok bytes)
      (hdecode : Text.decode bytes = .error e) :
      Skipped w path (encodingNotice (displayName path) e)
  | parse {bytes text e} (hcontent : w.contentOf path = .ok bytes)
      (hdecode : Text.decode bytes = .ok text)
      (hread : Document.read (displayName path) (String.ofList text) = .error e) :
      Skipped w path (parseNotice e)

/-- What is written in a load before it is finished. -/
def Surroundings.messagesBefore (w : Surroundings) (paths : List String) : List Message :=
  paths.flatMap w.encodingMessages ++
    (Store.ingestAllEvents {} (paths.filterMap w.file?)).map .event

section Notices
variable {w : Surroundings} {path : String} {paths kept all gone : List String}
  {notice : List Message}

/-- A file is skipped before the load or within it. -/
theorem Skipped.file?_cases (h : Skipped w path notice) :
    (w.file? path = none ∧ w.encodingMessages path = notice) ∨
      ∃ file e, w.file? path = some file ∧ Store.refusal? file = some e ∧
        w.encodingMessages path = [] ∧ notice = parseNotice e := by
  cases h with
  | encoding hcontent hdecode =>
      left
      simp [Surroundings.file?, Surroundings.encodingMessages, hcontent, hdecode, Except.map]
  | @parse bytes text e hcontent hdecode hread =>
      right
      refine ⟨(displayName path, String.ofList text), e, ?_, ?_, ?_, rfl⟩
      · simp [Surroundings.file?, hcontent, hdecode, Except.map]
      · rw [Store.refusal?, hread]
      · simp [Surroundings.encodingMessages, hcontent, hdecode, Except.map]

theorem Skipped.filter_file? (h : Skipped w path notice) :
    (w.file? path).filter Store.isReadable = none := by
  obtain ⟨hfile, -⟩ | ⟨file, e, hfile, hrefusal, -⟩ := h.file?_cases
  · rw [hfile, Option.filter_none]
  · simp [hfile, Store.isReadable_eq_isNone, hrefusal]

/-- Without the files that are skipped, the same dictionaries are loaded under the same numbers. -/
theorem load_of_leaves (h : Leaves 0 kept all gone)
    (hgone : ∀ path ∈ gone, ∃ notice, Skipped w path notice) :
    (Store.load {} (kept.filterMap w.file?)).1 = (Store.load {} (all.filterMap w.file?)).1 ∧
      (Store.load {} (kept.filterMap w.file?)).2.loaded =
        (Store.load {} (all.filterMap w.file?)).2.loaded := by
  have hnone : ∀ path ∈ gone, (w.file? path).filter Store.isReadable = none := by
    intro path hpath
    obtain ⟨notice, hskipped⟩ := hgone path hpath
    exact hskipped.filter_file?
  -- Either load goes as that of the readable files, and these are the same.
  have hreadable : (kept.filterMap w.file?).filter Store.isReadable =
      (all.filterMap w.file?).filter Store.isReadable := by
    rw [List.filter_filterMap, List.filter_filterMap, h.filterMap_eq hnone]
  have hload := congrArg (Store.load {}) hreadable
  rw [Store.load_filter_isReadable, Store.load_filter_isReadable, Prod.mk.injEq,
    LoadReport.mk.injEq] at hload
  exact ⟨hload.1, hload.2.1⟩

theorem failures_load (w : Surroundings) (paths : List String) :
    (Store.load {} (paths.filterMap w.file?)).2.failures = paths.filterMap w.parseError? := by
  rw [(Store.becomes_load {} _).failures_eq_refusals, List.filterMap_filterMap]
  rfl

/-- Without the files that are skipped, the log follows the files in the same way, but for these. -/
theorem ingestAllEvents_of_leaves {n : Nat} (h : Leaves n kept all gone)
    (hgone : ∀ path ∈ gone, ∃ notice, Skipped w path notice) (s : Store) :
    (s.ingestAllEvents (kept.filterMap w.file?)).Sublist
        (s.ingestAllEvents (all.filterMap w.file?)) ∧
      (s.ingestAllEvents (all.filterMap w.file?)).Perm
        (s.ingestAllEvents (kept.filterMap w.file?) ++
          (gone.filterMap w.parseError?).map ParseError.event) := by
  induction h generalizing s with
  | nil => exact ⟨.refl _, .refl _⟩
  | @keep n path kept all gone h ih =>
      cases hfile : w.file? path with
      | none =>
          rw [List.filterMap_cons_none hfile, List.filterMap_cons_none hfile]
          exact ih hgone s
      | some file =>
          obtain ⟨name, text⟩ := file
          rw [List.filterMap_cons_some hfile, List.filterMap_cons_some hfile,
            Store.ingestAllEvents, Store.ingestAllEvents]
          obtain ⟨hsublist, hperm⟩ := ih hgone (s.ingest name text).1
          exact ⟨hsublist.cons_cons _, hperm.cons _⟩
  | @drop path kept all gone h ih =>
      obtain ⟨⟨notice, hskipped⟩, hgone⟩ := List.forall_mem_cons.mp hgone
      obtain ⟨hsublist, hperm⟩ := ih hgone s
      obtain ⟨hfile, -⟩ | ⟨file, e, hfile, hrefusal, -⟩ := hskipped.file?_cases
      · have herror : w.parseError? path = none := by rw [Surroundings.parseError?, hfile]; rfl
        rw [List.filterMap_cons_none hfile, List.filterMap_cons_none herror]
        exact ⟨hsublist, hperm⟩
      · have herror : w.parseError? path = some e := by
          rw [Surroundings.parseError?, hfile]
          exact hrefusal
        rw [List.filterMap_cons_some hfile, List.filterMap_cons_some herror,
          Store.ingestAllEvents_cons_of_refusal? hrefusal]
        exact ⟨hsublist.cons _, (hperm.cons _).trans List.perm_middle.symm⟩

/-- What is written about files that are skipped makes one notice for each. -/
theorem exists_notices (hgone : ∀ path ∈ gone, ∃ notice, Skipped w path notice) :
    ∃ missing, List.Forall₂ (Skipped w) gone missing ∧
      (gone.flatMap w.encodingMessages ++
        ((gone.filterMap w.parseError?).map ParseError.event).map Message.event ++
        (gone.filterMap w.parseWarning?).map Message.text).Perm missing.flatten := by
  induction gone with
  | nil => exact ⟨[], .nil, .refl _⟩
  | cons path gone ih =>
      obtain ⟨⟨notice, hskipped⟩, hgone⟩ := List.forall_mem_cons.mp hgone
      obtain ⟨missing, hmissing, hperm⟩ := ih hgone
      refine ⟨notice :: missing, .cons hskipped hmissing, ?_⟩
      obtain ⟨hfile, hencoding⟩ | ⟨file, e, hfile, hrefusal, hencoding, rfl⟩ :=
        hskipped.file?_cases
      · have herror : w.parseError? path = none := by rw [Surroundings.parseError?, hfile]; rfl
        have hwarning : w.parseWarning? path = none := by rw [Surroundings.parseWarning?, herror]; rfl
        rw [List.flatMap_cons, hencoding, List.filterMap_cons_none herror,
          List.filterMap_cons_none hwarning, List.flatten_cons, List.append_assoc,
          List.append_assoc, ← List.append_assoc (gone.flatMap _)]
        exact hperm.append_left notice
      · have herror : w.parseError? path = some e := by
          rw [Surroundings.parseError?, hfile]
          exact hrefusal
        have hwarning : w.parseWarning? path = some (parseWarning e) := by
          rw [Surroundings.parseWarning?, herror]
          rfl
        rw [List.flatMap_cons, hencoding, List.filterMap_cons_some herror,
          List.filterMap_cons_some hwarning, List.nil_append, List.flatten_cons]
        -- The event and the warning are brought to the front, one after the other.
        calc
          List.Perm _ (.text (parseWarning e) :: _) := List.perm_middle
          List.Perm _ (.text (parseWarning e) :: .event e.event :: _) :=
            (List.perm_middle.append_right _).cons _
          List.Perm _ (.event e.event :: .text (parseWarning e) :: _) := .swap ..
          List.Perm _ (parseNotice e ++ missing.flatten) := (hperm.cons _).cons _

end Notices

section Loads
variable {w : Surroundings} {paths kept all gone : List String}

theorem loadMessages_eq (w : Surroundings) (paths : List String) :
    w.loadMessages paths =
      w.messagesBefore paths ++ .event (Store.load {} (paths.filterMap w.file?)).2.event ::
        (paths.filterMap w.parseWarning?).map .text := by
  simp only [Surroundings.loadMessages, Surroundings.messagesBefore, Store.loadEvents,
    List.map_append, List.append_assoc, List.map_cons, List.map_nil, List.cons_append,
    List.nil_append]
  rfl

/-- Without the files that are skipped, the same is written around the event that the load is
finished, but for their notices. -/
theorem exists_notices_of_leaves (h : Leaves 0 kept all gone)
    (hgone : ∀ path ∈ gone, ∃ notice, Skipped w path notice) :
    ∃ missing, List.Forall₂ (Skipped w) gone missing ∧
      (w.messagesBefore kept).Sublist (w.messagesBefore all) ∧
      (kept.filterMap w.parseWarning?).Sublist (all.filterMap w.parseWarning?) ∧
      (w.messagesBefore all ++ (all.filterMap w.parseWarning?).map Message.text).Perm
        (w.messagesBefore kept ++ (kept.filterMap w.parseWarning?).map Message.text ++
          missing.flatten) := by
  obtain ⟨missing, hmissing, hperm⟩ := exists_notices hgone
  obtain ⟨hsublist, hevents⟩ := ingestAllEvents_of_leaves h hgone {}
  have hfiles : (all.flatMap w.encodingMessages).Perm
      (kept.flatMap w.encodingMessages ++ gone.flatMap w.encodingMessages) := by
    rw [← List.flatMap_append]
    exact h.perm.flatMap_right _
  have hwarnings : ((all.filterMap w.parseWarning?).map Message.text).Perm
      ((kept.filterMap w.parseWarning?).map Message.text ++ (gone.filterMap w.parseWarning?).map Message.text) := by
    rw [← List.map_append, ← List.filterMap_append]
    exact (h.perm.filterMap _).map _
  have hlog := hevents.map Message.event
  rw [List.map_append] at hlog
  refine ⟨missing, hmissing, ?_, h.sublist.filterMap _, ?_⟩
  · exact (h.sublist.flatMap _).append (hsublist.map _)
  · refine (((hfiles.append hlog).append hwarnings).trans ?_).trans (hperm.append_left _)
    rw [List.perm_iff_count]
    intro message
    simp only [Surroundings.messagesBefore, List.count_append]
    omega

end Loads

/-- The second report is the first one without what is written about files that are skipped. The log
shows some events. -/
structure LacksNotices (w : Surroundings) (shows : LogEvent → Bool) (gone : List String)
    (r r' : Report) : Prop where
  exitCode : r'.exitCode = r.exitCode
  output : r'.output = r.output
  saved : r'.saved = r.saved
  /-- The event that the load is finished counts fewer failures, and around it the notices are
  missing. -/
  messages : ∃ before before' after after' missing report report',
    r.messages =
        (before ++ .event (LoadReport.event report) :: after).filter (Message.isShown shows) ∧
      r'.messages =
        (before' ++ .event (LoadReport.event report') :: after').filter (Message.isShown shows) ∧
      List.Forall₂ (Skipped w) gone missing ∧ before'.Sublist before ∧ after'.Sublist after ∧
      (before ++ after).Perm (before' ++ after' ++ missing.flatten) ∧
      report'.loaded = report.loaded ∧
      report.failures.Perm (report'.failures ++ gone.filterMap w.parseError?)
  /-- If the log does not show that a load is finished, only the notices are missing. -/
  shown : (∀ report, shows (LoadReport.event report) = false) →
    ∃ missing, List.Forall₂ (Skipped w) gone missing ∧ r'.messages.Sublist r.messages ∧
      r.messages.Perm (r'.messages ++ missing.flatten.filter (Message.isShown shows))
  /-- But for the log, one warning is missing for each file. -/
  errors : ∃ texts texts' missing,
    r.errors = String.join texts ∧ r'.errors = String.join texts' ∧
      List.Forall₂ (fun path text => ∃ event, Skipped w path [.event event, .text text])
        gone missing ∧
      texts'.Sublist texts ∧ texts.Perm (texts' ++ missing)

section Reports
variable {w : Surroundings} {shows : LogEvent → Bool} {gone : List String} {r r' : Report}
  {missing : List (List Message)}

/-- The warnings of notices. -/
theorem exists_texts (h : List.Forall₂ (Skipped w) gone missing) :
    List.Forall₂ (fun path text => ∃ event, Skipped w path [.event event, .text text])
      gone (missing.flatten.filterMap Message.text?) := by
  induction h with
  | nil => exact .nil
  | cons hskipped _ ih =>
      rw [List.flatten_cons, List.filterMap_append]
      cases hskipped with
      | encoding hcontent hdecode => exact .cons ⟨_, .encoding hcontent hdecode⟩ ih
      | parse hcontent hdecode hread => exact .cons ⟨_, .parse hcontent hdecode hread⟩ ih

/-- Reports that differ in what is written around the event that the load is finished, and in what
it counts. -/
theorem lacksNotices_showing {before before' after after' : List Message}
    {report report' : LoadReport} (hexitCode : r'.exitCode = r.exitCode)
    (houtput : r'.output = r.output) (hsaved : r'.saved = r.saved)
    (hr : r.messages = before ++ .event report.event :: after)
    (hr' : r'.messages = before' ++ .event report'.event :: after')
    (hmissing : List.Forall₂ (Skipped w) gone missing)
    (hbefore : before'.Sublist before) (hafter : after'.Sublist after)
    (hperm : (before ++ after).Perm (before' ++ after' ++ missing.flatten))
    (hloaded : report'.loaded = report.loaded)
    (hfailures : report.failures.Perm (report'.failures ++ gone.filterMap w.parseError?)) :
    LacksNotices w shows gone (r.showing shows) (r'.showing shows) where
  exitCode := hexitCode
  output := houtput
  saved := hsaved
  messages := by
    refine ⟨before, before', after, after', missing, report, report', ?_, ?_, hmissing, hbefore,
      hafter, hperm, hloaded, hfailures⟩
    · rw [Report.showing, hr]
    · rw [Report.showing, hr']
  shown hhidden := by
    have hfilter (before after : List Message) (report : LoadReport) :
        (before ++ .event report.event :: after).filter (Message.isShown shows) =
          (before ++ after).filter (Message.isShown shows) := by
      rw [List.filter_append, List.filter_append, List.filter_cons_of_neg]
      rw [Message.isShown, hhidden]
      exact Bool.false_ne_true
    rw [Report.showing, Report.showing, hr, hr', hfilter, hfilter]
    refine ⟨missing, hmissing, (hbefore.append hafter).filter _, ?_⟩
    rw [← List.filter_append]
    exact hperm.filter _
  errors := by
    have htexts (before after : List Message) (report : LoadReport) :
        (before ++ .event report.event :: after).filterMap Message.text? =
          (before ++ after).filterMap Message.text? := by
      rw [List.filterMap_append, List.filterMap_append, List.filterMap_cons_none rfl]
    refine ⟨(before ++ after).filterMap Message.text?, (before' ++ after').filterMap Message.text?,
      _, ?_, ?_, exists_texts hmissing, (hbefore.append hafter).filterMap _, ?_⟩
    · rw [errors_showing, Report.errors, hr, htexts]
    · rw [errors_showing, Report.errors, hr', htexts]
    · rw [← List.filterMap_append]
      exact hperm.filterMap _

end Reports

section Commands
variable {w : Surroundings} {arguments arguments' gone : List String} {i : Invocation}

theorem lacksNotices_run {files : List String}
    (hreadable : ∀ path ∈ i.command.files, ∃ bytes, w.contentOf path = .ok bytes)
    (hleaves : Leaves 0 files i.command.files gone)
    (hgone : ∀ path ∈ gone, ∃ notice, Skipped w path notice)
    (hfiles : i.command.files ≠ []) :
    LacksNotices w (w.shows i.isDebugging) gone (run w i) (run w (i.withFiles files)) := by
  have hkept : ∀ path ∈ files, ∃ bytes, w.contentOf path = .ok bytes :=
    fun path hpath => hreadable path (hleaves.sublist.subset hpath)
  have hloads := loads_of_files_ne_nil hfiles
  have hloads' : (i.command.withFiles files).loads = true := by rw [loads_withFiles, hloads]
  obtain ⟨hstore, hloaded⟩ := load_of_leaves hleaves hgone
  obtain ⟨missing, hmissing, hbefore, hwarnings, hperm⟩ := exists_notices_of_leaves hleaves hgone
  rw [run, run, Invocation.withFiles, Command.run_eq hloads, Command.run_eq hloads',
    files_withFiles_of_files_ne_nil hfiles, answer_withFiles, loadStore_of_readable hreadable,
    loadStore_of_readable hkept, hstore, reportLoad, reportLoad, after_after, after_after]
  let settings := w.settingsEvents.map Message.event
  let isColored := w.settings.isColored && !i.isPlain
  let answer := (i.command.answer w isColored
    (Store.load {} (i.command.files.filterMap w.file?)).1).messages
  have hmessages (paths : List String) : settings ++ w.loadMessages paths ++ answer =
      settings ++ w.messagesBefore paths ++
        .event (Store.load {} (paths.filterMap w.file?)).2.event ::
          ((paths.filterMap w.parseWarning?).map .text ++ answer) := by
    rw [loadMessages_eq, List.append_assoc, List.append_assoc, List.append_assoc,
      List.cons_append]
  refine lacksNotices_showing rfl rfl rfl (hmessages _) (hmessages _) hmissing
    (hbefore.append_left _) ((hwarnings.map _).append_right _) ?_ hloaded ?_
  · rw [List.perm_iff_count] at hperm ⊢
    intro message
    have hcount := hperm message
    simp only [List.count_append] at hcount ⊢
    omega
  · rw [failures_load, failures_load, ← List.filterMap_append]
    exact hleaves.perm.filterMap _

/-- Files that are skipped make no difference but for what is written about them. If all files of a
command line that fits can be read, and some that are skipped are left out of it, but not all of its
files, then it still fits. The output and the exit code are the same, whatever the command, its
switches and the settings are. The error output lacks a notice for each file that was left out, which
is a warning and, as far as the log shows it, an event. Of what stays, only the event that the load is
finished can differ: it counts fewer failures. -/
theorem skipped_files_transparent (hi : Invocation.ofArguments? arguments = some i)
    (hreadable : ∀ path ∈ i.command.files, ∃ bytes, w.contentOf path = .ok bytes)
    (hleaves : LeavesFiles arguments' arguments gone)
    (hgone : ∀ path ∈ gone, ∃ notice, Skipped w path notice)
    (hlength : gone.length < i.command.files.length) :
    ∃ r r', respond? w arguments = some r ∧ respond? w arguments' = some r' ∧
      LacksNotices w (w.shows i.isDebugging) gone r r' := by
  obtain ⟨files, hi', hfiles⟩ := hleaves.ofArguments?_eq hi hlength
  have hne : i.command.files ≠ [] := by
    intro hnil
    simp [hnil] at hlength
  refine ⟨_, _, ?_, ?_, lacksNotices_run hreadable hfiles hgone hne⟩
  · rw [respond?, hi, Option.map_some]
  · rw [respond?, hi', Option.map_some]

/-- A search of a dictionary, of a file that is no UTF-8, and of one whose text ends too early. -/
theorem skipped_noise :
    let text := "\x7b\"words\": [\x7b\"entry\": \x7b\"id\": 1, \"form\": \"berry\"\x7d\x7d]\x7d"
    let w : Surroundings :=
      { contentOf path := .ok (if path = "noise.bin" then [0xff] else
          Text.encode (if path = "broken.json" then ['\x7b'] else text.toList))
        settingsPath := ""
        settingsFile := none
        logFilter := none }
    let o : Selection := ⟨["noise.bin", "fruit.json", "broken.json"], ["none"], false, false, false⟩
    let i : Invocation := ⟨.search "be" none none o, true, false⟩
    let arguments := ["--no-color", "search", "be", "noise.bin", "-x", "none", "fruit.json", "--",
      "broken.json"]
    let arguments' := ["--no-color", "search", "be", "-x", "none", "fruit.json", "--"]
    let gone := ["noise.bin", "broken.json"]
    Invocation.ofArguments? arguments = some i ∧
      (∀ path ∈ i.command.files, ∃ bytes, w.contentOf path = .ok bytes) ∧
      LeavesFiles arguments' arguments gone ∧
      (∀ path ∈ gone, ∃ notice, Skipped w path notice) ∧
      gone.length < i.command.files.length ∧
      ∃ r r', respond? w arguments = some r ∧ respond? w arguments' = some r' ∧
        LacksNotices w (w.shows false) gone r r' ∧ r.output = "fruit.json:berry\n" ∧
        r'.messages = [.text "warning: no dictionary named 'none'\n"] := by
  intro text w o i arguments arguments' gone
  have hi : Invocation.ofArguments? arguments = some i := by decide
  have hreadable : ∀ path ∈ i.command.files, ∃ bytes, w.contentOf path = .ok bytes :=
    fun _ _ => ⟨_, rfl⟩
  have hleaves : LeavesFiles arguments' arguments gone := by
    apply LeavesFiles.before (by decide)
    apply @LeavesFiles.verb _ .search _ _ _ (by decide)
    apply LeavesOperands.keep (by decide)
    apply LeavesOperands.drop (by decide)
    apply LeavesOperands.switch (r := ⟨[], some .exclude⟩) (by decide) (by decide) (by decide)
    apply LeavesOperands.value
    apply LeavesOperands.keep (by decide)
    apply LeavesOperands.ended
    exact .drop .nil
  have hgone : ∀ path ∈ gone, ∃ notice, Skipped w path notice := by
    have hnoise : Skipped w "noise.bin" _ := .encoding (e := ⟨0, .invalid 1⟩) rfl (by decide)
    have hbroken : Skipped w "broken.json" _ :=
      .parse (e := ⟨"broken.json", ⟨.endInRecord, 1, 1⟩⟩) rfl rfl (by decide +kernel)
    exact List.forall_mem_cons.mpr ⟨⟨_, hnoise⟩, List.forall_mem_singleton.mpr ⟨_, hbroken⟩⟩
  obtain ⟨r, r', hr, hr', hlacks⟩ :=
    skipped_files_transparent hi hreadable hleaves hgone (by decide)
  have hkept : respond? w arguments' = some ⟨0, "fruit.json:berry\n",
      [.text "warning: no dictionary named 'none'\n"], none⟩ := by
    decide +kernel
  obtain rfl := Option.some.inj (hr'.symm.trans hkept)
  exact ⟨hi, hreadable, hleaves, hgone, by decide, r, _, hr, hr', hlacks, hlacks.output.symm, rfl⟩

/-- The number of line breaks of a text. -/
def lineBreaks (text : String) : Nat := text.toList.count '\n'

theorem lineBreaks_append (a b : String) : lineBreaks (a ++ b) = lineBreaks a + lineBreaks b := by
  rw [lineBreaks, String.toList_append, List.count_append]
  rfl

/-- A file that is skipped is written about twice if the log shows warnings, and its warning takes
two lines if its name has a line break. So the error output does not just lack one line for it. -/
theorem skipped_two_lines :
    let w : Surroundings :=
      { contentOf path := .ok (Text.encode
          (if path = "bad\n.json" then ['\x7b'] else "\x7b\"words\":[]\x7d".toList))
        settingsPath := ""
        settingsFile := none
        logFilter := none }
    let arguments := ["list", "--no-color", "good.json", "bad\n.json"]
    let arguments' := ["list", "--no-color", "good.json"]
    let event : LogEvent :=
      { level := .warning
        message := "skipping unparsable dictionary"
        fields := [("dictionary", "bad\n.json"),
          ("error", "EOF while parsing an object at line 1 column 1")] }
    let warning := "warning: failed to parse dictionary 'bad\n.json': " ++
      "EOF while parsing an object at line 1 column 1\n"
    ∃ r r', respond? w arguments = some r ∧ respond? w arguments' = some r' ∧
      r.messages = [.event event, .text warning] ∧ r'.messages = [] ∧
      lineBreaks warning = 2 ∧ r.errors = warning ∧ r'.errors = "" ∧
      lineBreaks r.errors ≠ lineBreaks r'.errors + 1 ∧
      lineBreaks r.errorOutput ≠ lineBreaks r'.errorOutput + 1 := by
  intro w arguments arguments' event warning
  have hr : respond? w arguments =
      some ⟨0, "good.json:0\n1 dictionaries loaded.\n", [.event event, .text warning], none⟩ := by
    decide +kernel
  have hr' : respond? w arguments' =
      some ⟨0, "good.json:0\n1 dictionaries loaded.\n", [], none⟩ := by
    decide +kernel
  have hwarning : lineBreaks warning = 2 := by decide +kernel
  have hevent : lineBreaks event.line = 2 := by
    simp only [event, LogEvent.line, LogLevel.name, lineBreaks_append, List.map_cons, List.map_nil,
      String.join_cons, String.join_nil]
    decide +kernel
  have houtput (r : Report) (h : r.messages = [.event event, .text warning]) :
      lineBreaks r.errorOutput = 4 := by
    rw [Report.errorOutput, h, List.map_cons, List.map_cons, List.map_nil, String.join_cons,
      String.join_cons, String.join_nil, lineBreaks_append, lineBreaks_append, Message.written,
      Message.written, hevent, hwarning]
    rfl
  refine ⟨_, _, hr, hr', rfl, rfl, hwarning, by decide +kernel, rfl, by decide +kernel, ?_⟩
  rw [houtput _ rfl]
  decide

end Commands

end Lexicon.CommandLine
