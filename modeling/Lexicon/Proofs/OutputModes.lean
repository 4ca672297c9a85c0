import Lexicon.Proofs.CommandRuns
import Lexicon.Proofs.Documents

/-!
# Ways to show hits

A search shows its hits as text, as a JSON list, or by their number alone. Which of these is asked
for makes no difference to the exit code and to the error output, whatever the log shows in it, and
all of them show the same hits in the same order.
-/

namespace Lexicon.CommandLine

open Search (Hit QueryError)

/-- Holds of a command that cannot be run to its end: some file cannot be read at all, or what is
searched for is refused. -/
def Command.Fails (w : Surroundings) (c : Command) : Prop := c.LacksFile w ∨ c.IsInvalid w.settings

/-- The text of a hit among the results of a search: its headline, and the details of its entry if
they are asked for. -/
def hitText (isColored isDetailed : Bool) (h : Hit) : String :=
  Display.render isColored (Display.headline h) ++
    if isDetailed then Display.render isColored (Display.details h.entry) else ""

/-- Reports, by the number alone or not, and as JSON or not, that agree with each other. The hits are
those that all of them show, unless the command fails. -/
structure ModesAgree (fails : Prop) (isColored isDetailed : Bool) (report : Bool → Bool → Report) :
    Prop where
  exitCode (isCounted isJson : Bool) :
    (report isCounted isJson).exitCode = (report false false).exitCode
  /-- The error output is the same, with the log in it. -/
  messages (isCounted isJson : Bool) :
    (report isCounted isJson).messages = (report false false).messages
  numberOnly : (report true true).output = (report true false).output
  ofFailure (h : fails) (isCounted isJson : Bool) :
    (report isCounted isJson).exitCode = 2 ∧ (report isCounted isJson).output = ""
  ofHits (h : ¬ fails) : ∃ hits : List Hit,
    (report false false).exitCode = (if 0 < hits.length then 0 else 1) ∧
      (report true false).output = s!"{hits.length}\n" ∧
      Display.Row.layout.list.decode (report false true).output =
        .ok (hits.map Display.Row.ofHit) ∧
      (report false false).output = String.join (hits.map (hitText isColored isDetailed))

section Renderings

theorem render_append (isColored : Bool) (segments segments' : List Display.Segment) :
    Display.render isColored (segments ++ segments') =
      Display.render isColored segments ++ Display.render isColored segments' := by
  rw [Display.render, List.flatMap_append, String.ofList_append]
  rfl

/-- The results are the texts of the hits, one after the other. -/
theorem render_results (isColored isDetailed : Bool) (hits : List Hit) :
    Display.render isColored (Display.results isDetailed hits) =
      String.join (hits.map (hitText isColored isDetailed)) := by
  induction hits with
  | nil => rfl
  | cons h hits ih =>
      rw [List.map_cons, String.join_cons, ← ih, Display.results, List.flatMap_cons, render_append,
        render_append]
      congr 2
      cases isDetailed <;> rfl

end Renderings

section Reports
variable {fails fails' : Prop} {isColored isDetailed : Bool} {report : Bool → Bool → Report}

theorem ModesAgree.congr (h : fails ↔ fails') (hr : ModesAgree fails isColored isDetailed report) :
    ModesAgree fails' isColored isDetailed report :=
  propext h ▸ hr

/-- Messages that come first in every report make no difference. -/
theorem ModesAgree.after (hr : ModesAgree fails isColored isDetailed report)
    (messages : List Message) :
    ModesAgree fails isColored isDetailed fun isCounted isJson =>
      (report isCounted isJson).after messages where
  exitCode := hr.exitCode
  messages isCounted isJson := congrArg (messages ++ ·) (hr.messages isCounted isJson)
  numberOnly := hr.numberOnly
  ofFailure := hr.ofFailure
  ofHits := hr.ofHits

/-- What the log shows makes no difference. -/
theorem ModesAgree.showing (hr : ModesAgree fails isColored isDetailed report)
    (shows : LogEvent → Bool) :
    ModesAgree fails isColored isDetailed fun isCounted isJson =>
      (report isCounted isJson).showing shows where
  exitCode := hr.exitCode
  messages isCounted isJson :=
    congrArg (List.filter (Message.isShown shows)) (hr.messages isCounted isJson)
  numberOnly := hr.numberOnly
  ofFailure := hr.ofFailure
  ofHits := hr.ofHits

theorem modesAgree_of_failure (hfails : fails) (isColored isDetailed : Bool) {r : Report}
    (hcode : r.exitCode = 2) (houtput : r.output = "") :
    ModesAgree fails isColored isDetailed fun _ _ => r where
  exitCode _ _ := rfl
  messages _ _ := rfl
  numberOnly := rfl
  ofFailure _ _ _ := ⟨hcode, houtput⟩
  ofHits h := absurd hfails h

theorem modesAgree_of_outcome (hfails : ¬ fails) (o : Selection) (isColored : Bool)
    (found : Search.Outcome) :
    ModesAgree fails isColored o.isDetailed fun isCounted isJson =>
      outcomeReport (o.showing isCounted isJson) isColored found where
  exitCode _ _ := rfl
  messages _ _ := rfl
  numberOnly := rfl
  ofFailure h := absurd h hfails
  ofHits _ := by
    refine ⟨found.hits, ?_, rfl, Display.decode_json found.hits, render_results _ _ _⟩
    cases hhits : found.hits <;> simp [outcomeReport, Search.Outcome.isEmpty, hhits]

theorem modesAgree_searchReport (session : Session) (o : Selection) (isColored : Bool)
    (store : Store) :
    ModesAgree (∃ e, session.predicate = .error e) isColored o.isDetailed fun isCounted isJson =>
      searchReport session (o.showing isCounted isJson) isColored store := by
  let left := excludeAll store o.exclude
  let messages := left.2 ++ (session.executeEvents left.1.snapshot).map .event
  cases hp : session.predicate with
  | ok p =>
      have hfails : ¬ ∃ e : QueryError, Except.ok p = .error e := by simp
      have hagree := modesAgree_of_outcome hfails o isColored
        (Search.execute p left.1.snapshot)
      simpa only [searchReport, hp, Selection.showing] using hagree.after messages
  | error e =>
      have hfails : ∃ e', (.error e : Except QueryError Search.Predicate) = .error e' := ⟨e, rfl⟩
      have hagree := modesAgree_of_failure hfails isColored o.isDetailed
        (r := queryFailed session.script e) rfl rfl
      simpa only [searchReport, hp, Selection.showing] using hagree.after messages

end Reports

section Commands
variable {arguments : List String} {i : Invocation} {o : Selection}

theorem modesAgree_run (ho : i.command.selection? = some o) (w : Surroundings) :
    ModesAgree (i.command.Fails w) (w.settings.isColored && !i.isPlain) o.isDetailed
      fun isCounted isJson => run w (i.showing isCounted isJson) := by
  obtain ⟨session, hinvalid, hanswer⟩ := exists_session ho w
  have hlacks : (∃ message, (loadStore w i.command.files).2 = .error message) ↔
      i.command.LacksFile w := loadStore_eq_error_iff
  have hloads (isCounted isJson : Bool) : (i.command.showing isCounted isJson).loads = true := by
    rw [loads_showing, loads_of_selection? ho]
  simp only [run, Invocation.showing, Command.run_eq (hloads _ _), files_showing, hanswer]
  apply (ModesAgree.after _ (w.settingsEvents.map .event)).showing (w.shows i.isDebugging)
  generalize loadStore w i.command.files = load at hlacks
  obtain ⟨messages, loaded⟩ := load
  cases loaded with
  | error message =>
      exact modesAgree_of_failure (.inl (hlacks.mp ⟨message, rfl⟩)) _ _ rfl rfl
  | ok store =>
      have hpresent : ¬ i.command.LacksFile w := by
        rw [← hlacks]
        simp
      have hfails : (∃ e, session.predicate = .error e) ↔ i.command.Fails w := by
        rw [hinvalid, Command.Fails, or_iff_right hpresent]
      exact ((modesAgree_searchReport session o _ store).congr hfails).after messages

/-- The ways to show the hits of a search agree with each other, whatever the files and the settings
are. The exit code and the error output are the same in all of them. The number, the rows of the JSON
list and the headlines are those of the same hits in the same order, and the exit code says if there
are any. If a file cannot be read at all, or a pattern or a script is refused, the exit code is 2 and
nothing is shown. All command lines that fit and ask for the same but for the way to show the hits
get these reports, among them those with the switches for it right behind the verb. -/
theorem modes_agree (hi : Invocation.ofArguments? arguments = some i)
    (ho : i.command.selection? = some o) (w : Surroundings) :
    ModesAgree (i.command.Fails w) (w.settings.isColored && !i.isPlain) o.isDetailed
        (fun isCounted isJson => run w (i.showing isCounted isJson)) ∧
      (∀ isCounted isJson arguments',
        Invocation.ofArguments? arguments' = some (i.showing isCounted isJson) →
          respond? w arguments' = some (run w (i.showing isCounted isJson))) ∧
      (o.isCounted = false ∧ o.isJson = false → ∀ isCounted isJson,
        respond? w (behindVerb (modeSwitches isCounted isJson) arguments) =
          some (run w (i.showing isCounted isJson))) := by
  have hrespond (isCounted isJson : Bool) (arguments' : List String)
      (h : Invocation.ofArguments? arguments' = some (i.showing isCounted isJson)) :
      respond? w arguments' = some (run w (i.showing isCounted isJson)) := by
    rw [respond?, h, Option.map_some]
  refine ⟨modesAgree_run ho w, hrespond, ?_⟩
  intro hplain isCounted isJson
  apply hrespond
  exact ofArguments?_behindVerb hi ho hplain isCounted isJson

/-- A search that finds one entry, with its number and with the JSON list. -/
theorem modes_of_berry :
    let text := "\x7b\"words\": [\x7b\"entry\": \x7b\"id\": 1, \"form\": \"berry\"\x7d\x7d]\x7d"
    let w : Surroundings := ⟨fun _ => .ok (Text.encode text.toList), "", none, none⟩
    let o : Selection := ⟨["fruit.json"], [], false, false, false⟩
    let i : Invocation := ⟨.search "be" none none o, false, false⟩
    Invocation.ofArguments? ["search", "be", "fruit.json"] = some i ∧
      i.command.selection? = some o ∧ ¬ i.command.Fails w ∧
      respond? w ["search", "-c", "be", "fruit.json"] = some ⟨0, "1\n", [], none⟩ ∧
      respond? w ["search", "--json", "be", "fruit.json"] = some (run w (i.showing false true)) ∧
      (run w (i.showing false true)).exitCode = 0 ∧
      (run w (i.showing false true)).messages = [] := by
  intro text w o i
  have hi : Invocation.ofArguments? ["search", "be", "fruit.json"] = some i := by decide
  have hfails : ¬ i.command.Fails w := by
    rintro (⟨path, -, fault, h⟩ | ⟨e, h⟩) <;> cases h
  obtain ⟨hagree, -, hrespond⟩ := modes_agree hi rfl w
  have hcounted : run w (i.showing true false) = ⟨0, "1\n", [], none⟩ := by decide +kernel
  have hcount := hrespond ⟨rfl, rfl⟩ true false
  have hjson := hrespond ⟨rfl, rfl⟩ false true
  rw [hcounted] at hcount
  refine ⟨hi, rfl, hfails, hcount, hjson, ?_, ?_⟩
  · rw [hagree.exitCode, ← hagree.exitCode true false, hcounted]
  · rw [hagree.messages, ← hagree.messages true false, hcounted]

end Commands

end Lexicon.CommandLine
