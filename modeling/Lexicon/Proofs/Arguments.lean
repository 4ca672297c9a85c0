import Lexicon.CommandLine.Run
import Mathlib.Data.List.Basic

/-!
# Command lines that differ a little

A command line keeps its meaning, but for the way in which hits are shown, when the switches for that
come right behind its verb. It keeps its meaning, but for the files, when some of its files are left
out. Both are said of the arguments as they stand, with switches, values and files in any order.
-/

namespace Lexicon.CommandLine

open Search (Field Strategy)

/-- The selection of a command that searches. -/
def Command.selection? : Command → Option Selection
  | .search _ _ _ selection | .script _ selection => some selection
  | .check _ | .list _ | .config _ => none

/-- The selection with another way to show the hits. -/
def Selection.showing (isCounted isJson : Bool) (o : Selection) : Selection :=
  { o with isCounted, isJson }

/-- The command with another way to show the hits. -/
def Command.showing (isCounted isJson : Bool) : Command → Command
  | .search needle field strategy o => .search needle field strategy (o.showing isCounted isJson)
  | .script source o => .script source (o.showing isCounted isJson)
  | c => c

/-- The invocation with another way to show the hits. -/
def Invocation.showing (isCounted isJson : Bool) (i : Invocation) : Invocation :=
  { i with command := i.command.showing isCounted isJson }

/-- The command with other files. -/
def Command.withFiles (files : List String) : Command → Command
  | .search needle field strategy o => .search needle field strategy { o with files }
  | .script source o => .script source { o with files }
  | .list _ => .list files
  | c => c

/-- The invocation with other files. -/
def Invocation.withFiles (files : List String) (i : Invocation) : Invocation :=
  { i with command := i.command.withFiles files }

/-- The arguments with some more right behind the verb. -/
def behindVerb (extra : List String) : List String → List String
  | [] => []
  | argument :: rest =>
    if (Verb.ofName? argument).isSome then argument :: (extra ++ rest)
    else argument :: behindVerb extra rest

/-- The switches that ask for the number of hits, or for a JSON list of them. -/
def modeSwitches (isCounted isJson : Bool) : List String :=
  (if isCounted then ["-c"] else []) ++ if isJson then ["--json"] else []

/-- The first list is the second one with the members of the third left out. The first `n` members
stay. -/
inductive Leaves {α : Type} : (n : Nat) → (kept all gone : List α) → Prop
  | nil {n} : Leaves n [] [] []
  | keep {n a bs as gone} (h : Leaves (n - 1) bs as gone) : Leaves n (a :: bs) (a :: as) gone
  | drop {a bs as gone} (h : Leaves 0 bs as gone) : Leaves 0 bs (a :: as) (a :: gone)

/-- The first arguments are the second ones with operands left out, which are the third ones. The
first `n` operands stay. Values of switches are no operands, and behind two hyphens all arguments
are. -/
inductive LeavesOperands (allowed : List Switch) :
    (n : Nat) → (pending : Option Switch) → (kept all gone : List String) → Prop
  | nil {n pending} : LeavesOperands allowed n pending [] [] []
  | value {n s a bs as gone} (h : LeavesOperands allowed n none bs as gone) :
      LeavesOperands allowed n (some s) (a :: bs) (a :: as) gone
  | switch {n a r bs as gone} (ha : namesSwitch a = true) (hend : a ≠ "--")
      (hr : readArgument allowed a = some r) (h : LeavesOperands allowed n r.pending bs as gone) :
      LeavesOperands allowed n none (a :: bs) (a :: as) gone
  | ended {n bs as gone} (h : Leaves n bs as gone) :
      LeavesOperands allowed n none ("--" :: bs) ("--" :: as) gone
  | keep {n a bs as gone} (ha : namesSwitch a = false)
      (h : LeavesOperands allowed (n - 1) none bs as gone) :
      LeavesOperands allowed n none (a :: bs) (a :: as) gone
  | drop {a bs as gone} (ha : namesSwitch a = false)
      (h : LeavesOperands allowed 0 none bs as gone) :
      LeavesOperands allowed 0 none bs (a :: as) (a :: gone)

/-- How many operands of a verb come before its files. -/
def Verb.leading : Verb → Nat
  | .search | .script => 1
  | .check | .list | .config => 0

/-- The first command line is the second one with files left out, which are the third ones. -/
inductive LeavesFiles : (kept all gone : List String) → Prop
  | before {a bs as gone} (ha : Verb.ofName? a = none) (h : LeavesFiles bs as gone) :
      LeavesFiles (a :: bs) (a :: as) gone
  | verb {a verb bs as gone} (ha : Verb.ofName? a = some verb)
      (h : LeavesOperands verb.switches verb.leading none bs as gone) :
      LeavesFiles (a :: bs) (a :: as) gone

section Verbs
variable {a : String} {arguments rest : List String} {before items : List Item} {verb : Verb}

theorem splitVerb_of_verb (ha : Verb.ofName? a = some verb) (rest : List String) :
    splitVerb (a :: rest) = some ([], verb, rest) := by
  rw [splitVerb, ha]

/-- What stands before the verb are switches for the whole program. -/
theorem splitVerb_cons_eq_some_iff (ha : Verb.ofName? a = none) :
    splitVerb (a :: arguments) = some (before, verb, rest) ↔ ∃ r items,
      (if namesSwitch a then readArgument Verb.globalSwitches a else none) = some r ∧
        splitVerb arguments = some (items, verb, rest) ∧ before = r.items ++ items := by
  rw [splitVerb, ha]
  cases namesSwitch a with
  | false => simp
  | true =>
      simp only [↓reduceIte, Option.bind_eq_bind, Option.bind_eq_some_iff, Option.pure_def,
        Option.some.injEq, Prod.exists, Prod.mk.injEq]
      constructor
      · rintro ⟨r, hr, items, _, _, h, rfl, rfl, rfl⟩
        exact ⟨r, items, hr, h, rfl⟩
      · rintro ⟨r, items, hr, h, rfl⟩
        exact ⟨r, hr, items, verb, rest, h, rfl, rfl, rfl⟩

theorem splitVerb_behindVerb (extra : List String)
    (h : splitVerb arguments = some (before, verb, rest)) :
    splitVerb (behindVerb extra arguments) = some (before, verb, extra ++ rest) := by
  induction arguments generalizing before with
  | nil => cases h
  | cons a arguments ih =>
      rw [behindVerb]
      cases ha : Verb.ofName? a with
      | some verb' =>
          rw [splitVerb_of_verb ha] at h
          cases h
          exact splitVerb_of_verb ha _
      | none =>
          obtain ⟨r, items, hr, hrest, rfl⟩ := (splitVerb_cons_eq_some_iff ha).mp h
          exact (splitVerb_cons_eq_some_iff ha).mpr ⟨r, items, hr, ih hrest, rfl⟩

/-- Arguments fit if what stands before the verb and what follows it do. -/
theorem ofArguments?_eq_some_iff {i : Invocation} :
    Invocation.ofArguments? arguments = some i ↔ ∃ before verb rest items,
      splitVerb arguments = some (before, verb, rest) ∧
        readArguments verb.switches none rest = some items ∧
        isGivenOnce before = true ∧ isGivenOnce items = true ∧
        command? verb items = some i.command ∧
        i.isPlain = (isGiven .noColor before || isGiven .noColor items) ∧
        i.isDebugging = (isGiven .debug before || isGiven .debug items) := by
  simp only [Invocation.ofArguments?, Option.bind_eq_bind, Option.bind_eq_some_iff, Prod.exists,
    Option.ite_none_right_eq_some, Bool.and_eq_true, Option.pure_def, Option.some.injEq]
  constructor
  · rintro ⟨before, verb, rest, hsplit, items, hread, ⟨hbefore, hitems⟩, command, hcommand, rfl⟩
    exact ⟨before, verb, rest, items, hsplit, hread, hbefore, hitems, hcommand, rfl, rfl⟩
  · rintro ⟨before, verb, rest, items, hsplit, hread, hbefore, hitems, hcommand, hplain, hdebug⟩
    refine ⟨before, verb, rest, hsplit, items, hread, ⟨hbefore, hitems⟩, _, hcommand, ?_⟩
    rw [← hplain, ← hdebug]

/-- The command of a verb, with what it takes from the pieces that follow it. -/
inductive IsCommandOf (items : List Item) : Verb → Command → Prop
  | search {needle files field strategy o} (hoperands : operands items = needle :: files)
      (hfield : named? Field.ofName? (valuesOf .field items) = some field)
      (hstrategy : named? Strategy.ofName? (valuesOf .strategy items) = some strategy)
      (ho : selection? items files = some o) :
      IsCommandOf items .search (.search needle field strategy o)
  | script {source files o} (hoperands : operands items = source :: files)
      (ho : selection? items files = some o) : IsCommandOf items .script (.script source o)
  | check {source} (hoperands : operands items = [source]) :
      IsCommandOf items .check (.check source)
  | list {files} (hfiles : fileNames? (operands items) = some files) :
      IsCommandOf items .list (.list files)
  | config (hoperands : operands items = []) :
      IsCommandOf items .config (.config (isGiven .init items))

theorem command?_eq_some_iff {c : Command} :
    command? verb items = some c ↔ IsCommandOf items verb c := by
  constructor
  · intro h
    unfold command? at h
    split at h
    next needle files hoperands =>
      simp only [Option.bind_eq_bind, Option.bind_eq_some_iff, Option.pure_def,
        Option.some.injEq] at h
      obtain ⟨field, hfield, strategy, hstrategy, o, ho, rfl⟩ := h
      exact .search hoperands hfield hstrategy ho
    next source files hoperands =>
      obtain ⟨o, ho, rfl⟩ := Option.map_eq_some_iff.mp h
      exact .script hoperands ho
    next source hoperands =>
      cases h
      exact .check hoperands
    next =>
      obtain ⟨files, hfiles, rfl⟩ := Option.map_eq_some_iff.mp h
      exact .list hfiles
    next hoperands =>
      cases h
      exact .config hoperands
    next => cases h
  · intro h
    cases h with
    | search hoperands hfield hstrategy ho => simp [command?, hoperands, hfield, hstrategy, ho]
    | script hoperands ho => simp [command?, hoperands, ho]
    | check hoperands => simp [command?, hoperands]
    | list hfiles => simp [command?, hfiles]
    | config hoperands => simp [command?, hoperands]

theorem selection?_eq_some_iff {names : List String} {o : Selection} :
    selection? items names = some o ↔ fileNames? names = some o.files ∧
      o.exclude = valuesOf .exclude items ∧ o.isJson = isGiven .json items ∧
      o.isCounted = isGiven .count items ∧ o.isDetailed = isGiven .details items := by
  simp only [selection?, Option.bind_eq_bind, Option.bind_eq_some_iff, Option.pure_def,
    Option.some.injEq]
  constructor
  · rintro ⟨files, hfiles, rfl⟩
    exact ⟨hfiles, rfl, rfl, rfl, rfl⟩
  · rintro ⟨hfiles, hexclude, hjson, hcount, hdetails⟩
    refine ⟨_, hfiles, ?_⟩
    rw [← hexclude, ← hjson, ← hcount, ← hdetails]

end Verbs

section Modes
variable {arguments rest : List String} {items : List Item} {verb : Verb} {o : Selection}

/-- The switches that ask for a way to show the hits, as they are read. -/
def modeItems (isCounted isJson : Bool) : List Item :=
  (if isCounted then [.flag .count] else []) ++ if isJson then [.flag .json] else []

theorem readArguments_modeSwitches (hverb : verb = .search ∨ verb = .script)
    (h : readArguments verb.switches none rest = some items) (isCounted isJson : Bool) :
    readArguments verb.switches none (modeSwitches isCounted isJson ++ rest) =
      some (modeItems isCounted isJson ++ items) := by
  have hcount : readArgument verb.switches "-c" = some ⟨[.flag .count], none⟩ := by
    obtain rfl | rfl := hverb <;> decide
  have hjson : readArgument verb.switches "--json" = some ⟨[.flag .json], none⟩ := by
    obtain rfl | rfl := hverb <;> decide
  cases isCounted <;> cases isJson <;>
    simp [modeSwitches, modeItems, readArguments, hcount, hjson, h]

theorem operands_modeItems (isCounted isJson : Bool) (items : List Item) :
    operands (modeItems isCounted isJson ++ items) = operands items := by
  cases isCounted <;> cases isJson <;> rfl

theorem valuesOf_modeItems (isCounted isJson : Bool) (s : Switch) (items : List Item) :
    valuesOf s (modeItems isCounted isJson ++ items) = valuesOf s items := by
  cases isCounted <;> cases isJson <;> rfl

theorem isGiven_append (s : Switch) (items items' : List Item) :
    isGiven s (items ++ items') = (isGiven s items || isGiven s items') :=
  List.any_append

theorem isGivenOnce_iff :
    isGivenOnce items = true ↔
      ∀ s : Switch, s.mayRepeat = true ∨ (items.countP fun i => i.switch? = some s) ≤ 1 := by
  have hall : ∀ s, s ∈ Switch.all := by
    intro s
    cases s <;> decide
  simp [isGivenOnce, hall]

theorem isGivenOnce_modeItems (hitems : isGivenOnce items = true)
    (hcount : isGiven .count items = false) (hjson : isGiven .json items = false)
    (isCounted isJson : Bool) : isGivenOnce (modeItems isCounted isJson ++ items) = true := by
  rw [isGivenOnce_iff] at hitems ⊢
  intro s
  rw [List.countP_append]
  by_cases hs : s = .count ∨ s = .json
  · right
    have hnone : (items.countP fun i => i.switch? = some s) = 0 := by
      rw [List.countP_eq_zero]
      obtain rfl | rfl := hs
      · simpa [isGiven] using hcount
      · simpa [isGiven] using hjson
    rw [hnone]
    obtain rfl | rfl := hs <;> cases isCounted <;> cases isJson <;> decide
  · have hnone : ((modeItems isCounted isJson).countP fun i => i.switch? = some s) = 0 := by
      cases s <;> cases isCounted <;> cases isJson <;> simp_all [modeItems, Item.switch?]
    rw [hnone, Nat.zero_add]
    exact hitems s

theorem selection?_modeItems {names : List String} (h : selection? items names = some o)
    (hplain : o.isCounted = false ∧ o.isJson = false) (isCounted isJson : Bool) :
    selection? (modeItems isCounted isJson ++ items) names = some (o.showing isCounted isJson) := by
  rw [selection?_eq_some_iff] at h ⊢
  obtain ⟨hfiles, hexclude, hjson, hcount, hdetails⟩ := h
  rw [hplain.1] at hcount
  rw [hplain.2] at hjson
  simp only [valuesOf_modeItems, isGiven_append, ← hjson, ← hcount, ← hdetails, Selection.showing]
  refine ⟨hfiles, hexclude, ?_⟩
  cases isCounted <;> cases isJson <;> exact ⟨rfl, rfl, rfl⟩

theorem command?_modeItems {c : Command} (hc : command? verb items = some c)
    (ho : c.selection? = some o) (hplain : o.isCounted = false ∧ o.isJson = false)
    (isCounted isJson : Bool) :
    command? verb (modeItems isCounted isJson ++ items) = some (c.showing isCounted isJson) := by
  rw [command?_eq_some_iff] at hc ⊢
  cases hc with
  | search hoperands hfield hstrategy hselection =>
      cases ho
      refine .search ?_ ?_ ?_ (selection?_modeItems hselection hplain isCounted isJson)
      · rw [operands_modeItems, hoperands]
      · rw [valuesOf_modeItems, hfield]
      · rw [valuesOf_modeItems, hstrategy]
  | script hoperands hselection =>
      cases ho
      refine .script ?_ (selection?_modeItems hselection hplain isCounted isJson)
      rw [operands_modeItems, hoperands]
  | check | list | config => cases ho

/-- Only a search and a script make a selection, of the names that their operands end in. -/
theorem exists_selection? {c : Command} (hc : command? verb items = some c)
    (ho : c.selection? = some o) :
    (verb = .search ∨ verb = .script) ∧ ∃ names, selection? items names = some o := by
  cases command?_eq_some_iff.mp hc with
  | search _ _ _ hselection =>
      cases ho
      exact ⟨.inl rfl, _, hselection⟩
  | script _ hselection =>
      cases ho
      exact ⟨.inr rfl, _, hselection⟩
  | check | list | config => cases ho

/-- Behind the verb of a command line without them, the switches for the way to show the hits make
just this difference. -/
theorem ofArguments?_behindVerb {i : Invocation} (hi : Invocation.ofArguments? arguments = some i)
    (ho : i.command.selection? = some o) (hplain : o.isCounted = false ∧ o.isJson = false)
    (isCounted isJson : Bool) :
    Invocation.ofArguments? (behindVerb (modeSwitches isCounted isJson) arguments) =
      some (i.showing isCounted isJson) := by
  rw [ofArguments?_eq_some_iff] at hi ⊢
  obtain ⟨before, verb, rest, items, hsplit, hread, hbefore, hitems, hcommand, hcolor, hdebug⟩ := hi
  obtain ⟨hverb, names, hselection⟩ := exists_selection? hcommand ho
  obtain ⟨-, -, hjson, hcount, -⟩ := selection?_eq_some_iff.mp hselection
  refine ⟨before, verb, _, _, splitVerb_behindVerb _ hsplit,
    readArguments_modeSwitches hverb hread isCounted isJson, hbefore, ?_,
    command?_modeItems hcommand ho hplain isCounted isJson, ?_, ?_⟩
  · exact isGivenOnce_modeItems hitems (hcount ▸ hplain.1) (hjson ▸ hplain.2) isCounted isJson
  · rw [isGiven_append]
    cases isCounted <;> cases isJson <;> exact hcolor
  · rw [isGiven_append]
    cases isCounted <;> cases isJson <;> exact hdebug

end Modes

section Files
variable {α : Type} {n : Nat} {kept all gone : List α} {items items' : List Item} {verb : Verb}
  {allowed : List Switch} {a : String} {r : Reading}

theorem Leaves.sublist (h : Leaves n kept all gone) : kept.Sublist all := by
  induction h with
  | nil => exact .slnil
  | keep _ ih => exact ih.cons_cons _
  | drop _ ih => exact ih.cons _

theorem Leaves.perm (h : Leaves n kept all gone) : all.Perm (kept ++ gone) := by
  induction h with
  | nil => exact .refl _
  | keep _ ih => exact ih.cons _
  | drop _ ih => exact (ih.cons _).trans List.perm_middle.symm

theorem Leaves.filterMap_eq {β : Type} {f : α → Option β} (h : Leaves n kept all gone)
    (hgone : ∀ a ∈ gone, f a = none) : kept.filterMap f = all.filterMap f := by
  induction h with
  | nil => rfl
  | keep _ ih => rw [List.filterMap_cons, List.filterMap_cons, ih hgone]
  | drop _ ih =>
      obtain ⟨ha, hgone⟩ := List.forall_mem_cons.mp hgone
      rw [List.filterMap_cons_none ha]
      exact ih hgone

/-- The pieces that are no operands. -/
def switchItems (items : List Item) : List Item := items.filter fun i => i.operand?.isNone

theorem valuesOf_switchItems (s : Switch) (items : List Item) :
    valuesOf s (switchItems items) = valuesOf s items := by
  rw [switchItems, valuesOf, valuesOf, List.filterMap_filter]
  congr 1
  ext i
  cases i <;> simp [Item.operand?, Item.valueOf?]

theorem isGiven_switchItems (s : Switch) (items : List Item) :
    isGiven s (switchItems items) = isGiven s items := by
  rw [switchItems, isGiven, isGiven, List.any_filter]
  congr 1
  ext i
  cases i <;> simp [Item.operand?, Item.switch?]

theorem isGivenOnce_switchItems (items : List Item) :
    isGivenOnce (switchItems items) = isGivenOnce items := by
  have hcount (s : Switch) : ((switchItems items).countP fun i => i.switch? = some s) =
      items.countP fun i => i.switch? = some s := by
    rw [switchItems, List.countP_filter]
    congr 1
    ext i
    cases i <;> simp [Item.operand?, Item.switch?]
  simp only [isGivenOnce, hcount]

theorem switchItems_append (items items' : List Item) :
    switchItems (items ++ items') = switchItems items ++ switchItems items' :=
  List.filter_append ..

theorem operands_append (items items' : List Item) :
    operands (items ++ items') = operands items ++ operands items' :=
  List.filterMap_append ..

theorem switchItems_map_operand (texts : List String) :
    switchItems (texts.map .operand) = [] := by
  simp [switchItems, Item.operand?]

theorem operands_map_operand (texts : List String) : operands (texts.map .operand) = texts := by
  simp [operands, List.filterMap_map, Function.comp_def, Item.operand?]

theorem valuesOf_congr (h : switchItems items' = switchItems items) (s : Switch) :
    valuesOf s items' = valuesOf s items := by
  rw [← valuesOf_switchItems, h, valuesOf_switchItems]

theorem isGiven_congr (h : switchItems items' = switchItems items) (s : Switch) :
    isGiven s items' = isGiven s items := by
  rw [← isGiven_switchItems, h, isGiven_switchItems]

theorem operands_readLong {text : List Char} (h : readLong allowed text = some r) :
    operands r.items = [] := by
  unfold readLong at h
  dsimp only at h
  split at h
  · cases h
  · split at h
    · split at h <;> (cases h; rfl)
    · split at h
      · cases h
      · cases h
        rfl

theorem operands_readShort {text : List Char} (h : readShort allowed text = some r) :
    operands r.items = [] := by
  induction text generalizing r with
  | nil =>
      cases h
      rfl
  | cons c text ih =>
      rw [readShort] at h
      split at h
      · cases h
      · split at h
        · split at h <;> (cases h; rfl)
        · obtain ⟨r', hr, rfl⟩ := Option.map_eq_some_iff.mp h
          change operands r'.items = []
          exact ih hr

/-- An argument that names switches makes no operand. -/
theorem operands_readArgument (ha : namesSwitch a = true) (h : readArgument allowed a = some r) :
    operands r.items = [] := by
  rw [readArgument, if_pos ha] at h
  split at h
  · exact operands_readLong h
  · exact operands_readShort h
  · cases h

theorem readArguments_switch (hend : a ≠ "--") (hr : readArgument allowed a = some r)
    (rest : List String) : readArguments allowed none (a :: rest) =
      (readArguments allowed r.pending rest).map (r.items ++ ·) := by
  rw [readArguments, if_neg hend, hr]

theorem readArguments_value {s : Switch} (ha : namesSwitch a = false) (rest : List String) :
    readArguments allowed (some s) (a :: rest) =
      (readArguments allowed none rest).map (.value s a :: ·) := by
  rw [readArguments, ha]
  rfl

theorem readArguments_ended (rest : List String) :
    readArguments allowed none ("--" :: rest) = some (rest.map .operand) := by
  rw [readArguments, if_pos rfl]

theorem readArguments_operand (ha : namesSwitch a = false) (rest : List String) :
    readArguments allowed none (a :: rest) =
      (readArguments allowed none rest).map (.operand a :: ·) := by
  have hend : a ≠ "--" := by
    rintro rfl
    cases ha
  have hr : readArgument allowed a = some ⟨[.operand a], none⟩ := by
    rw [readArgument, ha]
    rfl
  exact readArguments_switch hend hr rest

/-- Without some operands, arguments make the same pieces but for those. -/
theorem LeavesOperands.readArguments_eq {pending : Option Switch} {kept all gone : List String}
    (h : LeavesOperands allowed n pending kept all gone)
    (hall : readArguments allowed pending all = some items) :
    ∃ items', readArguments allowed pending kept = some items' ∧
      switchItems items' = switchItems items ∧ Leaves n (operands items') (operands items) gone := by
  -- The induction follows the reader, so that a value is never taken for an operand.
  induction h generalizing items with
  | @nil n pending =>
      cases pending with
      | none =>
          cases hall
          exact ⟨[], rfl, rfl, .nil⟩
      | some _ => cases hall
  | @value n s a bs as gone _ ih =>
      cases ha : namesSwitch a with
      | true => simp [readArguments, ha] at hall
      | false =>
          rw [readArguments_value ha] at hall
          obtain ⟨rest, hrest, rfl⟩ := Option.map_eq_some_iff.mp hall
          obtain ⟨rest', hrest', hswitches, hleaves⟩ := ih hrest
          refine ⟨.value s a :: rest', ?_, congrArg (_ :: ·) hswitches, hleaves⟩
          rw [readArguments_value ha, hrest', Option.map_some]
  | @switch n a r bs as gone ha hend hr _ ih =>
      rw [readArguments_switch hend hr] at hall
      obtain ⟨rest, hrest, rfl⟩ := Option.map_eq_some_iff.mp hall
      obtain ⟨rest', hrest', hswitches, hleaves⟩ := ih hrest
      refine ⟨r.items ++ rest', ?_, ?_, ?_⟩
      · rw [readArguments_switch hend hr, hrest', Option.map_some]
      · rw [switchItems_append, hswitches, switchItems_append]
      · rw [operands_append, operands_append, operands_readArgument ha hr]
        exact hleaves
  | @ended n bs as gone h =>
      -- From here on everything is an operand, whatever it looks like.
      rw [readArguments_ended] at hall
      obtain rfl := Option.some.inj hall
      refine ⟨bs.map .operand, readArguments_ended .., ?_, ?_⟩
      · rw [switchItems_map_operand, switchItems_map_operand]
      · rw [operands_map_operand, operands_map_operand]
        exact h
  | @keep n a bs as gone ha _ ih =>
      rw [readArguments_operand ha] at hall
      obtain ⟨rest, hrest, rfl⟩ := Option.map_eq_some_iff.mp hall
      obtain ⟨rest', hrest', hswitches, hleaves⟩ := ih hrest
      refine ⟨.operand a :: rest', ?_, hswitches, .keep hleaves⟩
      rw [readArguments_operand ha, hrest', Option.map_some]
  | drop ha _ ih =>
      rw [readArguments_operand ha] at hall
      obtain ⟨rest, hrest, rfl⟩ := Option.map_eq_some_iff.mp hall
      obtain ⟨rest', hrest', hswitches, hleaves⟩ := ih hrest
      exact ⟨rest', hrest', hswitches, .drop hleaves⟩

theorem fileNames?_eq_some_iff {names files : List String} :
    fileNames? names = some files ↔ files = names ∧ names ≠ [] ∧ "" ∉ names := by
  have hany : names.any String.isEmpty = true ↔ "" ∈ names := by simp
  rw [fileNames?, Option.ite_none_left_eq_some, Bool.or_eq_true, List.isEmpty_iff, hany, not_or,
    Option.some.injEq, and_comm, eq_comm]

/-- The names of files, without some of them, are names of files unless all are gone. -/
theorem Leaves.fileNames?_eq {names names' files gone : List String}
    (h : Leaves n names' names gone) (hfiles : fileNames? names = some files)
    (hgone : gone.length < files.length) : fileNames? names' = some names' := by
  obtain ⟨rfl, -, hempty⟩ := fileNames?_eq_some_iff.mp hfiles
  refine fileNames?_eq_some_iff.mpr ⟨rfl, ?_, fun hmem => hempty (h.sublist.subset hmem)⟩
  rintro rfl
  have hlength := h.perm.length_eq
  rw [List.nil_append] at hlength
  omega

theorem selection?_leaves {names names' gone : List String} {o : Selection}
    (hswitches : switchItems items' = switchItems items) (h : Leaves n names' names gone)
    (ho : selection? items names = some o) (hgone : gone.length < o.files.length) :
    o.files = names ∧ selection? items' names' = some { o with files := names' } := by
  obtain ⟨hfiles, hrest⟩ := selection?_eq_some_iff.mp ho
  refine ⟨(fileNames?_eq_some_iff.mp hfiles).1, selection?_eq_some_iff.mpr ?_⟩
  simp only [valuesOf_congr hswitches, isGiven_congr hswitches]
  exact ⟨h.fileNames?_eq hfiles hgone, hrest⟩

theorem IsCommandOf.leaves {c : Command} {gone : List String} (hc : IsCommandOf items verb c)
    (hswitches : switchItems items' = switchItems items)
    (h : Leaves verb.leading (operands items') (operands items) gone)
    (hgone : gone.length < c.files.length) :
    ∃ files, IsCommandOf items' verb (c.withFiles files) ∧ Leaves 0 files c.files gone := by
  cases hc with
  | search hoperands hfield hstrategy ho =>
      -- The needle comes before the files, and stays.
      rw [hoperands] at h
      generalize hoperands' : operands items' = texts at h
      cases h with
      | keep h =>
          obtain ⟨hfiles, ho'⟩ := selection?_leaves hswitches h ho hgone
          rw [← hfiles] at h
          refine ⟨_, .search hoperands' ?_ ?_ ho', h⟩
          · rw [valuesOf_congr hswitches, hfield]
          · rw [valuesOf_congr hswitches, hstrategy]
  | script hoperands ho =>
      rw [hoperands] at h
      generalize hoperands' : operands items' = texts at h
      cases h with
      | keep h =>
          obtain ⟨hfiles, ho'⟩ := selection?_leaves hswitches h ho hgone
          rw [← hfiles] at h
          exact ⟨_, .script hoperands' ho', h⟩
  | list hfiles =>
      obtain ⟨rfl, -⟩ := fileNames?_eq_some_iff.mp hfiles
      exact ⟨_, .list (h.fileNames?_eq hfiles hgone), h⟩
  | check | config =>
      -- There are no files, of which one would have to stay.
      exact absurd hgone (Nat.not_lt_zero _)

theorem LeavesFiles.splitVerb_eq {kept all gone rest : List String} {before : List Item}
    (h : LeavesFiles kept all gone) (hall : splitVerb all = some (before, verb, rest)) :
    ∃ rest', splitVerb kept = some (before, verb, rest') ∧
      LeavesOperands verb.switches verb.leading none rest' rest gone := by
  induction h generalizing before with
  | before ha _ ih =>
      obtain ⟨r, items, hr, hrest, rfl⟩ := (splitVerb_cons_eq_some_iff ha).mp hall
      obtain ⟨rest', hsplit, hleaves⟩ := ih hrest
      exact ⟨rest', (splitVerb_cons_eq_some_iff ha).mpr ⟨r, items, hr, hsplit, rfl⟩, hleaves⟩
  | verb ha h =>
      rw [splitVerb_of_verb ha] at hall
      cases hall
      exact ⟨_, splitVerb_of_verb ha _, h⟩

/-- A command line that fits still fits without some of its files, as long as one stays, and asks
for the same with the files that stay. -/
theorem LeavesFiles.ofArguments?_eq {kept all gone : List String} {i : Invocation}
    (h : LeavesFiles kept all gone) (hi : Invocation.ofArguments? all = some i)
    (hgone : gone.length < i.command.files.length) :
    ∃ files, Invocation.ofArguments? kept = some (i.withFiles files) ∧
      Leaves 0 files i.command.files gone := by
  obtain ⟨before, verb, rest, items, hsplit, hread, hbefore, hitems, hcommand, hcolor,
    hdebug⟩ := ofArguments?_eq_some_iff.mp hi
  obtain ⟨rest', hsplit', hoperands⟩ := h.splitVerb_eq hsplit
  obtain ⟨items', hread', hswitches, hleaves⟩ := hoperands.readArguments_eq hread
  obtain ⟨files, hcommand', hfiles⟩ :=
    (command?_eq_some_iff.mp hcommand).leaves hswitches hleaves hgone
  refine ⟨files, ofArguments?_eq_some_iff.mpr ⟨before, verb, rest', items', hsplit', hread',
    hbefore, ?_, command?_eq_some_iff.mpr hcommand', ?_, ?_⟩, hfiles⟩
  · rw [← isGivenOnce_switchItems, hswitches, isGivenOnce_switchItems]
    exact hitems
  · rw [isGiven_congr hswitches]
    exact hcolor
  · rw [isGiven_congr hswitches]
    exact hdebug

end Files

end Lexicon.CommandLine
