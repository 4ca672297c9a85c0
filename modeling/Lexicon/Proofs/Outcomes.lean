import Lexicon.Proofs.Ranking

/-!
# What a search returns

The outcome of a search by its definition: every entry of an included dictionary stands at a place,
the hits are the ranking of the places at which the predicate answers yes, and the failures are
those of the places at which it fails, in the order of the places.
-/

namespace Lexicon.Search

/-- The predicate answers yes. -/
def Predicate.accepts (e : Entry) : Predicate → Bool
  | field test => test.holds e
  | script program => program.holds e
  | host predicate => predicate.reply e = .answer true

/-- Why the predicate fails, if it does. Only a host function can fail. -/
def Predicate.failure? (e : Entry) : Predicate → Option String
  | field _ => none
  | script _ => none
  | host predicate =>
    match predicate.reply e with
    | .answer _ => none
    | .failure message => some message
    | .panic none => some "script panicked"
    | .panic (some text) => some ("script panicked: " ++ text)

/-- The places of a dictionary: its records, each as a hit. -/
def placesOf (d : Dictionary) : List Hit := d.records.map (Hit.ofRecord d)

/-- The places of all entries of included dictionaries, dictionary by dictionary. -/
def places (s : Snapshot) : List Hit :=
  (s.dictionaries.filter fun d => d.isIncluded).flatMap placesOf

/-- The places at which the predicate answers yes. -/
def found (p : Predicate) (places : List Hit) : List Hit :=
  places.filter fun x => p.accepts x.entry

/-- The places at which the predicate fails, with the reasons. -/
def failing (p : Predicate) (places : List Hit) : List (Hit × String) :=
  places.filterMap fun x => (p.failure? x.entry).map fun message => (x, message)

/-- The places at which the predicate answers no. -/
def refused (p : Predicate) (places : List Hit) : List Hit :=
  places.filter fun x => !p.accepts x.entry && (p.failure? x.entry).isNone

/-- The record of a failure at a place. -/
def EntryFailure.ofPlace (x : Hit × String) : EntryFailure :=
  ⟨x.1.dictionary, x.1.dictionaryName, x.1.entry.headword.id, x.2⟩

section Scan
variable {p : Predicate}

theorem verdict_eq (e : Entry) (p : Predicate) :
    p.verdict e = match p.failure? e with
      | some message => .error message
      | none => .ok (p.accepts e) := by
  cases p with
  | field => rfl
  | script => rfl
  | host h =>
      simp only [Predicate.verdict, Predicate.failure?, Predicate.accepts]
      cases h.reply e with
      | answer b => cases b <;> rfl
      | failure message => rfl
      | panic text => cases text <;> rfl

theorem accepts_eq_false_of_failure {e : Entry} {message : String}
    (h : p.failure? e = some message) : p.accepts e = false := by
  cases p with
  | field => cases h
  | script => cases h
  | host h' =>
      simp only [Predicate.failure?] at h
      simp only [Predicate.accepts]
      cases hr : h'.reply e with
      | answer b => simp [hr] at h
      | _ => simp

/-- The outcome with what the predicate says at some places in front, in the opposite order. -/
def Outcome.noting (p : Predicate) (o : Outcome) (xs : List Hit) : Outcome :=
  ⟨(found p xs).reverse ++ o.hits, ((failing p xs).map EntryFailure.ofPlace).reverse ++ o.failures⟩

theorem noting_append (o : Outcome) (xs ys : List Hit) :
    o.noting p (xs ++ ys) = (o.noting p xs).noting p ys := by
  simp [Outcome.noting, found, failing]

theorem note_eq (x : Hit) (o : Outcome) : o.note (p.verdict x.entry) x = o.noting p [x] := by
  rw [verdict_eq, Outcome.noting]
  cases hf : p.failure? x.entry with
  | some message =>
      simp [Outcome.note, found, failing, hf, accepts_eq_false_of_failure hf, EntryFailure.ofPlace,
        Entry.id]
  | none => cases ha : p.accepts x.entry <;> simp [Outcome.note, found, failing, hf, ha]

theorem scan_eq (o : Outcome) (d : Dictionary) : scan p o d = o.noting p (placesOf d) := by
  rw [scan, placesOf]
  generalize d.records = records
  induction records generalizing o with
  | nil => rfl
  | cons r rs ih =>
      have hplaces : (r :: rs).map (Hit.ofRecord d) =
          [Hit.ofRecord d r] ++ rs.map (Hit.ofRecord d) := rfl
      rw [List.foldl_cons, ih, hplaces, noting_append, ← note_eq]
      rfl

theorem foldl_scan_eq (o : Outcome) (ds : List Dictionary) :
    ds.foldl (scan p) o = o.noting p (ds.flatMap placesOf) := by
  induction ds generalizing o with
  | nil => rfl
  | cons d ds ih => rw [List.foldl_cons, ih, scan_eq, List.flatMap_cons, noting_append]

/-- The outcome of a search by its definition. -/
theorem execute_eq (p : Predicate) (s : Snapshot) :
    execute p s =
      ⟨rank (found p (places s)), (failing p (places s)).map EntryFailure.ofPlace⟩ := by
  simp [execute, foldl_scan_eq, Outcome.noting, Outcome.reverse, places, Snapshot.included]

end Scan

section Places

/-- The places of a dictionary are its records. -/
theorem mem_placesOf_iff {d : Dictionary} {x : Hit} : x ∈ placesOf d ↔
    x.dictionary = d.id ∧ x.dictionaryName = d.name ∧ ⟨x.reference, x.entry⟩ ∈ d.records := by
  rw [placesOf, List.mem_map]
  constructor
  · rintro ⟨r, hr, rfl⟩
    exact ⟨rfl, rfl, hr⟩
  · rintro ⟨hid, hname, hr⟩
    exact ⟨_, hr, by rw [Hit.ofRecord, ← hid, ← hname]⟩

theorem mem_places_iff {s : Snapshot} {x : Hit} :
    x ∈ places s ↔ ∃ d ∈ s.included, x ∈ placesOf d :=
  List.mem_flatMap

theorem mem_hits_iff {p : Predicate} {s : Snapshot} {x : Hit} :
    x ∈ (execute p s).hits ↔ x ∈ places s ∧ p.accepts x.entry = true := by
  rw [execute_eq, (isRanking_rank _).perm.mem_iff, found, List.mem_filter]

end Places

section Reference
variable {p : Predicate}

theorem map_fst_failing (xs : List Hit) :
    (failing p xs).map Prod.fst = xs.filter fun x => (p.failure? x.entry).isSome := by
  rw [failing, List.map_filterMap, ← List.filterMap_eq_filter]
  congr 1
  funext x
  cases hf : p.failure? x.entry <;> simp [Option.guard, hf]

/-- Every place is found, or fails, or is refused. -/
theorem places_perm (xs : List Hit) :
    xs.Perm (found p xs ++ ((failing p xs).map Prod.fst ++ refused p xs)) := by
  have hfail : (xs.filter fun x => !p.accepts x.entry).filter
      (fun x => (p.failure? x.entry).isSome) = xs.filter fun x => (p.failure? x.entry).isSome := by
    rw [List.filter_filter]
    apply List.filter_congr
    intro x _
    cases hf : p.failure? x.entry with
    | none => simp
    | some message => simp [accepts_eq_false_of_failure hf]
  have hrefused : (xs.filter fun x => !p.accepts x.entry).filter
      (fun x => !(p.failure? x.entry).isSome) = refused p xs := by
    rw [List.filter_filter, refused]
    apply List.filter_congr
    intro x _
    rw [Bool.and_comm, Option.not_isSome]
  have hrest := List.filter_append_perm (fun x : Hit => (p.failure? x.entry).isSome)
    (xs.filter fun x => !p.accepts x.entry)
  rw [hfail, hrefused] at hrest
  rw [map_fst_failing, found]
  exact ((List.filter_append_perm (fun x : Hit => p.accepts x.entry) xs).symm).trans
    (hrest.symm.append_left _)

theorem filter_found (keep : Hit → Bool) (xs : List Hit) :
    (found p xs).filter keep = found p (xs.filter keep) :=
  List.filter_comm ..

theorem filter_failing (keep : Hit → Bool) (xs : List Hit) :
    ((failing p xs).filter fun x => keep x.1) = failing p (xs.filter keep) := by
  rw [failing, failing, List.filter_filterMap, List.filterMap_filter]
  congr 1
  funext x
  cases hf : p.failure? x.entry with
  | none => simp
  | some message => cases hk : keep x <;> simp [hk]

/-- The host predicate with another reply on one entry. -/
def HostPredicate.replying (h : HostPredicate) (e : Entry) (reply : HostReply) : HostPredicate :=
  { h with reply := fun e' => if e' = e then reply else h.reply e' }

theorem found_replying (h : HostPredicate) (e : Entry) (reply : HostReply) (xs : List Hit) :
    found (.host (h.replying e reply)) (xs.filter fun x => x.entry ≠ e) =
      found (.host h) (xs.filter fun x => x.entry ≠ e) := by
  apply List.filter_congr
  intro x hx
  have hne : x.entry ≠ e := by simpa using (List.mem_filter.mp hx).2
  simp [Predicate.accepts, HostPredicate.replying, hne]

theorem failing_replying (h : HostPredicate) (e : Entry) (reply : HostReply) (xs : List Hit) :
    failing (.host (h.replying e reply)) (xs.filter fun x => x.entry ≠ e) =
      failing (.host h) (xs.filter fun x => x.entry ≠ e) := by
  apply List.filterMap_congr
  intro x hx
  have hne : x.entry ≠ e := by simpa using (List.mem_filter.mp hx).2
  simp [Predicate.failure?, HostPredicate.replying, hne]

/-- A search returns the ranking of the places at which the predicate answers yes, and the failures
in the order of their places. The three kinds of places share all places of included dictionaries
between them; what a host function does with one entry changes nothing for another; the other
predicates never fail. -/
theorem execute_is_reference (p : Predicate) (s : Snapshot) :
    (∀ ranked, IsRanking (found p (places s)) ranked ↔ ranked = (execute p s).hits) ∧
      (execute p s).failures = (failing p (places s)).map EntryFailure.ofPlace ∧
      (places s).Perm ((execute p s).hits ++
        ((failing p (places s)).map Prod.fst ++ refused p (places s))) ∧
      execute p ⟨s.dictionaries.filter fun d => d.isIncluded⟩ = execute p s ∧
      (∀ (h : HostPredicate) (e : Entry) (reply : HostReply),
        ((execute (.host (h.replying e reply)) s).hits.filter fun x => x.entry ≠ e) =
            ((execute (.host h) s).hits.filter fun x => x.entry ≠ e) ∧
          ((failing (.host (h.replying e reply)) (places s)).filter fun x => x.1.entry ≠ e) =
            (failing (.host h) (places s)).filter fun x => x.1.entry ≠ e) ∧
      (∀ test, (execute (.field test) s).failures = []) ∧
      ∀ program, (execute (.script program) s).failures = [] := by
  simp only [execute_eq]
  refine ⟨fun ranked => isRanking_iff, trivial, ?_, ?_, ?_, ?_, ?_⟩
  · exact (places_perm _).trans ((List.mergeSort_perm _ _).symm.append_right _)
  · simp [places]
  · intro h e reply
    rw [rank_filter, rank_filter, filter_found, filter_found, found_replying]
    refine ⟨rfl, ?_⟩
    rw [filter_failing fun x => x.entry ≠ e, filter_failing fun x => x.entry ≠ e, failing_replying]
  · simp [failing, Predicate.failure?]
  · simp [failing, Predicate.failure?]

end Reference

end Lexicon.Search
