import Lexicon.Proofs.Outcomes
import Lexicon.Proofs.SessionRuns

/-!
# When host predicates run

A host predicate is code of the host program. A session runs it on an entry only in a search in host
mode, and only after host predicates were allowed, by the settings or by a call; what was allowed
stays allowed. That the predicate runs on an entry shows in that its reply there matters: another
reply gives another outcome.
-/

namespace Lexicon.Session

open Search (HostPredicate HostReply Outcome Predicate QueryError)

/-- The state with another host predicate, or with none. -/
def State.withHost (st : State) (host : Option HostPredicate) : State :=
  { st with session := { st.session with host } }

/-- The state with another reply of the host predicate on one entry. -/
def State.replying (st : State) (e : Entry) (reply : HostReply) : State :=
  st.withHost (st.session.host.map (·.replying e reply))

namespace Operation

/-- What an operation answers, if it is an execution. -/
def answer? (st : State) (op : Operation) : Option (Except QueryError Nat) :=
  (op.snapshot? st).map fun snapshot => (st.session.execute snapshot).2

/-- What shows of an operation: what it answers, and the outcome that the session then holds. -/
def effect (st : State) (op : Operation) : Option (Except QueryError Nat) × Outcome :=
  (op.answer? st, (op.apply st).session.outcome)

/-- An operation runs the host predicate on an entry: another reply there would show. -/
def Consults (st : State) (op : Operation) (e : Entry) : Prop :=
  ∃ reply, op.effect (st.replying e reply) ≠ op.effect st

/-- The host predicate that an operation sets. -/
def host? : Operation → Option HostPredicate
  | setHost host => some host
  | _ => none

end Operation

/-- Holds if host predicates were allowed, by the settings of a session or by one of the operations
after them. -/
def IsAllowed (settings : Settings) (ops : List Operation) : Prop :=
  settings.allowsHost = true ∨ .allowHost ∈ ops

section Replies
variable {h : HostPredicate} {e : Entry} {s : Snapshot}

theorem accepts_replying (h : HostPredicate) (e : Entry) (b : Bool) :
    (Predicate.host (h.replying e (.answer b))).accepts e = b := by
  simp [Predicate.accepts, HostPredicate.replying]

/-- A search does not depend on a reply on an entry that it does not reach. -/
theorem execute_replying_of_forall_ne (he : ∀ x ∈ Search.places s, x.entry ≠ e)
    (reply : HostReply) :
    Search.execute (.host (h.replying e reply)) s = Search.execute (.host h) s := by
  have hplaces : ((Search.places s).filter fun x => x.entry ≠ e) = Search.places s := by
    rw [List.filter_eq_self]
    exact fun x hx => decide_eq_true (he x hx)
  have hfound := Search.found_replying h e reply (Search.places s)
  have hfailing := Search.failing_replying h e reply (Search.places s)
  rw [hplaces] at hfound hfailing
  rw [Search.execute_eq, Search.execute_eq, hfound, hfailing]

/-- A search depends on the reply on every entry that it reaches. -/
theorem exists_execute_replying_ne {x : Search.Hit} (hx : x ∈ Search.places s) (h : HostPredicate) :
    ∃ reply, (Search.execute (.host (h.replying x.entry reply)) s).hits ≠
      (Search.execute (.host h) s).hits := by
  refine ⟨.answer !(Predicate.host h).accepts x.entry, ?_⟩
  intro heq
  have hiff := congrArg (x ∈ ·) heq
  simp only [Search.mem_hits_iff, accepts_replying, hx, true_and] at hiff
  cases hb : (Predicate.host h).accepts x.entry <;> simp [hb] at hiff

end Replies

section Consults
variable {st : State} {op : Operation} {e : Entry}

/-- Another reply changes the predicate of the next search only if it is the host predicate. -/
theorem predicate_replying (st : State) (e : Entry) (reply : HostReply) :
    (st.replying e reply).session.predicate = match st.session.predicate with
      | .ok (.host h) => .ok (.host (h.replying e reply))
      | other => other := by
  obtain ⟨⟨query, mode, script, host, allowsHost, outcome⟩, store⟩ := st
  cases mode with
  | matrix =>
      simp only [State.replying, State.withHost, predicate]
      cases Search.FieldTest.ofQuery query <;> rfl
  | expression =>
      simp only [State.replying, State.withHost, predicate]
      cases Script.compile script <;> rfl
  | host => cases allowsHost <;> cases host <;> rfl

/-- The predicate of the next search is the host predicate if this can be had. -/
theorem predicate_eq_host_iff {s : Session} {h : HostPredicate} :
    s.predicate = .ok (.host h) ↔ s.mode = .host ∧ s.allowsHost = true ∧ s.host = some h := by
  obtain ⟨query, mode, script, host, allowsHost, outcome⟩ := s
  cases mode with
  | matrix =>
      simp only [predicate]
      cases Search.FieldTest.ofQuery query <;> simp [Except.map]
  | expression =>
      simp only [predicate]
      cases Script.compile script <;> simp [Except.map]
  | host => cases allowsHost <;> cases host <;> simp [predicate]

theorem predicate_withHost (hallows : st.session.allowsHost = false) (host : Option HostPredicate) :
    (st.withHost host).session.predicate = st.session.predicate := by
  simp [State.withHost, predicate, hallows]

theorem snapshot?_withHost (st : State) (op : Operation) (host : Option HostPredicate) :
    op.snapshot? (st.withHost host) = op.snapshot? st := by
  cases op <;> rfl

theorem effect_of_snapshot {snapshot : Snapshot} (hop : op.snapshot? st = some snapshot) :
    op.effect st = match st.session.predicate with
      | .ok p => (some (.ok (Search.execute p snapshot).count), Search.execute p snapshot)
      | .error e => (some (.error e), st.session.outcome) := by
  have hclear : op.isClear = false := by
    cases op with
    | clearOutcome => cases hop
    | _ => rfl
  rw [Operation.effect, outcome_apply, hclear, Operation.answer?, Operation.found?, hop]
  cases hp : st.session.predicate <;> simp [execute, hp]

theorem effect_withHost_of_none (hop : op.snapshot? st = none) (host : Option HostPredicate) :
    op.effect (st.withHost host) = op.effect st := by
  cases op with
  | execute | executeSnapshot => cases hop
  | _ => rfl

/-- Nothing shows of the host predicate while it is not allowed. -/
theorem effect_withHost (hallows : st.session.allowsHost = false) (op : Operation)
    (host : Option HostPredicate) : op.effect (st.withHost host) = op.effect st := by
  cases hop : op.snapshot? st with
  | none => exact effect_withHost_of_none hop host
  | some snapshot =>
      rw [effect_of_snapshot hop, effect_of_snapshot ((snapshot?_withHost ..).trans hop),
        predicate_withHost hallows]
      rfl

/-- What runs a host predicate on an entry is an execution with this predicate over a snapshot in
which the entry stands at some place. -/
theorem consults_iff_places : op.Consults st e ↔ ∃ h snapshot,
    st.session.predicate = .ok (.host h) ∧ op.snapshot? st = some snapshot ∧
      ∃ x ∈ Search.places snapshot, x.entry = e := by
  constructor
  · rintro ⟨reply, hne⟩
    cases hop : op.snapshot? st with
    | none => exact absurd (effect_withHost_of_none hop _) hne
    | some snapshot =>
        have hop' : op.snapshot? (st.replying e reply) = some snapshot :=
          (snapshot?_withHost ..).trans hop
        rw [effect_of_snapshot hop, effect_of_snapshot hop', predicate_replying] at hne
        cases hp : st.session.predicate with
        | error => simp [hp, State.replying, State.withHost] at hne
        | ok p =>
            cases p with
            | field | script => simp [hp] at hne
            | host h =>
                refine ⟨h, snapshot, rfl, rfl, ?_⟩
                by_contra hplaces
                have he : ∀ x ∈ Search.places snapshot, x.entry ≠ e :=
                  fun x hx heq => hplaces ⟨x, hx, heq⟩
                simp [hp, execute_replying_of_forall_ne he] at hne
  · rintro ⟨h, snapshot, hp, hop, x, hx, rfl⟩
    obtain ⟨reply, hne⟩ := exists_execute_replying_ne hx h
    have hop' : op.snapshot? (st.replying x.entry reply) = some snapshot :=
      (snapshot?_withHost ..).trans hop
    refine ⟨reply, fun heq => hne ?_⟩
    rw [effect_of_snapshot hop, effect_of_snapshot hop', predicate_replying, hp] at heq
    exact congrArg (fun effect => effect.2.hits) heq

theorem exists_place_iff {snapshot : Snapshot} :
    (∃ x ∈ Search.places snapshot, x.entry = e) ↔ ∃ d ∈ snapshot.included, e ∈ d.entries := by
  constructor
  · rintro ⟨x, hx, rfl⟩
    obtain ⟨d, hd, hplace⟩ := Search.mem_places_iff.mp hx
    exact ⟨d, hd, List.mem_map_of_mem (Search.mem_placesOf_iff.mp hplace).2.2⟩
  · rintro ⟨d, hd, he⟩
    obtain ⟨r, hr, rfl⟩ := List.mem_map.mp he
    refine ⟨.ofRecord d r, Search.mem_places_iff.mpr ⟨d, hd, ?_⟩, rfl⟩
    exact Search.mem_placesOf_iff.mpr ⟨rfl, rfl, hr⟩

/-- A host predicate runs on the entries of the dictionaries that a search in host mode looks at, if
it is allowed. -/
theorem consults_iff : op.Consults st e ↔ st.session.allowsHost = true ∧
    st.session.mode = .host ∧ (∃ h, st.session.host = some h) ∧
      ∃ snapshot, op.snapshot? st = some snapshot ∧ ∃ d ∈ snapshot.included, e ∈ d.entries := by
  simp only [consults_iff_places, predicate_eq_host_iff, exists_place_iff]
  constructor
  · rintro ⟨h, snapshot, ⟨hmode, hallows, hh⟩, hop, hentry⟩
    exact ⟨hallows, hmode, ⟨h, hh⟩, snapshot, hop, hentry⟩
  · rintro ⟨hallows, hmode, ⟨h, hh⟩, snapshot, hop, hentry⟩
    exact ⟨h, snapshot, ⟨hmode, hallows, hh⟩, hop, hentry⟩

end Consults

section Runs

@[simp] theorem allowsHost_execute (s : Session) (snapshot : Snapshot) :
    (s.execute snapshot).1.allowsHost = s.allowsHost := by
  rw [execute]
  cases s.predicate <;> rfl

@[simp] theorem host_execute (s : Session) (snapshot : Snapshot) :
    (s.execute snapshot).1.host = s.host := by
  rw [execute]
  cases s.predicate <;> rfl

/-- Only the call that allows host predicates has a part in whether they are allowed. -/
theorem allowsHost_apply (st : State) (op : Operation) :
    (op.apply st).session.allowsHost = true ↔
      st.session.allowsHost = true ∨ .allowHost = op := by
  cases op <;> simp [Operation.apply, allowHost, setQuery, setField, setStrategy, setNeedle,
    setMode, setScript, setHost, clearOutcome]

theorem host_apply (st : State) (op : Operation) :
    (op.apply st).session.host = op.host?.or st.session.host := by
  cases op <;> simp [Operation.apply, Operation.host?, allowHost, setQuery, setField, setStrategy,
    setNeedle, setMode, setScript, setHost, clearOutcome]

theorem run_append_singleton (st : State) (ops : List Operation) (op : Operation) :
    run st (ops ++ [op]) = op.apply (run st ops) :=
  run_append st ops [op]

theorem allowsHost_run (st : State) (ops : List Operation) :
    (run st ops).session.allowsHost = true ↔
      st.session.allowsHost = true ∨ .allowHost ∈ ops := by
  induction ops using List.reverseRecOn with
  | nil => simp [run]
  | append_singleton ops op ih =>
      rw [run_append_singleton, allowsHost_apply, ih, List.mem_append, List.mem_singleton, or_assoc]

/-- The host predicate is the one that was set last. -/
theorem host_run (st : State) (ops : List Operation) :
    (run st ops).session.host = (ops.reverse.findSome? Operation.host?).or st.session.host := by
  induction ops using List.reverseRecOn with
  | nil => rfl
  | append_singleton ops op ih =>
      rw [run_append_singleton, host_apply, ih, List.reverse_concat, List.findSome?_cons]
      cases op.host? <;> rfl

theorem findSome?_host?_eq_none_iff (ops : List Operation) :
    ops.reverse.findSome? Operation.host? = none ↔ ∀ h, .setHost h ∉ ops := by
  simp only [List.findSome?_eq_none_iff, List.mem_reverse]
  constructor
  · intro hnone h hmem
    cases hnone _ hmem
  · intro hset op hop
    cases op with
    | setHost h => exact absurd hop (hset h)
    | _ => rfl

theorem execute_of_error {s : Session} {e : QueryError} (hp : s.predicate = .error e)
    (snapshot : Snapshot) : s.execute snapshot = (s, .error e) := by
  rw [execute, hp]

theorem predicate_of_not_allowed {s : Session} (hmode : s.mode = .host)
    (hallows : s.allowsHost = false) : s.predicate = .error .hostDisabled := by
  simp [predicate, hmode, hallows]

/-- Once allowed, a search in host mode fails only for want of a host predicate. -/
theorem host_eq_none_of_error {s : Session} (hmode : s.mode = .host) (hallows : s.allowsHost = true)
    {snapshot : Snapshot} {e : QueryError} (he : (s.execute snapshot).2 = .error e) :
    s.host = none := by
  by_contra hhost
  obtain ⟨h, hh⟩ := Option.ne_none_iff_exists'.mp hhost
  rw [execute, predicate_eq_host_iff.mpr ⟨hmode, hallows, hh⟩] at he
  cases he

/-- A host predicate runs on an entry only after host predicates were allowed: just when a search in
host mode reaches the entry. Until then it makes no difference to anything, and searches in host
mode are refused and change nothing, whatever is searched. What was allowed stays allowed, and then
a search in host mode fails only if no host predicate was ever set. -/
theorem host_runs_iff (settings : Settings) (store : Store) (ops : List Operation) :
    let reached := run ⟨ofSettings settings, store⟩ ops
    (∀ (op : Operation) (e : Entry), op.Consults reached e ↔
        IsAllowed settings ops ∧ reached.session.mode = .host ∧ (∃ h, .setHost h ∈ ops) ∧
          ∃ snapshot, op.snapshot? reached = some snapshot ∧
            ∃ d ∈ snapshot.included, e ∈ d.entries) ∧
      (∀ h, reached.session.predicate = .ok (.host h) → IsAllowed settings ops) ∧
      (¬ IsAllowed settings ops → ∀ (op : Operation) host,
        op.effect (reached.withHost host) = op.effect reached) ∧
      (¬ IsAllowed settings ops → reached.session.mode = .host →
        reached.session.predicate = .error .hostDisabled ∧ ∀ snapshot,
          reached.session.execute snapshot = (reached.session, .error .hostDisabled)) ∧
      (IsAllowed settings ops → ∀ later, (run reached later).session.allowsHost = true) ∧
      (IsAllowed settings ops → reached.session.mode = .host → ∀ snapshot e,
        (reached.session.execute snapshot).2 = .error e → ∀ h, .setHost h ∉ ops) := by
  intro reached
  have hallowed : reached.session.allowsHost = true ↔ IsAllowed settings ops :=
    allowsHost_run _ ops
  have hhost : reached.session.host = ops.reverse.findSome? Operation.host? := by
    rw [host_run]
    exact Option.or_none
  have hset : reached.session.host = none ↔ ∀ h, .setHost h ∉ ops := by
    rw [hhost, findSome?_host?_eq_none_iff]
  have hsome : (∃ h, reached.session.host = some h) ↔ ∃ h, .setHost h ∈ ops := by
    rw [← Option.ne_none_iff_exists', ne_eq, hset]
    push Not
    rfl
  have hdisallowed (hnot : ¬ IsAllowed settings ops) : reached.session.allowsHost = false := by
    rw [← Bool.not_eq_true, hallowed]
    exact hnot
  refine ⟨fun op e => ?_, fun h hp => ?_, fun hnot => effect_withHost (hdisallowed hnot),
    fun hnot hmode => ?_, fun hyes later => ?_, fun hyes hmode snapshot e he => ?_⟩
  · rw [consults_iff, hallowed, hsome]
  · exact hallowed.mp (predicate_eq_host_iff.mp hp).2.1
  · have hp := predicate_of_not_allowed hmode (hdisallowed hnot)
    exact ⟨hp, execute_of_error hp⟩
  · rw [allowsHost_run]
    exact .inl (hallowed.mpr hyes)
  · exact hset.mp (host_eq_none_of_error hmode (hallowed.mpr hyes) he)

/-- A search in host mode is refused, and after the call that allows it runs the predicate. -/
theorem host_runs_once_allowed :
    let h : HostPredicate := ⟨"all", fun _ => .answer true⟩
    let store : Store := (Store.insert {} "a" [⟨0, .ofForm 1 "x"⟩]).1
    let start : State := ⟨ofSettings {}, store⟩
    let before := run start [.setMode .host, .setHost h]
    let after := run start [.setMode .host, .setHost h, .allowHost]
    ¬ IsAllowed {} [.setMode .host, .setHost h] ∧
      before.session.execute store.snapshot = (before.session, .error .hostDisabled) ∧
      Operation.execute.Consults after (.ofForm 1 "x") := by
  intro h store start before after
  have hnot : ¬ IsAllowed {} [.setMode .host, .setHost h] := by simp [IsAllowed]
  obtain ⟨-, -, -, hrefused, -⟩ := host_runs_iff {} store [.setMode .host, .setHost h]
  obtain ⟨hconsults, -⟩ := host_runs_iff {} store [.setMode .host, .setHost h, .allowHost]
  refine ⟨hnot, (hrefused hnot rfl).2 store.snapshot, ?_⟩
  refine (hconsults .execute (.ofForm 1 "x")).mpr ⟨?_, rfl, ⟨h, ?_⟩, store.snapshot, rfl, ?_⟩
  · simp [IsAllowed]
  · simp
  · exact ⟨_, List.mem_singleton_self _, List.mem_singleton_self _⟩

end Runs

end Lexicon.Session
