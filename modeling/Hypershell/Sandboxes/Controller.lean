import Hypershell.Sandboxes.Snapshots

/-!
# The sandbox count controller

The controller keeps an observation for each watched namespace and publishes the count that the
observation holds for the Gateway namespace it is assigned to.

## Main definitions

* `CountController`, `observe`, `reconcile` — the controller and its two handlers
* `CountController.run` — the controller after what has happened to it
* `Reached` — the observations that changes lead to

## Main results

* `reconcile_publishes` — what is published is the recount of a ready observation
* `sandbox_tally` — counts, changes, readiness, and that a snapshot after some events counts as
  the events do
-/

namespace Hypershell.Sandboxes

open Foundation

/-! ### The controller -/

/-- The observations of the watched namespaces, and the Gateway namespace of each. -/
structure CountController where
  states : AList fun _ : String => PodObservation
  assignments : AList fun _ : String => String

/-- The namespace of a watched path `/api/v1/namespaces/…/pods`. -/
def scopeNamespace (path : String) : String :=
  let rest := (path.toList.dropPrefix? "/api/v1/namespaces/".toList).getD path.toList
  String.ofList ((rest.dropSuffix? "/pods".toList).getD rest)

/-- What `observe` does with a change: its error, the namespace that is scheduled, and the
controller. -/
def observe (c : CountController) (path : String) (change : PodChange) :
    Option String × Option String × CountController :=
  let ns := scopeNamespace path
  if change.kind = "REMOVED" then
    (none, none, { c with states := c.states.erase ns })
  else if change.kind = "RESET" then
    (none, none, { c with states := c.states.insert ns newObservation })
  else
    match c.states.lookup ns with
    | none => (some "sandbox namespace has no baseline reset", none, c)
    | some state =>
      let (err, state) := consume state change
      let changed : Bool := decide (change.kind = "REPLACE") || decide (state.changed.Nonempty)
      let c := { c with states := c.states.insert ns { state with changed := ∅ } }
      match err with
      | some e => (some e, none, c)
      | none => (none, if changed then some ns else none, c)

/-- The service's answer to a published count. -/
inductive CountAnswer
  | stored
  | failedPrecondition
  | failed (err : String)

/-- `runtime.ErrNotReady`. -/
def errNotReady : String := "controller observation is incomplete"

/-- `reconcile`: the count that it publishes, and its error. -/
def reconcile (answer : String → Int → CountAnswer) (c : CountController) (ns : String) :
    Option (String × Int) × Option String :=
  match c.states.lookup ns with
  | none => (none, none)
  | some state =>
    let gatewayNamespace := (c.assignments.lookup ns).getD ""
    let count := (state.counts.lookup gatewayNamespace).getD 0
    if state.ready = false ∨ gatewayNamespace = "" then
      (none, some errNotReady)
    else
      (some (gatewayNamespace, count),
        match answer gatewayNamespace count with
        | .stored => none
        | .failedPrecondition => none
        | .failed e => some e)

/-- What happens to a controller: its observer starts anew, a watch reports a change, the catalog
assigns namespaces. -/
inductive CountEvent
  | started
  | watched (path : String) (change : PodChange)
  | refreshed (assignments : AList fun _ : String => String)

def CountController.step (c : CountController) : CountEvent → CountController
  | .started => { c with states := ∅ }
  | .watched path change => (observe c path change).2.2
  | .refreshed assignments => { c with assignments := assignments }

/-- The controller after some events. -/
def CountController.run (events : List CountEvent) : CountController :=
  events.foldl CountController.step ⟨∅, ∅⟩

/-! ### Reached observations -/

/-- The observations that changes lead to.  The controller empties the changed set after each. -/
inductive Reached : PodObservation → Prop
  | new : Reached newObservation
  | consumed {o : PodObservation} (before : Reached o) (change : PodChange) :
      Reached (consume o change).2
  | cleared {o : PodObservation} (before : Reached o) : Reached { o with changed := ∅ }

section Runs

variable {o : PodObservation} {c : CountController}

theorem Reached.tallied (reached : Reached o) : Tallied o := by
  induction reached with
  | new => exact tallied_new
  | consumed _ change ih => exact (consume_keeps ih change).1
  | cleared _ ih => exact ⟨ih.counted, ih.canonical, ih.bound⟩

/-- A rejected change leaves the observation not ready. -/
theorem consume_rejected {change : PodChange} (rejected : (consume o change).1 ≠ none) :
    (consume o change).2.ready = false := by
  unfold consume at rejected ⊢
  cases result : accept o change with
  | mk e next =>
    rw [result] at rejected
    cases e with
    | none => exact absurd rfl rejected
    | some e => rfl

/-- Only an accepted snapshot makes an observation ready. -/
theorem consume_ready {change : PodChange} (ready : (consume o change).2.ready = true) :
    (consume o change).1 = none ∧
      (change.kind = "REPLACE" ∨ o.ready = true ∧ change.kind ≠ "RESET") := by
  refine ⟨?_, ?_⟩
  · by_contra rejected
    rw [consume_rejected rejected] at ready
    cases ready
  · by_cases replace : change.kind = "REPLACE"
    · exact Or.inl replace
    · by_cases reset : change.kind = "RESET"
      · unfold consume accept at ready
        rw [if_pos reset] at ready
        cases ready
      · refine Or.inr ⟨?_, reset⟩
        cases was : o.ready with
        | true => rfl
        | false =>
          rw [consume_idle was ⟨reset, replace⟩, was] at ready
          cases ready

/-- **Every observation of a controller is reached by changes.** -/
theorem observe_reached (reached : ∀ ns o, c.states.lookup ns = some o → Reached o)
    (path : String) (change : PodChange) :
    ∀ ns o, (observe c path change).2.2.states.lookup ns = some o → Reached o := by
  intro ns o found
  have inserted : ∀ {next : PodObservation}, Reached next →
      (c.states.insert (scopeNamespace path) next).lookup ns = some o → Reached o := by
    intro next good stored
    by_cases same : ns = scopeNamespace path
    · rw [same, AList.lookup_insert] at stored
      cases stored
      exact good
    · rw [AList.lookup_insert_ne same] at stored
      exact reached ns o stored
  unfold observe at found
  dsimp only at found
  split at found
  · by_cases same : ns = scopeNamespace path
    · rw [same, AList.lookup_erase] at found
      cases found
    · rw [AList.lookup_erase_ne same] at found
      exact reached ns o found
  split at found
  · exact inserted .new found
  cases watched : c.states.lookup (scopeNamespace path) with
  | none =>
    rw [watched] at found
    exact reached ns o found
  | some state =>
    rw [watched] at found
    dsimp only at found
    have good : Reached { (consume state change).2 with changed := ∅ } :=
      ((reached _ _ watched).consumed change).cleared
    cases consumed : (consume state change).1 with
    | none =>
      rw [consumed] at found
      exact inserted good found
    | some e =>
      rw [consumed] at found
      exact inserted good found

theorem run_reached (events : List CountEvent) :
    ∀ ns o, (CountController.run events).states.lookup ns = some o → Reached o := by
  have steps : ∀ (events : List CountEvent) (c : CountController),
      (∀ ns o, c.states.lookup ns = some o → Reached o) →
        ∀ ns o, (events.foldl CountController.step c).states.lookup ns = some o → Reached o := by
    intro events
    induction events with
    | nil => exact fun c reached => reached
    | cons event rest ih =>
      intro c reached
      refine ih (c.step event) ?_
      cases event with
      | started => exact fun ns o never => nomatch never
      | watched path change => exact observe_reached reached path change
      | refreshed assignments => exact reached
  exact steps events ⟨∅, ∅⟩ fun ns o never => nomatch never

/-- **What is published is the recount of a ready observation.** -/
theorem reconcile_publishes {answer : String → Int → CountAnswer} {ns target : String} {count : Int}
    (reached : ∀ ns o, c.states.lookup ns = some o → Reached o)
    (published : (reconcile answer c ns).1 = some (target, count)) :
    ∃ o, c.states.lookup ns = some o ∧ o.ready = true ∧ c.assignments.lookup ns = some target ∧
      count = recount o.pods target := by
  unfold reconcile at published
  cases watched : c.states.lookup ns with
  | none =>
    rw [watched] at published
    cases published
  | some o =>
    rw [watched] at published
    dsimp only at published
    split at published
    · cases published
    · rename_i works
      rw [not_or] at works
      simp only [Option.some.injEq, Prod.mk.injEq] at published
      obtain ⟨rfl, rfl⟩ := published
      refine ⟨o, rfl, Bool.eq_true_of_not_eq_false works.1, ?_,
        (reached ns o watched).tallied.getD _⟩
      cases assigned : c.assignments.lookup ns with
      | none =>
        rw [assigned] at works
        exact absurd rfl works.2
      | some target => rfl

/-- A cache and its recounts depend on the snapshot only. -/
theorem Loads.counts {objects : List KubeObject} {o' : PodObservation}
    (first : Loads objects o.pods) (tallied : Tallied o) (second : Loads objects o'.pods)
    (tallied' : Tallied o') (ns : String) : o'.counts.lookup ns = o.counts.lookup ns := by
  have same : recount o'.pods ns = recount o.pods ns :=
    tally_congr fun key => (second.lookups key).trans (first.lookups key).symm
  rw [tallied'.counted, tallied.counted, same]

/-- A pod of no Gateway namespace is not counted. -/
theorem Tallied.nowhere (tallied : Tallied o) : recount o.pods "" = 0 := by
  by_contra positive
  obtain ⟨uid, pod, found, counts⟩ := exists_of_tally_pos (Nat.pos_of_ne_zero positive)
  rw [SandboxPod.counts, Bool.and_eq_true, decide_eq_true_eq] at counts
  exact (tallied.canonical uid pod found).2 counts.1 counts.2

/-- **A snapshot after some events counts as the events do.** -/
theorem events_count {o₀ : PodObservation} {snapshot : List KubeObject} {events : List PodChange}
    (reached : Reached o₀) (versioned : Versioned (snapshot ++ events.map PodChange.object))
    (kinds : ∀ e ∈ events, e.IsEvent)
    (accepted : (consume o₀ ⟨"REPLACE", snapshot, []⟩).1 = none) :
    let o := consumeAll (consume o₀ ⟨"REPLACE", snapshot, []⟩).2 events
    ∃ k ≤ events.length, (o.ready = true → k = events.length) ∧
      let replaced : PodChange := ⟨"REPLACE", (events.take k).foldl applied snapshot, []⟩
      (consume newObservation replaced).1 = none ∧
        ∀ o', (consume o' replaced).1 = none →
          ∀ ns, (consume o' replaced).2.counts.lookup ns = o.counts.lookup ns := by
  intro o
  have tallied : Tallied o :=
    consumeAll_tallied (consume_keeps reached.tallied ⟨"REPLACE", snapshot, []⟩).1 events
  obtain ⟨built, pods, -⟩ := replace_accepted accepted
  have loads : Loads snapshot (consume o₀ ⟨"REPLACE", snapshot, []⟩).2.pods := by
    rw [pods]
    exact addAll_loads versioned (List.subset_append_left _ _) loads_new built
  obtain ⟨k, few, whole, after⟩ := consumeAll_loads versioned (List.subset_append_left _ _)
    (fun e member => List.mem_append_right _ (List.mem_map_of_mem member)) kinds loads
  have known : (events.take k).foldl applied snapshot ⊆ snapshot ++ events.map PodChange.object := by
    intro a member
    rcases List.mem_append.mp (mem_applied_all member) with first | later
    · exact List.mem_append_left _ first
    · exact List.mem_append_right _ (List.map_subset _ (List.take_subset k events) later)
  have later : Versioned ((events.take k).foldl applied snapshot) :=
    fun a one b two => versioned a (known one) b (known two)
  have accepts : (addAll newObservation ((events.take k).foldl applied snapshot)).1 = none :=
    addAll_accepts later after tallied.bound (List.nil_append _) loads_new tallied_new
      fun _ never => (Finset.notMem_empty _ never).elim
  refine ⟨k, few, whole, replace_new accepts ?_, fun o' taken ns => ?_⟩
  · have names := addAll_named (fun _ never => (Finset.notMem_empty _ never).elim) tallied_new
      ((events.take k).foldl applied snapshot)
    exact (card_le_size SandboxPod.nameSpace names).trans
      (addAll_keeps tallied_new _).tallied.bound
  · obtain ⟨-, pods', counts'⟩ := replace_accepted taken
    rw [counts']
    refine Loads.counts after tallied ?_ (addAll_keeps tallied_new _).tallied ns
    exact addAll_loads later (List.Subset.refl _) loads_new accepts

end Runs

/-- **Sandbox tally equals a recount.**  In every observation that changes lead to, each count is
the number of active pods of that namespace, none is zero or negative, and none is for the empty
namespace.  An accepted change puts every namespace whose count it changes into the changed set.  A
rejected one leaves the observation not ready, from which only an accepted snapshot leads out, and
a controller publishes no count of an observation that is not ready.  The counts after a snapshot
and some events are those after the snapshot that the events lead to. -/
theorem sandbox_tally :
    (∀ o, Reached o →
      (∀ ns, o.counts.lookup ns =
        if recount o.pods ns = 0 then none else some (recount o.pods ns : Int)) ∧
      o.counts.lookup "" = none ∧ recount o.pods "" = 0) ∧
    (∀ o change, Reached o → (consume o change).1 = none →
      ∀ ns, (consume o change).2.counts.lookup ns ≠ o.counts.lookup ns →
        ns ∈ (consume o change).2.changed) ∧
    (∀ o change, (consume o change).1 ≠ none → (consume o change).2.ready = false) ∧
    (∀ o change, (consume o change).2.ready = true → (consume o change).1 = none ∧
      (change.kind = "REPLACE" ∨ o.ready = true ∧ change.kind ≠ "RESET")) ∧
    (∀ events ns, (∀ o, (CountController.run events).states.lookup ns = some o → Reached o) ∧
      ∀ answer target count,
        (reconcile answer (CountController.run events) ns).1 = some (target, count) →
          ∃ o, (CountController.run events).states.lookup ns = some o ∧ o.ready = true ∧
            count = recount o.pods target) ∧
    (∀ o₀ snapshot events, Reached o₀ →
      Versioned (snapshot ++ events.map PodChange.object) → (∀ e ∈ events, e.IsEvent) →
      (consume o₀ ⟨"REPLACE", snapshot, []⟩).1 = none →
        let o := consumeAll (consume o₀ ⟨"REPLACE", snapshot, []⟩).2 events
        ∃ k ≤ events.length, (o.ready = true → k = events.length) ∧
          let replaced : PodChange := ⟨"REPLACE", (events.take k).foldl applied snapshot, []⟩
          (consume newObservation replaced).1 = none ∧
            ∀ o', (consume o' replaced).1 = none →
              ∀ ns, (consume o' replaced).2.counts.lookup ns = o.counts.lookup ns) := by
  refine ⟨fun o reached => ⟨reached.tallied.counted, ?_, reached.tallied.nowhere⟩,
    fun o change reached => (consume_keeps reached.tallied change).2,
    fun o change => consume_rejected, fun o change => consume_ready,
    fun events ns => ⟨run_reached events ns, fun answer target count published => ?_⟩,
    fun o₀ snapshot events => events_count⟩
  · rw [reached.tallied.counted, if_pos reached.tallied.nowhere]
  · obtain ⟨o, watched, ready, -, counted⟩ := reconcile_publishes (run_reached events) published
    exact ⟨o, watched, ready, counted⟩

end Hypershell.Sandboxes
