import Hypershell.Gateways.MutationSteps
import Hypershell.ServiceAccounts.Sample
import Hypershell.Workload.Kubernetes

/-!
# The workload controller

A pass reads the state of a Gateway, works on the cluster, and observes what came of it: a phase, a
status, and the addresses that it manages.

## Main definitions

* `WorkloadState`, `Pass` — what a pass reads, and what it is answered
* `reconcile` — a pass
* `accept` — the state after an accepted write

## Main results

* `reconcile_live` — what a pass over a live Gateway writes
* `workload_observation` — what is written is sound, and a pass after an accepted write writes
  nothing
* `identityState_observed` — an accepted write of the Gateway service is `accept`
-/

namespace Hypershell.Workload

open Foundation

/-! ### Passes -/

/-- `GetGatewayIdentityStateResponse`, as far as the controller reads it. -/
structure WorkloadState where
  gateway : GatewayView
  deleted : Bool
  resourceVersion : Int
  resourceGeneration : Int
  /-- The generation that the workload was observed at. -/
  observedGeneration : Int
  cleanupTargets : String → Option (List (String × Bool))

/-- What a pass is answered. -/
structure Pass where
  /-- The error of `GetGatewayRelease`. -/
  release : Option String
  ensure : Outcome
  delete : Outcome
  deleteDatabase : Outcome
  /-- The time for the work is over when it ends. -/
  expired : Bool
  /-- The caller has gone away when the work ends. -/
  cancelled : Bool
  /-- The error of the write. -/
  refused : Option String
  deriving DecidableEq, Repr

/-- `UpdateGatewayRequest` with the revision that it names. -/
structure UpdateRequest where
  id : String
  phase : String
  status : String
  routeAddress : Option String
  consoleAddress : Option String
  version : Int
  deriving DecidableEq, Repr

/-- The writes of a pass. -/
inductive Request
  | update (request : UpdateRequest)
  /-- `ObserveGatewayCleanupRequest`. -/
  | cleanup (id owner target : String) (complete : Bool) (version : Int)
  deriving DecidableEq, Repr

/-- The end of a pass: its write, whether it is to be repeated soon, and the errors that are
joined. -/
structure Reconciled where
  request : Option Request
  recheck : Bool
  errors : List String
  deriving DecidableEq, Repr

/-- The work over a live Gateway. -/
def Pass.work (pass : Pass) : Outcome :=
  match pass.release with
  | some e => .failed e
  | none => pass.ensure

/-- What the commit is told of the work: late work has failed. -/
def Pass.observation (pass : Pass) (work : Outcome) : Outcome :=
  if pass.expired then .failed "context deadline exceeded" else work

/-- `observeWorkload`. -/
def observeWorkload (pass : Pass) (work : Outcome) (commit : Outcome → Option Request) :
    Reconciled :=
  let failure : List String :=
    (match work with
      | .failed e => [e]
      | _ => []) ++ if pass.expired then ["context deadline exceeded"] else []
  if pass.cancelled then ⟨none, false, failure ++ ["context canceled"]⟩
  else
    let request := commit (pass.observation work)
    let errors := failure ++ if request.isSome then pass.refused.toList else []
    ⟨request, decide (work = .pending ∧ errors = []), errors⟩

/-- The phase and the status that an outcome leads to. -/
def desiredPhase (phase : String) : Outcome → String × String
  | .success => ("Running", "Healthy")
  | .pending =>
    (if phase = "Running" ∨ phase = "Degraded" then "Degraded" else "Provisioning",
      "WorkloadNotReady")
  | .failed _ => ("Degraded", "WorkloadUnavailable")

/-- The address to publish: the desired one after a success, none otherwise.  An address without a
desired value is not managed. -/
def published (endpoint : Option String) (observation : Outcome) : Option String :=
  if observation = .success then endpoint else endpoint.map fun _ => ""

/-- The observed address is the one to publish, if it is managed. -/
def isPublished (address : String) (value : Option String) : Bool :=
  value.all fun value => decide (address = value)

section Values

variable {observation : Outcome} {pass : Pass}

theorem isPublished_iff {address : String} {value : Option String} :
    isPublished address value = true ↔ ∀ a, value = some a → address = a := by
  cases value with
  | none =>
    refine ⟨fun _ address value => ?_, fun _ => rfl⟩
    cases value
  | some a =>
    rw [isPublished, Option.all_some, decide_eq_true_eq]
    exact ⟨fun same _ here => Option.some.inj here ▸ same, fun all => all a rfl⟩

theorem desiredPhase_running {phase : String} (running : (desiredPhase phase observation).1 = "Running") :
    observation = .success := by
  cases observation with
  | success => rfl
  | pending =>
    simp only [desiredPhase] at running
    split at running <;> exact absurd running (by decide)
  | failed e =>
    have never : "Degraded" = "Running" := running
    exact absurd never (by decide)

theorem published_ne_empty {endpoint : Option String} {address : String}
    (value : published endpoint observation = some address) (shown : address ≠ "") :
    observation = .success := by
  by_contra failed
  rw [published, if_neg failed] at value
  cases endpoint with
  | none => cases value
  | some endpoint =>
    cases value
    exact shown rfl

theorem observation_success (succeeded : pass.observation pass.work = .success) :
    pass.release = none ∧ pass.ensure = .success ∧ pass.expired = false := by
  unfold Pass.observation at succeeded
  split at succeeded
  · cases succeeded
  rename_i time
  unfold Pass.work at succeeded
  split at succeeded
  · cases succeeded
  rename_i released
  exact ⟨released, succeeded, Bool.eq_false_iff.mpr time⟩

/-- A phase that was written is the wanted one. -/
theorem desiredPhase_idem (phase : String) (observation : Outcome) :
    desiredPhase (desiredPhase phase observation).1 observation = desiredPhase phase observation := by
  cases observation with
  | success => rfl
  | failed e => rfl
  | pending =>
    by_cases degraded : phase = "Running" ∨ phase = "Degraded"
    · simp [desiredPhase, degraded]
    · simp [desiredPhase, degraded]

end Values

section Controller

variable [Platform] [ClusterNames]

/-- The write of a pass over a live Gateway. -/
def commitWorkload (o : Options) (id : String) (s : WorkloadState) (observation : Outcome) :
    Option Request :=
  let (phase, status) := desiredPhase s.gateway.phase observation
  let route := published (o.desiredEndpoint s.gateway) observation
  let console := published (o.desiredConsoleEndpoint s.gateway) observation
  if s.gateway.status = status ∧ s.gateway.phase = phase ∧
      s.observedGeneration = s.resourceGeneration ∧
      isPublished s.gateway.routeAddress route ∧ isPublished s.gateway.consoleAddress console then
    none
  else
    some (.update ⟨id, phase, status, route, console, s.resourceVersion⟩)

/-- The write of a pass over a deleted Gateway. -/
def commitCleanup (id owner target : String) (s : WorkloadState) (complete : Bool)
    (observation : Outcome) : Option Request :=
  let observed := decide (observation = .success)
  if complete = observed then none
  else some (.cleanup id owner target observed s.resourceVersion)

/-- `reconcile`. -/
def reconcile (o : Options) (id : String) (s : WorkloadState) (pass : Pass) : Reconciled :=
  let failed (e : String) : Reconciled := ⟨none, false, [e]⟩
  let target := o.clusterID
  if s.gateway.id ≠ id then failed "Gateway state does not match its request"
  else if s.resourceVersion < 1 ∨ s.resourceGeneration < 1 then
    failed "Gateway state has no resource version"
  else
    match s.cleanupTargets "workload" with
    | none => failed "Gateway state has no workload cleanup target history"
    | some observations =>
      if target = "" then failed "Gateway state has no workload cleanup target history"
      else
        match s.cleanupTargets "sql" with
        | none => failed "Gateway state has no SQL cleanup target history"
        | some sqlHistory =>
          let recorded := observations.lookup target
          let sqlRecorded := sqlHistory.lookup target
          if recorded.isSome ≠ sqlRecorded.isSome then failed "Gateway cleanup histories differ"
          else if s.deleted then
            if recorded = none then ⟨none, false, []⟩
            else if sqlRecorded.getD false = false then
              observeWorkload pass pass.deleteDatabase (commitCleanup id "sql" target s false)
            else
              observeWorkload pass pass.delete
                (commitCleanup id "workload" target s (recorded.getD false))
          else if o.handles s.gateway = false then ⟨none, false, []⟩
          else if recorded = none then
            failed "current workload target was not recorded before provider work"
          else
            observeWorkload pass pass.work (commitWorkload o id s)

/-! ### Accepted writes -/

/-- The state after a write is accepted: the groups that were written are stamped with the current
generation. -/
def accept (s : WorkloadState) (version : Int) (request : UpdateRequest) : WorkloadState :=
  { s with
    gateway := { s.gateway with
      phase := request.phase
      status := request.status
      routeAddress := request.routeAddress.getD s.gateway.routeAddress
      consoleAddress := request.consoleAddress.getD s.gateway.consoleAddress }
    observedGeneration := s.resourceGeneration
    resourceVersion := version }

/-- The state after a pass whose write, if there is one, is accepted. -/
def settled (s : WorkloadState) (version : Int) : Option Request → WorkloadState
  | some (.update request) => accept s version request
  | _ => s

/-! ### What a pass writes -/

variable {o : Options} {id : String} {s : WorkloadState} {pass : Pass} {version : Int}
  {request : UpdateRequest} {observation : Outcome}

/-- A pass over a live Gateway comes to its commit. -/
structure Commits (o : Options) (id : String) (s : WorkloadState) (pass : Pass) : Prop where
  same : s.gateway.id = id
  live : s.deleted = false
  version : 1 ≤ s.resourceVersion
  generation : 1 ≤ s.resourceGeneration
  target : o.clusterID ≠ ""
  histories : ∃ observations sqlHistory complete, s.cleanupTargets "workload" = some observations ∧
    s.cleanupTargets "sql" = some sqlHistory ∧
    (observations.lookup o.clusterID).isSome = (sqlHistory.lookup o.clusterID).isSome ∧
    observations.lookup o.clusterID = some complete
  handled : o.handles s.gateway = true
  present : pass.cancelled = false

/-- The write of a pass that comes to its commit. -/
theorem reconcile_commits (commits : Commits o id s pass) :
    (reconcile o id s pass).request = commitWorkload o id s (pass.observation pass.work) := by
  obtain ⟨observations, sqlHistory, complete, workload, sql, same, recorded⟩ := commits.histories
  have versions : ¬ (s.resourceVersion < 1 ∨ s.resourceGeneration < 1) :=
    not_or.mpr ⟨Int.not_lt.mpr commits.version, Int.not_lt.mpr commits.generation⟩
  unfold reconcile
  rw [workload, sql]
  dsimp only
  rw [if_neg (not_not_intro commits.same), if_neg versions, if_neg commits.target,
    if_neg (not_not_intro same), commits.live, if_neg Bool.false_ne_true, commits.handled,
    if_neg (fun never => nomatch never), recorded, if_neg (fun never => nomatch never)]
  unfold observeWorkload
  dsimp only
  rw [commits.present, if_neg Bool.false_ne_true]

/-- A pass over a live Gateway writes nothing, or it comes to its commit. -/
theorem reconcile_live (live : s.deleted = false) (writes : (reconcile o id s pass).request ≠ none) :
    Commits o id s pass := by
  unfold reconcile at writes
  dsimp only at writes
  split at writes
  · exact absurd rfl writes
  rename_i same
  split at writes
  · exact absurd rfl writes
  rename_i versions
  rw [not_or, Int.not_lt, Int.not_lt] at versions
  cases workload : s.cleanupTargets "workload" with
  | none =>
    rw [workload] at writes
    exact absurd rfl writes
  | some observations =>
    rw [workload] at writes
    dsimp only at writes
    split at writes
    · exact absurd rfl writes
    rename_i target
    cases sql : s.cleanupTargets "sql" with
    | none =>
      rw [sql] at writes
      exact absurd rfl writes
    | some sqlHistory =>
      rw [sql] at writes
      dsimp only at writes
      split at writes
      · exact absurd rfl writes
      rename_i histories
      rw [live, if_neg Bool.false_ne_true] at writes
      split at writes
      · exact absurd rfl writes
      rename_i handled
      split at writes
      · exact absurd rfl writes
      rename_i recorded
      obtain ⟨complete, recorded⟩ := Option.ne_none_iff_exists'.mp recorded
      refine ⟨not_not.mp same, live, versions.1, versions.2, target,
        ⟨observations, sqlHistory, complete, workload, sql, not_not.mp histories, recorded⟩,
        Bool.eq_true_of_not_eq_false handled, ?_⟩
      by_contra cancelled
      unfold observeWorkload at writes
      dsimp only at writes
      rw [if_pos (Bool.eq_true_of_not_eq_false cancelled)] at writes
      exact absurd rfl writes

/-- What is wanted at a commit. -/
structure Wanted (o : Options) (s : WorkloadState) (observation : Outcome) : Prop where
  status : s.gateway.status = (desiredPhase s.gateway.phase observation).2
  phase : s.gateway.phase = (desiredPhase s.gateway.phase observation).1
  current : s.observedGeneration = s.resourceGeneration
  route : ∀ address, published (o.desiredEndpoint s.gateway) observation = some address →
    s.gateway.routeAddress = address
  console : ∀ address, published (o.desiredConsoleEndpoint s.gateway) observation = some address →
    s.gateway.consoleAddress = address

/-- **A commit is skipped exactly when everything is as wanted.** -/
theorem commitWorkload_none : commitWorkload o id s observation = none ↔ Wanted o s observation := by
  unfold commitWorkload
  simp only [isPublished_iff]
  split
  · rename_i wanted
    exact ⟨fun _ => ⟨wanted.1, wanted.2.1, wanted.2.2.1, wanted.2.2.2.1, wanted.2.2.2.2⟩,
      fun _ => rfl⟩
  · rename_i differs
    exact ⟨fun never => (nomatch never), fun wanted => absurd ⟨wanted.status, wanted.phase,
      wanted.current, wanted.route, wanted.console⟩ differs⟩

/-- The request of a commit that is not skipped. -/
theorem commitWorkload_some (writes : commitWorkload o id s observation = some (.update request)) :
    request = ⟨id, (desiredPhase s.gateway.phase observation).1,
      (desiredPhase s.gateway.phase observation).2,
      published (o.desiredEndpoint s.gateway) observation,
      published (o.desiredConsoleEndpoint s.gateway) observation, s.resourceVersion⟩ := by
  unfold commitWorkload at writes
  dsimp only at writes
  split at writes
  · cases writes
  · exact (Request.update.inj (Option.some.inj writes)).symm

/-! ### After an accepted write -/

omit [Platform] [ClusterNames] in
theorem sameDesired_accept : SameDesired s.gateway (accept s version request).gateway :=
  ⟨rfl, rfl, rfl⟩

omit [Platform] [ClusterNames] in
/-- The next pass comes to its commit too. -/
theorem Commits.accept (commits : Commits o id s pass) (positive : 1 ≤ version)
    {pass' : Pass} (present : pass'.cancelled = false) :
    Commits o id (accept s version request) pass' :=
  ⟨commits.same, commits.live, positive, commits.generation, commits.target, commits.histories,
    (handles_congr sameDesired_accept).trans commits.handled, present⟩

/-- **After an accepted write everything is as wanted.** -/
theorem wanted_accept (writes : commitWorkload o id s observation = some (.update request)) :
    Wanted o (accept s version request) observation := by
  have written := commitWorkload_some writes
  have phase : request.phase = (desiredPhase s.gateway.phase observation).1 := by rw [written]
  have status : request.status = (desiredPhase s.gateway.phase observation).2 := by rw [written]
  have route : (accept s version request).gateway.routeAddress =
      (published (o.desiredEndpoint s.gateway) observation).getD s.gateway.routeAddress := by
    rw [written]
    rfl
  have console : (accept s version request).gateway.consoleAddress =
      (published (o.desiredConsoleEndpoint s.gateway) observation).getD
        s.gateway.consoleAddress := by
    rw [written]
    rfl
  refine ⟨?_, ?_, rfl, fun address value => ?_, fun address value => ?_⟩
  · show request.status = (desiredPhase request.phase observation).2
    rw [phase, desiredPhase_idem, status]
  · show request.phase = (desiredPhase request.phase observation).1
    rw [phase, desiredPhase_idem]
  · by_cases domain : o.publicDomain = ""
    · -- Without a public domain an address is managed only while one is observed.
      have cleared : (accept s version request).gateway.routeAddress = "" := by
        rw [route, Options.desiredEndpoint, if_neg (not_not_intro domain)]
        by_cases empty : s.gateway.routeAddress = ""
        · rw [if_neg (not_not_intro empty), empty]
          unfold published
          split <;> rfl
        · rw [if_pos empty]
          unfold published
          split <;> rfl
      rw [Options.desiredEndpoint, if_neg (not_not_intro domain),
        if_neg (not_not_intro cleared)] at value
      unfold published at value
      split at value <;> cases value
    · have endpoints : o.desiredEndpoint (accept s version request).gateway =
          o.desiredEndpoint s.gateway := by
        rw [Options.desiredEndpoint, Options.desiredEndpoint, if_pos domain, if_pos domain]
        rfl
      rw [endpoints] at value
      rw [route, value, Option.getD_some]
  · rw [desiredConsoleEndpoint_congr sameDesired_accept] at value
    rw [console, value, Option.getD_some]

/-- **A pass after an accepted write writes nothing** if it observes the same. -/
theorem reconcile_accept {pass' : Pass} (commits : Commits o id s pass) (positive : 1 ≤ version)
    (present : pass'.cancelled = false)
    (same : pass'.observation pass'.work = pass.observation pass.work)
    (writes : (reconcile o id s pass).request = some (.update request)) :
    (reconcile o id (accept s version request) pass').request = none := by
  rw [reconcile_commits (commits.accept positive present), same, commitWorkload_none]
  rw [reconcile_commits commits] at writes
  exact wanted_accept writes

/-! ### Passes that ensure by the options -/

/-- A pass whose provider is that of the options, and whose cluster answers with `steps`. -/
def Pass.over (pass : Pass) (o : Options) (steps : Steps) (s : WorkloadState) : Pass :=
  { pass with ensure := o.ensure steps s.gateway s.resourceVersion }

/-- A write never publishes a foreign console address. -/
theorem not_foreign_accept (writes : commitWorkload o id s observation = some (.update request)) :
    ¬ o.Foreign (accept s version request).gateway := by
  rintro ⟨origin, desired, shown, other⟩
  rw [desiredConsoleEndpoint_congr sameDesired_accept] at desired
  rw [commitWorkload_some writes] at shown other
  have console : (published (o.desiredConsoleEndpoint s.gateway) observation).getD
      s.gateway.consoleAddress = if observation = .success then origin else "" := by
    rw [desired]
    unfold published
    split <;> rfl
  change (published _ observation).getD _ ≠ "" at shown
  change (published _ observation).getD _ ≠ origin at other
  rw [console] at shown other
  split at shown
  · rename_i succeeded
    rw [if_pos succeeded] at other
    exact other rfl
  · exact shown rfl

theorem observation_over {s' : WorkloadState} (steps : Steps)
    (same : o.ensure steps s'.gateway s'.resourceVersion = o.ensure steps s.gateway s.resourceVersion) :
    (pass.over o steps s').observation (pass.over o steps s').work =
      (pass.over o steps s).observation (pass.over o steps s).work := by
  unfold Pass.over Pass.work Pass.observation
  dsimp only
  rw [same]

/-- **A pass after an accepted write writes nothing, unless a foreign console address was
published.** -/
theorem reconcile_over (steps : Steps) (live : s.deleted = false) (positive : 1 ≤ version)
    (own : ¬ o.Foreign s.gateway)
    (writes : (reconcile o id s (pass.over o steps s)).request = some (.update request)) :
    let s' := accept s version request
    (reconcile o id s' (pass.over o steps s')).request = none := by
  have commits := reconcile_live live (by rw [writes]; nofun)
  refine reconcile_accept commits positive commits.present (observation_over steps ?_) writes
  rw [reconcile_commits commits] at writes
  exact ensure_congr steps sameDesired_accept commits.version positive
    (iff_of_false (not_foreign_accept writes) own)

/-- The writes over a live Gateway are observations. -/
theorem reconcile_observes (commits : Commits o id s pass) {request : Request}
    (writes : (reconcile o id s pass).request = some request) : ∃ r, request = .update r := by
  rw [reconcile_commits commits] at writes
  unfold commitWorkload at writes
  dsimp only at writes
  split at writes
  · cases writes
  · exact ⟨_, (Option.some.inj writes).symm⟩

/-- A managed address is empty after a pass that has not succeeded. -/
theorem settled_empty (commits : Commits o id s pass)
    (failed : pass.observation pass.work ≠ .success) (version : Int) :
    let s' := settled s version (reconcile o id s pass).request
    (o.desiredEndpoint s.gateway ≠ none → s'.gateway.routeAddress = "") ∧
      (o.desiredConsoleEndpoint s.gateway ≠ none → s'.gateway.consoleAddress = "") := by
  have cleared : ∀ {endpoint : Option String}, endpoint ≠ none →
      published endpoint (pass.observation pass.work) = some "" := by
    intro endpoint managed
    obtain ⟨value, rfl⟩ := Option.ne_none_iff_exists'.mp managed
    rw [published, if_neg failed]
    rfl
  intro s'
  cases writes : (reconcile o id s pass).request with
  | none =>
    have same : s' = s := by
      show settled s version (reconcile o id s pass).request = s
      rw [writes]
      rfl
    rw [reconcile_commits commits, commitWorkload_none] at writes
    rw [same]
    exact ⟨fun managed => writes.route "" (cleared managed),
      fun managed => writes.console "" (cleared managed)⟩
  | some request =>
    obtain ⟨r, rfl⟩ := reconcile_observes commits writes
    have accepted : s' = accept s version r := by
      show settled s version (reconcile o id s pass).request = _
      rw [writes]
      rfl
    rw [reconcile_commits commits] at writes
    rw [accepted, commitWorkload_some writes]
    refine ⟨fun managed => ?_, fun managed => ?_⟩
    · show (published _ _).getD _ = ""
      rw [cleared managed]
      rfl
    · show (published _ _).getD _ = ""
      rw [cleared managed]
      rfl

/-- **Workload observation is sound and reaches a fixed point.**  What is written of a live Gateway
claims success only if the provider returned it in this pass.  A pass that comes to its commit skips
the write only if everything is as wanted, and leaves no managed address after a failure.  A pass
after an accepted write that has the same result writes nothing.  Where the result is that of the
same cluster operations under the new view, it writes nothing either, unless a foreign console
address was published, and then no third pass writes. -/
theorem workload_observation (o : Options) (id : String) (s : WorkloadState) (pass : Pass)
    (live : s.deleted = false) :
    (∀ r, (reconcile o id s pass).request = some (.update r) →
      (r.phase = "Running" ∨ (∃ a, r.routeAddress = some a ∧ a ≠ "") ∨
        ∃ a, r.consoleAddress = some a ∧ a ≠ "") →
      pass.release = none ∧ pass.ensure = .success ∧ pass.expired = false) ∧
    (Commits o id s pass → (reconcile o id s pass).request = none →
      Wanted o s (pass.observation pass.work)) ∧
    (Commits o id s pass → pass.observation pass.work ≠ .success → ∀ version,
      let s' := settled s version (reconcile o id s pass).request
      (o.desiredEndpoint s.gateway ≠ none → s'.gateway.routeAddress = "") ∧
        (o.desiredConsoleEndpoint s.gateway ≠ none → s'.gateway.consoleAddress = "")) ∧
    (∀ r version, (reconcile o id s pass).request = some (.update r) → 1 ≤ version →
      (reconcile o id (accept s version r) pass).request = none) ∧
    (∀ steps r version, (reconcile o id s (pass.over o steps s)).request = some (.update r) →
      1 ≤ version →
        let s' := accept s version r
        let second := (reconcile o id s' (pass.over o steps s')).request
        (¬ o.Foreign s.gateway → second = none) ∧
          ∀ version', 1 ≤ version' →
            let s'' := settled s' version' second
            (reconcile o id s'' (pass.over o steps s'')).request = none) := by
  refine ⟨fun r writes claims => ?_, fun commits skipped => ?_, fun commits => settled_empty commits,
    fun r version writes positive => ?_, fun steps r version writes positive => ?_⟩
  · have commits := reconcile_live live (by rw [writes]; nofun)
    rw [reconcile_commits commits] at writes
    have request := commitWorkload_some writes
    subst request
    refine observation_success ?_
    rcases claims with running | ⟨a, value, shown⟩ | ⟨a, value, shown⟩
    · exact desiredPhase_running running
    · exact published_ne_empty value shown
    · exact published_ne_empty value shown
  · rw [reconcile_commits commits, commitWorkload_none] at skipped
    exact skipped
  · have commits := reconcile_live live (by rw [writes]; nofun)
    exact reconcile_accept commits positive commits.present rfl writes
  · have commits := reconcile_live live (by rw [writes]; nofun)
    refine ⟨fun own => reconcile_over steps live positive own writes, fun version' positive' => ?_⟩
    have own : ¬ o.Foreign (accept s version r).gateway := by
      rw [reconcile_commits commits] at writes
      exact not_foreign_accept writes
    have live' : (accept s version r).deleted = false := live
    generalize accept s version r = s' at own live' ⊢
    intro s''
    cases second : (reconcile o id s' (pass.over o steps s')).request with
    | none =>
      have same : s'' = s' := by
        show settled s' version' (reconcile o id s' (pass.over o steps s')).request = s'
        rw [second]
        rfl
      rw [same]
      exact second
    | some request =>
      have commits' := reconcile_live live' (by rw [second]; nofun)
      obtain ⟨r', rfl⟩ := reconcile_observes commits' second
      have accepted : s'' = accept s' version' r' := by
        show settled s' version' (reconcile o id s' (pass.over o steps s')).request = _
        rw [second]
        rfl
      rw [accepted]
      exact reconcile_over steps live' positive' own second

end Controller

/-! ### A console address of another domain -/

namespace Moved

open Sample

scoped instance names : ClusterNames where
  idHex id := String.ofList (id.toList.take 16)
  isIP _ := false
  digestImage image := decide ("registry.example/".toList <+: image.toList)
  isAbs path := decide ("/".toList <+: path.toList)

/-- A cluster with consoles under `console.example`. -/
def options : Options where
  console := some ⟨"console.example", "registry.example/console", "", true⟩
  publicDomain := "gateways.example"
  publicIssuer := "public"
  publicRouter := "public"
  clusterID := Sample.accountID

/-- A running Gateway whose console address is still that of an earlier domain. -/
def state : WorkloadState where
  gateway :=
    { id := Sample.gatewayID, clusterID := Sample.accountID
      nameSpace := "openshell-" ++ Platform.payloadHex Sample.gatewayID
      releaseID := "", status := "Healthy", phase := "Running"
      routeAddress := "", consoleAddress := "https://console.old.example" }
  deleted := false
  resourceVersion := 7
  resourceGeneration := 1
  observedGeneration := 1
  cleanupTargets _ := some [(Sample.accountID, false)]

/-- Every operation on the cluster succeeds. -/
def steps : Steps := ⟨.success, .success, .success⟩

def pass : Pass := ⟨none, .success, .success, .success, false, false, none⟩

/-- The first write: the origin is refused and the foreign address is cleared. -/
def cleared : UpdateRequest where
  id := Sample.gatewayID
  phase := "Degraded"
  status := "WorkloadUnavailable"
  routeAddress := some ""
  consoleAddress := some ""
  version := 7

end Moved

open Sample Moved in
/-- **A foreign console address is cleared first**: the second pass, with the same results of all
operations on the cluster, writes again. -/
theorem workload_foreign :
    ¬ ∀ (o : Options) (id : String) (s : WorkloadState) (pass : Pass) (steps : Steps)
      (r : UpdateRequest) (version : Int), s.deleted = false →
      (reconcile o id s (pass.over o steps s)).request = some (.update r) → 1 ≤ version →
      (reconcile o id (accept s version r) (pass.over o steps (accept s version r))).request =
        none := by
  intro fixed
  have first : (reconcile Moved.options Sample.gatewayID Moved.state
      (Moved.pass.over Moved.options Moved.steps Moved.state)).request =
        some (.update Moved.cleared) := by
    decide +kernel
  have second := fixed Moved.options Sample.gatewayID Moved.state Moved.pass Moved.steps
    Moved.cleared 8 rfl first (by decide)
  revert second
  decide +kernel

open Sample Moved in
/-- A pass that fails again writes nothing more. -/
theorem workload_observation_sample :
    (reconcile Moved.options Sample.gatewayID (accept Moved.state 8 Moved.cleared)
      (Moved.pass.over Moved.options Moved.steps Moved.state)).request = none := by
  have first : (reconcile Moved.options Sample.gatewayID Moved.state
      (Moved.pass.over Moved.options Moved.steps Moved.state)).request =
        some (.update Moved.cleared) := by
    decide +kernel
  obtain ⟨-, -, -, fixed, -⟩ := workload_observation Moved.options Sample.gatewayID Moved.state
    (Moved.pass.over Moved.options Moved.steps Moved.state) rfl
  exact fixed Moved.cleared 8 first (by decide)

/-! ### The rows of the service -/

/-- The response of `GetGatewayIdentityState` for a row. -/
def identityState (g : Gateway) : WorkloadState where
  gateway :=
    { id := g.id, clusterID := g.clusterID, nameSpace := g.nameSpace, releaseID := g.releaseID
      status := g.currentObservations.status.getD ""
      phase := g.currentObservations.phase.getD ""
      routeAddress := g.currentObservations.routeAddress.getD ""
      consoleAddress := g.currentObservations.consoleAddress.getD "" }
  deleted := g.deletedAt.isSome
  resourceVersion := g.resourceVersion
  resourceGeneration := g.resourceGeneration
  observedGeneration := g.observedGeneration .workload
  cleanupTargets := fun name =>
    ((CleanupOwner.parse name).filter fun owner => decide (owner ∈ CleanupOwner.targeted)).map
      g.cleanupTargetState

/-- The observations of a request, in the order in which they are written. -/
def UpdateRequest.observations (request : UpdateRequest) : List Observation :=
  [.workload request.phase request.status] ++
    (request.routeAddress.map Observation.endpoint).toList ++
    (request.consoleAddress.map Observation.console).toList

/-- What a live row presents: each group as it is observed at the current generation. -/
theorem currentObservations_live {g : Gateway} (live : g.live = true)
    (generated : 1 ≤ g.resourceGeneration) :
    g.currentObservations = { g with
      phase := if g.observedGenerations .workload = g.resourceGeneration then g.phase
        else some "Provisioning"
      status := if g.observedGenerations .workload = g.resourceGeneration then g.status
        else some "ObservationPending"
      routeAddress := if g.observedGenerations .endpoint = g.resourceGeneration then g.routeAddress
        else some ""
      consoleAddress := if g.observedGenerations .console = g.resourceGeneration
        then g.consoleAddress else some "" } := by
  have present : g.deletedAt.isSome = false := by
    rw [Meta.live, Option.isNone_iff_eq_none] at live
    rw [live]
    rfl
  have observed : ∀ group, g.observedGeneration group = g.resourceGeneration ↔
      g.observedGenerations group = g.resourceGeneration := by
    intro group
    unfold Gateway.observedGeneration
    dsimp only
    split <;> omega
  have positive : ¬ g.resourceGeneration < 1 := Nat.not_lt.mpr generated
  unfold Gateway.currentObservations
  by_cases console : g.observedGenerations .console = g.resourceGeneration <;>
    by_cases endpoint : g.observedGenerations .endpoint = g.resourceGeneration <;>
    by_cases workload : g.observedGenerations .workload = g.resourceGeneration <;>
    simp [observed, positive, present, console, endpoint, workload]

/-- The columns that several observations leave. -/
theorem observedBy_observations (g : Gateway) (request : UpdateRequest) :
    g.observedBy request.observations = { g with
      phase := some request.phase
      status := some request.status
      routeAddress := request.routeAddress <|> g.routeAddress
      consoleAddress := request.consoleAddress <|> g.consoleAddress } := by
  unfold UpdateRequest.observations Gateway.observedBy
  cases request.routeAddress <;> cases request.consoleAddress <;> rfl

/-- **An accepted write of the service is `accept`**: a row that was rewritten with the request's
observations, each stamped with the current generation, is presented as the accepted state. -/
theorem identityState_observed {g g' : Gateway} {request : UpdateRequest} (live : g.live = true)
    (generated : 1 ≤ g.resourceGeneration)
    (rewrites : g.Rewrites (g.observedBy request.observations) g')
    (cleanup : g'.cleanupTargetState = g.cleanupTargetState)
    (stamped : ∀ o ∈ request.observations, g'.observedGenerations o.group = g.resourceGeneration)
    (others : ∀ group ∉ request.observations.map Observation.group,
      g'.observedGenerations group = g.observedGenerations group) :
    identityState g' = accept (identityState g) g'.resourceVersion request := by
  have columns := rewrites.columns
  rw [observedBy_observations] at columns
  have same : Gateway.sameSpec g (g.observedBy request.observations) = true := by
    rw [observedBy_observations]
    simp [Gateway.sameSpec]
  have generation : g'.resourceGeneration = g.resourceGeneration := by
    rw [rewrites.generation, same]
    rfl
  have live' : g'.live = true := by
    rw [columns]
    exact live
  have workload : g'.observedGenerations .workload = g.resourceGeneration :=
    stamped (.workload request.phase request.status) (by simp [UpdateRequest.observations])
  have route : g'.currentObservations.routeAddress.getD "" =
      request.routeAddress.getD (g.currentObservations.routeAddress.getD "") := by
    have stored : g'.routeAddress = (request.routeAddress <|> g.routeAddress) := by
      rw [columns]
    rw [currentObservations_live live generated, currentObservations_live live'
      (by rw [generation]; exact generated)]
    dsimp only
    rw [generation, stored]
    cases managed : request.routeAddress with
    | none =>
      rw [others .endpoint (by
        unfold UpdateRequest.observations
        rw [managed]
        cases request.consoleAddress <;> simp [Observation.group])]
      rfl
    | some address =>
      have now : g'.observedGenerations .endpoint = g.resourceGeneration :=
        stamped (.endpoint address) (by simp [UpdateRequest.observations, managed])
      rw [if_pos now]
      rfl
  have console : g'.currentObservations.consoleAddress.getD "" =
      request.consoleAddress.getD (g.currentObservations.consoleAddress.getD "") := by
    have stored : g'.consoleAddress = (request.consoleAddress <|> g.consoleAddress) := by
      rw [columns]
    rw [currentObservations_live live generated, currentObservations_live live'
      (by rw [generation]; exact generated)]
    dsimp only
    rw [generation, stored]
    cases managed : request.consoleAddress with
    | none =>
      rw [others .console (by
        unfold UpdateRequest.observations
        rw [managed]
        cases request.routeAddress <;> simp [Observation.group])]
      rfl
    | some address =>
      have now : g'.observedGenerations .console = g.resourceGeneration :=
        stamped (.console address) (by simp [UpdateRequest.observations, managed])
      rw [if_pos now]
      rfl
  have observed : g'.observedGeneration .workload = g.resourceGeneration := by
    unfold Gateway.observedGeneration
    rw [workload, generation]
    dsimp only
    split <;> omega
  have status : g'.currentObservations.status.getD "" = request.status := by
    rw [currentObservations_live live' (by rw [generation]; exact generated), generation]
    dsimp only
    rw [if_pos workload, columns]
    rfl
  have phase : g'.currentObservations.phase.getD "" = request.phase := by
    rw [currentObservations_live live' (by rw [generation]; exact generated), generation]
    dsimp only
    rw [if_pos workload, columns]
    rfl
  unfold identityState accept
  rw [status, phase, route, console, observed, generation, cleanup]
  have rest : g'.id = g.id ∧ g'.clusterID = g.clusterID ∧ g'.nameSpace = g.nameSpace ∧
      g'.releaseID = g.releaseID ∧ g'.deletedAt = g.deletedAt := by
    rw [columns]
    exact ⟨rfl, rfl, rfl, rfl, rfl⟩
  obtain ⟨id, cluster, ns, release, deleted⟩ := rest
  rw [id, cluster, ns, release, deleted]

end Hypershell.Workload
