import Hypershell.Gateways.MutationSteps
import Hypershell.Gateways.Owners

/-!
# Least privilege of controller writes

A controller's accepted change touches groups of observations, each of which it was
permitted to observe on the stored cluster, or the identity configuration alone.  Nothing
else of the row changes.

## Main definitions

* `Permitted` — what an accepted change touches, and the exact permissions it needed
* `ControllerWritten` — the row that such a change leaves

## Main results

* `permitted_of_authorizePatch`
* `controller_write` — a controller's change is permitted, confined, whole and at its revision
-/

namespace Hypershell

open Foundation

section Permissions

variable [Platform]

/-- A controller holds one exact permission. -/
def GatewayService.Holds (svc : GatewayService) (p : Principal) (operation target : String) : Prop :=
  svc.isControlPlane p = true ∧
    GatewayService.allows svc.controllerWritePolicy p "Gateway" operation target = true

/-- An accepted change of a controller: observations only, or the identity configuration
only. -/
inductive Permitted (svc : GatewayService) (p : Principal) (cluster : String) (patch : PatchRequest)
    (console route : Option String) : Prop
  | observed (only : patch = { PatchRequest.empty with phase := patch.phase, status := patch.status })
      (together : patch.phase.isSome = patch.status.isSome)
      (some : patch.phase.isSome ∨ route.isSome ∨ console.isSome)
      (workload : patch.phase.isSome → svc.Holds p "observe.workload" cluster)
      (endpoint : route.isSome → svc.Holds p "observe.endpoint" cluster)
      (console : console.isSome → svc.Holds p "configure.console" cluster)
  | configured (only : patch = { PatchRequest.empty with oidc := patch.oidc })
      (some : patch.oidc.isSome) (noRoute : route = none) (noConsole : console = none)
      (holds : svc.Holds p "configure.identity" "")

variable {svc : GatewayService} {p : Principal} {cluster : String} {patch : PatchRequest}
  {console route : Option String}

omit [Platform] in
theorem holds_of_authorize {operation target : String}
    (authorized : svc.authorizeControllerWrite p "Gateway" operation target = .ok ()) :
    svc.Holds p operation target := by
  unfold GatewayService.authorizeControllerWrite at authorized
  split at authorized
  · cases authorized
  · split_ifs at authorized with refused
    rw [not_or, Bool.not_eq_false, Bool.not_eq_false] at refused
    exact refused

omit [Platform] in
/-- An accepted change has no field but those its operation names, and the permissions of all
groups. -/
theorem authorizePatch_ok (authorized : authorizePatch svc p cluster patch console route = .ok ()) :
    ∃ operation target,
      patchOperation cluster patch console route = .ok (operation, target, PatchRequest.empty) ∧
      svc.Holds p operation target ∧
      ((patch.phase.isSome ∨ patch.status.isSome) → route.isSome →
        svc.Holds p "observe.endpoint" cluster) ∧
      ((patch.phase.isSome ∨ patch.status.isSome) → console.isSome →
        svc.Holds p "configure.console" cluster) := by
  unfold authorizePatch at authorized
  split at authorized
  · cases authorized
  rename_i operation target rest selected
  by_cases empty : rest = .empty
  swap
  · rw [if_pos empty] at authorized
    cases authorized
  rw [if_neg (not_not.mpr empty)] at authorized
  subst empty
  split at authorized
  · cases authorized
  rename_i first
  split at authorized
  · cases authorized
  rename_i second
  refine ⟨operation, target, selected, holds_of_authorize first, fun workload touched => ?_,
    fun workload touched => ?_⟩
  · rw [if_pos ⟨workload, touched⟩] at second
    exact holds_of_authorize second
  · rw [if_pos ⟨workload, touched⟩] at authorized
    exact holds_of_authorize authorized

omit [Platform] in
/-- **The partition of a change into groups.** -/
theorem permitted_of_authorizePatch
    (authorized : authorizePatch svc p cluster patch console route = .ok ()) :
    Permitted svc p cluster patch console route := by
  obtain ⟨operation, target, selected, holds, endpoint, console'⟩ := authorizePatch_ok authorized
  unfold patchOperation at selected
  split_ifs at selected with workload missing hasRoute hasConsole hasOIDC hasConsole hasConsole
  · -- The workload, perhaps with the endpoint and the console.
    simp only [Except.ok.injEq, Prod.mk.injEq] at selected
    obtain ⟨rfl, rfl, only⟩ := selected
    rw [not_or] at missing
    have hasPhase : patch.phase.isSome = true := Option.isSome_iff_ne_none.mpr missing.1
    have hasStatus : patch.status.isSome = true := Option.isSome_iff_ne_none.mpr missing.2
    refine .observed ?_ (hasPhase.trans hasStatus.symm) (Or.inl hasPhase) (fun _ => holds)
      (endpoint workload) (console' workload)
    rw [← only]
  · -- The endpoint alone.
    simp only [Except.ok.injEq, Prod.mk.injEq] at selected
    obtain ⟨rfl, rfl, rfl⟩ := selected
    refine .observed rfl rfl (Or.inr (Or.inl hasRoute)) (fun touched => ?_) (fun _ => holds) ?_
    · cases touched
    · exact fun touched => absurd touched hasConsole
  · -- The identity configuration alone.
    simp only [Except.ok.injEq, Prod.mk.injEq] at selected
    obtain ⟨rfl, rfl, only⟩ := selected
    rw [Option.not_isSome_iff_eq_none] at hasRoute hasConsole
    refine .configured ?_ hasOIDC hasRoute hasConsole holds
    rw [← only]
  · -- The console alone.
    simp only [Except.ok.injEq, Prod.mk.injEq] at selected
    obtain ⟨rfl, rfl, rfl⟩ := selected
    refine .observed rfl rfl (Or.inr (Or.inr hasConsole)) (fun touched => ?_) ?_ (fun _ => holds)
    · cases touched
    · exact fun touched => absurd touched hasRoute

end Permissions

/-! ### The row that is left -/

/-- The columns of an accepted change: its groups of observations, or its identity
configuration. -/
def Gateway.touched (g : Gateway) (patch : PatchRequest) (console route : Option String) : Gateway :=
  { g with
    phase := patch.phase.or g.phase
    status := patch.status.or g.status
    routeAddress := route.or g.routeAddress
    consoleAddress := console.or g.consoleAddress
    oidc := patch.oidc.or g.oidc }

section Written

variable [Platform]

/-- A permitted change was committed as a whole.  Of the row, nothing changed but what the
change touched, its revision and its time, and with the identity configuration its
generation. -/
structure ControllerWritten (svc : GatewayService) (p : Principal) (id : String)
    (patch : PatchRequest) (console route : Option String) (version : Int) (s : Store)
    (g g' : Gateway) (t : Store) : Prop where
  rest : ∃ d gateways outbox,
    t = { s with directory := d, gateways := gateways, outbox := outbox }
  same : s.directory.SameGrants t.directory
  stored : s.gateway? id = some g
  live : g.live = true
  revision : (g.resourceVersion : Int) = version
  permitted : Permitted svc p g.clusterID patch console route
  row : t.gateway? id = some g'
  others : ∀ id' ≠ id, t.gateway? id' = s.gateway? id'
  columns : g' = { g.touched patch console route with
    updatedTime := g'.updatedTime
    resourceVersion := g'.resourceVersion
    resourceGeneration := g'.resourceGeneration
    observedGenerations := g'.observedGenerations
    cleanupState := g'.cleanupState
    cleanupTargetState := g'.cleanupTargetState }
  generation : patch.oidc = none → g'.resourceGeneration = g.resourceGeneration
  observed : ∀ group ∉ (patch.observations console route).map Observation.group,
    g'.observedGenerations group = g.observedGenerations group
  /-- The cleanup columns are as they were, where the trigger had written them. -/
  cleanup : g.Clean → g'.cleanupState = g.cleanupState ∧
    g'.cleanupTargetState = g.cleanupTargetState
  outbox : t.outbox = s.outbox ++ [⟨id, "Update", "gateway.updated"⟩]

variable {svc : GatewayService} {p : Principal} {id : String} {patch : PatchRequest}
  {console route : Option String} {version : Int} {s t : Store} {g g' : Gateway}

theorem changedBy_eq_touched (permitted : Permitted svc p g.clusterID patch console route) :
    g.changedBy patch console route = g.touched patch console route := by
  cases permitted with
  | observed only together some =>
    rw [only] at together some ⊢
    dsimp only at together some ⊢
    cases phase : patch.phase with
    | none =>
      rw [phase, Option.isSome_none, eq_comm, Option.isSome_eq_false_iff,
        Option.isNone_iff_eq_none] at together
      rw [together]
      cases route <;> cases console
      · simp [phase] at some
      all_goals rfl
    | some value =>
      rw [phase, Option.isSome_some, eq_comm, Option.isSome_iff_exists] at together
      obtain ⟨status, same⟩ := together
      rw [same]
      cases route <;> cases console <;> rfl
  | configured only _ noRoute noConsole =>
    subst noRoute noConsole
    rw [only]
    rfl

/-- The row of an update by a controller. -/
theorem Updated.controllerWritten (versioned : 1 ≤ version)
    (updated : Updated svc p id patch console route version s g g' t) :
    ControllerWritten svc p id patch console route version s g g' t := by
  have positive : version > 0 := by omega
  have permitted := permitted_of_authorizePatch (updated.authorized positive)
  have rewrites := updated.rewrites
  rw [changedBy_eq_touched permitted] at rewrites
  refine ⟨updated.rest, updated.same, updated.stored, updated.live, updated.known positive,
    permitted, updated.row, updated.others, ?_, fun unconfigured => ?_, updated.observed, ?_,
    updated.outbox⟩
  · refine rewrites.columns.trans ?_
    rw [rewrites.finalized]
    rfl
  · have same : Gateway.sameSpec g (g.touched patch console route) = true := by
      simp [Gateway.sameSpec, Gateway.touched, unconfigured]
    rw [rewrites.generation, if_pos same]
    rfl
  · exact fun clean => (rewrites.cleanup clean).2

omit [Platform] in
@[simp] theorem dropOnError_snd {R : Type} (r : Option R × Option Err) :
    (dropOnError r).2 = r.2 := by
  obtain ⟨_, _ | _⟩ := r <;> rfl

/-- A controller's call is refused, or is an update at the revision it supplies. -/
theorem exec_updateControlPlane {steps : List (Env × Store)} {r : Option Gateway × Option Err}
    {l : List Event}
    (exec : (updateControlPlane svc p id patch console route version).Exec Eq s steps r l t) :
    t = s ∧ r.2 ≠ none ∨ 1 ≤ version ∧ ∃ vars,
      (updateGatewayRow svc p id patch console route version).Exec Eq s steps (vars, r.2) l t := by
  have refused : ∀ {e : Err}, (.ret (none, some e) : Process (Option Gateway × Option Err)).Exec Eq s
      steps r l t → t = s ∧ r.2 ≠ none := by
    intro e exec
    obtain ⟨rfl, -, -, rfl⟩ := Proc.exec_ret exec
    exact ⟨rfl, Option.some_ne_none e⟩
  unfold updateControlPlane at exec
  split at exec
  · exact Or.inl (refused exec)
  split_ifs at exec with controller unversioned
  · exact Or.inl (refused exec)
  · exact Or.inl (refused exec)
  obtain ⟨⟨vars, e⟩, same, called⟩ := Proc.exec_map exec
  rw [same, dropOnError_snd]
  exact Or.inr ⟨by omega, vars, called⟩

/-- **A controller's change** is permitted and confined to what it touches.  It is committed
as a whole with one event, or not at all, and at another revision nothing changes. -/
theorem controller_write {steps : List (Env × Store)} {r : Option Gateway × Option Err}
    {l : List Event}
    (exec : (updateControlPlane svc p id patch console route version).Exec Eq s steps r l t) :
    (r.2 = none → ∃ g g', ControllerWritten svc p id patch console route version s g g' t) ∧
      (t = s ∨ ∃ g g', ControllerWritten svc p id patch console route version s g g' t) ∧
      ((∀ g, s.gateway? id = some g → (g.resourceVersion : Int) ≠ version) →
        t = s ∧ r.2 ≠ none) := by
  rcases exec_updateControlPlane exec with ⟨same, error⟩ | ⟨versioned, vars, called⟩
  · exact ⟨fun none => absurd none error, Or.inl same, fun _ => ⟨same, error⟩⟩
  have written : (∃ g g', Updated svc p id patch console route version s g g' t) →
      ∃ g g', ControllerWritten svc p id patch console route version s g g' t := by
    rintro ⟨g, g', updated⟩
    exact ⟨g, g', updated.controllerWritten versioned⟩
  have success : r.2 = none → ∃ g g',
      ControllerWritten svc p id patch console route version s g g' t := by
    intro none
    rw [none] at called
    exact written (update_commits.exec_ok called)
  have either := (update_commits.exec called).imp_right written
  refine ⟨success, either, fun differs => ⟨?_, fun none => ?_⟩⟩
  · rcases either with same | ⟨g, g', changed⟩
    · exact same
    · exact absurd changed.revision (differs g changed.stored)
  · obtain ⟨g, g', changed⟩ := success none
    exact differs g changed.stored changed.revision

end Written

/-! ### The sample -/

namespace Sample

/-- A controller of the workload and the endpoint on one cluster. -/
def controllerService : GatewayService :=
  ⟨fun subject => decide (subject = "controller"), [], [],
    ["observe.workload", "observe.endpoint"].map fun operation =>
      ⟨"https://issuer.example", "controller", "Gateway", operation, managedClusterID⟩, "", ""⟩

def observer : Principal :=
  ⟨"https://issuer.example", "controller", "controller", "", "Controller", []⟩

/-- The workload and its endpoint are observed together. -/
def observation : PatchRequest :=
  { PatchRequest.empty with phase := some "Running", status := some "Healthy" }

/-- The sample's Gateway on its cluster. -/
def placedGateway : Option Store :=
  (unplaced.createGateway { gateway none with
    clusterID := managedClusterID, releaseID := releaseID }).toOption

def observe : Process (Option Gateway × Option Err) :=
  updateControlPlane controllerService observer gatewayID observation none
    (some "https://gateway.example") 1

theorem observe_succeeds : (placedGateway.any fun s =>
    (observe.run [env drawnID] s).any fun (_, r, _, _) => decide (r.2 = none)) =
      true := by
  decide +kernel

end Sample

open Sample in
/-- The sample's observation writes both groups at the revision it names. -/
theorem controller_write_sample : ∃ (s t : Store) (g g' : Gateway),
    ControllerWritten Sample.controllerService Sample.observer Sample.gatewayID
      Sample.observation none (some "https://gateway.example") 1 s g g' t ∧
    g'.routeAddress = some "https://gateway.example" ∧ g'.phase = some "Running" := by
  have computed := Sample.observe_succeeds
  simp only [Option.any_eq_true, Prod.exists, decide_eq_true_eq] at computed
  obtain ⟨s, -, steps, vars, e, l, t, run, none⟩ := computed
  obtain ⟨g, g', written⟩ := (controller_write (Proc.exec_of_run (fun _ => rfl) run)).1 none
  refine ⟨s, t, g, g', written, ?_, ?_⟩
  · rw [written.columns]
    rfl
  · rw [written.columns]
    rfl

end Hypershell
