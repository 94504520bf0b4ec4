import Hypershell.Storage.Checkpoints
import Hypershell.Storage.Gateways

/-!
# Conditions of a Gateway

What owners observe about a live Gateway, each of the desired state it had then.

## Main definitions

* `Gateway.conditions` — the stored conditions, and which of them are current
* `Store.writeIfVersion` — a write of a live row at a known revision
* `Store.observeConditionsIfVersion`

## Main results

* `Store.writeIfVersion_ok` — such a write is one revision of one row
-/

namespace Hypershell

open Foundation

/-- A condition as it is read.  One that was never observed is unknown. -/
structure ResourceCondition where
  status : ConditionStatus
  reason : String
  message : String
  observedGeneration : Nat
  lastTransitionTime : Int
  current : Bool
  deriving DecidableEq, Repr

/-- What an owner observes of its condition. -/
structure ConditionUpdate where
  status : ConditionStatus
  reason : String
  message : String
  deriving DecidableEq, Repr

/-- A capital letter and at most 62 more letters or digits. -/
def conditionReason (reason : String) : Bool :=
  match reason.toList with
  | [] => false
  | c :: rest => c.isUpper && decide (rest.length ≤ 62) && rest.all Char.isAlphanum

/-- `unicode.IsControl`. -/
def isControl (c : Char) : Bool :=
  decide (c.toNat < 0x20 ∨ (0x7F ≤ c.toNat ∧ c.toNat ≤ 0x9F))

/-- `validCondition`. -/
def validCondition (reason message : String) : Bool :=
  conditionReason reason && decide (message.utf8ByteSize ≤ 1024) &&
    message.toList.all fun c => !isControl c

namespace Gateway

/-- One condition as it is read. -/
def condition (g : Gateway) (owner : ConditionOwner) : ResourceCondition :=
  match g.conditionState owner with
  | none => ⟨.unknown, "ObservationPending", "No current observation", 0, 0, false⟩
  | some stored =>
    ⟨stored.status, stored.reason, stored.message, stored.observedGeneration,
      stored.lastTransitionTime,
      g.live && decide (stored.observedGeneration = g.resourceGeneration)⟩

/-- A stored condition can be read. -/
def readableCondition (g : Gateway) (owner : ConditionOwner) : Bool :=
  (g.conditionState owner).all fun stored =>
    validCondition stored.reason stored.message &&
      decide (1 ≤ stored.observedGeneration ∧
        stored.observedGeneration ≤ g.resourceGeneration)

/-- `Gateway.Conditions`. -/
def conditions (g : Gateway) : Except Err (ConditionOwner → ResourceCondition) :=
  if ConditionOwner.all.all g.readableCondition then .ok g.condition else .error .condition

theorem conditions_ok {g : Gateway} {values : ConditionOwner → ResourceCondition}
    (read : g.conditions = .ok values) : values = g.condition := by
  unfold conditions at read
  split_ifs at read
  cases read
  rfl

/-- The row with a new observation of a condition.  Its transition time changes with its
status. -/
def observeCondition (g : Gateway) (time : Int) (owner : ConditionOwner)
    (update : ConditionUpdate) : Gateway :=
  let since := match g.conditionState owner with
    | some stored => if stored.status = update.status then stored.lastTransitionTime else time
    | none => time
  { g with
    conditionState := Function.update g.conditionState owner
      (some ⟨update.status, update.reason, update.message, g.resourceGeneration, since⟩)
    updatedTime := time }

/-- The observed condition is stored with the generation it was observed of. -/
theorem observeCondition_self (g : Gateway) (time : Int) (owner : ConditionOwner)
    (update : ConditionUpdate) :
    ∃ since, (g.observeCondition time owner update).conditionState owner =
      some ⟨update.status, update.reason, update.message, g.resourceGeneration, since⟩ := by
  refine ⟨match g.conditionState owner with
    | some stored => if stored.status = update.status then stored.lastTransitionTime else time
    | none => time, ?_⟩
  simp only [observeCondition, Function.update_self]

/-! ### The columns of a stored row -/

/-- **The columns that the trigger stores**: those that were written, but for the
revision, the generation, the observed generations and what belongs to the cleanup. -/
theorem eq_of_revise {time : Int} {old new row : Gateway} (stored : revise time old new = .ok row) :
    row = { new with
      resourceVersion := old.resourceVersion + 1
      resourceGeneration := old.resourceGeneration + if sameSpec old new then 0 else 1
      observedGenerations :=
        if sameSpec old new then new.observedGenerations else old.observedGenerations
      cleanupTargetState := row.cleanupTargetState
      cleanupState := row.cleanupState
      deletionFinalizedAt := row.deletionFinalizedAt } := by
  unfold revise at stored
  split_ifs at stored
  dsimp only at stored
  split_ifs at stored
  obtain ⟨same, -⟩ := reviseFinalization_ok stored
  rw [same]
  rfl

end Gateway

namespace Store

/-- A write of a live row at the given revision. -/
def writeIfVersion (id : String) (version : Int) (write : Gateway → Gateway) (s : Store) :
    Except Err Store :=
  match s.gateway? id with
  | none => .error .versionConflict
  | some row =>
    if (row.resourceVersion : Int) = version ∧ row.live = true then
      s.updateGateway row (write row)
    else
      .error .versionConflict

/-- `ObserveConditionsIfVersion`, of the one condition that an owner declares. -/
def observeConditionsIfVersion (id : String) (version : Int) (owner : ConditionOwner)
    (update : ConditionUpdate) (s : Store) : Except Err Store :=
  if checkpointText id 256 false = false ∨ version < 1 ∨
      validCondition update.reason update.message = false then
    .error .condition
  else
    s.writeIfVersion id version fun row => row.observeCondition s.time owner update

section Spec

variable {s t : Store} {id : String} {version : Int} {write : Gateway → Gateway}

/-- A live row at its revision has become another. -/
structure Rewritten (s : Store) (id : String) (old new row : Gateway) (t : Store) : Prop where
  same : ∃ gateways, t = { s with gateways := gateways }
  stored : s.gateway? id = some old
  live : old.live = true
  revise : Gateway.revise s.time old new = .ok row
  becomes : s.gateways.Becomes t.gateways old row

theorem updateGateway_revise {old new : Gateway} (stored : s.gateway? old.id = some old)
    (updated : s.updateGateway old new = .ok t) :
    ∃ row, Gateway.revise s.time old new = .ok row ∧ s.gateways.Becomes t.gateways old row ∧
      ∃ gateways, t = { s with gateways := gateways } := by
  unfold updateGateway at updated
  split at updated
  · cases updated
  · rename_i row revised
    split at updated
    · rename_i gateways replaced
      cases updated
      have guaranteed := Gateway.revised_of_revise revised
      refine ⟨row, revised, Table.becomes_of_replace? replaced ?_, _, rfl⟩
      rw [key_gateway, guaranteed.id]
      exact stored
    · cases updated

/-- **A conditional write** is one revision of a live row. -/
theorem writeIfVersion_ok (written : s.writeIfVersion id version write = .ok t) :
    ∃ old row, (old.resourceVersion : Int) = version ∧
      Rewritten s id old (write old) row t := by
  unfold writeIfVersion at written
  split at written
  · cases written
  · rename_i old stored
    split_ifs at written with current
    have key : old.id = id := id_of_gateway? stored
    obtain ⟨row, revised, becomes, same⟩ :=
      updateGateway_revise (by rw [key]; exact stored) written
    exact ⟨old, row, current.1, same, stored, current.2, revised, becomes⟩

variable {old new row : Gateway}

theorem Rewritten.id_eq (rewritten : Rewritten s id old new row t) : row.id = id := by
  rw [(Gateway.revised_of_revise rewritten.revise).id]
  exact id_of_gateway? rewritten.stored

theorem Rewritten.gateway? (rewritten : Rewritten s id old new row t) :
    t.gateway? id = some row := by
  have found := rewritten.becomes.find?_new
  rw [key_gateway, rewritten.id_eq] at found
  exact found

theorem Rewritten.others (rewritten : Rewritten s id old new row t) {id' : String}
    (other : id' ≠ id) : t.gateway? id' = s.gateway? id' := by
  have found := rewritten.becomes.find? id'
  rw [key_gateway, rewritten.id_eq, if_neg other] at found
  exact found

end Spec

end Store

end Hypershell
