import Hypershell.Gateways.Service
import Hypershell.Storage.Conditions
import Hypershell.Storage.Directory

/-!
# The identity cycle of a Gateway

A scan brings the identity provider in step with a Gateway's grants.  Its progress is a
cycle in a checkpoint, and its outcome is the condition `GrantsSynchronized`.  A change of
the grants invalidates both in its own commit.

## Main definitions

* `identityScanCycle`, `saveIdentityScanCycle`
* `resetIdentityCycle`, `writeGrantCondition`
-/

namespace Hypershell

open Foundation

/-- The scope of the cycle's checkpoint. -/
def identityCycleScope : String := "identity-users-cycle"

/-- A cycle's checkpoint, and the Gateway's revision and generation with it. -/
structure IdentityCycle where
  checkpoint : ScanCheckpoint
  generation : Nat
  revision : Nat
  deriving DecidableEq, Repr

/-- The zero value. -/
def IdentityCycle.zero : IdentityCycle := ⟨⟨"", 0⟩, 0, 0⟩

/-- The source of a cycle: the decimal generation. -/
def cycleSource (generation : Int) : String := toString generation

/-- The condition of a scan that came to its end, or failed on the way. -/
def syncUpdate (failed : Bool) : ConditionUpdate :=
  if failed then
    ⟨.unknown, "GrantSyncIncomplete", "One or more stored grant updates were not confirmed"⟩
  else
    ⟨.true, "GrantSyncComplete", "Stored Gateway grant references were synchronized"⟩

/-- The condition after a change of grants. -/
def changedUpdate : ConditionUpdate :=
  ⟨.unknown, "GrantsChanged", "Gateway grant changes require a new scan"⟩

variable [Platform] {L : Type}

/-- `checkIdentityReader`. -/
def checkIdentityReader (svc : GatewayService) (p : Principal) (id : String) : Except Err Unit :=
  match validatePrincipal p with
  | .error e => .error e
  | .ok () =>
    if svc.isControlPlane p = false then .error .forbidden
    else if Platform.validID id then .ok ()
    else .error .notFound

/-- `authorizeIdentityController`. -/
def authorizeIdentityController (svc : GatewayService) (p : Principal) (id : String) :
    Except Err Unit :=
  match checkIdentityReader svc p id with
  | .error e => .error e
  | .ok () => svc.authorizeControllerWrite p "Gateway" "configure.identity" ""

/-- The callback of `IdentityScanCycle`. -/
def identityScanCycleBody (id : String) : Action IdentityCycle Unit := do
  let row ← Action.query (Store.getGateway id)
  Tx.require (row.id = id) (.text "identity cycle resource does not match")
  let checkpoint ← Action.query (Store.loadCheckpoint id identityCycleScope)
  Tx.capture fun result => { result with checkpoint := checkpoint }
  let cycle ← Tx.lift (decodeCycle checkpoint.after)
  -- Hide an old result without deleting its stored history or version.
  let shown := if cycle.source ≠ cycleSource row.resourceGeneration
    then { checkpoint with after := "" } else checkpoint
  Tx.capture fun _ => ⟨shown, row.resourceGeneration, row.resourceVersion⟩

/-- `Service.IdentityScanCycle`. -/
def identityScanCycle (svc : GatewayService) (p : Principal) (id : String) :
    Process (IdentityCycle × Option Err) :=
  match authorizeIdentityController svc p id with
  | .error e => .ret (.zero, some e)
  | .ok () => withTransaction .zero (identityScanCycleBody id)

/-- `writeGrantCondition`: an equal observation that is current is not written again. -/
def writeGrantCondition (row : Gateway) (update : ConditionUpdate) : Action L Bool := do
  let values ← Tx.lift row.conditions
  let current := values .identityUsers
  if current.current = true ∧ current.status = update.status ∧ current.reason = update.reason ∧
      current.message = update.message then
    return false
  else do
    Action.update (Store.observeConditionsIfVersion row.id row.resourceVersion .identityUsers update)
    return true

/-- `resetIdentityCycle`: invalidate the cycle with the change of a grant, and retain its
version, so that an older writer in flight receives a conflict. -/
def resetIdentityCycle (id : String) : Action L Unit := do
  let previous ← Action.query (Store.loadCheckpoint id identityCycleScope)
  Action.update (Store.saveCheckpoint id identityCycleScope previous.version "")
  let row ← Action.query (Store.getGateway id)
  Tx.require (row.id = id) (.text "identity cycle resource does not match")
  let _ ← writeGrantCondition row changedUpdate

/-- The grant that a cursor names, whatever its deletion. -/
def grantCursor (id after : String) (s : Store) : Except Err Unit :=
  match s.directory.bindings.find? after with
  | some row => if row.gatewayID = some id then .ok () else .error .invalid
  | none => .error .invalid

/-- `validateIdentityCursor`. -/
def validateIdentityCursor (id after : String) : Action L Unit :=
  if after = "" then pure () else Action.query (grantCursor id after)

/-- The order in which Go compares texts: by their bytes, which in UTF-8 is the order of
their characters. -/
def bytesLess (a b : String) : Bool := decide (a.toList < b.toList)

/-- The checks of a request, before its transaction. -/
def checkCycleData (version generation : Int) (data : String) : Except Err CycleState :=
  match decodeCycle data with
  | .error _ => .error .invalid
  | .ok cycle =>
    if data = "" ∨ version < 0 ∨ generation < 1 ∨ cycle.source ≠ cycleSource generation ∨
        (cycle.after ≠ "" ∧ ¬ Platform.validID cycle.after) then
      .error .invalid
    else
      .ok cycle

/-- A later cycle of the same source may not go back, unless the earlier one is
complete. -/
def cycleAdvances (old cycle : CycleState) : Bool :=
  !(decide (old.source = cycle.source) && !old.complete && bytesLess cycle.after old.after)

/-- Record the outcome of a cycle, and publish it if it is new. -/
def publishCycle (id : String) (row : Gateway) (cycle : CycleState) :
    Action IdentityCycle Unit := do
  if cycle.failed = false ∧ cycle.complete = false then
    pure ()
  else do
    let changed ← writeGrantCondition row (syncUpdate cycle.failed)
    if changed = false then
      pure ()
    else do
      notifyGateway id "Update" "gateway.updated"
      let current ← Action.query (Store.getGateway id)
      Tx.require (current.id = id) (.text "identity cycle resource does not match")
      Tx.capture fun result => { result with revision := current.resourceVersion }

/-- The callback of `SaveIdentityScanCycle`.  It holds the lock of the live Gateway, which
every change of its grants needs too. -/
def saveIdentityScanCycleBody (id : String) (version generation revision : Int) (data : String)
    (cycle : CycleState) (row : Gateway) : Action IdentityCycle Unit := do
  Tx.require (row.id = id) (.text "identity cycle resource does not match")
  Tx.require ((row.resourceGeneration : Int) = generation ∧ (row.resourceVersion : Int) = revision)
    .versionConflict
  let previous ← Action.query (Store.loadCheckpoint id identityCycleScope)
  Tx.require ((previous.version : Int) = version) .checkpointConflict
  let old ← Tx.lift (decodeCycle previous.after)
  Tx.require (validateCycleTransition old cycle = .ok () ∧ cycleAdvances old cycle = true) .invalid
  validateIdentityCursor id cycle.after
  match ← Tx.attempt (Action.update (Store.saveCheckpoint id identityCycleScope version data)) with
  | .error e => do
    Tx.capture fun _ => ⟨⟨"", 0⟩, row.resourceGeneration, row.resourceVersion⟩
    Tx.raise e
  | .ok () => do
    Tx.capture fun _ =>
      ⟨⟨data, previous.version + 1⟩, row.resourceGeneration, row.resourceVersion⟩
    publishCycle id row cycle

/-- `Service.SaveIdentityScanCycle`. -/
def saveIdentityScanCycle (svc : GatewayService) (p : Principal) (id : String)
    (version generation revision : Int) (data : String) : Process (IdentityCycle × Option Err) :=
  match authorizeIdentityController svc p id with
  | .error e => .ret (.zero, some e)
  | .ok () =>
    if revision < 1 then
      .ret (.zero, some .observationRequired)
    else
      match checkCycleData version generation data with
      | .error e => .ret (.zero, some e)
      | .ok cycle =>
        withLockedGateway .zero id
          (saveIdentityScanCycleBody id version generation revision data cycle)

end Hypershell
