import Hypershell.Gateways.Service
import Hypershell.Storage.Effects

/-!
# Deletion of a Gateway

`Delete` commits a durable request.  Five owners then observe the cleanup of what
the Gateway left behind, and the observation that completes the last of them
finalizes the deletion and publishes it.

## Main definitions

* `recordCleanup` — store one observation, inside a transaction
* `observeCleanup` — the same for an authorized controller
* `deleteGateway`
-/

namespace Hypershell

open Foundation

/-- The text that names an owner. -/
def CleanupOwner.name : CleanupOwner → String
  | .accounts => "accounts"
  | .allocation => "allocation"
  | .identity => "identity"
  | .sql => "sql"
  | .workload => "workload"

/-- The owner with a name. -/
def CleanupOwner.parse (owner : String) : Option CleanupOwner :=
  CleanupOwner.all.find? fun o => decide (o.name = owner)

/-- The scope under which a component's SQL state is registered. -/
inductive SQLComponent
  | gateway
  | console
  deriving DecidableEq, Repr

/-- `sqlStateScope`. -/
def sqlStateScope (cluster : String) : SQLComponent → String
  | .console => "sql-state:console:" ++ cluster
  | .gateway => "sql-state:" ++ cluster

/-- `consoleSQLCompletionScope`. -/
def consoleSQLCompletionScope (cluster : String) : String := "sql-complete:console:" ++ cluster

variable [Platform] {L : Type}

/-- The checks of an owner and its target. -/
def checkCleanupOwner (owner target : String) : Except Err CleanupOwner :=
  match CleanupOwner.parse owner with
  | none => .error .invalid
  | some o =>
    if o ∈ CleanupOwner.targeted then
      if Platform.validID target then .ok o else .error .invalid
    else
      if target = "" then .ok o else .error .invalid

/-- Read the retained row of a deleted Gateway. -/
def readDeleted (id : String) : Action L Gateway := do
  let row ← Action.query (Store.getRetained id)
  Tx.require (row.id = id) (.text "cleanup resource does not match")
  Tx.require (row.live = false) .resourceStateConflict
  return row

/-- Whether an observation differs from the stored one. -/
def Gateway.differs (g : Gateway) (owner : CleanupOwner) (target : String) (complete : Bool) :
    Except Err Bool :=
  match g.cleanupObservations with
  | .error e => .error e
  | .ok states =>
    if target = "" then
      .ok (states owner != complete)
    else
      match g.cleanupTargets with
      | .error e => .error e
      | .ok targets =>
        match (targets owner).lookup target with
        | none => .error .versionConflict
        | some prior => .ok (prior != complete)

/-- SQL cleanup of a cluster is complete only if the console's database is gone: its
state was never registered, or its removal was. -/
def checkConsoleSQL (id : String) (owner : CleanupOwner) (target : String) (complete : Bool) :
    Action L Unit :=
  if owner = .sql ∧ complete = true then do
    let console ← Action.query (Store.loadEffectBinding id (sqlStateScope target .console))
    if console.present = true ∧ console.digest ≠ "" then do
      let done ← Action.query (Store.loadEffectBinding id (consoleSQLCompletionScope target))
      Tx.require (console.closed = true ∧ done.present = true ∧ done.closed = true ∧
        done.digest = console.digest) .effectBindingConflict
    else
      pure ()
  else
    pure ()

/-- Store an observation that differs, and read the row it leaves. -/
def storeObservation (id : String) (version : Int) (owner : CleanupOwner) (target : String)
    (complete : Bool) : Action L Gateway := do
  if target = "" then
    Action.update (Store.observeCleanupIfVersion id version owner complete)
  else
    Action.update (Store.observeTargetCleanupIfVersion id version owner target complete)
  readDeleted id

/-- Finalize the deletion if nothing is pending, and publish what changed. -/
def finishCleanup (id : String) (row : Gateway) (changed : Bool) : Action L Unit := do
  let pending ← Tx.lift row.pendingCleanup
  if pending = [] ∧ row.deletionFinalizedAt = none then do
    Action.update (Store.finalizeDeletionIfVersion id row.resourceVersion)
    notifyGateway id "Delete" "gateway.deleted"
  else if changed = false then
    -- Repeated recovery must not change revisions or publish duplicate state.
    pure ()
  else
    notifyGateway id "Update" "gateway.updated"

/-- `RecordCleanup` once its arguments are valid. -/
def recordOwner (id : String) (version : Int) (owner : CleanupOwner) (target : String)
    (complete : Bool) : Action L Unit := do
  let row ← readDeleted id
  Tx.require ((row.resourceVersion : Int) = version) .versionConflict
  let changed ← Tx.lift (row.differs owner target complete)
  checkConsoleSQL id owner target complete
  if changed = true then do
    let row ← storeObservation id version owner target complete
    finishCleanup id row true
  else
    finishCleanup id row false

/-- `RecordCleanup`: store one observation of an owner. -/
def recordCleanup (id : String) (version : Int) (owner target : String) (complete : Bool) :
    Action L Unit :=
  if ¬ Platform.validID id ∨ version < 1 then
    Tx.raise .invalid
  else
    match checkCleanupOwner owner target with
    | .error e => Tx.raise e
    | .ok owner => recordOwner id version owner target complete

/-- A transaction that only records one observation. -/
def recordAlone (id : String) (version : Int) (owner target : String) (complete : Bool) :
    Process (Unit × Option Err) :=
  withTransaction () (recordCleanup id version owner target complete)

/-- `Service.ObserveCleanup`. -/
def observeCleanup (svc : GatewayService) (p : Principal) (id : String) (version : Int)
    (owner target : String) (complete : Bool) : Process (Unit × Option Err) :=
  match validatePrincipal p with
  | .error e => .ret ((), some e)
  | .ok () =>
    if svc.isControlPlane p = false ∨ owner ∉ ["identity", "workload", "sql", "allocation"] ∨
        (owner = "identity" ∧ target ≠ "") ∨
        (owner ∈ ["workload", "sql", "allocation"] ∧ ¬ Platform.validID target) then
      .ret ((), some .forbidden)
    else
      match svc.authorizeCleanup p "Gateway" owner target with
      | .error e => .ret ((), some e)
      | .ok () =>
        if ¬ Platform.validID id then
          .ret ((), some .notFound)
        else if version < 1 then
          .ret ((), some .observationRequired)
        else
          recordAlone id version owner target complete

/-- The callback of `Service.Delete`. -/
def deleteBody (svc : GatewayService) (p : Principal) (id : String) : Action L Unit := do
  let row ← mutationTarget svc p id true true
  if row.live = false then
    pure ()
  else do
    Action.update (Store.deleteGateway id)
    notifyGateway id "Update" "gateway.updated"

/-- `Service.Delete`: commit a durable request.  The soft deletion blocks new account
reservations. -/
def deleteGateway (svc : GatewayService) (p : Principal) (id : String) :
    Process (Unit × Option Err) :=
  match validatePrincipal p with
  | .error e => .ret ((), some e)
  | .ok () =>
    if ¬ Platform.validID id then .ret ((), some .notFound)
    else withTransaction () (deleteBody svc p id)

end Hypershell
