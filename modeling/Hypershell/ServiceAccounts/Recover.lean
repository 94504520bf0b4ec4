import Hypershell.ServiceAccounts.Service

/-!
# Recovery of one account

`Recover` enforces terminal actions and the creator's current role ceiling.  Its
first transaction stores what is pending before the provider is contacted, its
second contacts the provider and stores the result.  It never creates a client,
raises its role, or returns a secret.

## Main definitions

* `recoverIntent`, `recoverSettle` — the two transactions
* `recover` — both, and once more after a failed role reduction

## Design notes

`recover` calls itself after it queued a revocation.  The model bounds the calls
by `fuel`; `Err.recursionLimit` is what a call beyond the bound returns.
-/

namespace Hypershell

open Foundation

variable [Platform]

/-- Store an intent of the system and report it. -/
def saveIntent (row : ServiceAccount) : Action Bool Unit := do
  let row ← save row
  audit row "system" "reconcile" "started"

/-- Store what is pending for a row before any external role or expiry action. -/
def storeIntent (gatewayID : String) (row : ServiceAccount) : Action Bool Unit :=
  if row.status = .degraded ∧ row.role = .admin then do
    -- Earlier versions did not store the lower role with pending state.
    let _ ← save { row with role := .user }
  else if row.status ≠ .ready then
    pure ()
  else do
    match ← Tx.attempt (accessForUser gatewayID row.createdByUserID) with
    | .error e =>
      if Err.is .notFound e then saveIntent { row with status := .revoking }
      else Tx.raise e
    | .ok access => do
      let now ← Action.now
      if ¬ now < row.expiresAt then
        saveIntent { row with status := .revoking }
      else if row.role = .admin ∧ access.owner = false then
        saveIntent { row with status := .degraded, role := .user }
      else
        Tx.capture fun _ => false

/-- The callback of the first transaction. -/
def intentBody (gatewayID id : String) : Action Bool Unit := do
  match ← Tx.attempt (account gatewayID id) with
  | .error e => if Err.is .notFound e then Tx.capture fun _ => false else Tx.raise e
  | .ok row => storeIntent gatewayID row

/-- The first transaction of `Recover`.  Its variable is `pending`. -/
def recoverIntent (gatewayID id : String) : Process (Bool × Option Err) :=
  locked gatewayID true fun _ => intentBody gatewayID id

/-- What the provider is told about an account. -/
def specOf (row : ServiceAccount) (gatewayID : String) (connection : Connection)
    (role : AccountRole) : Spec :=
  { clientID := row.clientID
    displayName := row.name
    gatewayClientID := connection.audience
    gatewayID := gatewayID
    serviceAccountID := row.id
    creatorUserID := row.createdByUserID
    role := role
    expectedIssuer := connection.issuer
    accessTokenLifetimeSeconds := 300 }

/-- Restore a degraded account at no more than its creator's role.  A failure
queues its revocation. -/
def restore (gatewayID : String) (gateway : Gateway) (row : ServiceAccount)
    (access : Access) : Action Bool Unit := do
  let desired := if access.owner then row.role else .user
  let result ← match oidcConnection gateway row.clientID false with
    | .error e => pure (.error e)
    | .ok connection =>
      Action.contact
        (.reconcile (specOf row gatewayID connection desired) row.clientUuid row.subject)
        Env.reply
  match result with
  | .error _ => do
    -- An invalid identity or failed role reduction must not preserve the old
    -- credential: commit terminal intent before provider cleanup.
    let row ← save { row with status := .revoking }
    Tx.capture fun _ => true
    audit row "system" "revoke" "started"
  | .ok () => do
    let row ← save { row with role := desired, status := .ready, lastError := none }
    audit row "system" "reconcile" "succeeded"

/-- The call that removes an account's client, or stops its issuance for good. -/
def retirement (row : ServiceAccount) (remove : Bool) : Call :=
  if remove then .delete row.gatewayID row.id row.clientUuid
  else .revoke row.gatewayID row.id row.clientUuid

/-- Remove or revoke an account at the provider and store that it released its
slot. -/
def retire (row : ServiceAccount) (remove : Bool) : Action Bool Unit := do
  match ← Action.contact (retirement row remove) Env.reply with
  | .error _ => Tx.raise .unavailable
  | .ok () => do
    let row := { row with active := false, activeName := none, lastError := none }
    if remove then do
      let row ← save row
      audit row "system" "delete" "succeeded"
      Action.update (Store.deleteAccount row.id)
    else do
      let now ← Action.now
      let row := { row with revokedAt := if row.revokedAt.isNone then some now else row.revokedAt }
      let later ← Action.now
      let row ← save { row with status := if ¬ later < row.expiresAt then .expired else .revoked }
      audit row "system" "revoke" "succeeded"

/-- Enforce a degraded account's role ceiling, or revoke it. -/
def settleDegraded (gatewayID : String) (gateway : Gateway) (row : ServiceAccount) :
    Action Bool Unit := do
  match ← Tx.attempt (accessForUser gatewayID row.createdByUserID) with
  | .error e => if Err.is .notFound e then retire row false else Tx.raise e
  | .ok access => do
    let now ← Action.now
    if now < row.expiresAt then restore gatewayID gateway row access
    else retire row false

/-- Contact the provider as the status of the row demands. -/
def settle (gatewayID : String) (gateway : Gateway) (row : ServiceAccount) :
    Action Bool Unit :=
  match row.status with
  | .error | .deleting => retire row true
  | .provisioning => do
    let now ← Action.now
    if now < row.createdTime + reclaimAfter then Tx.raise .busy else retire row true
  | .revoking | .revoked | .expired => retire row false
  | .ready => pure ()
  | .degraded => settleDegraded gatewayID gateway row
  | .other _ => Tx.raise (.text "unknown service-account state")

/-- The callback of the second transaction. -/
def settleBody (gatewayID id : String) (gateway : Gateway) : Action Bool Unit := do
  match ← Tx.attempt (account gatewayID id) with
  | .error e => if Err.is .notFound e then pure () else Tx.raise e
  | .ok row => settle gatewayID gateway row

/-- The second transaction of `Recover`.  Its variable is `queuedRevocation`. -/
def recoverSettle (gatewayID id : String) : Process (Bool × Option Err) :=
  locked gatewayID false (settleBody gatewayID id)

/-- `Service.Recover`, with at most `fuel` nested calls. -/
def recover (svc : Service) (gatewayID id : String) : Nat → Process (Option Err)
  | 0 => .ret (some .recursionLimit)
  | fuel + 1 =>
    if svc.provider = false then
      .ret (some .unavailable)
    else do
      let (pending, err) ← recoverIntent gatewayID id
      if err.isSome ∨ pending = false then
        return err
      else
        let (queuedRevocation, err) ← recoverSettle gatewayID id
        if err = none ∧ queuedRevocation = true then
          recover svc gatewayID id fuel
        else
          return err

end Hypershell
