import Hypershell.ServiceAccounts.Create

/-!
# Cleanup of one account of a deleted Gateway

Under a deleted Gateway no account operation finds a live Gateway row to lock.
The cleanup of the Gateway removes each retained account at the provider and then,
under the lock of the account row itself, from live storage.

## Main definitions

* `callProvider` — a provider call outside a transaction
* `cleanupGatewayAccount`
-/

namespace Hypershell

open Foundation

variable [Platform]

/-- A provider call outside a transaction, joined with the error of its deadline. -/
def callProvider (call : Call) : Process (Except Err Unit) :=
  .once fun ω s =>
    let answer := ω.reply 0
    let event : Event := ⟨call, s.time, answer.isOk⟩
    ⟨Action.afterCall s event (ω.during 0), [event], answer⟩

/-- The callback of `cleanupGatewayAccount`: release and delete the locked account. -/
def removeBody (row current : ServiceAccount) : Action Unit Unit := do
  Tx.require (current.id = row.id ∧ current.gatewayID = row.gatewayID) .scanContract
  let revokedAt ← match current.revokedAt with
    | some t => pure (some t)
    | none => some <$> Action.now
  let current ← save { current with
    status := .deleting, active := false, activeName := none, lastError := none,
    revokedAt := revokedAt }
  audit current "system" "gateway_cleanup" "succeeded"
  Action.update (Store.deleteAccount current.id)

/-- The body of a transaction that holds the lock of a live account row. -/
def underAccount (id : String) (body : ServiceAccount → Action Unit Unit) :
    Action Unit Unit := do
  Action.query fun _ => .ok ()
  let row ← Action.query fun s => s.getAccount id
  body row

/-- The transaction of `cleanupGatewayAccount`. -/
def removeAccount (row : ServiceAccount) : Process (Unit × Option Err) :=
  transact Env.commit .storage () (underAccount row.id (removeBody row))

/-- `Service.cleanupGatewayAccount`, for a retained row that was read before. -/
def cleanupGatewayAccount (row : ServiceAccount) : Process (Option Err) := do
  match ← callProvider (.delete row.gatewayID row.id row.clientUuid) with
  | .error e => return some e
  | .ok () =>
    if row.live = false then
      return none
    else
      -- Another cleanup worker can commit the same metadata first.  The live row
      -- lock prevents a duplicate success audit.
      match ← removeAccount row with
      | (_, none) => return none
      | (_, some e) => return if Err.is .notFound e then none else some e

end Hypershell
