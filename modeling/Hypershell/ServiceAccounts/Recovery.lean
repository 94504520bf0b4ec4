import Hypershell.Gateways.Service
import Hypershell.ServiceAccounts.Cleanup
import Hypershell.ServiceAccounts.Recover

/-!
# The account tasks of the recovery

What the sweep does with an account row that a stream found: nothing, unless the row
is in the deletion state of the stream, and then the work of the account's owner.

## Main definitions

* `readOnce` — a read outside a transaction
* `recoverAccountTask` — the account branch of `recoverTask`
-/

namespace Hypershell

open Foundation

variable [Platform]

/-- Delete the client of a deleted row.  Stable IDs identify late provider resources even
when the former UUID is no longer valid. -/
def deleteLate (row : ServiceAccount) : Process (Option Err) := do
  match ← callProvider (.delete row.gatewayID row.id "") with
  | .error e => return some e
  | .ok () => return none

/-- The account branch of `recoverTask`, for a row from a stream of live or of deleted
rows. -/
def recoverAccountTask (svc : Service) (row : ServiceAccount) (deleted : Bool) (fuel : Nat) :
    Process (Option Err) :=
  -- Only the stream for the stored deletion state can act.
  if (!row.live) ≠ deleted then
    .ret none
  else if row.live = false then
    if ¬ Platform.validID row.gatewayID then
      .ret (some .scanContract)
    else do
      match ← readOnce (Store.getRetained row.gatewayID) with
      | .ok gateway =>
        if gateway.id ≠ row.gatewayID then
          return some .scanContract
        -- Gateway recovery owns every retained account and journal of a deleted one.
        else if gateway.live = false then
          return none
        else
          deleteLate row
      | .error e => if Err.is .notFound e then deleteLate row else return some e
  else
    recover svc row.gatewayID row.id fuel

/-- A live row from the stream of live rows is recovered. -/
theorem recoverAccountTask_live {svc : Service} {row : ServiceAccount} {fuel : Nat}
    (live : row.live = true) :
    recoverAccountTask svc row false fuel = recover svc row.gatewayID row.id fuel := by
  simp [recoverAccountTask, live]

end Hypershell
