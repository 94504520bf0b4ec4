import Hypershell.Gateways.Creation
import Hypershell.Gateways.IdentityCycle
import Hypershell.Storage.Accounts
import Hypershell.Storage.ResourceStates

/-!
# Provider journals

The provider's recovery records of a Gateway and of its accounts.  A live write of a Gateway's
record holds the Gateway's lock.  A cleanup write and every write of an account's record take no
lock: such a transaction is one step, at the snapshot that it reads.

## Main definitions

* `loadIdentityProviderState`, `saveIdentityProviderState` — the native and the console record
* `loadAccountProviderState`, `saveAccountProviderState`
* `IdentityStateSaved`, `AccountStateSaved` — what a save commits

## Main results

* `saveIdentityProviderState_commits`, `saveAccountProviderState_commits`
-/

namespace Hypershell

open Foundation

/-- The scope of the native record. -/
def identityProviderStateScope : String := "identity-provider"

/-- The scope of the console's record. -/
def consoleIdentityProviderStateScope : String := "console-identity-provider"

/-- `MaxGatewayProviderStateBytes`. -/
def maxGatewayProviderStateBytes : Nat := 61440

/-- `AccountProviderStateScope`: an account's record is bound to its Gateway too. -/
def accountProviderStateScope (gatewayID : String) : String := "gateway:" ++ gatewayID

/-- A Gateway's record with the revision and the deletion of the Gateway. -/
structure GatewayProviderState where
  state : ResourceState
  resourceVersion : Nat
  deleted : Bool
  deriving DecidableEq, Repr

/-- The zero value. -/
def GatewayProviderState.zero : GatewayProviderState := ⟨.absent, 0, false⟩

/-- The checks of a record that is to be saved. -/
def acceptsState (expected : Int) (envelope : List UInt8) : Bool :=
  decide (0 ≤ expected) && decide (expected ≠ Store.maxInt64) &&
    decide (envelope.length ≤ maxGatewayProviderStateBytes) && checkStateEnvelope envelope

/-- A record that is too large for a reply, or no envelope, is not shown. -/
def presentable (state : ResourceState) : Bool :=
  decide (state.version = 0) ||
    decide (state.data.length ≤ maxGatewayProviderStateBytes) && checkStateEnvelope state.data

section Calls

variable [Platform]

/-! ### The records of a Gateway -/

/-- `authorizeIdentityProviderStateRead`: one grant permits to read the console's record only. -/
def authorizeIdentityProviderStateRead (svc : GatewayService) (p : Principal) (id scope : String) :
    Except Err Unit :=
  if scope = consoleIdentityProviderStateScope ∧ validatePrincipal p = .ok () ∧
      svc.isControlPlane p = true ∧
      GatewayService.allows svc.providerStatePolicy p "Gateway" "read.console-client" "" = true then
    .ok ()
  else
    match authorizeIdentityController svc p id with
    | .ok () => .ok ()
    | .error _ => svc.authorizeCleanup p "Gateway" "identity" ""

/-- The callback of `loadIdentityProviderState`. -/
def loadIdentityProviderStateBody (id scope : String) : Action GatewayProviderState Unit := do
  let row ← Action.query (Store.getRetained id)
  Tx.require (row.id = id ∧ 1 ≤ row.resourceVersion) (.text "provider state resource does not match")
  let state ← Action.query (Store.loadResourceState id scope)
  Tx.capture fun result => { result with state := state }
  if state.version > 0 then do
    Tx.require (state.data.length ≤ maxGatewayProviderStateBytes)
      (.text "provider state exceeds RPC capacity")
    Tx.require (checkStateEnvelope state.data = true) .stateProtection
  else
    pure ()
  Tx.capture fun _ => ⟨state, row.resourceVersion, !row.live⟩

/-- `loadIdentityProviderState`. -/
def loadIdentityProviderStateIn (scope : String) (svc : GatewayService) (p : Principal)
    (id : String) : Process (GatewayProviderState × Option Err) :=
  if ¬ Platform.validID id then .ret (.zero, some .invalid)
  else
    match authorizeIdentityProviderStateRead svc p id scope with
    | .error e => .ret (.zero, some e)
    | .ok () => withTransaction .zero (loadIdentityProviderStateBody id scope)

/-- `Service.LoadConsoleIdentityProviderState`. -/
def loadConsoleIdentityProviderState (svc : GatewayService) (p : Principal) (id : String) :
    Process (GatewayProviderState × Option Err) :=
  loadIdentityProviderStateIn consoleIdentityProviderStateScope svc p id

/-- The callback of `saveIdentityProviderState`. -/
def saveIdentityProviderStateBody (id scope : String) (resourceVersion expected : Int)
    (envelope : List UInt8) (cleanup : Bool) (row : Gateway) : Action GatewayProviderState Unit := do
  Tx.require (row.id = id) (.text "provider state resource does not match")
  Tx.require ((row.resourceVersion : Int) = resourceVersion ∧ row.live = !cleanup) .versionConflict
  -- The revision and the deletion are assigned also where the save itself fails.
  Tx.capture fun _ => ⟨.absent, row.resourceVersion, !row.live⟩
  Action.update (Store.saveResourceState id scope expected envelope)
  Tx.capture fun result => { result with state := ⟨envelope, expected.toNat + 1⟩ }

/-- `saveIdentityProviderState`. -/
def saveIdentityProviderStateIn (scope : String) (svc : GatewayService) (p : Principal)
    (id : String) (resourceVersion expected : Int) (envelope : List UInt8) (cleanup : Bool) :
    Process (GatewayProviderState × Option Err) :=
  if ¬ Platform.validID id ∨ acceptsState expected envelope = false then
    .ret (.zero, some .invalid)
  else if resourceVersion < 1 then
    .ret (.zero, some .observationRequired)
  else
    match (if cleanup then svc.authorizeCleanup p "Gateway" "identity" ""
      else authorizeIdentityController svc p id) with
    | .error e => .ret (.zero, some e)
    | .ok () =>
      let save := saveIdentityProviderStateBody id scope resourceVersion expected envelope cleanup
      if cleanup then
        withTransaction .zero do
          let row ← Action.query (Store.getRetained id)
          save row
      else
        withLockedGateway .zero id save

/-- `Service.SaveIdentityProviderState`. -/
def saveIdentityProviderState (svc : GatewayService) (p : Principal) (id : String)
    (resourceVersion expected : Int) (envelope : List UInt8) (cleanup : Bool) :
    Process (GatewayProviderState × Option Err) :=
  saveIdentityProviderStateIn identityProviderStateScope svc p id resourceVersion expected envelope
    cleanup

/-- `Service.SaveConsoleIdentityProviderState`. -/
def saveConsoleIdentityProviderState (svc : GatewayService) (p : Principal) (id : String)
    (resourceVersion expected : Int) (envelope : List UInt8) (cleanup : Bool) :
    Process (GatewayProviderState × Option Err) :=
  saveIdentityProviderStateIn consoleIdentityProviderStateScope svc p id resourceVersion expected
    envelope cleanup

/-! ### The records of accounts -/

/-- `authorizeAccountProviderState`. -/
def authorizeAccountProviderState (svc : GatewayService) (p : Principal) : Except Err Unit :=
  if svc.isControlPlane p = false ∨
      GatewayService.allows svc.providerStatePolicy p "ServiceAccount" "provider-state" "" = false then
    .error .forbidden
  else
    .ok ()

end Calls

/-- The provider may be asked to change an account of this status. -/
def Status.journaled : Status → Bool
  | .provisioning | .ready | .degraded => true
  | _ => false

section Accounts

variable [Platform] {L : Type}

/-- `checkAccountProviderState`.  It reads a snapshot and takes no lock. -/
def checkAccountProviderState (gatewayID accountID : String) (cleanup : Bool) : Action L Unit := do
  let gateway ← Action.query (Store.getRetained gatewayID)
  Tx.require (gateway.id = gatewayID ∧ 1 ≤ gateway.resourceVersion)
    (.text "account provider Gateway does not match")
  Tx.require (cleanup = true ∨ gateway.live = true) .versionConflict
  match ← Action.query fun s => .ok (s.account? accountID) with
  | none => Tx.require (cleanup = true) .notFound
  | some account => do
    Tx.require (account.id = accountID ∧ account.gatewayID = gatewayID ∧
      account.clientID = "hs-sa-" ++ gatewayID ++ "-" ++ accountID) .forbidden
    Tx.require (cleanup = true ∨ account.live = true) .versionConflict
    Tx.require (cleanup = true ∨ account.status.journaled = true) .versionConflict

/-- The callback of `LoadAccountProviderState`. -/
def loadAccountProviderStateBody (gatewayID accountID : String) (cleanup : Bool) :
    Action (Option ResourceState) Unit := do
  checkAccountProviderState gatewayID accountID cleanup
  let state ← Action.query
    (Store.loadResourceState accountID (accountProviderStateScope gatewayID))
  Tx.require (presentable state = true) .resourceState
  Tx.capture fun _ => some state

/-- `Service.LoadAccountProviderState`. -/
def loadAccountProviderState (svc : GatewayService) (p : Principal) (gatewayID accountID : String)
    (cleanup : Bool) : Process (Option ResourceState × Option Err) :=
  if ¬ Platform.validID gatewayID ∨ ¬ Platform.validID accountID then .ret (none, some .invalid)
  else
    match authorizeAccountProviderState svc p with
    | .error e => .ret (none, some e)
    | .ok () => dropOnError <$>
      withTransaction none (loadAccountProviderStateBody gatewayID accountID cleanup)

/-- The callback of `SaveAccountProviderState`. -/
def saveAccountProviderStateBody (gatewayID accountID : String) (cleanup : Bool) (expected : Int)
    (envelope : List UInt8) : Action (Option ResourceState) Unit := do
  checkAccountProviderState gatewayID accountID cleanup
  Action.update
    (Store.saveResourceState accountID (accountProviderStateScope gatewayID) expected envelope)
  Tx.capture fun _ => some ⟨envelope, expected.toNat + 1⟩

/-- The transaction of `SaveAccountProviderState`. -/
def storeAccountProviderState (svc : GatewayService) (p : Principal) (gatewayID accountID : String)
    (cleanup : Bool) (expected : Int) (envelope : List UInt8) :
    Process (Option ResourceState × Option Err) :=
  if ¬ Platform.validID gatewayID ∨ ¬ Platform.validID accountID ∨
      acceptsState expected envelope = false then
    .ret (none, some .invalid)
  else
    match authorizeAccountProviderState svc p with
    | .error e => .ret (none, some e)
    | .ok () =>
      withTransaction none (saveAccountProviderStateBody gatewayID accountID cleanup expected envelope)

/-- `Service.SaveAccountProviderState`. -/
def saveAccountProviderState (svc : GatewayService) (p : Principal) (gatewayID accountID : String)
    (cleanup : Bool) (expected : Int) (envelope : List UInt8) :
    Process (Option ResourceState × Option Err) :=
  dropOnError <$> storeAccountProviderState svc p gatewayID accountID cleanup expected envelope

end Accounts

/-! ### What a save commits -/

/-- A Gateway's record was saved in one mode, at the Gateway's revision. -/
structure IdentityStateSaved (s : Store) (id scope : String) (resourceVersion expected : Int)
    (envelope : List UInt8) (cleanup : Bool) (t : Store) : Prop where
  row : ∃ g, s.gateway? id = some g ∧ (g.resourceVersion : Int) = resourceVersion ∧
    g.live = !cleanup
  saved : StateSaved s id scope expected envelope t

/-- An account's record was saved in one mode. -/
structure AccountStateSaved (s : Store) (gatewayID accountID : String) (cleanup : Bool)
    (expected : Int) (envelope : List UInt8) (t : Store) : Prop where
  gateway : ∃ g, s.gateway? gatewayID = some g ∧ (cleanup = false → g.live = true)
  account : ∀ a, s.account? accountID = some a → a.gatewayID = gatewayID ∧
    a.clientID = "hs-sa-" ++ gatewayID ++ "-" ++ accountID ∧
    (cleanup = false → a.live = true ∧ a.status.journaled = true)
  present : cleanup = false → ∃ a, s.account? accountID = some a
  saved : StateSaved s accountID (accountProviderStateScope gatewayID) expected envelope t

section Steps

attribute [local irreducible] validatePrincipal

variable [Platform] {svc : GatewayService} {p : Principal} {id scope gatewayID accountID : String}
  {resourceVersion expected : Int} {envelope : List UInt8} {cleanup : Bool}

/-- The save of a read row. -/
theorem wp_saveIdentityProviderStateBody {ω : Env} {c : Context Store Event GatewayProviderState}
    {g : Gateway} {s : Store} (here : c.store = s) (base : c.base = s)
    (stored : s.gateway? id = some g) :
    Tx.wp ω (saveIdentityProviderStateBody id scope resourceVersion expected envelope cleanup g)
      (fun _ c => c.base = s ∧
        IdentityStateSaved s id scope resourceVersion expected envelope cleanup c.store)
      (fun _ c => c.base = s) c := by
  subst here
  simp only [saveIdentityProviderStateBody, Tx.wp_bind, Tx.wp_require]
  split
  swap
  · exact base
  split
  swap
  · exact base
  rename_i current
  rw [Tx.wp_capture]
  refine Action.wp_update (fun _ => base) (fun _ _ => base) fun t wrote => ?_
  exact ⟨base, ⟨g, stored, current.1, current.2⟩, Store.saveResourceState_ok wrote⟩

/-- **A save of a Gateway's record** commits in its mode only. -/
theorem saveIdentityProviderState_commits :
    Commits (fun s t => IdentityStateSaved s id scope resourceVersion expected envelope cleanup t)
      (saveIdentityProviderStateIn scope svc p id resourceVersion expected envelope cleanup) := by
  unfold saveIdentityProviderStateIn
  split
  · exact .refused
  split
  · exact .refused
  split
  · exact .refused
  dsimp only
  split
  · refine .transaction fun ω s n => ?_
    rw [Tx.wp_bind]
    refine Action.wp_query (fun _ => rfl) (fun _ _ => rfl) fun g read => ?_
    exact wp_saveIdentityProviderStateBody rfl rfl (Store.getRetained_ok read)
  · refine .transaction fun ω s n => ?_
    rw [Tx.wp_bind]
    refine Action.wp_query (fun _ => rfl) (fun _ _ => rfl) fun g read => ?_
    exact wp_saveIdentityProviderStateBody rfl rfl (Store.getGateway_ok read).1

/-- What the check of an account's record finds. -/
theorem wp_checkAccountProviderState {L : Type} {ω : Env} {c : Context Store Event L}
    {ok : Unit → Context Store Event L → Prop} {fails : Err → Context Store Event L → Prop}
    (failed : ∀ e n, fails e (c.at n))
    (checked : ∀ n, (∃ g, c.store.gateway? gatewayID = some g ∧ (cleanup = false → g.live = true)) →
      (∀ a, c.store.account? accountID = some a → a.gatewayID = gatewayID ∧
        a.clientID = "hs-sa-" ++ gatewayID ++ "-" ++ accountID ∧
        (cleanup = false → a.live = true ∧ a.status.journaled = true)) →
      (cleanup = false → ∃ a, c.store.account? accountID = some a) → ok () (c.at n)) :
    Tx.wp ω (checkAccountProviderState gatewayID accountID cleanup) ok fails c := by
  simp only [checkAccountProviderState, Tx.wp_bind]
  refine Action.wp_query (fun _ => failed _ _) (fun _ _ => failed _ _) fun g read => ?_
  have stored := Store.getRetained_ok read
  rw [Tx.wp_require]
  split
  swap
  · exact failed _ _
  rw [Tx.wp_require]
  split
  swap
  · exact failed _ _
  rename_i open_
  have gateway : ∃ g, c.store.gateway? gatewayID = some g ∧ (cleanup = false → g.live = true) := by
    refine ⟨g, stored, fun live => open_.resolve_left ?_⟩
    simp [live]
  refine Action.wp_query (fun _ => failed _ _) (fun _ _ => failed _ _) fun found read => ?_
  have known : c.store.account? accountID = found := Except.ok.inj read
  cases found with
  | none =>
    dsimp only
    rw [Tx.wp_require]
    split
    swap
    · exact failed _ _
    rename_i cleaning
    refine checked _ gateway (fun a stored => ?_) fun live => ?_
    · rw [known] at stored
      cases stored
    · rw [cleaning] at live
      cases live
  | some a =>
    simp only [Tx.wp_bind, Tx.wp_require]
    split
    swap
    · exact failed _ _
    rename_i matching
    split
    swap
    · exact failed _ _
    rename_i alive
    split
    swap
    · exact failed _ _
    rename_i journaled
    refine checked _ gateway (fun b stored => ?_) fun _ => ⟨a, known⟩
    obtain rfl : a = b := Option.some.inj (known.symm.trans stored)
    refine ⟨matching.2.1, matching.2.2, fun live => ⟨alive.resolve_left ?_, journaled.resolve_left ?_⟩⟩
    · simp [live]
    · simp [live]

/-- **A save of an account's record** commits in its mode only. -/
theorem saveAccountProviderState_commits :
    Commits (fun s t => AccountStateSaved s gatewayID accountID cleanup expected envelope t)
      (storeAccountProviderState svc p gatewayID accountID cleanup expected envelope) := by
  unfold storeAccountProviderState
  split
  · exact .refused
  split
  · exact .refused
  refine .transaction fun ω s n => ?_
  simp only [saveAccountProviderStateBody, Tx.wp_bind]
  refine wp_checkAccountProviderState (fun _ _ => rfl) fun m gateway account present => ?_
  refine Action.wp_update (fun _ => rfl) (fun _ _ => rfl) fun t wrote => ?_
  exact ⟨rfl, gateway, account, present, Store.saveResourceState_ok wrote⟩

end Steps

end Hypershell
