import Hypershell.Gateways.Creation
import Hypershell.Gateways.IdentityCycle

/-!
# Grants of a Gateway

Owners grant and withdraw the two roles of a Gateway.  Both hold the lock of its row, and
both invalidate the identity cycle in the commit of the grant and its events.

## Main definitions

* `GrantRequest`, `createGrant`, `getGrant`, `deleteGrant`
* `meanwhile` — what other requests commit while the lock is held

## Design notes

* The lock keeps out what changes the Gateway, its grants or its checkpoints.  It does not
  keep out the projection of roles, which changes users and global grants; that may happen
  between any two operations of a callback.
-/

namespace Hypershell

open Foundation

/-- The fields of a request for a grant. -/
structure GrantRequest where
  roleID : String
  userID : String
  gatewayID : String
  scope : String
  deriving DecidableEq, Repr

variable [Platform] {L : Type}

/-- The directory after what others did, if that is what they do without the lock. -/
def projected (others : Directory → Directory) (d : Directory) : Directory :=
  if d.Projects (others d) then others d else d

theorem projects_projected (others : Directory → Directory) (d : Directory) :
    d.Projects (projected others d) := by
  unfold projected
  split
  · assumption
  · exact .refl d

/-- Other requests commit what needs no lock of a Gateway. -/
def meanwhile : Action L Unit := fun ω c =>
  (.ok (), { c.at (c.tick + 1) with
    store := { c.store with directory := projected (ω.during c.tick) c.store.directory }
    base := { c.base with directory := projected (ω.during c.tick) c.base.directory } })

/-- `notifyGrant`. -/
def notifyGrant (grant : RoleBinding) (eventType kind : String) : Action L Unit := do
  notifyGrantChange grant eventType kind
  match grant.gatewayID with
  | none => pure ()
  | some gatewayID => do
    resetIdentityCycle gatewayID
    notifyGateway gatewayID "Update" "gateway.updated"

/-- The grant that is created, once its role and its user are accepted. -/
def storeGrant (input : GrantRequest) : Action (Option RoleBinding) Unit := do
  let id ← Action.random
  Action.update (Store.createBinding
    (newGrant id.val input.userID input.roleID (some input.gatewayID) input.scope))
  let grant ← Action.query (Store.getBinding id.val)
  Tx.capture fun _ => some grant
  meanwhile
  notifyGrant grant "Create" "rolebinding.created"

/-- The callback of `CreateGrant`. -/
def createGrantBody (svc : GatewayService) (p : Principal) (input : GrantRequest) :
    Action (Option RoleBinding) Unit := do
  meanwhile
  let _ ← mutationTarget svc p input.gatewayID false false
  meanwhile
  match ← Tx.attempt (Action.query (Store.getRole input.roleID)) with
  | .error e => Tx.raise (if e = .notFound then .invalid else e)
  | .ok role => do
    Tx.require (role.name = "gateway:owner" ∨ role.name = "gateway:viewer") .forbidden
    meanwhile
    match ← Tx.attempt (Action.query (Store.getUser input.userID)) with
    | .error e => Tx.raise (if e = .notFound then .invalid else e)
    | .ok user => do
      Tx.require (user.issuer.getD "" ≠ "" ∧ user.subject.getD "" ≠ "") .invalid
      meanwhile
      storeGrant input

/-- `CreateGrant` once its principal is valid. -/
def lockedGrant (svc : GatewayService) (p : Principal) (input : GrantRequest) :
    Process (Option RoleBinding × Option Err) :=
  -- Global roles can only be projected from verified issuer claims.
  if input.scope = "global" ∧ input.gatewayID = "" ∧ Platform.validID input.userID ∧
      Platform.validID input.roleID then
    .ret (none, some .forbidden)
  else if input.scope ≠ "gateway" ∨ ¬ Platform.validID input.gatewayID ∨
      ¬ Platform.validID input.userID ∨ ¬ Platform.validID input.roleID then
    .ret (none, some .invalid)
  else
    withLockedGateway none input.gatewayID fun _ => createGrantBody svc p input

/-- `Service.CreateGrant`: commit a Gateway grant and its events under the Gateway lock. -/
def createGrant (svc : GatewayService) (p : Principal) (input : GrantRequest) :
    Process (Option RoleBinding × Option Err) :=
  match validatePrincipal p with
  | .error e => .ret (none, some e)
  | .ok () => dropOnError <$> lockedGrant svc p input

/-- The callback of `GetGrant`. -/
def getGrantBody (svc : GatewayService) (p : Principal) (id : String) :
    Action (Option RoleBinding) Unit := do
  let grant ← Action.query (Store.getBinding id)
  Tx.capture fun _ => some grant
  let user ← syncUser p
  if grant.scope = "global" then do
    Tx.require (grant.gatewayID = none) (.text "global grant has a Gateway")
    Tx.require (grant.userID = user.id) .notFound
  else
    match grant.gatewayID with
    | none => Tx.raise (.text "invalid grant scope")
    | some gatewayID => do
      Tx.require (grant.scope = "gateway") (.text "invalid grant scope")
      let _ ← Action.query (Store.getGateway gatewayID)
      if grant.userID = user.id then
        pure ()
      else do
        let _ ← mutationTarget svc p gatewayID false false

/-- `GetGrant` once its arguments are valid. -/
def readGrant (svc : GatewayService) (p : Principal) (id : String) :
    Process (Option RoleBinding × Option Err) :=
  match validatePrincipal p with
  | .error e => .ret (none, some e)
  | .ok () =>
    if ¬ Platform.validID id then .ret (none, some .notFound)
    else withTransaction none (getGrantBody svc p id)

/-- `Service.GetGrant`: permits the grantee, an owner of the Gateway, or a controller. -/
def getGrant (svc : GatewayService) (p : Principal) (id : String) :
    Process (Option RoleBinding × Option Err) :=
  dropOnError <$> readGrant svc p id

/-- The last owner of a Gateway stays. -/
def keepOwner (grant : RoleBinding) (owner : Role) (gatewayID : String) : Action L Unit :=
  if grant.roleID = owner.id then do
    let total ← Action.query fun s => .ok (s.countGrants gatewayID owner.id)
    Tx.require (¬ total ≤ 1) .lastOwner
  else
    pure ()

/-- The callback of `DeleteGrant`. -/
def deleteGrantBody (svc : GatewayService) (p : Principal) (id gatewayID : String) :
    Action Unit Unit := do
  meanwhile
  let _ ← mutationTarget svc p gatewayID false false
  meanwhile
  let grant ← Action.query (Store.getBinding id)
  Tx.require (grant.gatewayID = some gatewayID) (.text "grant changed its Gateway")
  meanwhile
  let owner ← findRole "gateway:owner"
  meanwhile
  keepOwner grant owner gatewayID
  meanwhile
  Action.update (Store.deleteBinding id)
  meanwhile
  notifyGrant grant "Delete" "rolebinding.deleted"

/-- `DeleteGrant` of the grant that was read to select the lock. -/
def deleteLocked (svc : GatewayService) (p : Principal) (id : String) (initial : RoleBinding) :
    Process (Option Err) :=
  if initial.scope = "global" then do
    match ← getGrant svc p id with
    | (_, some e) => return some e
    | (_, none) => return some .forbidden
  else
    match initial.gatewayID with
    | none => .ret (some (.text "invalid grant scope"))
    | some gatewayID =>
      if initial.scope ≠ "gateway" then
        .ret (some (.text "invalid grant scope"))
      else
        Prod.snd <$> withLockedGateway () gatewayID fun _ => deleteGrantBody svc p id gatewayID

/-- `Service.DeleteGrant`. -/
def deleteGrant (svc : GatewayService) (p : Principal) (id : String) : Process (Option Err) :=
  match validatePrincipal p with
  | .error e => .ret (some e)
  | .ok () =>
    if ¬ Platform.validID id then
      .ret (some .notFound)
    else do
      -- This read selects the lock key only.  The transaction repeats every check.
      match ← readOnce (Store.getBinding id) with
      | .error e => return some e
      | .ok initial => deleteLocked svc p id initial

end Hypershell
