import Hypershell.Gateways.Service
import Hypershell.Storage.Directory

/-!
# Creation of a Gateway

A Gateway, its owner's grant, its placement and their events are one change.

## Main definitions

* `GatewayCreateRequest`, `validateCreate`
* `createGateway`
* `prepareRequest` — the projection of a token's roles into global grants
-/

namespace Hypershell

open Foundation

/-- The fields of a request.  Namespace and ownership are absent.  `none` is `nil`. -/
structure GatewayCreateRequest where
  name : String
  clusterID : String
  releaseID : String
  externalDNS : Option String
  tlsMode : Option String
  serviceType : Option String
  status : Option String
  phase : Option String
  image : Option String
  supervisorImage : Option String
  serverDNSNames : Option (List String)
  oidc : Option String
  route : Option String
  credentialDriver : Option String
  deriving DecidableEq, Repr

/-- The optional texts of a request. -/
def GatewayCreateRequest.optional (r : GatewayCreateRequest) : List (Option String) :=
  [r.externalDNS, r.tlsMode, r.serviceType, r.status, r.phase, r.image, r.supervisorImage, r.oidc,
    r.route, r.credentialDriver]

variable [Platform] {L : Type}

/-- `validateCreate`. -/
def validateCreate (r : GatewayCreateRequest) : Except Err Unit :=
  if trimSpace r.name = "" ∨ validText r.name 255 = false ∨ ¬ Platform.validID r.clusterID ∨
      ¬ Platform.validID r.releaseID then
    .error .invalid
  else if (r.serverDNSNames.getD []).length > 128 then
    .error .invalid
  else if (r.serverDNSNames.getD []).any fun name => !validText name 253 then
    .error .invalid
  else if r.optional.any fun field => field.any fun value => !validText value 8192 then
    .error .invalid
  else
    .ok ()

/-- A placement reference must exist. -/
def checkReference {R : Type} (read : Store → Except Err R) : Action L Unit := do
  match ← Tx.attempt (Action.query read) with
  | .ok _ => pure ()
  | .error .notFound => Tx.raise .invalid
  | .error e => Tx.raise e

/-- `notifyGrantChange`. -/
def notifyGrantChange (grant : RoleBinding) (eventType kind : String) : Action L Unit :=
  Action.update (Store.notify grant.id eventType kind)

/-- The row of a request. -/
def GatewayCreateRequest.row (r : GatewayCreateRequest) (id : String) : Gateway :=
  { id := id, createdTime := 0, updatedTime := 0, deletedAt := none, resourceVersion := 0,
    conditionState := fun _ => none, cleanupState := fun _ => false, deletionFinalizedAt := none,
    cleanupTargetState := fun _ => [], resourceGeneration := 0, observedGenerations := fun _ => 0,
    name := r.name, clusterID := r.clusterID, releaseID := r.releaseID,
    nameSpace := "openshell-" ++ Platform.payloadHex id, externalDNS := r.externalDNS,
    tlsMode := r.tlsMode, serviceType := r.serviceType, status := r.status, phase := r.phase,
    image := r.image, supervisorImage := r.supervisorImage, serverDNSNames := r.serverDNSNames,
    routeAddress := none, consoleAddress := none, oidc := r.oidc, route := r.route,
    credentialDriver := r.credentialDriver, activeSandboxCount := none }

/-- A new grant. -/
def newGrant (id userID roleID : String) (gatewayID : Option String) (scope : String) :
    RoleBinding :=
  { id := id, createdTime := 0, updatedTime := 0, deletedAt := none, userID := userID,
    roleID := roleID, gatewayID := gatewayID, scope := scope }

/-- The callback of `Create`. -/
def createGatewayBody (p : Principal) (r : GatewayCreateRequest) : Action (Option Gateway) Unit := do
  let user ← syncUser p
  -- The two references are read in any order: each is read, or the request fails.
  checkReference (Store.getCluster r.clusterID)
  checkReference (Store.getRelease r.releaseID)
  let id ← Action.random
  Action.update (Store.createGateway (r.row id.val))
  let role ← findRole "gateway:owner"
  let bindingID ← Action.random
  let grant := newGrant bindingID.val user.id role.id (some id.val) "gateway"
  Action.update (Store.createBinding grant)
  notifyGrantChange grant "Create" "rolebinding.created"
  let stored ← Action.query (Store.getGateway id.val)
  Tx.capture fun _ => some stored
  notifyGateway stored.id "Create" "gateway.created"

/-- Nothing is returned with an error. -/
def dropOnError {R : Type} : Option R × Option Err → Option R × Option Err
  | (result, none) => (result, none)
  | (_, some e) => (none, some e)

/-- The request with the deployment's placement where its own is empty. -/
def GatewayService.placed (svc : GatewayService) (r : GatewayCreateRequest) : GatewayCreateRequest :=
  { r with
    releaseID := if r.releaseID = "" then svc.defaultReleaseID else r.releaseID
    clusterID := if r.clusterID = "" then svc.defaultClusterID else r.clusterID }

/-- The transaction of `Create`, once the caller may create. -/
def placeGateway (svc : GatewayService) (p : Principal) (r : GatewayCreateRequest) :
    Process (Option Gateway × Option Err) :=
  match validatePrincipal p with
  | .error e => .ret (none, some e)
  | .ok () =>
    if svc.isControlPlane p = false ∧ "gateway:creator" ∉ p.roles then
      .ret (none, some .forbidden)
    else if r.phase.isSome ∨ r.status.isSome then
      .ret (none, some (.text "phase, status, and route_address are controller-owned fields"))
    else
      match validateCreate (svc.placed r) with
      | .error e => .ret (none, some e)
      | .ok () => withTransaction none (createGatewayBody p (svc.placed r))

/-- `Service.Create`. -/
def createGateway (svc : GatewayService) (p : Principal) (r : GatewayCreateRequest) :
    Process (Option Gateway × Option Err) :=
  dropOnError <$> placeGateway svc p r

/-! ### The projection of roles -/

/-- The global grants of a user for one of the roles. -/
def globalGrants (userID : String) (roles : List Role) (s : Store) :
    Except Err (List RoleBinding) :=
  .ok (s.directory.bindings.rows.filter fun b => b.live && decide (b.userID = userID) &&
    decide (b.scope = "global") && decide (b.roleID ∈ roles.map fun r => r.id))

/-- At most one grant of each role, and none for a Gateway. -/
def checkGlobal (rows : List RoleBinding) : Except Err Unit :=
  if rows.length > 2 then .error (.text "global role projection is inconsistent")
  else if rows.any fun row => row.gatewayID.isSome then .error (.text "global role has a Gateway")
  else if (rows.map fun row => row.roleID).Nodup then .ok ()
  else .error (.text "global role is duplicated")

/-- Grant or withdraw one global role, as the token says. -/
def projectRole (p : Principal) (user : User) (rows : List RoleBinding) (role : Role) :
    Action L Unit := do
  match rows.find? fun row => decide (row.roleID = role.id) with
  | none =>
    if role.name ∈ p.roles then do
      let id ← Action.random
      let row := newGrant id.val user.id role.id none "global"
      Action.update (Store.createBinding row)
      notifyGrantChange row "Create" "rolebinding.created"
    else
      pure ()
  | some row =>
    if role.name ∈ p.roles then
      pure ()
    else do
      Action.update (Store.deleteBinding row.id)
      notifyGrantChange row "Delete" "rolebinding.deleted"

/-- The callback of `PrepareRequest`. -/
def prepareBody (p : Principal) : Action L Unit := do
  let user ← syncUser p
  let creator ← findRole "gateway:creator"
  let admin ← findRole "platform:admin"
  let rows ← Action.query (globalGrants user.id [creator, admin])
  Tx.lift (checkGlobal rows)
  projectRole p user rows creator
  projectRole p user rows admin

/-- `Service.PrepareRequest`: project the verified claims once at the request boundary. -/
def prepareRequest (p : Principal) : Process (Unit × Option Err) :=
  match validatePrincipal p with
  | .error e => .ret ((), some e)
  | .ok () => withTransaction () (prepareBody p)

end Hypershell
