import Hypershell.Gateways.Creation
import Hypershell.Storage.Observations

/-!
# Changes of a Gateway

An owner changes the desired columns of its Gateway.  A controller observes groups of
columns, or sets the identity configuration, each with an exact permission and at the
revision it has read.

## Main definitions

* `PatchRequest`, `applyPatch`
* `authorizePatch` — the permissions that a controller's change needs
* `update`, `updateControlPlane`
-/

namespace Hypershell

open Foundation

/-- The public fields of a change.  `none` leaves a field as it is, and so does an empty
list. -/
structure PatchRequest where
  name : Option String
  clusterID : Option String
  releaseID : Option String
  externalDNS : Option String
  tlsMode : Option String
  serviceType : Option String
  status : Option String
  phase : Option String
  image : Option String
  supervisorImage : Option String
  serverDNSNames : List String
  oidc : Option String
  route : Option String
  credentialDriver : Option String
  deriving DecidableEq, Repr

/-- No field. -/
def PatchRequest.empty : PatchRequest :=
  ⟨none, none, none, none, none, none, none, none, none, none, [], none, none, none⟩

variable [Platform] {L : Type}

/-- The stored columns after a change. -/
def Gateway.patched (row : Gateway) (p : PatchRequest) (console route : Option String) : Gateway :=
  { row with
    name := p.name.getD row.name
    clusterID := p.clusterID.getD row.clusterID
    releaseID := p.releaseID.getD row.releaseID
    externalDNS := p.externalDNS.or row.externalDNS
    tlsMode := p.tlsMode.or row.tlsMode
    serviceType := p.serviceType.or row.serviceType
    status := p.status.or row.status
    phase := p.phase.or row.phase
    image := p.image.or row.image
    supervisorImage := p.supervisorImage.or row.supervisorImage
    serverDNSNames := if p.serverDNSNames = [] then row.serverDNSNames else some p.serverDNSNames
    routeAddress := route.or row.routeAddress
    consoleAddress := console.or row.consoleAddress
    oidc := p.oidc.or row.oidc
    route := p.route.or row.route
    credentialDriver := p.credentialDriver.or row.credentialDriver }

/-- The texts of a change. -/
def PatchRequest.texts (p : PatchRequest) (console route : Option String) : List (Option String) :=
  [p.externalDNS, p.tlsMode, p.serviceType, p.status, p.phase, p.image, p.supervisorImage, route,
    p.oidc, p.route, p.credentialDriver, console]

/-- A credential driver that is set is not changed to another one. -/
def keepsDriver (stored patched : Option String) : Bool :=
  match patched, stored with
  | some new, some old => decide (old = "" ∨ old = new)
  | _, _ => true

/-- `applyPatch`. -/
def applyPatch (row : Gateway) (p : PatchRequest) (console route : Option String) :
    Except Err Gateway :=
  if keepsDriver row.credentialDriver p.credentialDriver = false then
    .error .conflict
  else if (p.texts console route).any fun field => field.any fun value => !validText value 8192 then
    .error .invalid
  else
    let row' := row.patched p console route
    match validateCreate ⟨row'.name, row'.clusterID, row'.releaseID, none, none, none, none, none,
        none, none, row'.serverDNSNames, none, none, none⟩ with
    | .error e => .error e
    | .ok () => .ok row'

/-- The permission that selects a change, and the rest of the fields, of which there may be
none. -/
def patchOperation (cluster : String) (p : PatchRequest) (console route : Option String) :
    Except Err (String × String × PatchRequest) :=
  if p.phase.isSome ∨ p.status.isSome then
    if p.phase = none ∨ p.status = none then
      .error .invalid
    else
      .ok ("observe.workload", cluster, { p with phase := none, status := none })
  else if route.isSome then
    if console.isSome then .error .invalid else .ok ("observe.endpoint", cluster, p)
  else if p.oidc.isSome then
    if console.isSome then .error .invalid
    else .ok ("configure.identity", "", { p with oidc := none })
  else if console.isSome then
    .ok ("configure.console", cluster, p)
  else
    .error .forbidden

/-- `authorizeControllerWrite`: the stored placement selects the permissions.  A workload
observation can include the endpoint and the console; all of their permissions are required.
Configuration cannot be mixed with observations. -/
def authorizePatch (svc : GatewayService) (p : Principal) (cluster : String) (patch : PatchRequest)
    (console route : Option String) : Except Err Unit :=
  match patchOperation cluster patch console route with
  | .error e => .error e
  | .ok (operation, target, rest) =>
    if rest ≠ .empty then
      .error .invalid
    else
      match svc.authorizeControllerWrite p "Gateway" operation target with
      | .error e => .error e
      | .ok () =>
        match (if (patch.phase.isSome ∨ patch.status.isSome) ∧ route.isSome then
            svc.authorizeControllerWrite p "Gateway" "observe.endpoint" cluster else .ok ()) with
        | .error e => .error e
        | .ok () =>
          if (patch.phase.isSome ∨ patch.status.isSome) ∧ console.isSome then
            svc.authorizeControllerWrite p "Gateway" "configure.console" cluster
          else
            .ok ()

/-- The groups that a change observes, in the order in which they are written. -/
def PatchRequest.observations (p : PatchRequest) (console route : Option String) :
    List Observation :=
  (p.phase.map fun phase => Observation.workload phase (p.status.getD "")).toList ++
    (route.map Observation.endpoint).toList ++ (console.map Observation.console).toList

/-- Observe one group after another.  Each write names the revision that the one before has
left; the first one names the revision that the caller has read. -/
def observeAll (id : String) : Int → List Observation → Action L Unit
  | _, [] => pure ()
  | version, observation :: rest => do
    Action.update (Store.observeIfVersion id version observation)
    let written ← Action.query (Store.getGateway id)
    Tx.require (version < written.resourceVersion) (.text "Gateway observation revision is invalid")
    observeAll id written.resourceVersion rest

/-- The write of a change: observations, or the desired columns. -/
def writePatch (id : String) (version : Int) (row : Gateway) (observations : List Observation) :
    Action L Unit :=
  if observations ≠ [] then
    observeAll id version observations
  else if version > 0 then
    Action.update (Store.replaceIfVersion id version row)
  else
    Action.update (Store.replaceGateway id row)

/-- A reference of a change must exist. -/
def checkPatched {R : Type} (read : String → Store → Except Err R) (reference : Option String) :
    Action L Unit :=
  match reference with
  | none => pure ()
  | some id => checkReference (read id)

/-- The callback of `update`. -/
def updateBody (svc : GatewayService) (p : Principal) (id : String) (patch : PatchRequest)
    (console route : Option String) (version : Int) : Action (Option Gateway) Unit := do
  let current ← mutationTarget svc p id false false
  Tx.lift (if version > 0 then authorizePatch svc p current.clusterID patch console route
    else .ok ())
  let row ← Tx.lift (applyPatch current patch console route)
  checkPatched Store.getCluster patch.clusterID
  checkPatched Store.getRelease patch.releaseID
  Tx.require (row.clusterID = current.clusterID) .conflict
  writePatch id version row (patch.observations console route)
  let stored ← Action.query (Store.getGateway id)
  Tx.capture fun _ => some stored
  notifyGateway id "Update" "gateway.updated"

/-- `update` without its result. -/
def updateGatewayRow (svc : GatewayService) (p : Principal) (id : String) (patch : PatchRequest)
    (console route : Option String) (version : Int) : Process (Option Gateway × Option Err) :=
  match validatePrincipal p with
  | .error e => .ret (none, some e)
  | .ok () =>
    if ¬ Platform.validID id then .ret (none, some .notFound)
    else withTransaction none (updateBody svc p id patch console route version)

/-- `Service.Update`. -/
def update (svc : GatewayService) (p : Principal) (id : String) (patch : PatchRequest) :
    Process (Option Gateway × Option Err) :=
  match validatePrincipal p with
  | .error e => .ret (none, some e)
  | .ok () =>
    if svc.isControlPlane p then
      .ret (none, some .observationRequired)
    else if patch.phase.isSome ∨ patch.status.isSome then
      .ret (none, some (.text "phase, status, and route_address are controller-owned fields"))
    else
      dropOnError <$> updateGatewayRow svc p id patch none none 0

/-- `Service.UpdateControlPlane`: it requires the revision that was read before external
work. -/
def updateControlPlane (svc : GatewayService) (p : Principal) (id : String) (patch : PatchRequest)
    (console route : Option String) (version : Int) : Process (Option Gateway × Option Err) :=
  match validatePrincipal p with
  | .error e => .ret (none, some e)
  | .ok () =>
    if svc.isControlPlane p = false then
      .ret (none, some .forbidden)
    else if version < 1 then
      .ret (none, some .observationRequired)
    else
      dropOnError <$> updateGatewayRow svc p id patch console route version

end Hypershell
