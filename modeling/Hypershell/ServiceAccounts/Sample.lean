import Hypershell.ServiceAccounts.Executions
import Hypershell.ServiceAccounts.Processes

/-!
# A small deployment

One Gateway, its owner and at most one account: the store on which the definitions
are evaluated.

## Main definitions

* `samplePlatform` — the library functions, as they act on the sample's texts
* `sampleStore`, `sampleAccount` — the store with one account row
* `sampleEnv` — an environment without failures
-/

namespace Hypershell.Sample

open Foundation

/-- A Gateway configuration as it is stored. -/
def oidcText : String :=
  "\x7b\"issuer\":\"https://issuer.example\",\"client_id\":\"gateway\"," ++
    "\"audience\":\"gateway\"\x7d"

/-- Canonical IDs have 27 bytes. -/
scoped instance samplePlatform : Platform where
  validID id := decide (id.utf8ByteSize = 27)
  validID_empty := by decide
  payloadHex id := String.ofList (id.toList.take 16)
  toLower s := String.ofList (s.toList.map Char.toLower)
  parseTime _ := none
  unmarshalOIDC text :=
    if text = oidcText then some ("https://issuer.example", "gateway", "gateway") else none
  plainHTTPS text := decide ("https://".toList <+: text.toList)

def gatewayID : String := "0ujtsYcgvSTl8PAuAdqWYSMnLOv"

def accountID : String := "0ujsswThIGTUYm2K8FjOOfXtY1K"

def auditID : String := "0ujzPyRiIAffKhBux4PvQdDqMHY"

def ownerID : String := "0uk0ava2lavfJwMceJOOEFXEDxl"

/-- The columns of a row that was created at the time 0. -/
def sampleMeta (id : String) (deletedAt : Option Int) : Meta := ⟨id, 0, 0, deletedAt⟩

/-- The owner of the Gateway. -/
def owner : User :=
  { toMeta := sampleMeta ownerID none, username := "owner",
    issuer := some "https://issuer.example", subject := some "owner",
    email := "owner@example.com", name := "Owner" }

/-- The claims of the owner's access token. -/
def principal : Principal :=
  ⟨"https://issuer.example", "owner", "owner", "owner@example.com", "Owner", []⟩

/-- The owner and the two roles of a Gateway. -/
def directory : Directory where
  users := ⟨[owner], List.pairwise_singleton _ _⟩
  roles := ⟨[⟨sampleMeta "role-owner" none, "gateway:owner"⟩,
    ⟨sampleMeta "role-viewer" none, "gateway:viewer"⟩], by decide⟩
  bindings := ⟨[⟨sampleMeta "binding" none, ownerID, "role-owner", some gatewayID, "gateway"⟩],
    List.pairwise_singleton _ _⟩
  named := by decide

/-- The Gateway, running and healthy. -/
def gateway (deletedAt : Option Int) : Gateway :=
  { toMeta := sampleMeta gatewayID deletedAt, resourceVersion := 1,
    conditionState := fun _ => none, cleanupState := fun _ => false,
    deletionFinalizedAt := none, cleanupTargetState := fun _ => [], resourceGeneration := 1,
    observedGenerations := fun _ => 1, name := "gateway", clusterID := "cluster",
    releaseID := "release", nameSpace := "openshell", externalDNS := none, tlsMode := none,
    serviceType := none, status := some "Healthy", phase := some "Running", image := none,
    supervisorImage := none, serverDNSNames := none, routeAddress := none,
    consoleAddress := none, oidc := some oidcText, route := none, credentialDriver := none,
    activeSandboxCount := none }

/-- An account in some state, which holds its slot. -/
def account (status : Status) (role : AccountRole) (deletedAt : Option Int) : ServiceAccount :=
  { toMeta := sampleMeta accountID deletedAt, gatewayID := gatewayID,
    activeName := some "robot", name := "Robot", description := none,
    credentialType := "client_secret", role := role, status := status,
    createdByUserID := ownerID, clientID := "hs-sa-" ++ gatewayID ++ "-" ++ accountID,
    clientUuid := "uuid", subject := "subject", expiresAt := 90 * 24 * hour,
    revokedAt := none, lastError := none, active := true }

/-- A revoked account, whose slot is free. -/
def revokedAccount : ServiceAccount :=
  { account .revoked .user none with active := false, activeName := none, revokedAt := some 0 }

/-- A store at the time 0 with at most one account. -/
def store (account : Option ServiceAccount) (gatewayDeleted : Option Int) : Store :=
  { time := 0, directory := directory, clusters := .empty, releases := .empty,
    gateways := ⟨[gateway gatewayDeleted], List.pairwise_singleton _ _⟩,
    accounts := ⟨account.toList, by cases account <;> simp⟩,
    audits := .empty, outbox := [], effects := .empty, checkpoints := .empty, states := .empty,
    scopes := .empty, history := [] }

/-- The ID that the runs of the examples draw. -/
def drawnID : { id : String // Platform.validID id } := ⟨auditID, by decide⟩

/-- The ID of the Gateway that they create. -/
def drawnGatewayID : { id : String // Platform.validID id } := ⟨gatewayID, by decide⟩

/-- An environment without failures that draws one ID, where the provider returns a
credential for the client ID `hs-sa-…`. -/
def env (id : { id : String // Platform.validID id }) : Env :=
  { fault := fun _ => false
    elapsed := fun _ => 0
    entropy := fun _ => some id
    reply := fun _ => .ok ()
    credential := fun _ => .ok ⟨"hs-sa-" ++ gatewayID ++ "-" ++ accountID, "uuid", "subject", "secret"⟩
    during := fun _ d => d
    commit := .committed }

theorem env_quiet (id : { id : String // Platform.validID id }) : (env id).Quiet :=
  ⟨fun _ => rfl, fun _ _ => rfl⟩

/-- The service with a quota of one account. -/
def service : Service := ⟨⟨1, 1⟩, true, 1⟩

end Hypershell.Sample
