import Hypershell.Foundation.Table

/-!
# Stored rows

The rows of the generated storage models, with the columns that the modelled
functions read or write, and the unique indexes of their tables.

## Design notes

* A nullable column is an `Option`; a nullable column in a composite unique index
  holds two rows together only where both values are present.
* `status` and `role` of a service account are the values the code compares them
  with.  A status text that no code writes is `Status.other`.
* Instants and durations are integers that count nanoseconds.
* Revisions and generations are `bigint` columns that only ever count up from
  one, so they are natural numbers here.
-/

namespace Hypershell

open Foundation

/-- One second. -/
def second : Int := 1000000000

/-- One minute. -/
def minute : Int := 60 * second

/-- One hour. -/
def hour : Int := 60 * minute

/-- The columns that every row has. -/
structure Meta where
  id : String
  createdTime : Int
  updatedTime : Int
  deletedAt : Option Int
  deriving DecidableEq, Repr

/-- A row that is not soft-deleted. -/
def Meta.live (m : Meta) : Bool := m.deletedAt.isNone

/-- A user, known by issuer and subject. -/
structure User extends Meta where
  username : String
  issuer : Option String
  subject : Option String
  email : String
  name : String
  deriving DecidableEq, Repr

/-- A named role. -/
structure Role extends Meta where
  name : String
  deriving DecidableEq, Repr

/-- A grant of a role to a user, for one Gateway or globally. -/
structure RoleBinding extends Meta where
  userID : String
  roleID : String
  gatewayID : Option String
  scope : String
  deriving DecidableEq, Repr

/-- A cluster that Gateways are placed on. -/
structure ManagedCluster extends Meta where
  name : String
  provider : String
  region : Option String
  kubeconfigSecret : String
  status : Option String
  apiServerURL : Option String
  deriving DecidableEq, Repr

/-- A release that Gateways run. -/
structure GatewayRelease extends Meta where
  name : String
  image : String
  rolloutStrategy : Option String
  canaryPercent : Option Int
  canaryDuration : Option String
  status : Option String
  deriving DecidableEq, Repr

/-- The parts of a Gateway that a controller observes. -/
inductive ObservationGroup
  | console
  | endpoint
  | workload
  deriving DecidableEq, Repr

/-- The owners of a deleted Gateway's cleanup. -/
inductive CleanupOwner
  | accounts
  | allocation
  | identity
  | sql
  | workload
  deriving DecidableEq, Repr

/-- The owners of conditions.  Each declares one: `ClientReady` and `GrantsSynchronized`. -/
inductive ConditionOwner
  | identity
  | identityUsers
  deriving DecidableEq, Repr

/-- The status of a condition. -/
inductive ConditionStatus
  | true
  | false
  | unknown
  deriving DecidableEq, Repr

/-- What a condition's owner last observed, and of which desired state. -/
structure StoredCondition where
  status : ConditionStatus
  reason : String
  message : String
  observedGeneration : Nat
  lastTransitionTime : Int
  deriving DecidableEq, Repr

/-- A Gateway.  `cleanupTargetState` has an entry for each owner with targets and
each cluster the Gateway was ever placed on.  `serverDNSNames` is `none` for the JSON
value `null`. -/
structure Gateway extends Meta where
  resourceVersion : Nat
  conditionState : ConditionOwner → Option StoredCondition
  cleanupState : CleanupOwner → Bool
  deletionFinalizedAt : Option Int
  cleanupTargetState : CleanupOwner → List (String × Bool)
  resourceGeneration : Nat
  observedGenerations : ObservationGroup → Nat
  name : String
  clusterID : String
  releaseID : String
  nameSpace : String
  externalDNS : Option String
  tlsMode : Option String
  serviceType : Option String
  status : Option String
  phase : Option String
  image : Option String
  supervisorImage : Option String
  serverDNSNames : Option (List String)
  routeAddress : Option String
  consoleAddress : Option String
  oidc : Option String
  route : Option String
  credentialDriver : Option String
  activeSandboxCount : Option Int

/-- The lifecycle states of a service account. -/
inductive Status
  | provisioning
  | ready
  | degraded
  | error
  | revoking
  | deleting
  | revoked
  | expired
  /-- A text that no code writes. -/
  | other (text : String)
  deriving DecidableEq, Repr

/-- `openshell-user` or `openshell-admin`. -/
inductive AccountRole
  | user
  | admin
  deriving DecidableEq, Repr

/-- A service account of a Gateway. -/
structure ServiceAccount extends Meta where
  gatewayID : String
  activeName : Option String
  name : String
  description : Option String
  credentialType : String
  role : AccountRole
  status : Status
  createdByUserID : String
  clientID : String
  clientUuid : String
  subject : String
  expiresAt : Int
  revokedAt : Option Int
  lastError : Option String
  active : Bool
  deriving DecidableEq, Repr

/-- One entry of the account audit trail. -/
structure ServiceAccountAudit extends Meta where
  serviceAccountID : String
  gatewayID : String
  actorUserID : String
  creatorUserID : String
  action : String
  outcome : String
  role : AccountRole
  expiresAt : Int
  deriving DecidableEq, Repr

/-- The registration of an external effect of a resource. -/
structure EffectRow where
  resourceID : String
  scope : String
  digest : String
  closed : Bool
  deriving DecidableEq, Repr

/-- The saved progress of a scan over a resource. -/
structure CheckpointRow where
  resourceID : String
  scope : String
  version : Nat
  afterCursor : String
  deriving DecidableEq, Repr

/-- One sealed record of a resource, such as an account's provider journal. -/
structure ResourceStateRow where
  resourceID : String
  scope : String
  version : Nat
  data : List UInt8
  deriving DecidableEq, Repr

/-- Counts the keys registered under a scope until it is sealed. -/
structure ScopeRow where
  scope : String
  revision : Nat
  sealed : Bool
  deriving DecidableEq, Repr

/-! ### Primary keys and unique indexes -/

/-- Two present and equal values of nullable indexed columns. -/
def sameEntry {α : Type} [DecidableEq α] (a b : Option α) : Bool :=
  decide (a = b) && a.isSome

theorem sameEntry_comm {α : Type} [DecidableEq α] (a b : Option α) :
    sameEntry a b = sameEntry b a := by
  by_cases same : a = b
  · rw [same]
  · simp [sameEntry, same, Ne.symm same]

instance : Relation User String where
  key u := u.id
  clash a b := sameEntry a.issuer b.issuer && sameEntry a.subject b.subject
  clash_comm a b := by rw [sameEntry_comm a.issuer, sameEntry_comm a.subject]

instance : Relation Role String where
  key r := r.id
  clash a b := decide (a.name = b.name)
  clash_comm _ _ := by simp [eq_comm]

/-- Only live grants are unique. -/
instance : Relation RoleBinding String where
  key b := b.id
  clash a b := a.live && b.live && sameEntry a.gatewayID b.gatewayID &&
    decide (a.roleID = b.roleID) && decide (a.userID = b.userID)
  clash_comm a b := by
    rw [sameEntry_comm a.gatewayID, Bool.and_comm a.live]
    simp [eq_comm]

instance : Relation ManagedCluster String where
  key c := c.id
  clash _ _ := false
  clash_comm _ _ := rfl

instance : Relation GatewayRelease String where
  key r := r.id
  clash _ _ := false
  clash_comm _ _ := rfl

instance : Relation Gateway String where
  key g := g.id
  clash a b := decide (a.nameSpace = b.nameSpace)
  clash_comm _ _ := by simp [eq_comm]

/-- The name of an account is unique in its Gateway while the account is active,
its client ID always. -/
instance : Relation ServiceAccount String where
  key a := a.id
  clash a b := decide (a.clientID = b.clientID) ||
    decide (a.gatewayID = b.gatewayID) && sameEntry a.activeName b.activeName
  clash_comm a b := by
    rw [sameEntry_comm a.activeName]
    simp [eq_comm]

instance : Relation ServiceAccountAudit String where
  key a := a.id
  clash _ _ := false
  clash_comm _ _ := rfl

instance : Relation EffectRow (String × String) where
  key r := (r.resourceID, r.scope)
  clash _ _ := false
  clash_comm _ _ := rfl

instance : Relation CheckpointRow (String × String) where
  key r := (r.resourceID, r.scope)
  clash _ _ := false
  clash_comm _ _ := rfl

instance : Relation ResourceStateRow (String × String) where
  key r := (r.resourceID, r.scope)
  clash _ _ := false
  clash_comm _ _ := rfl

instance : Relation ScopeRow String where
  key r := r.scope
  clash _ _ := false
  clash_comm _ _ := rfl

section Keys

@[simp] theorem key_gateway (g : Gateway) : Relation.key g = g.id := rfl

@[simp] theorem key_serviceAccount (a : ServiceAccount) : Relation.key a = a.id := rfl

@[simp] theorem key_serviceAccountAudit (a : ServiceAccountAudit) :
    Relation.key a = a.id := rfl

@[simp] theorem key_user (u : User) : Relation.key u = u.id := rfl

@[simp] theorem key_role (r : Role) : Relation.key r = r.id := rfl

@[simp] theorem key_roleBinding (b : RoleBinding) : Relation.key b = b.id := rfl

@[simp] theorem key_managedCluster (c : ManagedCluster) : Relation.key c = c.id := rfl

@[simp] theorem key_gatewayRelease (r : GatewayRelease) : Relation.key r = r.id := rfl

end Keys

end Hypershell
