import Hypershell.ServiceAccounts.Recover

/-!
# Creation and change of an account

`Create` reserves the account, contacts the provider in a second transaction and,
if anything there failed, compensates in a third and through recovery.  `Change`
stores a requested terminal action before it contacts the provider.

## Main definitions

* `create` — with `reserve`, `provision` and `compensate`, its transactions
* `change` — with `request`, its transaction

## Design notes

The callbacks of `Create` assign variables of the enclosing function, which a
rollback does not restore.  `Creation` holds them; in particular the second
callback assigns `row` from the row it reads again, also when that read fails.
-/

namespace Hypershell

open Foundation

/-- The body of a creation request. -/
structure CreateRequest where
  name : String
  description : Option String
  credentialType : String
  role : String
  expiresAt : Option String
  deriving DecidableEq, Repr

/-- What a successful creation returns, once. -/
structure Created where
  account : ServiceAccount
  connection : Connection
  secret : String
  deriving DecidableEq, Repr

/-- The zero value of an account row. -/
def ServiceAccount.zero : ServiceAccount :=
  { id := "", createdTime := 0, updatedTime := 0, deletedAt := none, gatewayID := "",
    activeName := none, name := "", description := none, credentialType := "", role := .user,
    status := .other "", createdByUserID := "", clientID := "", clientUuid := "", subject := "",
    expiresAt := 0, revokedAt := none, lastError := none, active := false }

@[simp] theorem ServiceAccount.zero_id : ServiceAccount.zero.id = "" := rfl

/-- The variables of `Create` that its callbacks assign. -/
structure Creation where
  row : ServiceAccount
  connection : Connection
  credential : Credential
  resultErr : Option Err
  deriving DecidableEq, Repr

/-- Their values at the start. -/
def Creation.zero : Creation := ⟨.zero, .empty, .empty, none⟩

/-- A request that passed validation.  Its name has no spaces around it. -/
structure Reservation where
  name : { name : String // trimSpace name = name }
  description : Option String
  role : AccountRole
  expires : Int
  deriving DecidableEq

variable [Platform]

/-- `s.now()` outside a transaction. -/
def readClock : Process Int :=
  .once fun ω s =>
    let t := s.time + ω.elapsed 0
    ⟨{ s with time := t }, [], t⟩

/-- The role a request names; the user role if it names none. -/
def requestedRole (role : String) : Except Err AccountRole :=
  if role = "" ∨ role = "openshell-user" then .ok .user
  else if role = "openshell-admin" then .ok .admin
  else .error .invalid

/-- The checks of a request before the clock is read: name and role. -/
def validateRequest (input : CreateRequest) :
    Except Err ({ name : String // trimSpace name = name } × AccountRole) :=
  let name : { name : String // trimSpace name = name } :=
    ⟨trimSpace input.name, trimSpace_trimSpace input.name⟩
  if name.val = "" ∨ ¬ validText name.val 128 ∨ ¬ validText (input.description.getD "") 1024 then
    .error .invalid
  else if input.credentialType ≠ "" ∧ input.credentialType ≠ "client_secret" then
    .error .invalid
  else
    match requestedRole input.role with
    | .error e => .error e
    | .ok role => .ok (name, role)

/-- The expiry of a new account. -/
def expiryOf (input : CreateRequest) (now : Int) : Except Err Int :=
  match input.expiresAt with
  | none => .ok (now + defaultExpiration)
  | some text =>
    match Platform.parseTime text with
    | none => .error .invalid
    | some expires =>
      if expires - now < minimumExpiration ∨ expires - now > maximumExpiration then
        .error .invalid
      else
        .ok expires

/-- One step of the quota check: a creator's accounts, or all for the empty
creator. -/
def checkQuota (svc : Service) (gatewayID creator : String) : Action Creation Unit := do
  let total ← Action.query fun s => .ok (s.countActive gatewayID creator)
  if creator = "" then
    Tx.require ((total : Int) < svc.limits.perGateway) .gatewayQuota
  else
    Tx.require ((total : Int) < svc.limits.perCreator) .creatorQuota

/-- The row that a reservation stores. -/
def reservedRow (gatewayID id : String) (input : Reservation) (creator : String) :
    ServiceAccount :=
  { id := id
    createdTime := 0
    updatedTime := 0
    deletedAt := none
    gatewayID := gatewayID
    activeName := some (Platform.toLower input.name.val)
    name := input.name.val
    description := input.description
    credentialType := "client_secret"
    role := input.role
    status := .provisioning
    createdByUserID := creator
    clientID := "hs-sa-" ++ gatewayID ++ "-" ++ id
    clientUuid := ""
    subject := ""
    expiresAt := input.expires
    revokedAt := none
    lastError := none
    active := true }

/-- Reserve an account for a creator whose access was checked. -/
def storeReservation (svc : Service) (gatewayID : String) (input : Reservation)
    (creator : String) : Action Creation Unit := do
  checkQuota svc gatewayID creator
  checkQuota svc gatewayID ""
  let id ← Action.random
  let row := reservedRow gatewayID id.val input creator
  Tx.capture fun v => { v with row := row }
  Action.update (Store.createAccount row)
  audit row creator "create" "started"

/-- The callback of the first transaction. -/
def reserveBody (svc : Service) (p : Principal) (gatewayID : String) (input : Reservation)
    (gateway : Gateway) : Action Creation Unit := do
  let access ← resolveAccess p gatewayID
  Tx.require (allowed access input.role = true) .role
  Tx.require (svc.provider = true) .unavailable
  match oidcConnection gateway "" true with
  | .error e => Tx.raise e
  | .ok connection => do
    Tx.capture fun v => { v with connection := connection }
    storeReservation svc gatewayID input access.userID

/-- The first transaction of `Create`: check access and quotas, reserve the
account. -/
def reserve (svc : Service) (p : Principal) (gatewayID : String) (input : Reservation) :
    Process (Creation × Option Err) :=
  locked gatewayID Creation.zero (reserveBody svc p gatewayID input)

/-- Mark a creation as failed. -/
def failCreation {L : Type} (assign : ServiceAccount → L → L) (row : ServiceAccount)
    (reason : String) : Action L Unit := do
  let row := { row with status := .error, lastError := some reason }
  Tx.capture (assign row)
  let row ← save row
  Tx.capture (assign row)
  audit row row.createdByUserID "create" "failed"

/-- Assign `row` in `Create`. -/
def Creation.assign (row : ServiceAccount) (v : Creation) : Creation := { v with row := row }

/-- The provider's credential fits the account and has every part. -/
def Credential.fits (credential : Credential) (row : ServiceAccount) : Bool :=
  decide (credential.clientID = row.clientID) && decide (credential.clientUUID ≠ "") &&
    validText credential.clientUUID 255 && decide (credential.subject ≠ "") &&
    validText credential.subject 255 && decide (credential.secret ≠ "") &&
    validText credential.secret 8192

/-- A grant that still permits the role. -/
def permits (access : Except Err Access) (role : AccountRole) : Bool :=
  match access with
  | .error _ => false
  | .ok access => allowed access role

omit [Platform] in
@[simp] theorem permits_error (e : Err) (role : AccountRole) :
    permits (.error e) role = false := rfl

/-- Mark the creation as failed for the error that `Create` will return. -/
def refuse (row : ServiceAccount) (err : Err) (reason : String) : Action Creation Unit := do
  Tx.capture fun v => { v with resultErr := some err, credential := .empty }
  failCreation Creation.assign row reason

/-- The end of a provisioning whose credential fits: the grant can change while the
provider is working, so it is read again. -/
def deliver (p : Principal) (gatewayID : String) (row : ServiceAccount) :
    Action Creation Unit := do
  let access ← Tx.attempt (resolveAccess p gatewayID)
  if permits access row.role = false then
    refuse row .role "creator_access_changed"
  else do
    let row := { row with status := .ready, lastError := none }
    Tx.capture (Creation.assign row)
    let row ← save row
    Tx.capture (Creation.assign row)
    audit row row.createdByUserID "create" "succeeded"

/-- Create the client of a reserved account and keep what the provider returns, if
it fits. -/
def contactProvider (p : Principal) (gatewayID : String) (row : ServiceAccount)
    (connection : Connection) : Action Creation Unit := do
  match ← Action.contact (.provision (specOf row gatewayID connection row.role))
      Env.credential with
  | .error _ => refuse row .unavailable "provisioning_failed"
  | .ok credential =>
    if credential.fits row = false then
      refuse row .unavailable "provisioning_failed"
    else do
      let row := { row with clientUuid := credential.clientUUID, subject := credential.subject }
      Tx.capture fun v => { v with row := row, credential := credential }
      deliver p gatewayID row

/-- Check again what the reservation checked, and contact the provider. -/
def provisionRow (p : Principal) (gatewayID : String) (role : AccountRole) (gateway : Gateway)
    (row : ServiceAccount) : Action Creation Unit := do
  Tx.require (row.status = .provisioning) .busy
  let access ← Tx.attempt (resolveAccess p gatewayID)
  match oidcConnection gateway row.clientID true with
  | .error _ => do
    Tx.capture fun v => { v with connection := .empty }
    refuse row .role "creator_access_changed"
  | .ok connection => do
    Tx.capture fun v => { v with connection := connection }
    if permits access role = false then
      refuse row .role "creator_access_changed"
    else
      contactProvider p gatewayID row connection

/-- The callback of the second transaction, for the ID that `row` has when it
starts. -/
def provisionBody (p : Principal) (gatewayID id : String) (role : AccountRole)
    (gateway : Gateway) : Action Creation Unit := do
  match ← Tx.attempt (account gatewayID id) with
  | .error e => do
    -- `row, err = account(...)` assigns the zero row, too.
    Tx.capture (Creation.assign .zero)
    Tx.raise e
  | .ok row => do
    Tx.capture (Creation.assign row)
    provisionRow p gatewayID role gateway row

/-- The second transaction of `Create`: contact the provider and store the
result. -/
def provision (p : Principal) (gatewayID : String) (role : AccountRole) (vars : Creation) :
    Process (Creation × Option Err) :=
  locked gatewayID vars (provisionBody p gatewayID vars.row.id role)

/-- The callback of the third transaction. -/
def compensateBody (gatewayID id : String) : Action Unit Unit := do
  let current ← account gatewayID id
  if current.status ≠ .provisioning ∧ current.status ≠ .ready then
    pure ()
  else
    failCreation (fun _ v => v) current "credential_not_delivered"

/-- The third transaction of `Create`: mark the account whose credential nobody
received. -/
def compensate (gatewayID id : String) : Process (Unit × Option Err) :=
  locked gatewayID () fun _ => compensateBody gatewayID id

/-- The end of `Create` after a failure: cleanup uses stable resource IDs even if the
provider's reply was lost. -/
def abandon (svc : Service) (fuel : Nat) (gatewayID id : String) (err : Err) :
    Process (Except Err Created) := do
  let _ ← compensate gatewayID id
  let _ ← recover svc gatewayID id fuel
  return .error err

/-- `Create` once the reservation has committed. -/
def provisionReserved (svc : Service) (fuel : Nat) (p : Principal) (gatewayID : String)
    (role : AccountRole) (vars : Creation) : Process (Except Err Created) := do
  let (vars, err) ← provision p gatewayID role vars
  match joinErrors err vars.resultErr with
  | none => return .ok ⟨vars.row, vars.connection, vars.credential.secret⟩
  | some e => abandon svc fuel gatewayID vars.row.id e

/-- `Create` once its request is valid. -/
def createReserved (svc : Service) (fuel : Nat) (p : Principal) (gatewayID : String)
    (input : Reservation) : Process (Except Err Created) := do
  let (vars, err) ← reserve svc p gatewayID input
  match err with
  | some e => return .error e
  | none =>
    -- The reservation commits before the external call: a lost response or
    -- process leaves stable IDs for recovery.
    provisionReserved svc fuel p gatewayID input.role vars

/-- `Service.Create`. -/
def create (svc : Service) (fuel : Nat) (p : Principal) (gatewayID : String)
    (input : CreateRequest) : Process (Except Err Created) :=
  match validateRequest input with
  | .error e => .ret (.error e)
  | .ok (name, role) => do
    let now ← readClock
    match expiryOf input now with
    | .error e => return .error e
    | .ok expires =>
      createReserved svc fuel p gatewayID ⟨name, input.description, role, expires⟩

/-- Store the requested terminal action of a row the caller may change. -/
def storeRequest (row : ServiceAccount) (actor : String) (remove : Bool) :
    Action ServiceAccount Unit :=
  if remove = false ∧ (row.status = .revoked ∨ row.status = .expired) then
    pure ()
  else do
    let row := { row with
      status := if remove then .deleting else .revoking, lastError := none }
    Tx.capture fun _ => row
    let row ← save row
    Tx.capture fun _ => row
    audit row actor (if remove then "delete" else "revoke") "started"

/-- A reservation that is too young to be reclaimed is busy. -/
def requireReclaimable (row : ServiceAccount) : Action ServiceAccount Unit :=
  if row.status = .provisioning then do
    let now ← Action.now
    Tx.require (row.createdTime + reclaimAfter ≤ now) .busy
  else
    pure ()

/-- The callback of `Change`. -/
def requestBody (p : Principal) (gatewayID id : String) (remove : Bool) :
    Action ServiceAccount Unit := do
  let access ← resolveAccess p gatewayID
  let row ← account gatewayID id
  Tx.capture fun _ => row
  Tx.require (access.owner = true ∨ row.createdByUserID = access.userID) .notFound
  requireReclaimable row
  Tx.require (row.status ≠ .deleting ∨ remove = true) .busy
  storeRequest row access.userID remove

/-- The transaction of `Change`: store the requested terminal action. -/
def request (p : Principal) (gatewayID id : String) (remove : Bool) :
    Process (ServiceAccount × Option Err) :=
  locked gatewayID .zero fun _ => requestBody p gatewayID id remove

/-- `repository.Get(ctx, "ServiceAccount", id)` outside a transaction. -/
def readAccount (id : String) : Process (Except Err ServiceAccount) :=
  .once fun ω s => ⟨s, [], if ω.fault 0 then .error .storage else s.getAccount id⟩

/-- `Service.Change`.  The flag is false while the durable request still needs
recovery. -/
def change (svc : Service) (fuel : Nat) (p : Principal) (gatewayID id : String)
    (remove : Bool) : Process (ServiceAccount × Bool × Option Err) := do
  let (row, err) ← request p gatewayID id remove
  match err with
  | some e => return (.zero, false, some e)
  | none =>
    if svc.provider = false then
      return (row, false, none)
    else
      match ← recover svc gatewayID id fuel with
      | some _ => return (row, false, none)
      | none =>
        if remove then
          return (row, true, none)
        else
          match ← readAccount id with
          | .error e => return (row, false, some e)
          | .ok value => return (value, true, none)

end Hypershell
