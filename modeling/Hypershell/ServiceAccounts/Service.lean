import Hypershell.ServiceAccounts.Access
import Hypershell.Storage.Gateways

/-!
# The account service

What every account operation shares: the operator's limits, the transaction under
the Gateway lock, the account row of a Gateway, the audit trail and the connection
data that an account needs.

## Main definitions

* `Limits`, `Service`
* `locked` — a transaction under the lock of a live Gateway
* `account`, `save`, `audit` — the steps of such a transaction
* `oidcConnection` — what a client of the account connects to
-/

namespace Hypershell

open Foundation

/-- The age from which a provisioning reservation may be reclaimed. -/
def reclaimAfter : Int := 15 * minute

/-- The lifetime of an account whose request names none. -/
def defaultExpiration : Int := 90 * 24 * hour

/-- The shortest lifetime a request may name. -/
def minimumExpiration : Int := hour

/-- The longest lifetime a request may name. -/
def maximumExpiration : Int := 365 * 24 * hour

/-- Operator policy for active reservations and accounts. -/
structure Limits where
  perGateway : Int
  perCreator : Int
  deriving DecidableEq, Repr

/-- Quotas are positive and a creator's does not exceed the Gateway's. -/
def Limits.validate (l : Limits) : Except Err Unit :=
  if l.perGateway < 1 ∨ l.perCreator < 1 ∨ l.perCreator > l.perGateway then
    .error (.text
      "service-account quotas must be positive; creator quota must not exceed Gateway quota")
  else
    .ok ()

/-- The service: its limits, whether it has a provider, and its cleanup workers. -/
structure Service where
  limits : Limits
  provider : Bool
  cleanupWorkers : Nat
  deriving DecidableEq, Repr

/-- What a client of an account connects to. -/
structure Connection where
  gatewayName : String
  gatewayEndpoint : String
  issuer : String
  tokenEndpoint : String
  grantType : String
  clientID : String
  audience : String
  accessTokenLifetimeSeconds : Nat
  deriving DecidableEq, Repr

/-- The zero value. -/
def Connection.empty : Connection := ⟨"", "", "", "", "", "", "", 0⟩

/-! ### The connection of a Gateway -/

/-- `strings.EqualFold(s, word)` for an ASCII word without `k` and `s`, whose
letters have no other case variants. -/
def equalFold (s word : String) : Bool :=
  decide (s.toList.map Char.toLower = word.toList.map Char.toLower)

/-- The text without any trailing slash. -/
def trimRightSlash (s : String) : String :=
  String.ofList (s.toList.reverse.dropWhile (fun c => decide (c = '/'))).reverse

/-- A `grpcs` endpoint in its `https` form. -/
def endpointOf (route : Option String) : String :=
  match route with
  | none => ""
  | some address =>
    let endpoint := trimSpace address
    let grpcs := "grpcs://".toList
    if grpcs <+: endpoint.toList then
      "https://" ++ String.ofList (endpoint.toList.drop grpcs.length)
    else
      endpoint

variable [Platform]

/-- The Gateway's OIDC configuration: issuer, client ID and audience. -/
def parseOIDC (value : Option String) : Except Err (String × String × String) :=
  match value with
  | none => .error (.text "Gateway OIDC configuration is absent")
  | some text =>
    if text.utf8ByteSize > 8192 then
      .error (.text "Gateway OIDC configuration is absent")
    else
      match Platform.unmarshalOIDC text with
      | none => .error (.text "Gateway OIDC configuration is invalid")
      | some config => .ok config

/-- The connection of an account, if the Gateway has a usable configuration and,
for a `ready` one, runs in good health. -/
def oidcConnection (row : Gateway) (clientID : String) (ready : Bool) :
    Except Err Connection :=
  let row := row.currentObservations
  if ready = true ∧ (¬ equalFold (row.phase.getD "") "Running" ∨
      ¬ equalFold (row.status.getD "") "Healthy") then
    .error .notReady
  else
    match parseOIDC row.oidc with
    | .error _ => .error .notReady
    | .ok (issuer, oidcClient, audience) =>
      if ¬ Platform.plainHTTPS issuer ∨ oidcClient = "" ∨ ¬ validText oidcClient 255 ∨
          audience ≠ oidcClient then
        .error .notReady
      else
        let endpoint := endpointOf row.routeAddress
        if endpoint ≠ "" ∧ ¬ Platform.plainHTTPS endpoint then
          .error .notReady
        else
          .ok
            { gatewayName := row.name
              gatewayEndpoint := endpoint
              issuer := issuer
              tokenEndpoint := trimRightSlash issuer ++ "/protocol/openid-connect/token"
              grantType := "client_credentials"
              clientID := clientID
              audience := audience
              accessTokenLifetimeSeconds := 300 }

/-! ### Transactions under the Gateway lock -/

variable {L : Type}

/-- The body of a transaction that holds the lock of a live Gateway row. -/
def underGateway (gatewayID : String) (body : Gateway → Action L Unit) : Action L Unit := do
  -- The transaction begins and advances the database epoch.
  Action.query fun _ => .ok ()
  let gateway ← Action.query fun s => s.getGateway gatewayID
  body gateway

/-- `Service.locked`: a transaction under the Gateway lock.  Only a canonical ID is
looked up. -/
def locked (gatewayID : String) (init : L) (body : Gateway → Action L Unit) :
    Process (L × Option Err) :=
  if Platform.validID gatewayID then
    transact Env.commit .storage init (underGateway gatewayID body)
  else
    .ret (init, some .notFound)

/-- Add an entry to the audit trail. -/
def audit (row : ServiceAccount) (actor action outcome : String) : Action L Unit := do
  let id ← Action.random
  Action.update (Store.createAudit
    { id := id.val, createdTime := 0, updatedTime := 0, deletedAt := none,
      serviceAccountID := row.id, gatewayID := row.gatewayID, actorUserID := actor,
      creatorUserID := row.createdByUserID, action := action, outcome := outcome,
      role := row.role, expiresAt := row.expiresAt })

/-- Store an account row and read it back. -/
def save (row : ServiceAccount) : Action L ServiceAccount := do
  Action.update (Store.replaceAccount row.id row)
  Action.query fun s => s.getAccount row.id

/-- The live account of a Gateway. -/
def account (gatewayID id : String) : Action L ServiceAccount :=
  if Platform.validID id then do
    let row ← Action.query fun s => s.getAccount id
    if row.gatewayID ≠ gatewayID then Tx.raise .notFound else return row
  else
    Tx.raise .notFound

end Hypershell
