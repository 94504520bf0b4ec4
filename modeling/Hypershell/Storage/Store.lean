import Hypershell.Foundation.Transaction
import Hypershell.Storage.Rows

/-!
# The store and its transactions

The committed state of the control plane, the errors of its operations, the
environment that decides what the code does not (failures, clock, randomness, the
provider's replies, concurrent requests) and the storage operations as the
generated store performs them.

## Main definitions

* `Store` — every table, the wall clock and the provider calls made so far
* `Err`, `Env`, `Action` — failures, environment, and the transaction monad
* `Action.query`, `Action.update`, `Action.now`, `Action.random`,
  `Action.contact` — the primitive operations, each with its `wp` rule

## Design notes

* The provider's work is not transactional.  `Store.history` lists the calls it
  has answered; a rollback keeps it, as it keeps the clock.
* While the provider works, other requests may change users, roles and grants:
  `Env.during` is what they do.  Gateway and account rows are protected by the
  row lock that every account transaction holds.
* `Env.fault` lets any storage operation fail.  It never makes one report
  `notFound` wrongly.
-/

namespace Hypershell

open Foundation

/-- The functions of third-party packages and of the Go library that the model
does not compute.  No result depends on what they return. -/
class Platform where
  /-- `ksuid.Parse` accepts the text, it is not the nil ID and it is canonical. -/
  validID : String → Bool
  /-- The empty text has the wrong length for an ID. -/
  validID_empty : validID "" = false
  /-- The first eight bytes of an ID's random payload, in hexadecimal. -/
  payloadHex : String → String
  /-- `strings.ToLower`. -/
  toLower : String → String
  /-- `time.Parse(time.RFC3339Nano, ·)`. -/
  parseTime : String → Option Int
  /-- `json.Unmarshal` into issuer, client ID and audience. -/
  unmarshalOIDC : String → Option (String × String × String)
  /-- `url.Parse` yields an `https` URL with a host and without user, query or
  fragment. -/
  plainHTTPS : String → Bool

/-- The error values of the modelled code. -/
inductive Err
  /-- A storage operation failed for a reason of its own. -/
  | storage
  | notFound
  | conflict
  | versionConflict
  | checkpoint
  | checkpointConflict
  | resourceState
  | resourceStateConflict
  | effectBinding
  | effectBindingConflict
  | forbidden
  | invalid
  | identity
  | observationRequired
  | unavailable
  | retryableCleanup
  | role
  | creatorQuota
  | gatewayQuota
  | notReady
  | busy
  | scanContract
  | inventoryPending
  | condition
  | lastOwner
  | stateProtection
  | countRange
  | placementChanged
  /-- A deadline passed or the caller went away. -/
  | context
  /-- `errors.New` inside a function body. -/
  | text (message : String)
  /-- `errors.Join`. -/
  | joined (first second : Err)
  /-- Not an error of the code: the model's bound on recursive calls is used up. -/
  | recursionLimit
  deriving DecidableEq, Repr

/-- `errors.Is(err, target)`. -/
def Err.is (target : Err) : Err → Bool
  | .joined first second => Err.is target first || Err.is target second
  | err => decide (err = target)

/-- `errors.Join(first, second)`, where `none` is `nil`. -/
def joinErrors : Option Err → Option Err → Option Err
  | some first, some second => some (.joined first second)
  | some first, none => some first
  | none, second => second

@[simp] theorem joinErrors_none_left (e : Option Err) : joinErrors none e = e := rfl

@[simp] theorem joinErrors_some_left (e : Err) (e' : Option Err) :
    joinErrors (some e) e' ≠ none := by
  cases e' <;> simp [joinErrors]

/-! ### The provider -/

/-- What the provider is told about an account.  It has no secret. -/
structure Spec where
  clientID : String
  displayName : String
  gatewayClientID : String
  gatewayID : String
  serviceAccountID : String
  creatorUserID : String
  role : AccountRole
  expectedIssuer : String
  accessTokenLifetimeSeconds : Nat
  deriving DecidableEq, Repr

/-- The one-time result of a creation.  It is never stored. -/
structure Credential where
  clientID : String
  clientUUID : String
  subject : String
  secret : String
  deriving DecidableEq, Repr

/-- The zero value. -/
def Credential.empty : Credential := ⟨"", "", "", ""⟩

/-- A call of the provider about one account. -/
inductive Call
  | provision (spec : Spec)
  | reconcile (spec : Spec) (clientUUID subject : String)
  | revoke (gatewayID id clientUUID : String)
  | delete (gatewayID id clientUUID : String)
  deriving DecidableEq, Repr

/-- The account a call is about. -/
def Call.account : Call → String
  | .provision spec => spec.serviceAccountID
  | .reconcile spec _ _ => spec.serviceAccountID
  | .revoke _ id _ => id
  | .delete _ id _ => id

/-- The Gateway a call is about. -/
def Call.gateway : Call → String
  | .provision spec => spec.gatewayID
  | .reconcile spec _ _ => spec.gatewayID
  | .revoke gatewayID _ _ => gatewayID
  | .delete gatewayID _ _ => gatewayID

/-- A call, the time it was made and whether the provider reported success. -/
structure Event where
  call : Call
  time : Int
  succeeded : Bool
  deriving DecidableEq, Repr

/-! ### The store -/

/-- A message that a commit publishes. -/
structure Notification where
  sourceID : String
  eventType : String
  kind : String
  deriving DecidableEq, Repr

/-- Users, roles and grants. -/
structure Directory where
  users : Table User
  roles : Table Role
  bindings : Table RoleBinding
  /-- The creation hook never stores a row without an ID. -/
  named : users.find? "" = none

/-- The committed state. -/
structure Store where
  /-- The wall clock.  It never runs backwards. -/
  time : Int
  directory : Directory
  clusters : Table ManagedCluster
  releases : Table GatewayRelease
  gateways : Table Gateway
  accounts : Table ServiceAccount
  audits : Table ServiceAccountAudit
  /-- The published messages. -/
  outbox : List Notification
  effects : Table EffectRow
  checkpoints : Table CheckpointRow
  states : Table ResourceStateRow
  scopes : Table ScopeRow
  /-- The calls the provider has answered. -/
  history : List Event

/-- What decides the operations of one transaction, by their number in it. -/
structure Env [Platform] where
  /-- The operation fails. -/
  fault : Nat → Bool
  /-- The time that passes before the clock is read. -/
  elapsed : Nat → Nat
  /-- The ID that `ksuid.NewRandom` returns, if it does. -/
  entropy : Nat → Option { id : String // Platform.validID id }
  /-- The provider's reply to a call that returns nothing. -/
  reply : Nat → Except Err Unit
  /-- The provider's reply to `Provision`. -/
  credential : Nat → Except Err Credential
  /-- What other requests do to the directory during a provider call. -/
  during : Nat → Directory → Directory
  /-- The end of the commit. -/
  commit : CommitReply

variable [Platform]

/-- The body of a transaction whose caller has variables `L`. -/
abbrev Action (L α : Type) : Type := Tx Env Store Event L Err α

/-- A process of the control plane. -/
abbrev Process (α : Type) : Type 1 := Proc Env Store Event α

/-- A storage operation failed in this transaction. -/
def Env.Faulty (ω : Env) : Prop := ∃ n, ω.fault n = true

namespace Action

variable {L α : Type} {ω : Env} {c : Context Store Event L}

/-- A read, or a check of a value that was read. -/
def query (f : Store → Except Err α) : Action L α := fun ω c =>
  if ω.fault c.tick then
    (.error .storage, c.at (c.tick + 1))
  else
    (f c.store, c.at (c.tick + 1))

/-- A write.  A failed write changes nothing. -/
def update (f : Store → Except Err Store) : Action L Unit := fun ω c =>
  if ω.fault c.tick then
    (.error .storage, c.at (c.tick + 1))
  else
    match f c.store with
    | .ok s => (.ok (), c.put (c.tick + 1) s)
    | .error e => (.error e, c.at (c.tick + 1))

/-- `s.now().UTC()`. -/
def now : Action L Int := fun ω c =>
  let t := c.store.time + ω.elapsed c.tick
  (.ok t, { c.at (c.tick + 1) with
    store := { c.store with time := t }, base := { c.base with time := t } })

/-- `ksuid.NewRandom`. -/
def random : Action L { id : String // Platform.validID id } := fun ω c =>
  match ω.entropy c.tick with
  | some id => (.ok id, c.at (c.tick + 1))
  | none => (.error (.text "random ID"), c.at (c.tick + 1))

/-- The store after a provider call: the call is part of the history and other
requests used the directory meanwhile. -/
def afterCall (s : Store) (event : Event) (others : Directory → Directory) : Store :=
  { s with history := s.history ++ [event], directory := others s.directory }

/-- Call the provider.  Its failure is a value here, as the code examines it. -/
def contact (call : Call) (reply : Env → Nat → Except Err α) :
    Action L (Except Err α) := fun ω c =>
  let answer := reply ω c.tick
  let event : Event := ⟨call, c.store.time, answer.isOk⟩
  (.ok answer, { c.at (c.tick + 1) with
    store := afterCall c.store event (ω.during c.tick)
    base := afterCall c.base event (ω.during c.tick)
    log := c.log ++ [event] })

/-! ### Rules -/

variable {ok : α → Context Store Event L → Prop} {fails : Err → Context Store Event L → Prop}

/-- A read that fails by itself. -/
theorem wp_query_fault {f : Store → Except Err α} (faulty : ω.fault c.tick = true)
    (fault : fails .storage (c.at (c.tick + 1))) : Tx.wp ω (query f) ok fails c := by
  unfold Tx.wp query
  simpa [faulty] using fault

/-- A read that reports what it finds. -/
theorem wp_query_answer {f : Store → Except Err α} (smooth : ω.fault c.tick = false)
    (missing : ∀ e, f c.store = .error e → fails e (c.at (c.tick + 1)))
    (found : ∀ a, f c.store = .ok a → ok a (c.at (c.tick + 1))) :
    Tx.wp ω (query f) ok fails c := by
  unfold Tx.wp query
  simp only [smooth]
  cases result : f c.store with
  | error e => exact missing e result
  | ok a => exact found a result

/-- A read fails by itself, or reports what it finds. -/
theorem wp_query {f : Store → Except Err α}
    (fault : ω.fault c.tick = true → fails .storage (c.at (c.tick + 1)))
    (missing : ∀ e, f c.store = .error e → fails e (c.at (c.tick + 1)))
    (found : ∀ a, f c.store = .ok a → ok a (c.at (c.tick + 1))) :
    Tx.wp ω (query f) ok fails c := by
  cases faulty : ω.fault c.tick with
  | true => exact wp_query_fault faulty (fault faulty)
  | false => exact wp_query_answer faulty missing found

/-- A write that fails by itself. -/
theorem wp_update_fault {f : Store → Except Err Store} {ok : Unit → Context Store Event L → Prop}
    (faulty : ω.fault c.tick = true) (fault : fails .storage (c.at (c.tick + 1))) :
    Tx.wp ω (update f) ok fails c := by
  unfold Tx.wp update
  simpa [faulty] using fault

/-- A write that is declined or happens. -/
theorem wp_update_answer {f : Store → Except Err Store} {ok : Unit → Context Store Event L → Prop}
    (smooth : ω.fault c.tick = false)
    (declined : ∀ e, f c.store = .error e → fails e (c.at (c.tick + 1)))
    (done : ∀ s, f c.store = .ok s → ok () (c.put (c.tick + 1) s)) :
    Tx.wp ω (update f) ok fails c := by
  unfold Tx.wp update
  simp only [smooth]
  cases result : f c.store with
  | error e => simpa [result] using declined e result
  | ok s => simpa [result] using done s result

/-- A write fails by itself, is declined, or happens. -/
theorem wp_update {f : Store → Except Err Store} {ok : Unit → Context Store Event L → Prop}
    (fault : ω.fault c.tick = true → fails .storage (c.at (c.tick + 1)))
    (declined : ∀ e, f c.store = .error e → fails e (c.at (c.tick + 1)))
    (done : ∀ s, f c.store = .ok s → ok () (c.put (c.tick + 1) s)) :
    Tx.wp ω (update f) ok fails c := by
  cases faulty : ω.fault c.tick with
  | true => exact wp_update_fault faulty (fault faulty)
  | false => exact wp_update_answer faulty declined done

/-- The clock is read after some time. -/
theorem wp_now {ok : Int → Context Store Event L → Prop}
    (read : ∀ t, t = c.store.time + ω.elapsed c.tick → ok t
      { c.at (c.tick + 1) with
        store := { c.store with time := t }, base := { c.base with time := t } }) :
    Tx.wp ω now ok fails c :=
  read _ rfl

/-- A random ID is canonical. -/
theorem wp_random {ok : { id : String // Platform.validID id } → Context Store Event L → Prop}
    (refused : ω.entropy c.tick = none → fails (.text "random ID") (c.at (c.tick + 1)))
    (drawn : ∀ id, ω.entropy c.tick = some id → ok id (c.at (c.tick + 1))) :
    Tx.wp ω random ok fails c := by
  unfold Tx.wp random
  cases answer : ω.entropy c.tick with
  | none => exact refused answer
  | some id => exact drawn id answer

/-- The provider answers, and the call is recorded with its answer. -/
theorem wp_contact {call : Call} {reply : Env → Nat → Except Err α}
    {ok : Except Err α → Context Store Event L → Prop}
    (answered : ∀ answer, answer = reply ω c.tick →
      ok answer { c.at (c.tick + 1) with
        store := afterCall c.store ⟨call, c.store.time, answer.isOk⟩ (ω.during c.tick)
        base := afterCall c.base ⟨call, c.store.time, answer.isOk⟩ (ω.during c.tick)
        log := c.log ++ [⟨call, c.store.time, answer.isOk⟩] }) :
    Tx.wp ω (contact call reply) ok fails c :=
  answered _ rfl

end Action

end Hypershell
