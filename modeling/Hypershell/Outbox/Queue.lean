import Mathlib.Data.Finset.Sort
import Hypershell.Foundation.Listing
import Hypershell.Outbox.Payload

/-!
# The outbox

Messages wait in a table until a worker has delivered them.  Each has a place in one
sequence, and those of one key are delivered in that order: a message is claimed, under
a lease and for a time, only if there is none before it.

## Main definitions

* `Message`, `OutboxRow` — a message, and its row with what its deliveries leave there
* `validateMessage`, `checkBatch`, `lockKeys` — what is checked and locked before insertion
* `claim`, `acknowledge`, `retry`, `purge` — the statements that change the table
* `blocked`, `deadLetters` — those that read it

## Main results

* `mem_claim`, `acknowledge_spec`, `retry_spec`, `purge_spec` — what each statement does to a row

## Design notes

* The identity of a row is its sequence number: a row that was deleted and inserted again is
  another row.
* A claim reads a snapshot of the table, and then each row again as it locks it.  Rows that others
  have locked at that moment are skipped.
* The hash of a key is a parameter.  Times are whole nanoseconds, intervals whole milliseconds.
-/

namespace Hypershell.Outbox

open Foundation

/-- `uuid.UUID`. -/
structure UUID where
  bytes : List UInt8
  length : bytes.length = 16
  deriving DecidableEq

/-- `uuid.Nil`. -/
def UUID.null : UUID := ⟨List.replicate 16 0, List.length_replicate⟩

/-- `Notification`: a message as the application gives it, its payload read. -/
structure Message where
  id : UUID
  destination : String
  resourceKey : String
  kind : String
  /-- The number of its bytes, whether they are UTF-8, and the tokens of its text. -/
  payload : Nat × Bool × List Token
  deriving DecidableEq

/-- What stays of a message in the table. -/
structure Letter where
  id : UUID
  sequence : Nat
  destination : String
  resourceKey : String
  kind : String
  payload : Nat × Bool × List Token
  createdAt : Nat
  deriving DecidableEq

/-- A row of `messages`.  The lease is a token and a time, or there is none. -/
structure OutboxRow extends Letter where
  availableAt : Nat
  attempts : Nat
  lease : Option (UUID × Nat)
  failureCode : String
  deriving DecidableEq

/-- Messages of one key are delivered in order. -/
def Message.key (m : Message) : String × String := (m.destination, m.resourceKey)

def Letter.key (l : Letter) : String × String := (l.destination, l.resourceKey)

structure Receipt where
  id : UUID
  token : UUID
  deriving DecidableEq

/-! ### Before insertion -/

def maxPayloadBytes : Nat := 65536

def maxBatchSize : Nat := 32

/-- `operationTimeout`. -/
def operationTimeout : Nat := 5000000000

/-- `labelPattern`. -/
def isLabel (text : String) : Bool :=
  match text.toList with
  | [] => false
  | first :: rest => first.isAlphanum && decide (rest.length ≤ 127) &&
      rest.all fun c => c.isAlphanum || c == '.' || c == '_' || c == '-'

def validateMessage (m : Message) : Except String Unit :=
  if m.id = .null ∨ isLabel m.destination = false ∨ isLabel m.kind = false then
    .error "invalid outbox message identity or label"
  else if m.resourceKey.utf8ByteSize = 0 ∨ 256 < m.resourceKey.utf8ByteSize ∨
      Char.ofNat 0 ∈ m.resourceKey.toList then
    .error "invalid outbox resource key"
  else if m.payload.1 = 0 ∨ maxPayloadBytes < m.payload.1 ∨ m.payload.2.1 = false then
    .error "invalid outbox payload size or encoding"
  else validateObject m.payload.2.2

/-- The loop over the messages of a batch, with the IDs that were seen. -/
def checkMessages (seen : List UUID) : List Message → Except String Unit
  | [] => .ok ()
  | m :: rest =>
    match validateMessage m with
    | .error e => .error e
    | .ok () =>
      if m.id ∈ seen then .error "duplicate outbox message ID" else checkMessages (m.id :: seen) rest

/-- The checks of `Enqueue`. -/
def checkBatch (messages : List Message) : Except String Unit :=
  if messages = [] ∨ maxBatchSize < messages.length then .error "invalid outbox batch size"
  else checkMessages [] messages

/-- The locks of a batch, in the order in which they are taken. -/
def lockKeys (lockOf : String × String → Int) (messages : List Message) : List Int :=
  (messages.map fun m => lockOf m.key).toFinset.sort (· ≤ ·)

/-- A row with the defaults of the table. -/
def Message.row (m : Message) (sequence now : Nat) : OutboxRow :=
  ⟨⟨m.id, sequence, m.destination, m.resourceKey, m.kind, m.payload, now⟩, now, 0, none, ""⟩

/-! ### The statements -/

/-- A duration, in the milliseconds of an interval. -/
def milliseconds (duration : Nat) : Nat := duration / 1000000 * 1000000

namespace OutboxRow

/-- Its time has come, and no lease on it runs. -/
def available (now : Nat) (r : OutboxRow) : Bool :=
  decide (r.availableAt ≤ now) && r.lease.all fun l => decide (l.2 ≤ now)

/-- No message of its key is before it. -/
def leads (rows : List OutboxRow) (r : OutboxRow) : Bool :=
  rows.all fun earlier => !(decide (earlier.key = r.key) && decide (earlier.sequence < r.sequence))

def leased (token : UUID) (expiry : Nat) (r : OutboxRow) : OutboxRow :=
  { r with lease := some (token, expiry), attempts := r.attempts + 1 }

/-- The lease that a receipt is for, and it runs. -/
def heldBy (receipt : Receipt) (now : Nat) (r : OutboxRow) : Bool :=
  decide (r.id = receipt.id) && r.lease.any fun l => decide (l.1 = receipt.token ∧ now < l.2)

/-- The row after a failed delivery. -/
def returned (code : String) (availableAt : Nat) (r : OutboxRow) : OutboxRow :=
  { r with lease := none, availableAt := availableAt, failureCode := code }

/-- The statement of `Blocked`, but for its limit. -/
def isBlocked (rows : List OutboxRow) (now : Nat) (r : OutboxRow) : Bool :=
  r.leads rows && ((r.lease.any fun l => decide (now < l.2)) ||
    (decide (r.failureCode ≠ "") && decide (now < r.availableAt)))

/-- What `Purge` may take. -/
def isDead (attempts age now : Nat) (r : OutboxRow) : Bool :=
  decide (attempts ≤ r.attempts) && decide (r.availableAt + age ≤ now)

end OutboxRow

/-- `ORDER BY sequence`. -/
def bySequence (rows : List OutboxRow) : List OutboxRow :=
  sorted (fun a b => compare a.sequence b.sequence) rows

/-- The limits of `Claim`. -/
def claimLimits (limit lease : Nat) : Bool :=
  decide (1 ≤ limit) && decide (limit ≤ maxBatchSize) && decide (1000000000 ≤ lease) &&
    decide (lease ≤ 300000000000)

/-- The rows of `ready`: of those that the snapshot shows ready, in their order, the first whose
lock is free and that still are. -/
def readyRows (snapshot rows : List OutboxRow) (locked : Nat → Bool) (limit now : Nat) :
    List OutboxRow :=
  ((bySequence (snapshot.filter fun m => m.available now && m.leads snapshot)).filter fun m =>
    !locked m.sequence && rows.any fun r => decide (r.sequence = m.sequence) && r.available now).take
      limit

/-- A row is among others. -/
def among (chosen : List OutboxRow) (r : OutboxRow) : Bool :=
  chosen.any fun m => decide (m.sequence = r.sequence)

/-- `Claim`: the table, and the deliveries. -/
def claim (snapshot rows : List OutboxRow) (locked : Nat → Bool) (limit now : Nat) (token : UUID)
    (lease : Nat) : List OutboxRow × List OutboxRow :=
  let chosen := readyRows snapshot rows locked limit now
  let renewed := rows.map fun r =>
    if among chosen r = true then r.leased token (now + milliseconds lease) else r
  (renewed, renewed.filter (among chosen))

/-- `Acknowledge`: the table, and the rows that were removed. -/
def acknowledge (rows : List OutboxRow) (receipt : Receipt) (now : Nat) :
    Except String (List OutboxRow × List OutboxRow) :=
  if receipt.id = .null ∨ receipt.token = .null then .error "invalid outbox receipt"
  else .ok (rows.filter fun r => !r.heldBy receipt now, rows.filter (OutboxRow.heldBy receipt now))

/-- `Retry`: the table, and the rows as they were before. -/
def retry (rows : List OutboxRow) (receipt : Receipt) (delay : Nat) (code : String) (now : Nat) :
    Except String (List OutboxRow × List OutboxRow) :=
  if receipt.id = .null ∨ receipt.token = .null ∨ 86400000000000 < delay ∨ isLabel code = false then
    .error "invalid outbox retry"
  else .ok (rows.map fun r =>
      if r.heldBy receipt now = true then r.returned code (now + milliseconds delay) else r,
    rows.filter (OutboxRow.heldBy receipt now))

/-- `changed`. -/
def changed (rows : List OutboxRow) : Bool := decide (rows.length = 1)

/-- `Purge`: the table, and the rows that were removed. -/
def purge (rows : List OutboxRow) (limit attempts olderThan now : Nat) :
    Except String (List OutboxRow × List OutboxRow) :=
  if limit < 1 ∨ maxBatchSize < limit ∨ attempts < 1 ∨ olderThan = 0 ∨
      2592000000000000 < olderThan then .error "invalid outbox purge limits"
  else
    let chosen := (bySequence (rows.filter
      (OutboxRow.isDead attempts (milliseconds olderThan) now))).take limit
    .ok (rows.filter fun r => !among chosen r, rows.filter (among chosen))

/-- `Blocked`. -/
def blocked (rows : List OutboxRow) (limit now : Nat) : Except String (List OutboxRow) :=
  if limit < 1 ∨ maxBatchSize < limit then .error "invalid outbox blocked limit"
  else .ok ((bySequence (rows.filter (OutboxRow.isBlocked rows now))).take limit)

/-- `DeadLetters`. -/
def deadLetters (rows : List OutboxRow) (limit attempts : Nat) : Except String (List OutboxRow) :=
  if limit < 1 ∨ maxBatchSize < limit ∨ attempts < 1 then .error "invalid outbox dead-letter limits"
  else .ok ((bySequence (rows.filter fun r => decide (attempts ≤ r.attempts))).take limit)

/-! ### What the statements do to a row -/

section

variable {snapshot rows rows' out : List OutboxRow} {locked : Nat → Bool}
  {limit now lease attempts olderThan delay : Nat} {token : UUID} {receipt : Receipt} {code : String}
  {r : OutboxRow}

theorem mem_bySequence : r ∈ bySequence rows ↔ r ∈ rows := mem_sorted

@[simp] theorem leased_letter (expiry : Nat) : (r.leased token expiry).toLetter = r.toLetter := rfl

@[simp] theorem returned_letter (availableAt : Nat) :
    (r.returned code availableAt).toLetter = r.toLetter := rfl

theorem leads_iff : r.leads rows = true ↔
    ∀ earlier ∈ rows, earlier.key = r.key → r.sequence ≤ earlier.sequence := by
  rw [OutboxRow.leads, List.all_eq_true]
  refine forall₂_congr fun earlier _ => ?_
  rw [Bool.not_eq_true', Bool.and_eq_false_iff, decide_eq_false_iff_not, decide_eq_false_iff_not,
    not_lt, ← imp_iff_not_or]

theorem available_iff : r.available now = true ↔
    r.availableAt ≤ now ∧ ∀ token expiry, r.lease = some (token, expiry) → expiry ≤ now := by
  rw [OutboxRow.available, Bool.and_eq_true, decide_eq_true_iff]
  refine and_congr_right fun _ => ?_
  cases r.lease with
  | none => simp
  | some l => simp [Prod.ext_iff]

theorem heldBy_iff : r.heldBy receipt now = true ↔
    r.id = receipt.id ∧ ∃ expiry, r.lease = some (receipt.token, expiry) ∧ now < expiry := by
  rw [OutboxRow.heldBy, Bool.and_eq_true, decide_eq_true_iff]
  refine and_congr_right fun _ => ?_
  cases r.lease with
  | none => simp
  | some l => simp [Prod.ext_iff]

/-- **What a claim may take**: what leads its key in the snapshot, and is ready there and now. -/
theorem readyRows_spec {m : OutboxRow} (chosen : m ∈ readyRows snapshot rows locked limit now) :
    m ∈ snapshot ∧ m.leads snapshot = true ∧
      ∃ r ∈ rows, r.sequence = m.sequence ∧ r.available now = true := by
  obtain ⟨ordered, free⟩ := List.mem_filter.mp (List.mem_of_mem_take chosen)
  obtain ⟨inside, ready⟩ := List.mem_filter.mp (mem_bySequence.mp ordered)
  rw [Bool.and_eq_true] at ready free
  obtain ⟨r, member, still⟩ := List.any_eq_true.mp free.2
  rw [Bool.and_eq_true, decide_eq_true_iff] at still
  exact ⟨inside, ready.2, r, member, still⟩

theorem length_readyRows : (readyRows snapshot rows locked limit now).length ≤ limit :=
  List.length_take_le _ _

theorem among_iff {chosen : List OutboxRow} :
    among chosen r = true ↔ ∃ m ∈ chosen, m.sequence = r.sequence := by
  simp only [among, List.any_eq_true, decide_eq_true_iff]

/-- **A claim** leases the rows that it takes, and keeps the others. -/
theorem mem_claim : r ∈ (claim snapshot rows locked limit now token lease).1 ↔
    (∃ old ∈ rows, among (readyRows snapshot rows locked limit now) old = true ∧
      r = old.leased token (now + milliseconds lease)) ∨
    (r ∈ rows ∧ among (readyRows snapshot rows locked limit now) r = false) := by
  rw [claim, List.mem_map]
  constructor
  · rintro ⟨old, member, rfl⟩
    split_ifs with taken
    · exact .inl ⟨old, member, taken, rfl⟩
    · exact .inr ⟨member, Bool.eq_false_iff.mpr taken⟩
  · rintro (⟨old, member, taken, rfl⟩ | ⟨member, other⟩)
    · exact ⟨old, member, if_pos taken⟩
    · exact ⟨r, member, if_neg (Bool.eq_false_iff.mp other)⟩

/-- **The deliveries of a claim** are the rows that it leased. -/
theorem mem_deliveries : r ∈ (claim snapshot rows locked limit now token lease).2 ↔
    ∃ old ∈ rows, among (readyRows snapshot rows locked limit now) old = true ∧
      r = old.leased token (now + milliseconds lease) := by
  rw [claim, List.mem_filter]
  show r ∈ (claim snapshot rows locked limit now token lease).1 ∧ _ ↔ _
  rw [mem_claim]
  constructor
  · rintro ⟨taken | ⟨-, other⟩, inside⟩
    · exact taken
    · rw [other] at inside
      cases inside
  · rintro ⟨old, member, taken, rfl⟩
    exact ⟨.inl ⟨old, member, taken, rfl⟩, taken⟩

/-- **An acknowledgement** removes what the receipt holds. -/
theorem acknowledge_spec (done : acknowledge rows receipt now = .ok (rows', out)) :
    rows' = rows.filter (fun r => !r.heldBy receipt now) ∧ out = rows.filter (OutboxRow.heldBy receipt now) := by
  unfold acknowledge at done
  split_ifs at done
  cases done
  exact ⟨rfl, rfl⟩

/-- **A retry** returns what the receipt holds. -/
theorem retry_spec (done : retry rows receipt delay code now = .ok (rows', out)) :
    isLabel code = true ∧ (rows' = rows.map fun r =>
        if r.heldBy receipt now = true then r.returned code (now + milliseconds delay) else r) ∧
      out = rows.filter (OutboxRow.heldBy receipt now) := by
  unfold retry at done
  split_ifs at done with wrong
  cases done
  refine ⟨?_, rfl, rfl⟩
  by_contra unlabelled
  exact wrong (.inr (.inr (.inr (Bool.eq_false_iff.mpr unlabelled))))

/-- **A purge** removes rows that were tried often enough. -/
theorem purge_spec (done : purge rows limit attempts olderThan now = .ok (rows', out)) :
    ∃ gone : OutboxRow → Bool, rows' = rows.filter (fun r => !gone r) ∧ out = rows.filter gone ∧
      1 ≤ attempts ∧ ∀ r, gone r = true → ∃ m ∈ rows, m.sequence = r.sequence ∧ attempts ≤ m.attempts := by
  unfold purge at done
  split_ifs at done with wrong
  cases done
  refine ⟨_, rfl, rfl, by omega, fun r gone => ?_⟩
  obtain ⟨m, chosen, same⟩ := among_iff.mp gone
  obtain ⟨member, dead⟩ := List.mem_filter.mp (mem_bySequence.mp (List.mem_of_mem_take chosen))
  rw [OutboxRow.isDead, Bool.and_eq_true, decide_eq_true_iff] at dead
  exact ⟨m, member, same, dead.1⟩

end

end Hypershell.Outbox
