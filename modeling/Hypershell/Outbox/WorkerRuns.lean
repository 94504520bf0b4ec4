import Hypershell.Outbox.QueueHistory
import Hypershell.Outbox.Worker

/-!
# Runs of the outbox's workers

A worker claims one message at a time, runs its handler within a deadline, and then
acknowledges the message or returns it.  The lease of a claim is long enough for all
three, so that nobody else can claim the message in the meantime.

## Main definitions

* `WorkerConfig.Valid` — the durations that the constructor of a worker checks
* `WorkerState`, `Move` — what a worker is at, and how it goes on without the table
* `WorkerRun.Step` — a step of the table, of a worker, or of both
* `WorkerRun.Kept` — what a worker holds is in the table, and its lease runs

## Main results

* `steps_table` — of the table, a run of workers is a run of the outbox
* `settle_accepted` — the last statement of a delivery is never refused
* `worker_exclusive` — one handler at a time for a key
* `worker_settles` — a lease is lost to a purge only
* `worker_delivers` — an acknowledgement is for a delivery whose handler succeeded

## Design notes

* A statement ends at its deadline, with an error if with nothing else, and a handler honours its
  own.  The worker goes on at most a grace after it.
* The answer of a statement may be lost: it has then run or not.
* A worker may stop at any moment, and start again.
* Whoever else uses the table inserts messages and purges them.
-/

namespace Hypershell.Outbox

open Foundation

structure WorkerConfig where
  attemptTimeout : Nat
  leaseDuration : Nat
  retryMin : Nat
  retryMax : Nat

/-- What `NewWorker` checks of the durations. -/
structure WorkerConfig.Valid (config : WorkerConfig) : Prop where
  attempt : 10000000 ≤ config.attemptTimeout ∧ config.attemptTimeout ≤ 60000000000
  lease : config.attemptTimeout + 2 * operationTimeout + 1000000000 ≤ config.leaseDuration ∧
    config.leaseDuration ≤ 300000000000
  retry : 10000000 ≤ config.retryMin ∧ config.retryMin ≤ config.retryMax ∧
    config.retryMax ≤ 86400000000000

/-- What a worker is at, and since when. -/
inductive WorkerState
  | polling
  | claiming (began : Nat)
  /-- The claim has run, and its answer is on the way. -/
  | answered (began : Nat) (deliveries : List OutboxRow)
  | delivering (began : Nat) (d : OutboxRow)
  | finishing (began : Nat) (d : OutboxRow) (failureCode : String)
  | stopped

namespace WorkerState

/-- The deliveries that a worker has. -/
def held : WorkerState → List OutboxRow
  | answered _ deliveries => deliveries
  | delivering _ d => [d]
  | finishing _ d _ => [d]
  | _ => []

/-- When what a worker is at has ended. -/
def deadline? (config : WorkerConfig) (grace : Nat) : WorkerState → Option Nat
  | claiming began => some (began + operationTimeout)
  | answered began _ => some (began + operationTimeout)
  | delivering began _ => some (began + config.attemptTimeout + grace)
  | finishing began _ _ => some (began + operationTimeout)
  | _ => none

/-- When a worker is done with what it holds. -/
def doneBy (config : WorkerConfig) (grace : Nat) : WorkerState → Nat
  | answered began _ => began + 2 * operationTimeout + config.attemptTimeout + grace
  | delivering began _ => began + config.attemptTimeout + grace + operationTimeout
  | finishing began _ _ => began + operationTimeout
  | _ => 0

end WorkerState

/-- The code of a delivery whose handler returned, or none. -/
def failureCodeOf (failed expired : Bool) : String :=
  if failed = true ∨ expired = true then
    if expired = true then "delivery-timeout" else "delivery-failed"
  else ""

/-- How a worker goes on without the table, whether it is cancelled before and after, and the
delivery whose handler returned, if one did. -/
inductive Move (handlers : String → Bool) (now : Nat) :
    Bool → WorkerState → Option (OutboxRow × Bool) → Bool → WorkerState → Prop
  /-- The claim failed. -/
  | unanswered {cancelled : Bool} {began : Nat} :
      Move handlers now cancelled (.claiming began) none cancelled .polling
  /-- There is nothing to deliver, or the answer was lost. -/
  | unheard {cancelled : Bool} {began : Nat} {deliveries : List OutboxRow} :
      Move handlers now cancelled (.answered began deliveries) none cancelled .polling
  | stopping {began : Nat} {d : OutboxRow} {rest : List OutboxRow} :
      Move handlers now true (.answered began (d :: rest)) none true
        (.finishing now d "worker-stopping")
  | unknown {began : Nat} {d : OutboxRow} {rest : List OutboxRow}
      (missing : handlers d.destination = false) :
      Move handlers now false (.answered began (d :: rest)) none false
        (.finishing now d "destination-unknown")
  | deliver {began : Nat} {d : OutboxRow} {rest : List OutboxRow}
      (known : handlers d.destination = true) :
      Move handlers now false (.answered began (d :: rest)) none false (.delivering now d)
  | handle {cancelled : Bool} {began : Nat} {d : OutboxRow} (failed expired : Bool) :
      Move handlers now cancelled (.delivering began d) (some (d, !failed && !expired)) cancelled
        (.finishing now d (failureCodeOf failed expired))
  /-- The last statement of a delivery did not run. -/
  | unfinished {cancelled : Bool} {began : Nat} {d : OutboxRow} {code : String} :
      Move handlers now cancelled (.finishing began d code) none cancelled .polling
  | cancel {cancelled : Bool} {state : WorkerState} : Move handlers now cancelled state none true state
  | stop {cancelled : Bool} {state : WorkerState} :
      Move handlers now cancelled state none cancelled .stopped
  /-- Another process begins. -/
  | start {cancelled : Bool} : Move handlers now cancelled .stopped none false .polling

/-- The last statement of `deliver`: the table, and the rows that it changed. -/
def settle (config : WorkerConfig) (rows : List OutboxRow) (receipt : Receipt) (attempts : Nat)
    (code : String) (draw now : Nat) : Except String (List OutboxRow × List OutboxRow) :=
  if code = "" then acknowledge rows receipt now
  else retry rows receipt (jitterBackoff config.retryMin config.retryMax attempts draw) code now

/-- What it says of a row. -/
def settled (receipt : Receipt) (code : String) (r : OutboxRow) : OutboxNotice :=
  if code = "" then .acknowledged receipt r else .retried receipt r

section

variable {config : WorkerConfig} {grace now : Nat} {handlers : String → Bool} {d : OutboxRow}
  {cancelled cancelled' : Bool} {state state' : WorkerState} {returned : Option (OutboxRow × Bool)}

/-- **A worker that goes on** holds nothing else than before, and is done with it as soon. -/
theorem Move.keeps
    (move : Move handlers now cancelled state returned cancelled' state')
    (due : ∀ due, state.deadline? config grace = some due → now ≤ due)
    (member : d ∈ state'.held) :
    d ∈ state.held ∧ state'.doneBy config grace ≤ state.doneBy config grace := by
  cases move with
  | stopping =>
    have := due _ rfl
    refine ⟨List.mem_cons.mpr (.inl (List.mem_singleton.mp member)), ?_⟩
    simp only [WorkerState.doneBy]
    omega
  | unknown missing =>
    have := due _ rfl
    refine ⟨List.mem_cons.mpr (.inl (List.mem_singleton.mp member)), ?_⟩
    simp only [WorkerState.doneBy]
    omega
  | deliver known =>
    have := due _ rfl
    refine ⟨List.mem_cons.mpr (.inl (List.mem_singleton.mp member)), ?_⟩
    simp only [WorkerState.doneBy]
    omega
  | handle failed expired =>
    have := due _ rfl
    refine ⟨member, ?_⟩
    simp only [WorkerState.doneBy]
    omega
  | cancel => exact ⟨member, le_rfl⟩
  | _ => cases member

/-- A worker that goes on is not at a claim, and finishes without a code what its handler did. -/
theorem Move.said
    (move : Move handlers now cancelled state returned cancelled' state') :
    (∀ began, state' = .claiming began → state = .claiming began) ∧
      ∀ began d, state' = .finishing began d "" →
        state = .finishing began d "" ∨ returned = some (d, true) := by
  cases move with
  | stopping =>
    refine ⟨fun _ never => (by cases never), fun _ _ is => ?_⟩
    injection is with _ _ never
    exact absurd never (by decide)
  | unknown missing =>
    refine ⟨fun _ never => (by cases never), fun _ _ is => ?_⟩
    injection is with _ _ never
    exact absurd never (by decide)
  | handle failed expired =>
    refine ⟨fun _ never => (by cases never), fun began d is => ?_⟩
    injection is with _ same code
    rw [same]
    cases failed <;> cases expired
    · exact .inr rfl
    all_goals exact absurd code (by decide)
  | cancel => exact ⟨fun _ => id, fun _ _ => .inl⟩
  | _ => exact ⟨fun _ never => (by cases never), fun _ _ never => (by cases never)⟩

/-- **A lease outlasts** a claim, an attempt, its grace, and the statement after it. -/
theorem WorkerConfig.Valid.lasts (valid : config.Valid) (short : grace + 1000000 ≤ 1000000000) :
    2 * operationTimeout + config.attemptTimeout + grace < milliseconds config.leaseDuration := by
  have lease := valid.lease.1
  unfold milliseconds
  omega

/-- The codes that `deliver` uses. -/
def failureCodes : List String :=
  ["worker-stopping", "destination-unknown", "delivery-failed", "delivery-timeout"]

/-- **The last statement of a delivery is never refused.** -/
theorem settle_accepted {rows : List OutboxRow} {receipt : Receipt} {code : String}
    (valid : config.Valid) (identity : receipt.id ≠ .null) (token : receipt.token ≠ .null)
    (known : code = "" ∨ code ∈ failureCodes) (attempts draw : Nat) :
    ∃ rows' out, settle config rows receipt attempts code draw now = .ok (rows', out) := by
  have delay := (jitterBackoff_bounds valid.retry.2.1 attempts draw).2.trans (Nat.min_le_left _ _)
  have limit := delay.trans valid.retry.2.2
  unfold settle
  split_ifs with none'
  · exact ⟨_, _, if_neg (not_or.mpr ⟨identity, token⟩)⟩
  · have label : isLabel code = true := by
      have labels : ∀ code ∈ failureCodes, isLabel code = true := by decide
      exact labels code (known.resolve_left none')
    refine ⟨_, _, if_neg ?_⟩
    simp [identity, token, label, limit.not_gt]

end

/-- What happens in the table and to a worker. -/
inductive WorkerNotice (w : Nat)
  | table (notice : OutboxNotice)
  /-- A handler returned: without an error and in time, or not. -/
  | handled (i : Fin w) (d : OutboxRow) (succeeded : Bool)
  /-- The worker counts a lost lease. -/
  | lost (i : Fin w) (d : OutboxRow)

/-- What is said of the table. -/
def table? {w : Nat} : Nat × WorkerNotice w → Option (Nat × OutboxNotice)
  | (t, .table notice) => some (t, notice)
  | _ => none

/-- The table and its workers. -/
structure WorkerRun (p w : Nat) where
  clock : Nat
  queue : OutboxRun p w
  workers : Fin w → WorkerState
  cancelled : Fin w → Bool

namespace WorkerRun

variable {p w : Nat}

def new (p w now : Nat) : WorkerRun p w :=
  ⟨now, .new p w now, fun _ => .polling, fun _ => false⟩

/-- The time goes on, and no deadline has passed. -/
def Timely (config : WorkerConfig) (grace : Nat) (r : WorkerRun p w) (now : Nat) : Prop :=
  r.clock ≤ now ∧ ∀ i due, (r.workers i).deadline? config grace = some due → now ≤ due

/-- A table after a statement. -/
def tabled (r : WorkerRun p w) (now : Nat) (queue : OutboxRun p w) : WorkerRun p w :=
  { r with clock := now, queue := queue }

def become (r : WorkerRun p w) (now : Nat) (i : Fin w) (cancelled : Bool) (state : WorkerState) :
    WorkerRun p w :=
  { r with
    clock := now
    workers := Function.update r.workers i state
    cancelled := Function.update r.cancelled i cancelled }

/-- What others do with the table. -/
def Foreign : OutboxNotice → Prop
  | .queued _ => True
  | .purged _ _ => True
  | _ => False

/-- **One step**, of the table, of a worker, or of both. -/
inductive Step (lockOf : String × String → Int) (config : WorkerConfig) (grace : Nat)
    (handlers : String → Bool) : WorkerRun p w → List (Nat × WorkerNotice w) → WorkerRun p w → Prop
  | other {r : WorkerRun p w} {news : List (Nat × OutboxNotice)} {queue : OutboxRun p w}
      (timely : r.Timely config grace queue.clock) (step : OutboxRun.Step lockOf r.queue news queue)
      (foreign : ∀ x ∈ news, Foreign x.2) (readers : queue.readers = r.queue.readers) :
      Step lockOf config grace handlers r (news.map fun x => (x.1, .table x.2))
        (r.tabled queue.clock queue)
  | claim {r : WorkerRun p w} {now : Nat} {i : Fin w} (timely : r.Timely config grace now)
      (polling : r.workers i = .polling) (going : r.cancelled i = false) :
      Step lockOf config grace handlers r []
        ((r.tabled now ({ r.queue with clock := now }.seeing i (some r.queue.rows))).become now i
          false (.claiming now))
  | answer {r : WorkerRun p w} {now began : Nat} {i : Fin w} {snapshot : List OutboxRow}
      {token : UUID} {locked : Nat → Bool} (timely : r.Timely config grace now)
      (claiming : r.workers i = .claiming began) (reading : r.queue.readers i = some snapshot)
      (limits : claimLimits 1 config.leaseDuration = true) (drawn : token ∉ r.queue.tokens) :
      Step lockOf config grace handlers r
        ((Outbox.claim snapshot r.queue.rows locked 1 now token config.leaseDuration).2.map fun x =>
          (now, .table (.claimed x)))
        ((r.tabled now ({ r.queue with
            clock := now
            rows := (Outbox.claim snapshot r.queue.rows locked 1 now token config.leaseDuration).1
            tokens := token :: r.queue.tokens }.seeing i none)).become now i (r.cancelled i)
          (.answered began
            (Outbox.claim snapshot r.queue.rows locked 1 now token config.leaseDuration).2))
  /-- The last statement of a delivery runs.  Its answer arrives, or it does not. -/
  | settle {r : WorkerRun p w} {now began draw expiry : Nat} {i : Fin w} {d : OutboxRow}
      {code : String} {token : UUID} {rows out : List OutboxRow} (heard : Bool)
      (timely : r.Timely config grace now) (finishing : r.workers i = .finishing began d code)
      (leased : d.lease = some (token, expiry))
      (done : Outbox.settle config r.queue.rows ⟨d.id, token⟩ d.attempts code draw now =
        .ok (rows, out)) :
      Step lockOf config grace handlers r
        ((out.map fun x => (now, .table (settled ⟨d.id, token⟩ code x))) ++
          if heard = true ∧ changed out = false then [(now, .lost i d)] else [])
        ((r.become now i (r.cancelled i) .polling).tabled now
          { r.queue with clock := now, rows := rows })
  | move {r : WorkerRun p w} {now : Nat} {i : Fin w} {returned : Option (OutboxRow × Bool)}
      {cancelled : Bool} {state : WorkerState} (timely : r.Timely config grace now)
      (move : Move handlers now (r.cancelled i) (r.workers i) returned cancelled state) :
      Step lockOf config grace handlers r
        (returned.toList.map fun x => (now, .handled i x.1 x.2)) (r.become now i cancelled state)

/-- **A run**, and what happened in it. -/
abbrev Steps (lockOf : String × String → Int) (config : WorkerConfig) (grace : Nat)
    (handlers : String → Bool) : WorkerRun p w → List (Nat × WorkerNotice w) → WorkerRun p w → Prop :=
  Logged.Run (Step lockOf config grace handlers)

/-- A message was purged. -/
def Purged (log : List (Nat × WorkerNotice w)) (sequence : Nat) : Prop :=
  ∃ t attempts r, (t, WorkerNotice.table (.purged attempts r)) ∈ log ∧ r.sequence = sequence

section

variable {lockOf : String × String → Int} {config : WorkerConfig} {grace : Nat}
  {handlers : String → Bool} {r t : WorkerRun p w} {log news : List (Nat × WorkerNotice w)}
  {now : Nat} {d : OutboxRow}

/-! ### The table -/

theorem mem_table {x : Nat × OutboxNotice} :
    x ∈ log.filterMap table? ↔ (x.1, WorkerNotice.table x.2) ∈ log := by
  rw [List.mem_filterMap]
  constructor
  · rintro ⟨⟨time, notice⟩, member, is⟩
    cases notice with
    | table notice =>
      cases is
      exact member
    | _ => cases is
  · intro member
    exact ⟨_, member, rfl⟩

theorem table_map {V : Type} (xs : List V) (time : V → Nat) (notice : V → OutboxNotice) :
    (xs.map fun x => (time x, (WorkerNotice.table (notice x) : WorkerNotice w))).filterMap table? =
      xs.map fun x => (time x, notice x) := by
  rw [List.filterMap_map, ← List.filterMap_eq_map]
  rfl

theorem table_returned {i : Fin w} (returned : Option (OutboxRow × Bool)) :
    (returned.toList.map fun x => (now, WorkerNotice.handled i x.1 x.2)).filterMap table? = [] := by
  cases returned <;> rfl

theorem settle_table {i : Fin w} (heard : Bool) (receipt : Receipt) (code : String)
    (out : List OutboxRow) :
    (((out.map fun x => (now, WorkerNotice.table (settled receipt code x))) ++
      if heard = true ∧ changed out = false then [(now, WorkerNotice.lost i d)] else []).filterMap
        table?) = out.map fun x => (now, settled receipt code x) := by
  rw [List.filterMap_append, table_map]
  split_ifs
  · exact List.append_nil _
  · exact List.append_nil _

/-- The last statement of a delivery is one of the outbox's. -/
theorem settle_step {queue : OutboxRun p w} {receipt : Receipt} {attempts draw : Nat} {code : String}
    {rows out : List OutboxRow} (later : queue.clock ≤ now)
    (done : Outbox.settle config queue.rows receipt attempts code draw now = .ok (rows, out)) :
    OutboxRun.Step lockOf queue (out.map fun x => (now, settled receipt code x))
      { queue with clock := now, rows := rows } := by
  unfold Outbox.settle at done
  unfold settled
  split_ifs at done ⊢
  · exact .acknowledge later done
  · exact .retry later done

theorem settled_row {receipt : Receipt} {code : String} : (settled receipt code d).row = d := by
  unfold settled
  split_ifs <;> rfl

theorem settle_out {rows rows' out : List OutboxRow} {receipt : Receipt} {attempts draw : Nat}
    {code : String}
    (done : Outbox.settle config rows receipt attempts code draw now = .ok (rows', out)) :
    out = rows.filter (OutboxRow.heldBy receipt now) := by
  unfold Outbox.settle at done
  split_ifs at done
  · exact (acknowledge_spec done).2
  · exact (retry_spec done).2.2

/-- **A step of the table is one of the outbox's**, or the table stays. -/
theorem step_table (since : r.queue.clock ≤ r.clock)
    (step : Step lockOf config grace handlers r news t) :
    t.queue.clock ≤ t.clock ∧
      (OutboxRun.Step lockOf r.queue (news.filterMap table?) t.queue ∨
        t.queue = r.queue ∧ news.filterMap table? = []) := by
  cases step with
  | other timely step foreign readers =>
    rw [table_map, List.map_id'' fun _ => rfl]
    exact ⟨le_rfl, .inl step⟩
  | claim timely polling going => exact ⟨le_rfl, .inl (.read (since.trans timely.1))⟩
  | answer timely claiming reading limits drawn =>
    rw [table_map]
    exact ⟨le_rfl, .inl (.claim (since.trans timely.1) reading limits drawn)⟩
  | settle heard timely finishing leased done =>
    rw [settle_table]
    exact ⟨le_rfl, .inl (settle_step (since.trans timely.1) done)⟩
  | move timely move =>
    rw [table_returned]
    exact ⟨since.trans timely.1, .inr ⟨rfl, rfl⟩⟩

/-- **Of the table, a run of workers is a run of the outbox.** -/
theorem steps_table {start : Nat} (steps : Steps lockOf config grace handlers (new p w start) log r) :
    r.queue.clock ≤ r.clock ∧
      OutboxRun.Steps lockOf (.new p w start) (log.filterMap table?) r.queue := by
  induction steps with
  | refl => exact ⟨le_rfl, .refl⟩
  | tail run last ih =>
    obtain ⟨later, here | ⟨same, silent⟩⟩ := step_table ih.1 last
    · rw [List.filterMap_append]
      exact ⟨later, ih.2.tail here⟩
    · rw [List.filterMap_append, silent, List.append_nil, same]
      exact ⟨same ▸ later, ih.2⟩

/-- A row of which nothing is said stays. -/
theorem row_step {queue queue' : OutboxRun p w} {said : List (Nat × OutboxNotice)}
    (step : OutboxRun.Step lockOf queue said queue') (member : d ∈ queue.rows)
    (quiet : ∀ x ∈ said, x.2.row.sequence ≠ d.sequence) : d ∈ queue'.rows := by
  cases step with
  | commit later working => exact List.mem_append_left _ member
  | claim later reading limits drawn =>
    refine mem_claim.mpr (.inr ⟨member, Bool.eq_false_iff.mpr fun taken => ?_⟩)
    exact quiet _ (List.mem_map_of_mem (mem_deliveries.mpr ⟨d, member, taken, rfl⟩)) rfl
  | acknowledge later done =>
    obtain ⟨rfl, rfl⟩ := acknowledge_spec done
    refine List.mem_filter.mpr ⟨member, ?_⟩
    rw [Bool.not_eq_true', Bool.eq_false_iff]
    exact fun is => quiet _ (List.mem_map_of_mem (List.mem_filter.mpr ⟨member, is⟩)) rfl
  | retry later done =>
    obtain ⟨-, rfl, rfl⟩ := retry_spec done
    refine List.mem_map.mpr ⟨d, member, if_neg fun is => ?_⟩
    exact quiet _ (List.mem_map_of_mem (List.mem_filter.mpr ⟨member, is⟩)) rfl
  | purge later done =>
    obtain ⟨gone, rfl, rfl, -, -⟩ := purge_spec done
    refine List.mem_filter.mpr ⟨member, ?_⟩
    rw [Bool.not_eq_true', Bool.eq_false_iff]
    exact fun is => quiet _ (List.mem_map_of_mem (List.mem_filter.mpr ⟨member, is⟩)) rfl
  | _ => exact member

/-! ### What a worker holds -/

/-- **What a worker holds** was claimed, is in the table unless it was purged, and its lease runs
until the worker is done with it. -/
structure Kept (config : WorkerConfig) (grace : Nat) (log : List (Nat × WorkerNotice w))
    (r : WorkerRun p w) : Prop where
  began : ∀ {i began}, r.workers i = .claiming began → began ≤ r.clock
  claimed : ∀ {i d}, d ∈ (r.workers i).held → ∃ t, (t, WorkerNotice.table (.claimed d)) ∈ log
  stored : ∀ {i d}, d ∈ (r.workers i).held → d ∈ r.queue.rows ∨ Purged log d.sequence
  leased : ∀ {i d token expiry}, d ∈ (r.workers i).held → d.lease = some (token, expiry) →
    (r.workers i).doneBy config grace < expiry
  apart : ∀ {i j d d' token e e'}, d ∈ (r.workers i).held → d' ∈ (r.workers j).held →
    d.lease = some (token, e) → d'.lease = some (token, e') → i = j
  succeeded : ∀ {i began d}, r.workers i = .finishing began d "" →
    ∃ t, (t, WorkerNotice.handled i d true) ∈ log

theorem kept_new (start : Nat) : Kept config grace [] (new p w start) where
  began is := by cases is
  claimed member := by cases member
  stored member := by cases member
  leased member := by cases member
  apart member := by cases member
  succeeded is := by cases is

theorem Purged.append {sequence : Nat} (purged : Purged log sequence) :
    Purged (log ++ news) sequence := by
  obtain ⟨time, attempts, x, member, same⟩ := purged
  exact ⟨time, attempts, x, List.mem_append_left _ member, same⟩

/-- A statement that says nothing of what workers hold, but for purges. -/
theorem Kept.tabled (kept : Kept config grace log r) (news : List (Nat × WorkerNotice w))
    (later : r.clock ≤ now) {queue : OutboxRun p w}
    (step : OutboxRun.Step lockOf r.queue (news.filterMap table?) queue)
    (quiet : ∀ {i d}, d ∈ (r.workers i).held → d ∈ r.queue.rows →
      ∀ x ∈ news.filterMap table?, x.2.row.sequence = d.sequence →
        ∃ attempts y, x.2 = .purged attempts y) :
    Kept config grace (log ++ news) (r.tabled now queue) where
  began is := (kept.began is).trans later
  claimed member := (kept.claimed member).imp fun _ => List.mem_append_left _
  stored {i d} member := by
    rcases kept.stored member with inside | purged
    swap
    · exact .inr purged.append
    by_cases silent : ∀ x ∈ news.filterMap table?, x.2.row.sequence ≠ d.sequence
    · exact .inl (row_step step inside silent)
    · obtain ⟨x, said, spoken⟩ := not_forall₂.mp silent
      have same := not_not.mp spoken
      obtain ⟨attempts, y, is⟩ := quiet member inside x said same
      refine .inr ⟨x.1, attempts, y, List.mem_append_right _ ?_, ?_⟩
      · rw [← is]
        exact mem_table.mp said
      · rw [is] at same
        exact same
  leased := kept.leased
  apart := kept.apart
  succeeded is := (kept.succeeded is).imp fun _ => List.mem_append_left _

/-- A worker goes on, with deliveries that are its own. -/
theorem Kept.become (kept : Kept config grace log r) (news : List (Nat × WorkerNotice w))
    (later : r.clock ≤ now) (i : Fin w) (cancelled : Bool) (state : WorkerState)
    (began : ∀ {began}, state = .claiming began → began ≤ now)
    (claimed : ∀ {d}, d ∈ state.held → ∃ t, (t, WorkerNotice.table (.claimed d)) ∈ log ++ news)
    (stored : ∀ {d}, d ∈ state.held → d ∈ r.queue.rows ∨ Purged (log ++ news) d.sequence)
    (leased : ∀ {d token expiry}, d ∈ state.held → d.lease = some (token, expiry) →
      state.doneBy config grace < expiry)
    (apart : ∀ {j d d' token e e'}, d ∈ state.held → d' ∈ (r.workers j).held →
      d.lease = some (token, e) → d'.lease = some (token, e') → j = i)
    (succeeded : ∀ {began d}, state = .finishing began d "" →
      ∃ t, (t, WorkerNotice.handled i d true) ∈ log ++ news) :
    Kept config grace (log ++ news) (r.become now i cancelled state) := by
  have worker : ∀ j, (r.become now i cancelled state).workers j =
      if j = i then state else r.workers j := fun j => Function.update_apply ..
  exact {
    began := fun {j b} is => by
      rw [worker] at is
      split_ifs at is
      · exact began is
      · exact (kept.began is).trans later
    claimed := fun {j d} member => by
      rw [worker] at member
      split_ifs at member
      · exact claimed member
      · exact (kept.claimed member).imp fun _ => List.mem_append_left _
    stored := fun {j d} member => by
      rw [worker] at member
      split_ifs at member
      · exact stored member
      · exact (kept.stored member).imp_right Purged.append
    leased := fun {j d token expiry} member is => by
      rw [worker] at member ⊢
      split_ifs at member ⊢
      · exact leased member is
      · exact kept.leased member is
    apart := fun {j k d d' token e e'} first second is is' => by
      rw [worker] at first second
      split_ifs at first second with mine other other
      · exact mine.trans other.symm
      · exact mine.trans (apart first second is is').symm
      · exact (apart second first is' is).trans other.symm
      · exact kept.apart first second is is'
    succeeded := fun {j b d} is => by
      rw [worker] at is
      split_ifs at is with mine
      · rw [mine]
        exact succeeded is
      · exact (kept.succeeded is).imp fun _ => List.mem_append_left _ }

/-- What a worker holds, it is not yet to be done with. -/
theorem Timely.doneBy (timely : r.Timely config grace now) {i : Fin w}
    (member : d ∈ (r.workers i).held) : now ≤ (r.workers i).doneBy config grace := by
  have due := timely.2 i
  cases state : r.workers i with
  | answered began deliveries =>
    have := due _ (congrArg _ state)
    simp only [WorkerState.doneBy]
    omega
  | delivering began x =>
    have := due _ (congrArg _ state)
    simp only [WorkerState.doneBy]
    omega
  | finishing began x code => exact due _ (congrArg _ state)
  | _ =>
    rw [state] at member
    cases member

/-- What the receipt of a delivery is for, a settlement takes effect on. -/
theorem heldBy_receipt {token : UUID} {expiry : Nat} (leased : d.lease = some (token, expiry))
    (runs : now < expiry) : d.heldBy ⟨d.id, token⟩ now = true :=
  heldBy_iff.mpr ⟨rfl, expiry, leased, runs⟩

/-- **Every step keeps what workers hold.** -/
theorem Kept.step (valid : config.Valid) (short : grace + 1000000 ≤ 1000000000)
    (kept : Kept config grace log r) (since : r.queue.clock ≤ r.clock)
    (sound : r.queue.Sound lockOf) (told : OutboxRun.Told (log.filterMap table?) r.queue)
    (step : Step lockOf config grace handlers r news t) : Kept config grace (log ++ news) t := by
  have same : ∀ {x y}, x ∈ r.queue.rows → y ∈ r.queue.rows → x.sequence = y.sequence → x = y :=
    fun member member' => List.inj_on_of_nodup_map sound.once member member'
  have lease : ∀ {i d}, d ∈ (r.workers i).held →
      ∃ token expiry, d.lease = some (token, expiry) ∧ token ∈ r.queue.tokens := by
    intro i d member
    obtain ⟨time, claimed⟩ := kept.claimed member
    exact (told.claimed (mem_table.mpr claimed)).2
  cases step with
  | @other news queue timely step foreign readers =>
    -- What others commit has another place.
    have silent : (news.map fun x => (x.1, (WorkerNotice.table x.2 : WorkerNotice w))).filterMap
        table? = news := by
      rw [table_map, List.map_id'' fun _ => rfl]
    refine kept.tabled _ timely.1 (by rwa [silent]) fun {i d} member inside x said equal => ?_
    rw [silent] at said
    have explained := OutboxRun.explained_step sound step said
    have is := foreign x said
    obtain ⟨time, notice⟩ := x
    cases notice with
    | queued y =>
      obtain ⟨j, staged⟩ := explained
      exact absurd equal.symm (sound.late inside staged).1
    | purged attempts y => exact ⟨attempts, y, rfl⟩
    | _ => cases is
  | @claim now i timely polling going =>
    have read : OutboxRun.Step lockOf r.queue [] _ := .read (j := i) (since.trans timely.1)
    have first := kept.tabled [] timely.1 read fun _ _ x never => absurd never List.not_mem_nil
    have second := first.become [] le_rfl i false (.claiming now) (fun is => by cases is; exact le_rfl)
      (fun never => by cases never) (fun never => by cases never) (fun never => by cases never)
      (fun never => by cases never) fun never => by cases never
    rwa [List.append_nil] at second
  | @answer now began i snapshot token locked timely claiming reading limits drawn =>
    have ran : OutboxRun.Step lockOf r.queue _ _ :=
      @OutboxRun.Step.claim _ _ _ _ _ _ _ _ _ _ locked (since.trans timely.1) reading limits drawn
    rw [← table_map (w := w) _ (fun _ => now)] at ran
    have first := kept.tabled _ timely.1 ran fun {j d} member inside x said equal => ?_
    · have second := first.become [] le_rfl i (r.cancelled i) (.answered began (Outbox.claim snapshot
          r.queue.rows locked 1 now token config.leaseDuration).2) (fun never => by cases never)
        (fun {d} member => ?_) (fun {d} member => ?_) (fun {d token' expiry} member is => ?_)
        (fun {j d d' token' e e'} mine theirs is is' => ?_) fun never => by cases never
      · rwa [List.append_nil] at second
      · refine ⟨now, ?_⟩
        rw [List.append_nil]
        exact List.mem_append_right _ (List.mem_map_of_mem member)
      · exact .inl (mem_claim.mpr (.inl (mem_deliveries.mp member)))
      · obtain ⟨old, -, -, rfl⟩ := mem_deliveries.mp member
        cases is
        have lasts := valid.lasts short
        have earlier := (kept.began claiming).trans timely.1
        simp only [WorkerState.doneBy]
        omega
      · obtain ⟨old, -, -, rfl⟩ := mem_deliveries.mp mine
        cases is
        obtain ⟨token', expiry, has, known⟩ := lease theirs
        rw [is'] at has
        cases has
        exact absurd known drawn
    · -- A claim takes rows without a lease that runs, and those of workers have one.
      rw [table_map] at said
      obtain ⟨y, delivered, rfl⟩ := List.mem_map.mp said
      obtain ⟨old, before, taken, rfl⟩ := mem_deliveries.mp delivered
      obtain ⟨ready, -⟩ := OutboxRun.leads_of_ready sound reading before taken
      obtain ⟨token', expiry, has, -⟩ := lease member
      rw [same before inside equal] at ready
      have expired := (available_iff.mp ready).2 token' expiry has
      exact absurd ((timely.doneBy member).trans_lt (kept.leased member has)) expired.not_gt
  | @settle now began draw expiry i d code token rows out heard timely finishing leased done =>
    have mine : d ∈ (r.workers i).held := by
      rw [finishing]
      exact List.mem_cons_self
    have first := kept.become [] timely.1 i (r.cancelled i) .polling (fun never => by cases never)
      (fun never => by cases never) (fun never => by cases never) (fun never => by cases never)
      (fun never => by cases never) fun never => by cases never
    rw [List.append_nil] at first
    -- The worker is done with the delivery, and nobody else has the token of its receipt.
    have ran : OutboxRun.Step lockOf r.queue _ _ := settle_step (since.trans timely.1) done
    rw [← settle_table (i := i) (d := d) heard] at ran
    refine first.tabled _ le_rfl ran fun {j d'} member inside x said equal => ?_
    rw [settle_table, settle_out done] at said
    obtain ⟨y, gone, rfl⟩ := List.mem_map.mp said
    obtain ⟨before, held⟩ := List.mem_filter.mp gone
    rw [settled_row] at equal
    obtain ⟨-, e, has, -⟩ := heldBy_iff.mp held
    rw [same before inside equal] at has
    have worker : (r.become now i (r.cancelled i) .polling).workers j =
        if j = i then .polling else r.workers j := Function.update_apply ..
    rw [worker] at member
    split_ifs at member with this
    · cases member
    · exact absurd (kept.apart member mine has leased) this
  | @move now i returned cancelled state timely move =>
    obtain ⟨claims, finishes⟩ := move.said
    -- What a worker holds it has held before, and not for longer.
    refine kept.become _ timely.1 _ _ _ (fun is => (kept.began (claims _ is)).trans timely.1)
      (fun member => ?_) (fun member => ?_) (fun member is => ?_) (fun first second is is' => ?_)
      fun is => ?_
    · exact (kept.claimed (move.keeps (timely.2 i) member).1).imp fun _ => List.mem_append_left _
    · exact (kept.stored (move.keeps (timely.2 i) member).1).imp_right Purged.append
    · obtain ⟨inside, sooner⟩ := move.keeps (timely.2 i) member
      exact sooner.trans_lt (kept.leased inside is)
    · exact kept.apart second (move.keeps (timely.2 i) first).1 is' is
    · rcases finishes _ _ is with old | rfl
      · exact (kept.succeeded old).imp fun _ => List.mem_append_left _
      · exact ⟨now, List.mem_append_right _ List.mem_cons_self⟩

/-- What workers hold in a run. -/
theorem kept_steps {start : Nat} (valid : config.Valid) (short : grace + 1000000 ≤ 1000000000)
    (steps : Steps lockOf config grace handlers (new p w start) log r) : Kept config grace log r := by
  induction steps with
  | refl => exact kept_new start
  | tail run last ih =>
    obtain ⟨since, table⟩ := steps_table run
    obtain ⟨sound, told, -⟩ := OutboxRun.told_steps table
    exact ih.step valid short since sound told last

/-- A message is there once. -/
theorem same_row {queue : OutboxRun p w} {x y : OutboxRow} (sound : queue.Sound lockOf)
    (member : x ∈ queue.rows) (member' : y ∈ queue.rows) (named : x.id = y.id) : x = y :=
  List.inj_on_of_nodup_map sound.once member member' (sound.named (.inl member) (.inl member') named)

/-- A settlement changes the row of the delivery, if it is there. -/
theorem settle_changed {queue : OutboxRun p w} {token : UUID} {expiry attempts draw : Nat}
    {code : String} {rows out : List OutboxRow} (sound : queue.Sound lockOf) (inside : d ∈ queue.rows)
    (leased : d.lease = some (token, expiry)) (runs : now < expiry)
    (done : Outbox.settle config queue.rows ⟨d.id, token⟩ attempts code draw now = .ok (rows, out)) :
    changed out = true := by
  have same : out = .replicate out.length d := by
    refine List.eq_replicate_of_mem fun y member => ?_
    rw [settle_out done] at member
    obtain ⟨before, held⟩ := List.mem_filter.mp member
    exact same_row sound before inside (heldBy_iff.mp held).1
  have member : d ∈ out := by
    rw [settle_out done]
    exact List.mem_filter.mpr ⟨inside, heldBy_receipt leased runs⟩
  have once : out.Nodup := by
    rw [settle_out done]
    exact (List.Nodup.of_map _ sound.once).filter _
  rw [same, List.nodup_replicate] at once
  exact decide_eq_true (once.antisymm (List.length_pos_of_mem member))

/-- A step that counts a lost lease. -/
theorem lost_step (kept : Kept config grace log r) (sound : r.queue.Sound lockOf)
    (step : Step lockOf config grace handlers r news t) {time : Nat} {i : Fin w}
    (said : (time, WorkerNotice.lost i d) ∈ news) : Purged log d.sequence := by
  cases step with
  | other timely step foreign readers =>
    obtain ⟨x, -, never⟩ := List.mem_map.mp said
    cases never
  | claim timely polling going => cases said
  | answer timely claiming reading limits drawn =>
    obtain ⟨x, -, never⟩ := List.mem_map.mp said
    cases never
  | settle heard timely finishing leased done =>
    rcases List.mem_append.mp said with never | counted
    · obtain ⟨x, -, never⟩ := List.mem_map.mp never
      cases never
    split_ifs at counted with unchanged
    · cases List.mem_singleton.mp counted
      have mine : d ∈ (r.workers i).held := by
        rw [finishing]
        exact List.mem_cons_self
      refine (kept.stored mine).resolve_left fun inside => ?_
      have runs := (timely.doneBy mine).trans_lt (kept.leased mine leased)
      rw [settle_changed sound inside leased runs done] at unchanged
      cases unchanged.2
    · cases counted
  | move timely move =>
    obtain ⟨x, -, never⟩ := List.mem_map.mp said
    cases never

/-- A step that acknowledges. -/
theorem acknowledged_step (kept : Kept config grace log r) (sound : r.queue.Sound lockOf)
    (step : Step lockOf config grace handlers r news t) {time : Nat} {receipt : Receipt}
    {x : OutboxRow} (said : (time, WorkerNotice.table (.acknowledged receipt x)) ∈ news) :
    ∃ i d expiry earlier, (earlier, WorkerNotice.handled i d true) ∈ log ∧ d.id = receipt.id ∧
      d.lease = some (receipt.token, expiry) ∧ (x = d ∨ Purged log d.sequence) := by
  cases step with
  | other timely step foreign readers =>
    obtain ⟨y, member, is⟩ := List.mem_map.mp said
    have never := foreign y member
    rw [WorkerNotice.table.inj (Prod.mk.inj is).2] at never
    cases never
  | claim timely polling going => cases said
  | answer timely claiming reading limits drawn =>
    obtain ⟨y, -, never⟩ := List.mem_map.mp said
    cases never
  | @settle now began draw expiry i d code token rows out heard timely finishing leased done =>
    rcases List.mem_append.mp said with acknowledged | never
    · obtain ⟨y, changed', is⟩ := List.mem_map.mp acknowledged
      unfold settled at is
      split_ifs at is with none'
      · cases is
        have mine : d ∈ (r.workers i).held := by
          rw [finishing]
          exact List.mem_cons_self
        rw [none'] at finishing
        obtain ⟨earlier, handled⟩ := kept.succeeded finishing
        rw [settle_out done] at changed'
        obtain ⟨before, held⟩ := List.mem_filter.mp changed'
        have delivered := (kept.stored mine).imp_left fun inside =>
          same_row sound before inside (heldBy_iff.mp held).1
        exact ⟨i, d, expiry, earlier, handled, rfl, leased, delivered⟩
      · cases is
    · split_ifs at never
      · cases List.mem_singleton.mp never
      · cases never
  | move timely move =>
    obtain ⟨y, -, never⟩ := List.mem_map.mp said
    cases never

end

/-! ### A run -/

open OutboxRun (oneMessage oneToken oneLock)

/-- The durations of `DefaultWorkerConfig`. -/
def oneConfig : WorkerConfig := ⟨10000000000, 30000000000, 1000000000, 300000000000⟩

theorem oneConfig_valid : oneConfig.Valid := ⟨by decide, by decide, by decide⟩

/-- Two messages of one key, and their rows. -/
def twoMessages : List Message := [oneMessage, { oneMessage with id := oneToken 4 }]

def firstRow : OutboxRow := oneMessage.row 1 0

def secondRow : OutboxRow := { oneMessage with id := oneToken 4 : Message }.row 2 0

theorem timely_start {p w : Nat} {r : WorkerRun p w} (clock : r.clock = 0) : r.Timely oneConfig 0 0 :=
  ⟨clock.le, fun _ _ _ => Nat.zero_le _⟩

theorem steps_twoCommitted : ∃ queue : OutboxRun 1 2,
    Steps oneLock oneConfig 0 (fun _ => true) (new 1 2 0)
      [(0, .table (.queued firstRow)), (0, .table (.queued secondRow))]
      ⟨0, queue, fun _ => .polling, fun _ => false⟩ ∧
    queue.rows = [firstRow, secondRow] ∧ queue.clock = 0 ∧ queue.tokens = [] := by
  have checked : checkBatch twoMessages = .ok () := by decide
  have keys : lockKeys oneLock twoMessages = [0] := Finset.sort_singleton _ _
  have begun : Steps oneLock oneConfig 0 (fun _ => true) (new 1 2 0) [] _ :=
    .single (.other (timely_start rfl) (.enqueue (i := 0) le_rfl rfl checked)
      (fun _ never => by cases never) rfl)
  rw [keys] at begun
  have alone : ∀ j : Fin 1, j ≠ 0 → (0 : Int) ∉ (((OutboxRun.new 1 2 0).become 0
      (.working [] [0] [] twoMessages)).producers j).held :=
    fun j other => absurd (Subsingleton.elim j 0) other
  have locked := begun.tail (.other (timely_start rfl) (.lock (i := 0) le_rfl rfl alone)
    (fun _ never => by cases never) rfl)
  have first := locked.tail (.other (timely_start rfl) (.insert (i := 0) le_rfl rfl ?_)
    (fun _ never => by cases never) rfl)
  · have second := first.tail (.other (timely_start rfl) (.insert (i := 0) le_rfl rfl ?_)
      (fun _ never => by cases never) rfl)
    · have done := second.tail (.other (timely_start rfl) (.commit (i := 0) le_rfl rfl)
        (fun x said => ?_) rfl)
      · exact ⟨_, done, rfl, rfl, rfl⟩
      · obtain ⟨r, -, rfl⟩ := List.mem_map.mp said
        trivial
    · rintro r (never | ⟨i, member⟩)
      · cases never
      · rw [Subsingleton.elim i 0] at member
        cases List.mem_singleton.mp member
        decide
  · rintro r (never | ⟨i, never⟩)
    · cases never
    · rw [Subsingleton.elim i 0] at never
      cases never

def firstClaimed : OutboxRow := firstRow.leased (oneToken 2) 30000000000

def secondClaimed : OutboxRow := secondRow.leased (oneToken 3) 30000000000

theorem readyRows_only {rows : List OutboxRow} {a : OutboxRow} {now : Nat}
    (only : rows.filter (fun m => m.available now && m.leads rows) = [a]) :
    readyRows rows rows (fun _ => false) 1 now = [a] := by
  have inside : a ∈ rows.filter (fun m => m.available now && m.leads rows) := by
    rw [only]
    exact List.mem_singleton.mpr rfl
  obtain ⟨member, ready⟩ := List.mem_filter.mp inside
  rw [Bool.and_eq_true] at ready
  have still : rows.any (fun r => decide (r.sequence = a.sequence) && r.available now) = true :=
    List.any_eq_true.mpr ⟨a, member, by rw [ready.1, decide_eq_true rfl]; rfl⟩
  rw [readyRows, only, bySequence, sorted_short le_rfl, List.filter_singleton, still]
  rfl

theorem claim_twoMessages : Outbox.claim [firstRow, secondRow] [firstRow, secondRow] (fun _ => false) 1
    0 (oneToken 2) oneConfig.leaseDuration = ([firstClaimed, secondRow], [firstClaimed]) := by
  have only : [firstRow, secondRow].filter
      (fun m => m.available 0 && m.leads [firstRow, secondRow]) = [firstRow] := by decide
  rw [Outbox.claim, readyRows_only only]
  rfl

theorem claim_secondMessage : Outbox.claim [secondRow] [secondRow] (fun _ => false) 1
    0 (oneToken 3) oneConfig.leaseDuration = ([secondClaimed], [secondClaimed]) := by
  have only : [secondRow].filter (fun m => m.available 0 && m.leads [secondRow]) = [secondRow] := by
    decide
  rw [Outbox.claim, readyRows_only only]
  rfl

/-- The notices of a run in which the first message is claimed. -/
def claimedLog : List (Nat × WorkerNotice 2) :=
  [(0, .table (.queued firstRow)), (0, .table (.queued secondRow)), (0, .table (.claimed firstClaimed))]

/-- What the first worker is at, once it has claimed. -/
def workersClaimed : Fin 2 → WorkerState :=
  Function.update (Function.update (fun _ => .polling) 0 (.claiming 0)) 0 (.answered 0 [firstClaimed])

theorem steps_workerClaimed : ∃ (queue : OutboxRun 1 2) (cancelled : Fin 2 → Bool),
    Steps oneLock oneConfig 0 (fun _ => true) (new 1 2 0) claimedLog
      ⟨0, queue, workersClaimed, cancelled⟩ ∧ cancelled 0 = false ∧ cancelled 1 = false ∧
    queue.rows = [firstClaimed, secondRow] ∧ queue.clock = 0 ∧ queue.tokens = [oneToken 2] := by
  obtain ⟨queue, steps, rows, clock, tokens⟩ := steps_twoCommitted
  have claiming := steps.tail (.claim (i := 0) (timely_start rfl) rfl rfl)
  rw [rows] at claiming
  have drawn : oneToken 2 ∉ queue.tokens := by
    rw [tokens]
    exact List.not_mem_nil
  have answered := claiming.tail (@Step.answer 1 2 oneLock oneConfig 0 _ _ 0 0 0 [firstRow, secondRow]
    (oneToken 2) (fun _ => false) (timely_start rfl) rfl rfl (by decide) drawn)
  have table : (({ queue with clock := 0 }.seeing 0 (some [firstRow, secondRow])) : OutboxRun 1 2).rows =
      [firstRow, secondRow] := rows
  simp only [tabled, become, table, claim_twoMessages] at answered
  exact ⟨_, _, answered, rfl, rfl, rfl, rfl, congrArg _ tokens⟩

/-- The first worker's handler succeeds. -/
theorem steps_workerHandled {log : List (Nat × WorkerNotice 2)} {queue : OutboxRun 1 2}
    {cancelled : Fin 2 → Bool}
    (steps : Steps oneLock oneConfig 0 (fun _ => true) (new 1 2 0) log
      ⟨0, queue, workersClaimed, cancelled⟩) (going : cancelled 0 = false) :
    ∃ (workers : Fin 2 → WorkerState) (cancelled : Fin 2 → Bool),
      Steps oneLock oneConfig 0 (fun _ => true) (new 1 2 0)
        (log ++ [(0, .handled 0 firstClaimed true)]) ⟨0, queue, workers, cancelled⟩ ∧
      workers 0 = .finishing 0 firstClaimed "" := by
  have deliver : Move (fun _ => true) 0 (cancelled 0) (workersClaimed 0) none false
      (.delivering 0 firstClaimed) := by
    rw [going]
    exact .deliver rfl
  have delivering := steps.tail (.move (i := 0) (timely_start rfl) deliver)
  rw [Option.toList_none, List.map_nil, List.append_nil] at delivering
  have finishing := delivering.tail (.move (i := 0) (timely_start rfl) (.handle false false))
  exact ⟨_, _, finishing, rfl⟩

/-- The first message is purged while the first worker has it. -/
def purgedLog : List (Nat × WorkerNotice 2) := claimedLog ++ [(0, .table (.purged 1 firstClaimed))]

theorem steps_workerPurged : ∃ (queue : OutboxRun 1 2) (cancelled : Fin 2 → Bool),
    Steps oneLock oneConfig 0 (fun _ => true) (new 1 2 0) purgedLog
      ⟨0, queue, workersClaimed, cancelled⟩ ∧ cancelled 0 = false ∧ cancelled 1 = false ∧
    queue.rows = [secondRow] ∧ queue.clock = 0 ∧ queue.tokens = [oneToken 2] := by
  obtain ⟨queue, cancelled, steps, going, going', rows, clock, tokens⟩ := steps_workerClaimed
  have dead : [firstClaimed, secondRow].filter (OutboxRow.isDead 1 (milliseconds 1) 0) =
      [firstClaimed] := by decide
  have done : purge queue.rows 1 1 1 0 = .ok ([secondRow], [firstClaimed]) := by
    rw [rows, purge, dead, bySequence, sorted_short le_rfl]
    rfl
  have purged := steps.tail (.other (timely_start rfl) (.purge clock.le done) (fun x said => ?_) rfl)
  · exact ⟨_, _, purged, going, going', rfl, rfl, tokens⟩
  · cases List.mem_singleton.mp said
    trivial

/-! ### What holds of every run of workers -/

section

variable {lockOf : String × String → Int} {config : WorkerConfig} {grace : Nat}
  {handlers : String → Bool} {r : WorkerRun p w} {log : List (Nat × WorkerNotice w)}

/-- **One handler at a time for a key.**  In every run whose workers go on at most 999 ms after a
deadline, if two of them have deliveries of one key, one of the messages was purged. -/
theorem worker_exclusive {start : Nat} {i j : Fin w} {d d' : OutboxRow} (valid : config.Valid)
    (short : grace + 1000000 ≤ 1000000000)
    (steps : Steps lockOf config grace handlers (new p w start) log r) (differ : i ≠ j)
    (first : d ∈ (r.workers i).held) (second : d' ∈ (r.workers j).held) (key : d.key = d'.key) :
    Purged log d.sequence ∨ Purged log d'.sequence := by
  have kept := kept_steps valid short steps
  obtain ⟨sound, told, ahead⟩ := OutboxRun.told_steps (steps_table steps).2
  rcases kept.stored first with inside | purged
  swap
  · exact .inl purged
  rcases kept.stored second with inside' | purged
  swap
  · exact .inr purged
  obtain ⟨time, claimed⟩ := kept.claimed first
  obtain ⟨time', claimed'⟩ := kept.claimed second
  -- Each was claimed while it led the key, so they are one message, under one lease.
  have lower := ahead time d d' (mem_table.mpr claimed) (.inl inside') key.symm
  have upper := ahead time' d' d (mem_table.mpr claimed') (.inl inside) key
  have same : d = d' := List.inj_on_of_nodup_map sound.once inside inside' (lower.antisymm upper)
  obtain ⟨token, expiry, leased, -⟩ := (told.claimed (mem_table.mpr claimed)).2
  exact absurd (kept.apart first second leased (same ▸ leased)) differ

theorem worker_exclusive_one :
    Purged (purgedLog ++ [(0, .table (.claimed secondClaimed))]) firstClaimed.sequence ∨
      Purged (purgedLog ++ [(0, .table (.claimed secondClaimed))]) secondClaimed.sequence := by
  obtain ⟨queue, cancelled, steps, -, going, rows, clock, tokens⟩ := steps_workerPurged
  have claiming := steps.tail (.claim (i := 1) (timely_start rfl) rfl going)
  rw [rows] at claiming
  have drawn : oneToken 3 ∉ queue.tokens := by
    rw [tokens]
    decide
  have answered := claiming.tail (@Step.answer 1 2 oneLock oneConfig 0 _ _ 0 0 1 [secondRow]
    (oneToken 3) (fun _ => false) (timely_start rfl) rfl rfl (by decide) drawn)
  have table : (({ queue with clock := 0 }.seeing 1 (some [secondRow])) : OutboxRun 1 2).rows =
      [secondRow] := rows
  simp only [tabled, become, table, claim_secondMessage, List.append_nil] at answered
  exact @worker_exclusive 1 2 oneLock oneConfig 0 _ _ _ 0 0 1 firstClaimed secondClaimed
    oneConfig_valid (by decide) answered (by decide) List.mem_cons_self List.mem_cons_self rfl

/-- **A lease is lost to a purge only.**  In every run, when a worker counts a lost lease, the
message was purged before. -/
theorem worker_settles {start time : Nat} {i : Fin w} {d : OutboxRow}
    {before after : List (Nat × WorkerNotice w)} (valid : config.Valid)
    (short : grace + 1000000 ≤ 1000000000)
    (steps : Steps lockOf config grace handlers (new p w start)
      (before ++ (time, .lost i d) :: after) r) : Purged before d.sequence := by
  obtain ⟨log₁, u, front, back, v, log₂, run, here, -, rfl, -⟩ := steps.split rfl
  have kept := kept_steps valid short run
  obtain ⟨sound, -, -⟩ := OutboxRun.told_steps (steps_table run).2
  exact (lost_step kept sound here (List.mem_append_right _ List.mem_cons_self)).append

theorem worker_settles_one :
    Purged (purgedLog ++ [(0, .handled 0 firstClaimed true)]) firstClaimed.sequence := by
  obtain ⟨queue, cancelled, steps, going, -, rows, -⟩ := steps_workerPurged
  obtain ⟨workers, cancelled', handled, finishing⟩ := steps_workerHandled steps going
  have done : Outbox.settle oneConfig queue.rows ⟨firstClaimed.id, oneToken 2⟩ firstClaimed.attempts
      "" 0 0 = .ok ([secondRow], []) := by
    rw [rows]
    rfl
  have settled := handled.tail (.settle (i := 0) true (timely_start rfl) finishing rfl done)
  exact worker_settles oneConfig_valid (by decide) settled

/-- **An acknowledgement is for a delivery whose handler succeeded.**  In every run, whatever is
acknowledged was delivered under the same lease to a handler that returned in time and without an
error; and the row is the one that was delivered, unless that was purged. -/
theorem worker_delivers {start time : Nat} {receipt : Receipt} {x : OutboxRow}
    {before after : List (Nat × WorkerNotice w)} (valid : config.Valid)
    (short : grace + 1000000 ≤ 1000000000)
    (steps : Steps lockOf config grace handlers (new p w start)
      (before ++ (time, .table (.acknowledged receipt x)) :: after) r) :
    ∃ i d expiry earlier, (earlier, WorkerNotice.handled i d true) ∈ before ∧ d.id = receipt.id ∧
      d.lease = some (receipt.token, expiry) ∧ (x = d ∨ Purged before d.sequence) := by
  obtain ⟨log₁, u, front, back, v, log₂, run, here, -, rfl, -⟩ := steps.split rfl
  obtain ⟨sound, -, -⟩ := OutboxRun.told_steps (steps_table run).2
  obtain ⟨i, d, expiry, earlier, handled, named, leased, delivered⟩ := acknowledged_step
    (kept_steps valid short run) sound here (List.mem_append_right _ List.mem_cons_self)
  exact ⟨i, d, expiry, earlier, List.mem_append_left _ handled, named, leased,
    delivered.imp_right Purged.append⟩

theorem worker_delivers_one : ∃ (i : Fin 2) (d : OutboxRow) (expiry earlier : Nat),
    (earlier, WorkerNotice.handled i d true) ∈ claimedLog ++ [(0, .handled 0 firstClaimed true)] ∧
      d.id = oneMessage.id ∧ d.lease = some (oneToken 2, expiry) ∧
      (firstClaimed = d ∨ Purged (claimedLog ++ [(0, .handled 0 firstClaimed true)]) d.sequence) := by
  obtain ⟨queue, cancelled, steps, going, -, rows, -⟩ := steps_workerClaimed
  obtain ⟨workers, cancelled', handled, finishing⟩ := steps_workerHandled steps going
  have done : Outbox.settle oneConfig queue.rows ⟨firstClaimed.id, oneToken 2⟩ firstClaimed.attempts
      "" 0 0 = .ok ([secondRow], [firstClaimed]) := by
    rw [rows]
    rfl
  have settled := handled.tail (.settle (i := 0) true (timely_start rfl) finishing rfl done)
  exact worker_delivers oneConfig_valid (by decide) settled

end

end WorkerRun

end Hypershell.Outbox
