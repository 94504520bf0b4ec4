import Hypershell.ServiceAccounts.Sample

/-!
# Recovery streams and the intent before each provider call

`Run` sweeps streams of accounts, each chosen by status, deletion mode and a time
condition.  A provider call is made only when the committed status of its account is
the intent for that call, and whatever crash follows leaves an account that a stream
selects.

## Main definitions

* `RecoveryStream`, `recoveryStreams` — the account streams that `Run` builds
* `RecoveryStream.selects` — the rows that a page of a stream holds

## Main results

* `selected_of_known` — a stream for every live account
* `intent_before_call` — the intent is committed before each provider call
-/

namespace Hypershell

open Foundation

/-! ### Streams -/

/-- The names of the account groups in `Run`. -/
inductive RecoveryState
  | error
  | deleting
  | revoking
  | provisioning
  | ready
  | degraded
  | drift
  | revoked
  | expired
  deriving DecidableEq, Repr

/-- The names in their order. -/
def recoveryStates : List RecoveryState :=
  [.error, .deleting, .revoking, .provisioning, .ready, .degraded, .drift, .revoked, .expired]

/-- The status that a stream asks for. -/
def RecoveryState.queryState : RecoveryState → Status
  | .error => .error
  | .deleting => .deleting
  | .revoking => .revoking
  | .provisioning => .provisioning
  | .ready => .ready
  | .degraded => .degraded
  | .drift => .ready
  | .revoked => .revoked
  | .expired => .expired

/-- `Service.recoveryStream(state, deleted)`. -/
structure RecoveryStream where
  state : RecoveryState
  deleted : Bool
  deriving DecidableEq, Repr

/-- The account streams that `Run` builds: one for the live rows of each group, and
one for the deleted rows of three. -/
def recoveryStreams : List RecoveryStream :=
  recoveryStates.flatMap fun state =>
    if state = .error ∨ state = .deleting ∨ state = .provisioning then
      [⟨state, false⟩, ⟨state, true⟩]
    else
      [⟨state, false⟩]

/-- The condition that a stream adds to its query at the time `now`. -/
def RecoveryStream.condition (stream : RecoveryStream) (now : Int) (row : ServiceAccount) :
    Bool :=
  match stream.state with
  | .ready => decide (row.expiresAt ≤ now)
  | .provisioning => decide (row.createdTime ≤ now - reclaimAfter)
  | _ => true

/-- The rows that the pages of a stream hold at the time `now`. -/
def RecoveryStream.selects (stream : RecoveryStream) (now : Int) (row : ServiceAccount) : Bool :=
  decide (row.status = stream.state.queryState) && (row.live == !stream.deleted) &&
    stream.condition now row

/-- A reservation that is too young to be reclaimed. -/
def ServiceAccount.fresh (row : ServiceAccount) (now : Int) : Prop :=
  row.status = .provisioning ∧ now < row.createdTime + reclaimAfter

/-- **Every live account is selected**, unless it is a fresh reservation. -/
theorem selected_of_known {row : ServiceAccount} (known : row.status.known = true)
    (live : row.live = true) {now : Int} (old : ¬ row.fresh now) :
    ∃ stream ∈ recoveryStreams, stream.deleted = false ∧ stream.selects now row = true := by
  have selected : ∀ state : RecoveryState, row.status = state.queryState →
      (state = .provisioning → row.createdTime + reclaimAfter ≤ now) → state ≠ .ready →
      ∃ stream ∈ recoveryStreams, stream.deleted = false ∧ stream.selects now row = true := by
    intro state status reclaimable notReady
    refine ⟨⟨state, false⟩, ?_, rfl, ?_⟩
    · cases state <;> decide
    · have condition : RecoveryStream.condition ⟨state, false⟩ now row = true := by
        cases state with
        | ready => exact absurd rfl notReady
        | provisioning =>
          have enough := reclaimable rfl
          simp only [RecoveryStream.condition, decide_eq_true_eq]
          omega
        | _ => rfl
      simp [RecoveryStream.selects, status, live, condition]
  cases status : row.status with
  | error => exact selected .error status (by simp) (by simp)
  | deleting => exact selected .deleting status (by simp) (by simp)
  | revoking => exact selected .revoking status (by simp) (by simp)
  | provisioning =>
    refine selected .provisioning status (fun _ => ?_) (by simp)
    by_contra young
    exact old ⟨status, by omega⟩
  | ready => exact selected .drift status (by simp) (by simp)
  | degraded => exact selected .degraded status (by simp) (by simp)
  | revoked => exact selected .revoked status (by simp) (by simp)
  | expired => exact selected .expired status (by simp) (by simp)
  | other text =>
    rw [status] at known
    cases known

/-! ### The intent before the call -/

section Intent

variable [Platform]

/-- **The intent before the call.**  In every system of account processes, a provider
call is made only for an account whose committed status is the intent for it; every
live account is, or will be, selected by a stream, also after any crash; a step that a
crash cuts short commits and returns nothing; and a credential is returned only with
the account stored as ready. -/
theorem intent_before_call {limits : Limits} {x : System Env Store Event Reply}
    (reach : System.Reachable {p | AccountProcess limits p} (Alongside limits) NoAccounts x) :
    (∀ record y,
      System.Step {p | AccountProcess limits p} (Alongside limits) x (some record) y →
      (∀ v ∈ record.log, Justified x.store v) ∧
      (record.cut = true → y.store = x.store ∧ record.returned = none) ∧
      ∀ created, record.returned = some (.created (.ok created)) →
        y.store.account? created.account.id = some created.account ∧
          created.account.status = .ready) ∧
    ∀ id row, x.store.account? id = some row → row.live = true →
      ∀ now, ¬ row.fresh now →
        ∃ stream ∈ recoveryStreams, stream.selects now row = true := by
  have governed : System.Governed (accountContract limits RowsInv Justified) Answered
      {p | AccountProcess limits p} (Alongside limits) NoAccounts :=
    account_governed (fun _ none => none.rowsInv) (fun _ _ _ change inv => change.rowsInv inv)
      fun inv alongside => ⟨alongside.rowsInv inv, alongside.later⟩
  constructor
  · intro record y step
    refine ⟨(governed.event_of_step reach step).2, System.crash_of_step step, ?_⟩
    intro created returned
    exact governed.result_of_step reach step returned created rfl
  · intro id row stored live now old
    have inv : RowsInv x.store := (governed.good_of_reachable reach).inv
    obtain ⟨stream, member, -, selects⟩ :=
      selected_of_known (inv id row stored).known live old
    exact ⟨stream, member, selects⟩

end Intent

open Sample in
/-- A creation in the sample calls the provider only for a reserved account. -/
theorem intent_before_call_sample :
    let s := Sample.store none none
    let jobs : List (Job Env Store Event Reply) :=
      [⟨Reply.created <$> create Sample.service 2 Sample.principal Sample.gatewayID
        ⟨"Robot", none, "", "", none⟩, []⟩]
    ∀ record y, System.Step {p | AccountProcess Sample.service.limits p}
      (Alongside Sample.service.limits) ⟨s, jobs⟩ (some record) y →
      ∀ v ∈ record.log, Justified s v := by
  intro s jobs record y step
  have reach : System.Reachable {p | AccountProcess Sample.service.limits p}
      (Alongside Sample.service.limits) NoAccounts ⟨s, jobs⟩ :=
    ⟨s, rfl, .single ⟨none, .start (.create Sample.service rfl 2 _ _ _)⟩⟩
  exact ((intent_before_call reach).1 record y step).1

end Hypershell
