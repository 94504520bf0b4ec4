import Hypershell.ServiceAccounts.Steps

/-!
# What the transactions of `Create` and `Change` do

The ends of the reservation, the provisioning and the compensation of a creation and
of the transaction that stores a requested terminal action.

## Main definitions

* `Reserving` — the reservation stored one row
* `Provisioning` — the provisioning delivered or refused the account
* `Compensation`, `Requested` — the ends of the other two
* `RereadFails` — the failure that loses the account's ID
-/

namespace Hypershell

open Foundation

variable [Platform]

section Ends

variable (ω : Env) (s : Store) (gatewayID id : String)

/-- The reservation stored the row that its variables name. -/
structure Reserving (svc : Service) (c : Context Store Event Creation) : Prop where
  frame : s.Frame c.store
  base : s.Idle c.base
  calls : c.log = []
  provider : svc.provider = true
  live : s.GatewayLive gatewayID
  gateway : c.locals.row.gatewayID = gatewayID
  resultErr : c.locals.resultErr = none
  stored : ∃ row, row.id = c.locals.row.id ∧ row.gatewayID = gatewayID ∧
    Reserved svc.limits s row ∧ s.accounts.insert? row = some c.store.accounts

/-- A transaction that failed before any provider call. -/
structure FailedSilently {L : Type} (c : Context Store Event L) : Prop where
  base : s.Idle c.base
  calls : c.log = []

/-- How a provisioning ends, from the committed store `s`. -/
inductive Provisioning (vars : Creation) (c : Context Store Event Creation) : Prop
  | refused {row : ServiceAccount} {entry : ServiceAccountAudit} {uuid subject reason : String}
      {u : Int} (owns : s.Owns gatewayID id row) (reserved : row.status = .provisioning)
      (wrote : Wrote ω False s c row { row with
        status := .error, lastError := some reason, clientUuid := uuid, subject := subject,
        updatedTime := u } [entry])
      (same : c.locals.row.id = id) (resultErr : c.locals.resultErr.isSome = true)
  | delivered {row : ServiceAccount} {entry : ServiceAccountAudit} {uuid subject : String}
      {u : Int} (owns : s.Owns gatewayID id row) (reserved : row.status = .provisioning)
      (wrote : Wrote ω False s c row { row with
        status := .ready, lastError := none, clientUuid := uuid, subject := subject,
        updatedTime := u } [entry])
      (result : c.locals.row = { row with
        status := .ready, lastError := none, clientUuid := uuid, subject := subject,
        updatedTime := u })
      (resultErr : c.locals.resultErr = vars.resultErr)

/-- Of the storage operations of a provisioning, the read of the account fails and no
earlier one does. -/
def RereadFails : Prop := ω.fault 0 = false ∧ ω.fault 1 = false ∧ ω.fault 2 = true

/-- The provisioning ended and its provider calls were justified. -/
structure Provisioned (vars : Creation) (c : Context Store Event Creation) : Prop where
  calls : ∀ v ∈ c.log, Justified s v
  reread : ¬ RereadFails ω
  provisioning : Provisioning ω s gatewayID id vars c

/-- The provisioning failed.  It keeps the account's ID unless the account was not
read. -/
structure ProvisionFailed (c : Context Store Event Creation) : Prop where
  base : s.Idle c.base
  calls : ∀ v ∈ c.log, Justified s v
  lost : RereadFails ω → s.GatewayLive gatewayID → c.locals.row.id = ""
  kept : ¬ RereadFails ω → (∃ row, s.Owns gatewayID id row) → c.locals.row.id = id

/-- How a compensation ends. -/
inductive Compensation (c : Context Store Event Unit) : Prop
  | failed {row : ServiceAccount} {entry : ServiceAccountAudit} {reason : String} {u : Int}
      (owns : s.Owns gatewayID id row)
      (unfinished : row.status = .provisioning ∨ row.status = .ready)
      (wrote : Wrote ω False s c row { row with
        status := .error, lastError := some reason, updatedTime := u } [entry])
  | kept {row : ServiceAccount} (owns : s.Owns gatewayID id row)
      (finished : row.status ≠ .provisioning ∧ row.status ≠ .ready)
      (underway : Underway ω False s c)

/-- The compensation ended without a provider call. -/
structure Compensated (c : Context Store Event Unit) : Prop where
  calls : c.log = []
  compensation : Compensation ω s gatewayID id c

/-- The compensation failed: the environment, or nothing to compensate. -/
structure CompensationFailed (c : Context Store Event Unit) : Prop extends
    FailedSilently s c where
  cause : ¬ Smooth ω s ∨ (∀ g, s.gateway? gatewayID = some g → g.live = false) ∨
    ∀ row, ¬ s.Owns gatewayID id row

/-- How a request ends. -/
inductive Request (remove : Bool) (c : Context Store Event ServiceAccount) : Prop
  | kept {row : ServiceAccount} (owns : s.Owns gatewayID id row)
      (underway : Underway ω False s c)
  | stored {row : ServiceAccount} {entry : ServiceAccountAudit} {u : Int}
      (owns : s.Owns gatewayID id row)
      (old : row.status = .provisioning → row.createdTime + reclaimAfter ≤ c.store.time)
      (kept : row.status = .deleting → remove = true)
      (open' : remove = false → row.status ≠ .revoked ∧ row.status ≠ .expired)
      (wrote : Wrote ω False s c row { row with
        status := if remove then .deleting else .revoking, lastError := none,
        updatedTime := u } [entry])

/-- The request was stored without a provider call. -/
structure Requested (remove : Bool) (c : Context Store Event ServiceAccount) : Prop where
  calls : c.log = []
  request : Request ω s gatewayID id remove c

end Ends

section Proofs

variable {ω : Env} {s : Store} {gatewayID id : String} {row : ServiceAccount}

/-! ### The reservation -/

/-- A quota check ends below the quota. -/
theorem wp_checkQuota {svc : Service} {creator : String} {c : Context Store Event Creation}
    {ok : Unit → Context Store Event Creation → Prop}
    {fails : Err → Context Store Event Creation → Prop} (underway : Underway ω False s c)
    (failed : ∀ e n, fails e (c.at n))
    (room : ∀ n, (s.countActive gatewayID creator : Int) <
      (if creator = "" then svc.limits.perGateway else svc.limits.perCreator) →
      ok () (c.at n)) :
    Tx.wp ω (checkQuota svc gatewayID creator) ok fails c := by
  have total : c.store.countActive gatewayID creator = s.countActive gatewayID creator := by
    rw [Store.countActive, Store.countActive, underway.store.accounts]
  simp only [checkQuota, Tx.wp_bind]
  refine Action.wp_query (fun _ => failed _ _) (by rintro _ ⟨⟩) ?_
  rintro counted ⟨⟩
  rw [total, Tx.wp_ite]
  by_cases all : creator = ""
  · rw [if_pos all, Tx.wp_require]
    rw [if_pos all] at room
    split_ifs with fits
    · exact room _ fits
    · exact failed _ _
  · rw [if_neg all, Tx.wp_require]
    rw [if_neg all] at room
    split_ifs with fits
    · exact room _ fits
    · exact failed _ _

theorem wp_storeReservation {svc : Service} {input : Reservation} {creator : String}
    {c : Context Store Event Creation} (underway : Underway ω False s c)
    (named : creator ≠ "") (silent : c.log = []) (open' : c.locals.resultErr = none)
    (provider : svc.provider = true) (live : s.GatewayLive gatewayID) :
    Tx.wp ω (storeReservation svc gatewayID input creator)
      (fun _ => Reserving s gatewayID svc) (fun _ => FailedSilently s) c := by
  simp only [storeReservation, Tx.wp_bind]
  refine wp_checkQuota underway (fun _ _ => ⟨underway.base, silent⟩) ?_
  intro n creatorRoom
  refine wp_checkQuota (underway.at n) (fun _ _ => ⟨underway.base, silent⟩) ?_
  intro m gatewayRoom
  rw [if_neg named] at creatorRoom
  rw [if_pos rfl] at gatewayRoom
  refine Action.wp_random (fun _ => ⟨underway.base, silent⟩) ?_
  intro drawn _
  rw [Tx.wp_capture]
  refine Action.wp_update (fun _ => ⟨underway.base, silent⟩) (fun _ _ => ⟨underway.base, silent⟩) ?_
  intro t created
  obtain ⟨accounts, rfl, -, inserted⟩ := Store.createAccount_ok created
  refine wp_createAudit (fun _ _ _ _ => ⟨underway.base, silent⟩) ?_
  intro k audits entry _ _
  let row : ServiceAccount := { reservedRow gatewayID drawn.val input creator with
    createdTime := c.store.time, updatedTime := c.store.time, deletedAt := none }
  have checked : Reserved svc.limits s row :=
    { valid := drawn.property
      status := rfl
      live := rfl
      active := rfl
      activeName := rfl
      trimmed := input.name.property
      creator := named
      gatewayQuota := gatewayRoom
      creatorQuota := creatorRoom }
  have stored : s.accounts.insert? row = some accounts := by
    rw [← underway.store.accounts]
    exact inserted
  exact ⟨{ underway.store.toFrame with }, underway.base, silent, provider, live, rfl, open',
    row, rfl, rfl, checked, stored⟩

/-- **The reservation of a creation.** -/
theorem wp_reserve {svc : Service} {p : Principal} {input : Reservation} :
    Tx.wp ω (underGateway gatewayID (reserveBody svc p gatewayID input))
      (fun _ => Reserving s gatewayID svc) (fun _ => FailedSilently s)
      (Context.start s Creation.zero) := by
  refine wp_underGateway False.elim ?_ ?_
  · intro e c _ _ broke
    exact ⟨broke.base, broke.log⟩
  intro g c found alive underway beside _ _ _
  have silent : c.log = [] := beside.log
  have open' : c.locals.resultErr = none := by rw [beside.locals]; rfl
  simp only [reserveBody, Tx.wp_bind]
  refine wp_resolve underway ?_ ?_
  · intro e c' underway' _ log _
    exact ⟨underway'.base, log.trans silent⟩
  intro access c₁ underway₁ _ log₁ locals₁ named
  have silent₁ : c₁.log = [] := log₁.trans silent
  rw [Tx.wp_require]
  split_ifs
  · rw [Tx.wp_require]
    split_ifs with provider
    · cases oidcConnection g "" true with
      | error e => exact ⟨underway₁.base, silent₁⟩
      | ok connection =>
        rw [Tx.wp_bind, Tx.wp_capture]
        exact wp_storeReservation (underway₁.capture _) named silent₁
          (by rw [← open', ← locals₁]) provider ⟨g, found, alive⟩
    · exact ⟨underway₁.base, silent₁⟩
  · exact ⟨underway₁.base, silent₁⟩

/-! ### The provisioning -/

/-- A failed creation is stored and reported.  The variables keep what `assign`
respects. -/
theorem wp_failCreation {L : Type} {assign : ServiceAccount → L → L} (kept : L → Prop)
    {old : ServiceAccount} {reason : String} {c : Context Store Event L}
    {ok : Unit → Context Store Event L → Prop} {fails : Err → Context Store Event L → Prop}
    (underway : Underway ω False s c) (stored : s.account? row.id = some old)
    (live : old.live = true) (keeps : KeepsEntries old row)
    (respects : ∀ r l, r.id = row.id → kept l → kept (assign r l)) (holds : kept c.locals)
    (broke : ∀ e c', ¬ Smooth ω s → s.Idle c'.base → c'.log = c.log → kept c'.locals →
      fails e c')
    (failed : ∀ entry c', Wrote ω False s c' old
        (ServiceAccount.over { row with status := .error, lastError := some reason } old
          c.store.time) [entry] → c'.log = c.log → kept c'.locals → ok () c') :
    Tx.wp ω (failCreation assign row reason) ok fails c := by
  have sameID : old.id = row.id := Store.id_of_account? stored
  simp only [failCreation, Tx.wp_bind]
  rw [Tx.wp_capture]
  refine wp_save (underway.capture _) stored live keeps ?_ ?_
  · intro faulty c' is
    refine broke _ c' (fun smooth => smooth.not_faulty faulty) is.base is.log ?_
    rw [is.locals]
    exact respects _ _ rfl holds
  intro c₁ wrote beside
  rw [Tx.wp_capture]
  have held : kept (assign (ServiceAccount.over
      { row with status := .error, lastError := some reason } old c.store.time) c₁.locals) := by
    rw [beside.locals]
    exact respects _ _ sameID (respects _ _ rfl holds)
  refine wp_audit (wrote.capture _) ?_ ?_
  · intro e c' _ rough is
    refine broke _ c' rough is.base (is.log.trans beside.log) ?_
    rw [is.locals]
    exact held
  intro entry c₂ _ wrote' beside'
  refine failed entry c₂ wrote' (beside'.log.trans beside.log) ?_
  rw [beside'.locals]
  exact held

section Provision

variable {vars : Creation} {c : Context Store Event Creation} {uuid subject : String}

/-- A provisioning that fails after it read the account keeps its ID. -/
theorem ProvisionFailed.of_read {c : Context Store Event Creation}
    (reread : ¬ RereadFails ω) (base : s.Idle c.base) (calls : ∀ v ∈ c.log, Justified s v)
    (same : c.locals.row.id = id) : ProvisionFailed ω s gatewayID id c :=
  ⟨base, calls, fun fails => absurd fails reread, fun _ _ => same⟩

theorem wp_refuse {err : Err} {reason : String} (owns : s.Owns gatewayID id row)
    (reserved : row.status = .provisioning) (reread : ¬ RereadFails ω)
    (underway : Underway ω False s c) (calls : ∀ v ∈ c.log, Justified s v)
    (same : c.locals.row.id = id) :
    Tx.wp ω (refuse { row with clientUuid := uuid, subject := subject } err reason)
      (fun _ => Provisioned ω s gatewayID id vars)
      (fun _ => ProvisionFailed ω s gatewayID id) c := by
  have sameID := owns.id_eq
  have stored : s.account? row.id = some row := by rw [sameID]; exact owns.stored
  let kept : Creation → Prop := fun v => v.row.id = id ∧ v.resultErr = some err
  simp only [refuse, Tx.wp_bind]
  rw [Tx.wp_capture]
  refine wp_failCreation kept (underway.capture _) stored owns.live ⟨rfl, rfl, Or.inl rfl⟩ ?_ ⟨same, rfl⟩ ?_ ?_
  · rintro r v sameRow ⟨-, failed⟩
    exact ⟨sameRow.trans sameID, failed⟩
  · rintro e c' - base log ⟨same', -⟩
    exact .of_read reread base (by rw [log]; exact calls) same'
  · rintro entry c' wrote log ⟨same', failed⟩
    refine ⟨by rw [log]; exact calls, reread, .refused owns reserved wrote same' ?_⟩
    rw [failed]
    rfl

theorem wp_deliver {p : Principal} (owns : s.Owns gatewayID id row)
    (reserved : row.status = .provisioning) (reread : ¬ RereadFails ω)
    (underway : Underway ω False s c) (calls : ∀ v ∈ c.log, Justified s v)
    (same : c.locals.row.id = id) (open' : c.locals.resultErr = vars.resultErr) :
    Tx.wp ω (deliver p gatewayID { row with clientUuid := uuid, subject := subject })
      (fun _ => Provisioned ω s gatewayID id vars)
      (fun _ => ProvisionFailed ω s gatewayID id) c := by
  have sameID := owns.id_eq
  have stored : s.account? row.id = some row := by rw [sameID]; exact owns.stored
  have refused : ∀ c', Underway ω False s c' → c'.log = c.log → c'.locals = c.locals →
      Tx.wp ω (refuse { row with clientUuid := uuid, subject := subject } .role
        "creator_access_changed") (fun _ => Provisioned ω s gatewayID id vars)
        (fun _ => ProvisionFailed ω s gatewayID id) c' := by
    intro c' underway' log locals
    exact wp_refuse owns reserved reread underway' (by rw [log]; exact calls)
      (by rw [locals]; exact same)
  simp only [deliver, Tx.wp_bind, Tx.wp_attempt]
  refine wp_resolve underway ?_ ?_
  · intro e c' underway' _ log locals
    rw [permits_error, Tx.wp_ite, if_pos rfl]
    exact refused c' underway' log locals
  intro access c₁ underway₁ _ log₁ locals₁ _
  rw [Tx.wp_ite]
  split_ifs
  · exact refused c₁ underway₁ log₁ locals₁
  have calls₁ : ∀ v ∈ c₁.log, Justified s v := by rw [log₁]; exact calls
  simp only [Tx.wp_bind]
  rw [Tx.wp_capture]
  refine wp_save (underway₁.capture _) stored owns.live ⟨rfl, rfl, Or.inl rfl⟩ ?_ ?_
  · intro faulty c' broke
    refine .of_read reread broke.base ?_ ?_
    · rw [broke.log]
      exact calls₁
    · rw [broke.locals]
      exact sameID
  intro c₂ wrote beside
  have calls₂ : ∀ v ∈ c₂.log, Justified s v := by
    rw [beside.log]
    exact calls₁
  rw [Tx.wp_capture]
  refine wp_audit (wrote.capture _) ?_ ?_
  · intro e c' _ _ broke
    refine .of_read reread broke.base ?_ ?_
    · rw [broke.log]
      exact calls₂
    · rw [broke.locals]
      exact sameID
  intro entry c₃ _ wrote' beside'
  refine ⟨by rw [beside'.log]; exact calls₂, reread, .delivered owns reserved wrote' ?_ ?_⟩
  · rw [beside'.locals]
    rfl
  · have unset := congrArg Creation.resultErr beside.locals
    rw [beside'.locals, ← open', ← locals₁]
    exact unset

theorem wp_contactProvider {p : Principal} {connection : Connection}
    (owns : s.Owns gatewayID id row) (reserved : row.status = .provisioning)
    (reread : ¬ RereadFails ω) (underway : Underway ω False s c) (silent : c.log = [])
    (same : c.locals.row.id = id) (open' : c.locals.resultErr = vars.resultErr) :
    Tx.wp ω (contactProvider p gatewayID row connection)
      (fun _ => Provisioned ω s gatewayID id vars)
      (fun _ => ProvisionFailed ω s gatewayID id) c := by
  simp only [contactProvider, Tx.wp_bind]
  refine wp_call underway ?_
  intro answer c₁ _ underway₁ _ locals log
  rw [silent, List.nil_append] at log
  have calls : ∀ v ∈ c₁.log, Justified s v := by
    intro v member
    rw [log, List.mem_singleton] at member
    rw [member]
    refine ⟨underway.store.time, row, ?_, reserved⟩
    show s.Owns gatewayID row.id row
    rw [owns.id_eq]
    exact owns
  have same₁ : c₁.locals.row.id = id := by rw [locals]; exact same
  have refused : Tx.wp ω (refuse row .unavailable "provisioning_failed")
      (fun _ => Provisioned ω s gatewayID id vars)
      (fun _ => ProvisionFailed ω s gatewayID id) c₁ :=
    wp_refuse owns reserved reread underway₁ calls same₁
  cases answer with
  | error e => exact refused
  | ok credential =>
    rw [Tx.wp_ite]
    split_ifs
    · exact refused
    rw [Tx.wp_bind, Tx.wp_capture]
    exact wp_deliver owns reserved reread (underway₁.capture _) calls owns.id_eq
      ((congrArg Creation.resultErr locals).trans open')

/-- Whether the access was found or not, the connection is examined next. -/
theorem wp_examineConnection {p : Principal} {role : AccountRole} {gateway : Gateway}
    {access : Except Err Access} (owns : s.Owns gatewayID id row) (reread : ¬ RereadFails ω)
    (reserved : row.status = .provisioning) (underway : Underway ω False s c) (silent : c.log = [])
    (same : c.locals.row.id = id) (open' : c.locals.resultErr = vars.resultErr) :
    Tx.wp ω (match oidcConnection gateway row.clientID true with
      | .error _ => do
        Tx.capture fun v => { v with connection := .empty }
        refuse row .role "creator_access_changed"
      | .ok connection => do
        Tx.capture fun v => { v with connection := connection }
        if permits access role = false then
          refuse row .role "creator_access_changed"
        else
          contactProvider p gatewayID row connection)
      (fun _ => Provisioned ω s gatewayID id vars)
      (fun _ => ProvisionFailed ω s gatewayID id) c := by
  have quietly : ∀ v ∈ c.log, Justified s v := by
    intro v member
    rw [silent] at member
    cases member
  cases oidcConnection gateway row.clientID true with
  | error e =>
    rw [Tx.wp_bind, Tx.wp_capture]
    exact wp_refuse owns reserved reread (underway.capture _) quietly same
  | ok connection =>
    rw [Tx.wp_bind, Tx.wp_capture, Tx.wp_ite]
    split_ifs
    · exact wp_refuse owns reserved reread (underway.capture _) quietly same
    · exact wp_contactProvider owns reserved reread (underway.capture _) silent same open'

theorem wp_provisionRow {p : Principal} {role : AccountRole} {gateway : Gateway}
    (owns : s.Owns gatewayID id row) (reread : ¬ RereadFails ω)
    (underway : Underway ω False s c) (silent : c.log = [])
    (same : c.locals.row.id = id) (open' : c.locals.resultErr = vars.resultErr) :
    Tx.wp ω (provisionRow p gatewayID role gateway row)
      (fun _ => Provisioned ω s gatewayID id vars)
      (fun _ => ProvisionFailed ω s gatewayID id) c := by
  have quietly : ∀ {c' : Context Store Event Creation}, c'.log = [] →
      ∀ v ∈ c'.log, Justified s v := by
    intro c' none v member
    rw [none] at member
    cases member
  simp only [provisionRow, Tx.wp_bind]
  rw [Tx.wp_require]
  by_cases reserved : row.status = .provisioning
  · rw [if_pos reserved, Tx.wp_attempt]
    refine wp_resolve underway ?_ ?_
    · intro e c' underway' _ log locals
      exact wp_examineConnection owns reread reserved underway' (log.trans silent) (by rw [locals]; exact same)
        (by rw [locals]; exact open')
    · intro access c' underway' _ log locals _
      exact wp_examineConnection owns reread reserved underway' (log.trans silent) (by rw [locals]; exact same)
        (by rw [locals]; exact open')
  · rw [if_neg reserved]
    exact .of_read reread underway.base (quietly silent) same

/-- **The provisioning of a creation.** -/
theorem wp_provision {p : Principal} {role : AccountRole} (sameVars : vars.row.id = id) :
    Tx.wp ω (underGateway gatewayID (provisionBody p gatewayID id role))
      (fun _ => Provisioned ω s gatewayID id vars)
      (fun _ => ProvisionFailed ω s gatewayID id) (Context.start s vars) := by
  refine wp_underGateway False.elim ?_ ?_
  · intro e c _ cause broke
    refine ⟨broke.base, ?_, ?_, ?_⟩
    · rw [broke.log]
      exact fun v member => nomatch member
    · rintro ⟨begun, locks, -⟩ ⟨g, found, live⟩
      rcases cause with faulty | faulty | missing
      · rw [begun] at faulty
        cases faulty
      · rw [locks] at faulty
        cases faulty
      · rw [missing g found] at live
        cases live
    · intro _ _
      rw [broke.locals]
      exact sameVars
  intro g c _ _ underway beside begun locks tick
  have quietly : ∀ v ∈ c.log, Justified s v := by
    rw [show c.log = [] from beside.log]
    exact fun v member => nomatch member
  simp only [provisionBody, Tx.wp_bind, Tx.wp_attempt]
  cases reads : ω.fault 2 with
  | true =>
    -- The read fails by itself, unless the ID is not even looked up.
    have lost : ∀ e n, Tx.wp ω (do
        Tx.capture (Creation.assign .zero)
        Tx.raise e : Action Creation Unit) (fun _ => Provisioned ω s gatewayID id vars)
        (fun _ => ProvisionFailed ω s gatewayID id) (c.at n) := by
      intro e n
      rw [Tx.wp_bind, Tx.wp_capture]
      refine ⟨underway.base, quietly, fun _ _ => rfl, ?_⟩
      exact fun reread _ => absurd ⟨begun, locks, reads⟩ reread
    unfold account
    rw [Tx.wp_ite]
    split_ifs
    · rw [Tx.wp_bind]
      refine Action.wp_query_fault (by rw [tick]; exact reads) ?_
      exact lost .storage _
    · exact lost .notFound c.tick
  | false =>
    have reread : ¬ RereadFails ω := by
      rintro ⟨-, -, fails⟩
      rw [reads] at fails
      cases fails
    have absent : ∀ e n, (∀ row, ¬ c.store.Owns gatewayID id row) →
        Tx.wp ω (do
          Tx.capture (Creation.assign .zero)
          Tx.raise e : Action Creation Unit) (fun _ => Provisioned ω s gatewayID id vars)
          (fun _ => ProvisionFailed ω s gatewayID id) (c.at n) := by
      intro e n missing
      rw [Tx.wp_bind, Tx.wp_capture]
      refine ⟨underway.base, quietly, fun fails => absurd fails reread, ?_⟩
      rintro - ⟨row, owns⟩
      exact absurd (underway.store.owns.mpr owns) (missing row)
    refine wp_account_answer (by rw [tick]; exact reads) (absent .notFound) ?_
    intro row n found
    have owns := underway.store.owns.mp found
    rw [Tx.wp_capture]
    refine wp_provisionRow owns reread ((underway.at n).capture _) beside.log owns.id_eq ?_
    have unset := congrArg Creation.resultErr beside.locals
    exact unset

end Provision

/-! ### The compensation -/

/-- **The compensation of a creation.** -/
theorem wp_compensate :
    Tx.wp ω (underGateway gatewayID fun _ => compensateBody gatewayID id)
      (fun _ => Compensated ω s gatewayID id)
      (fun _ => CompensationFailed ω s gatewayID id) (Context.start s ()) := by
  refine wp_underGateway False.elim ?_ ?_
  · intro e c _ cause broke
    exact ⟨⟨broke.base, broke.log⟩,
      (rough_of_fault cause).elim Or.inl fun missing => Or.inr (Or.inl missing)⟩
  intro g c _ _ underway beside _ _ _
  have silent : c.log = [] := beside.log
  simp only [compensateBody, Tx.wp_bind]
  refine wp_account ?_ ?_ ?_
  · intro faulty n
    exact ⟨⟨underway.base, silent⟩, Or.inl fun smooth => smooth.not_faulty faulty⟩
  · intro n missing
    refine ⟨⟨underway.base, silent⟩, Or.inr (Or.inr fun row owns => ?_)⟩
    exact missing row (underway.store.owns.mpr owns)
  intro row n found
  have owns := underway.store.owns.mp found
  rw [Tx.wp_ite]
  split_ifs with finished
  · exact ⟨silent, .kept owns finished (underway.at n)⟩
  have unfinished : row.status = .provisioning ∨ row.status = .ready := by
    by_contra neither
    rw [not_or] at neither
    exact finished neither
  have stored : s.account? row.id = some row := by rw [owns.id_eq]; exact owns.stored
  refine wp_failCreation (fun _ => True) (underway.at n) stored owns.live
    ⟨rfl, rfl, Or.inl rfl⟩ (fun _ _ _ _ => trivial) trivial ?_ ?_
  · intro e c' rough base log _
    exact ⟨⟨base, log.trans silent⟩, Or.inl rough⟩
  · intro entry c' wrote log _
    exact ⟨log.trans silent, .failed owns unfinished wrote⟩

/-! ### The request -/

theorem wp_requireReclaimable {c : Context Store Event ServiceAccount}
    {ok : Unit → Context Store Event ServiceAccount → Prop}
    {fails : Err → Context Store Event ServiceAccount → Prop} (underway : Underway ω False s c)
    (young : ∀ e c', Underway ω False s c' → c'.log = c.log → fails e c')
    (old : ∀ c', Underway ω False s c' → c'.log = c.log →
      (row.status = .provisioning → row.createdTime + reclaimAfter ≤ c'.store.time) →
      ok () c') :
    Tx.wp ω (requireReclaimable row) ok fails c := by
  unfold requireReclaimable
  rw [Tx.wp_ite]
  split_ifs with reserved
  · rw [Tx.wp_bind]
    refine wp_clock underway ?_
    intro t c₁ underway₁ _ now _ log _
    rw [Tx.wp_require]
    split_ifs with reclaimable
    · exact old c₁ underway₁ log fun _ => by rw [now]; exact reclaimable
    · exact young _ c₁ underway₁ log
  · exact old c underway rfl fun is => absurd is reserved

/-- **The transaction of a change request.** -/
theorem wp_request {p : Principal} {remove : Bool} :
    Tx.wp ω (underGateway gatewayID fun _ => requestBody p gatewayID id remove)
      (fun _ => Requested ω s gatewayID id remove) (fun _ => FailedSilently s)
      (Context.start s .zero) := by
  refine wp_underGateway False.elim ?_ ?_
  · intro e c _ _ broke
    exact ⟨broke.base, broke.log⟩
  intro g c _ _ underway beside _ _ _
  have silent : c.log = [] := beside.log
  simp only [requestBody, Tx.wp_bind]
  refine wp_resolve underway ?_ ?_
  · intro e c' underway' _ log _
    exact ⟨underway'.base, log.trans silent⟩
  intro access c₁ underway₁ _ log₁ _ _
  have silent₁ : c₁.log = [] := log₁.trans silent
  refine wp_account (fun _ _ => ⟨underway₁.base, silent₁⟩) (fun _ _ => ⟨underway₁.base, silent₁⟩) ?_
  intro row n found
  have owns := underway₁.store.owns.mp found
  rw [Tx.wp_capture, Tx.wp_require]
  split_ifs
  swap
  · exact ⟨underway₁.base, silent₁⟩
  refine wp_requireReclaimable ((underway₁.at n).capture row) ?_ ?_
  · intro e c' underway' log
    exact ⟨underway'.base, log.trans silent₁⟩
  intro c₂ underway₂ log₂ old
  have silent₂ : c₂.log = [] := log₂.trans silent₁
  rw [Tx.wp_require]
  by_cases kept : row.status ≠ .deleting ∨ remove = true
  swap
  · rw [if_neg kept]
    exact ⟨underway₂.base, silent₂⟩
  rw [if_pos kept]
  unfold storeRequest
  rw [Tx.wp_ite]
  by_cases done : remove = false ∧ (row.status = .revoked ∨ row.status = .expired)
  · rw [if_pos done]
    exact ⟨silent₂, .kept owns underway₂⟩
  rw [if_neg done]
  have stored : s.account? row.id = some row := by rw [owns.id_eq]; exact owns.stored
  have open' : remove = false → row.status ≠ .revoked ∧ row.status ≠ .expired := by
    intro revokes
    rw [← not_or]
    exact fun ended => done ⟨revokes, ended⟩
  simp only [Tx.wp_bind]
  rw [Tx.wp_capture]
  refine wp_save (underway₂.capture _) stored owns.live ⟨rfl, rfl, Or.inl rfl⟩ ?_ ?_
  · intro _ c' broke
    exact ⟨broke.base, broke.log.trans silent₂⟩
  intro c₃ wrote beside₃
  have silent₃ : c₃.log = [] := beside₃.log.trans silent₂
  rw [Tx.wp_capture]
  refine wp_audit (wrote.capture _) ?_ ?_
  · intro e c' _ _ broke
    exact ⟨broke.base, broke.log.trans silent₃⟩
  intro entry c₄ _ wrote' beside₄
  have time : c₄.store.time = c₂.store.time := beside₄.time.trans beside₃.time
  refine ⟨beside₄.log.trans silent₃, .stored owns ?_ ?_ open' wrote'⟩
  · rw [time]
    exact old
  · intro deleting
    exact kept.resolve_left (not_not.mpr deleting)

end Proofs

end Hypershell
