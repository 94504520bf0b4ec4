import Hypershell.ServiceAccounts.RecoverSteps
import Hypershell.ServiceAccounts.CreateSteps

/-!
# The account processes meet their contract

Each end of a transaction is one lifecycle move, and each process is built from such
transactions.  What is shown here once, for every interleaving and every environment,
is what all later results about running systems rest on.

## Main definitions

* `Reply`, `AccountProcess`, `CleanupProcess` — the processes of a system
* `recover_safe`, `create_safe`, `change_safe`, `cleanupGatewayAccount_safe`
* `accountProcess_safe`
-/

namespace Hypershell

open Foundation

variable [Platform]

/-! ### Ends are moves

The working copy of each end is one change away from the committed store; the base,
which a failed commit leaves, is idle.
-/

section Changes

variable {ω : Env} {alone : Prop} {s : Store} {gatewayID id : String} {limits : Limits}
  {h : List Event}

theorem Wrote.change {L : Type} {c : Context Store Event L} {a b : ServiceAccount}
    {entries : List ServiceAccountAudit} (wrote : Wrote ω alone s c a b entries)
    (live : a.live = true) (move : Move h c.store.time a b) : Change limits h s c.store :=
  ⟨wrote.frame, .moved live wrote.accounts move⟩

theorem Intent.change {c : Context Store Event Bool} (ended : Intent ω alone s gatewayID id c) :
    Change limits h s c.store := by
  cases ended with
  | absent _ underway => exact .of_idle underway.store
  | kept _ _ _ underway => exact .of_idle underway.store
  | holds _ _ _ _ _ underway => exact .of_idle underway.store
  | lowered owns degraded wrote => exact wrote.change owns.live (.lower degraded)
  | queued owns ready wrote => exact wrote.change owns.live (.queue (Or.inl ready))
  | demoted owns ready wrote => exact wrote.change owns.live (.demote ready)

theorem Intent.base {c : Context Store Event Bool} (ended : Intent ω alone s gatewayID id c) :
    s.Idle c.base := by
  cases ended with
  | absent _ underway => exact underway.base
  | kept _ _ _ underway => exact underway.base
  | holds _ _ _ _ _ underway => exact underway.base
  | lowered _ _ wrote => exact wrote.base
  | queued _ _ wrote => exact wrote.base
  | demoted _ _ wrote => exact wrote.base

theorem Settlement.change {c : Context Store Event Bool}
    (ended : Settlement ω alone s gatewayID id c) : Change limits (h ++ c.log) s c.store := by
  cases ended with
  | absent _ underway => exact .of_idle underway.store
  | ready _ _ underway => exact .of_idle underway.store
  | removed owns doomed deleted _ wrote =>
    obtain ⟨t, called⟩ := deleted
    have released := Released.of_delete (List.mem_append_right h called)
    exact wrote.change owns.live (.remove doomed released (le_refl _))
  | revoked owns held stopped _ wrote =>
    obtain ⟨t, called⟩ := stopped
    have released := Released.of_revoke (List.mem_append_right h called)
    refine wrote.change owns.live (.revoke held released ?_)
    split_ifs
    · exact Or.inl rfl
    · exact Or.inr rfl
  | queued owns degraded wrote => exact wrote.change owns.live (.queue (Or.inr degraded))
  | @restored row access _ owns degraded _ _ wrote =>
    refine wrote.change owns.live (.restore degraded fun low => ?_)
    rw [low, ite_self]

theorem Settlement.base {c : Context Store Event Bool}
    (ended : Settlement ω alone s gatewayID id c) : s.Idle c.base := by
  cases ended with
  | absent _ underway => exact underway.base
  | ready _ _ underway => exact underway.base
  | removed _ _ _ _ wrote => exact wrote.base
  | revoked _ _ _ _ wrote => exact wrote.base
  | queued _ _ wrote => exact wrote.base
  | restored _ _ _ _ wrote => exact wrote.base

theorem Reserving.change {svc : Service} {c : Context Store Event Creation}
    (ended : Reserving s gatewayID svc c) : Change svc.limits h s c.store := by
  obtain ⟨row, -, -, checked, inserted⟩ := ended.stored
  exact ⟨ended.frame, .reserved checked inserted⟩

theorem Provisioning.change {vars : Creation} {c : Context Store Event Creation}
    (ended : Provisioning ω s gatewayID id vars c) : Change limits h s c.store := by
  cases ended with
  | refused owns reserved wrote => exact wrote.change owns.live (.fail (Or.inl reserved))
  | delivered owns reserved wrote => exact wrote.change owns.live (.deliver reserved)

theorem Provisioning.base {vars : Creation} {c : Context Store Event Creation}
    (ended : Provisioning ω s gatewayID id vars c) : s.Idle c.base := by
  cases ended with
  | refused _ _ wrote => exact wrote.base
  | delivered _ _ wrote => exact wrote.base

theorem Compensation.change {c : Context Store Event Unit}
    (ended : Compensation ω s gatewayID id c) : Change limits h s c.store := by
  cases ended with
  | failed owns unfinished wrote => exact wrote.change owns.live (.fail unfinished)
  | kept _ _ underway => exact .of_idle underway.store

theorem Compensation.base {c : Context Store Event Unit}
    (ended : Compensation ω s gatewayID id c) : s.Idle c.base := by
  cases ended with
  | failed _ _ wrote => exact wrote.base
  | kept _ _ underway => exact underway.base

theorem Request.change {remove : Bool} {c : Context Store Event ServiceAccount}
    (ended : Request ω s gatewayID id remove c) : Change limits h s c.store := by
  cases ended with
  | kept _ underway => exact .of_idle underway.store
  | stored owns old kept open' wrote => exact wrote.change owns.live (.request remove old kept open')

theorem Request.base {remove : Bool} {c : Context Store Event ServiceAccount}
    (ended : Request ω s gatewayID id remove c) : s.Idle c.base := by
  cases ended with
  | kept _ underway => exact underway.base
  | stored _ _ _ _ wrote => exact wrote.base

end Changes

/-! ### Recovery -/

/-- The account, live or deleted, has reached a terminal status. -/
def Store.Terminal (s : Store) (id : String) : Prop :=
  ∃ row, s.account? id = some row ∧ row.status.terminal = true

omit [Platform] in
theorem Store.Terminal.later {s t : Store} {id : String} (terminal : s.Terminal id)
    (later : Later s t) : t.Terminal id := by
  obtain ⟨a, stored, settled⟩ := terminal
  obtain ⟨b, stored', follows⟩ := later.accounts id a stored
  exact ⟨b, stored', follows.terminal settled⟩

section Safe

variable {limits : Limits} {inv : Store → Prop} {event : Store → Event → Prop}
  {svc : Service} {gatewayID id : String} {h : List Event} {s : Store}

/-- A transaction under the Gateway lock meets a contract if each of its ends does and
an ID that is never looked up is an acceptable result. -/
theorem safe_locked {L : Type} {C : Contract Env Store Event}
    {post : L × Option Err → List Event → Store → Prop} {init : L}
    {body : Gateway → Action L Unit} {done : Env → Store → Context Store Event L → Prop}
    {broken : Env → Store → Err → Context Store Event L → Prop}
    (invalid : post (init, some .notFound) h s)
    (run : ∀ ω s', Tx.wp ω (underGateway gatewayID body) (fun _ => done ω s') (broken ω s')
      (Context.start s' init))
    (ends : ∀ ω s' r l t, C.rely s s' →
      Concluded ω.commit .storage (done ω s') (broken ω s') r l t →
      (∀ v ∈ l, C.event s' v) ∧ C.change (h ++ l) s' t ∧ post r (h ++ l) t) :
    (locked gatewayID init body).Safe C post h s := by
  unfold locked
  split_ifs
  · exact safe_transact (fun ω s' _ _ _ => run ω s')
      fun ω s' r l t _ _ moved concluded => ends ω s' r l t moved concluded
  · exact invalid

/-- The first transaction of a recovery. -/
theorem recoverIntent_safe :
    (recoverIntent gatewayID id).Safe (accountContract limits inv event)
      (fun r _ _ => r.2 ≠ some .recursionLimit) h s := by
  refine safe_locked (by simp) (fun ω s' => wp_recoverIntent False.elim) ?_
  intro ω s' r l t _ concluded
  cases concluded with
  | committed ended =>
    rw [ended.calls]
    exact ⟨by simp, ended.intent.change, by simp⟩
  | replyLost ended =>
    rw [ended.calls]
    exact ⟨by simp, ended.intent.change, by simp⟩
  | rolledBack ended =>
    rw [ended.calls]
    exact ⟨by simp, .of_idle ended.intent.base, by simp⟩
  | failed ended =>
    rw [ended.calls]
    exact ⟨by simp, .of_idle ended.base, by simpa using ended.bounded⟩

/-- A queued revocation leaves a row in a terminal status that was not in one. -/
theorem Settlement.terminal {ω : Env} {alone : Prop} {c : Context Store Event Bool}
    (ended : Settlement ω alone s gatewayID id c) (queued : c.locals = true) :
    c.store.Terminal id ∧ ¬ s.Terminal id := by
  cases ended with
  | absent _ _ unqueued => rw [unqueued] at queued; cases queued
  | ready _ _ _ unqueued => rw [unqueued] at queued; cases queued
  | removed _ _ _ _ _ unqueued => rw [unqueued] at queued; cases queued
  | revoked _ _ _ _ _ unqueued => rw [unqueued] at queued; cases queued
  | restored _ _ _ _ _ unqueued => rw [unqueued] at queued; cases queued
  | @queued row u entry owns degraded wrote =>
    constructor
    · have stored := wrote.accounts.find?_new
      refine ⟨{ row with status := .revoking, updatedTime := u }, ?_, rfl⟩
      rw [← owns.id_eq]
      exact stored
    · rintro ⟨other, stored, settled⟩
      rw [owns.stored] at stored
      cases stored
      rw [degraded] at settled
      cases settled

/-- The second transaction of a recovery. -/
theorem recoverSettle_safe (justifies : ∀ s v, Justified s v → event s v) :
    (recoverSettle gatewayID id).Safe (accountContract limits inv event)
      (fun r _ t => r.2 ≠ some .recursionLimit ∧
        (r.2 = none → r.1 = true → t.Terminal id ∧ ¬ s.Terminal id)) h s := by
  refine safe_locked (by simp) (fun ω s' => wp_recoverSettle False.elim) ?_
  intro ω s' r l t moved concluded
  have calls : ∀ {c : Context Store Event Bool}, (∀ v ∈ c.log, Justified s' v) →
      ∀ v ∈ c.log, event s' v := fun justified v member => justifies s' v (justified v member)
  cases concluded with
  | committed ended =>
    refine ⟨calls ended.calls, ended.settlement.change, by simp, fun _ queued => ?_⟩
    obtain ⟨terminal, fresh⟩ := ended.settlement.terminal queued
    exact ⟨terminal, fun earlier => fresh (earlier.later moved)⟩
  | replyLost ended =>
    exact ⟨calls ended.calls, ended.settlement.change, by simp, fun never => nomatch never⟩
  | rolledBack ended =>
    exact ⟨calls ended.calls, .of_idle ended.settlement.base, by simp, fun never => nomatch never⟩
  | failed ended =>
    exact ⟨calls ended.calls, .of_idle ended.base, by simpa using ended.bounded,
      fun never => nomatch never⟩

/-- **Recovery meets the contract.**  Two nested calls are enough, and one where the
account is in a terminal status. -/
theorem recover_safe (justifies : ∀ s v, Justified s v → event s v)
    (keeps : ∀ h s t, Change limits h s t → inv s → inv t) (fuel : Nat) :
    (recover svc gatewayID id fuel).Safe (accountContract limits inv event)
      (fun r _ _ => r = some .recursionLimit → fuel = 0 ∨ fuel = 1 ∧ ¬ s.Terminal id) h s := by
  have sound : (accountContract limits inv event).Sound := accountContract_sound keeps
  induction fuel generalizing h s with
  | zero => exact fun _ => Or.inl rfl
  | succ fuel ih =>
    unfold recover
    split
    · exact fun never => nomatch never
    refine Proc.Safe.bind (recoverIntent_safe.remember sound (Later.refl s)) ?_
    rintro ⟨pending, err⟩ h₁ t ⟨bounded, later⟩
    dsimp only
    split
    · exact fun limit => absurd limit bounded
    refine Proc.Safe.bind (recoverSettle_safe justifies) ?_
    rintro ⟨queued, err'⟩ h₂ u ⟨bounded', again⟩
    dsimp only
    split
    · rename_i more
      obtain ⟨terminal, fresh⟩ := again more.1 more.2
      refine ih.mono ?_
      intro r _ _ limited limit
      rcases limited limit with rfl | ⟨-, open'⟩
      · exact Or.inr ⟨rfl, fun earlier => fresh (earlier.later later)⟩
      · exact absurd terminal open'
    · exact fun limit => absurd limit bounded'

/-! ### Creation -/

/-- The clock moves. -/
theorem readClock_safe :
    readClock.Safe (accountContract limits inv event) (fun _ _ _ => True) h s := by
  intro s' _ _ ω _
  refine ⟨by simp, .of_idle ?_, trivial⟩
  exact (Store.Idle.refl s').clock (Int.le_add_of_nonneg_right (Int.natCast_nonneg _))

theorem reserve_safe {p : Principal} {input : Reservation} :
    (reserve svc p gatewayID input).Safe (accountContract svc.limits inv event)
      (fun r _ _ => r.2 = none → r.1.resultErr = none) h s := by
  refine safe_locked (fun never => nomatch never) (fun ω s' => wp_reserve) ?_
  intro ω s' r l t _ concluded
  cases concluded with
  | committed ended =>
    rw [ended.calls]
    exact ⟨by simp, ended.change, fun _ => ended.resultErr⟩
  | replyLost ended =>
    rw [ended.calls]
    exact ⟨by simp, ended.change, fun never => nomatch never⟩
  | rolledBack ended =>
    rw [ended.calls]
    exact ⟨by simp, .of_idle ended.base, fun never => nomatch never⟩
  | failed ended =>
    rw [ended.calls]
    exact ⟨by simp, .of_idle ended.base, fun never => nomatch never⟩

/-- The stored row is the ready one that a creation returns. -/
def Delivered (row : ServiceAccount) (s : Store) : Prop :=
  s.account? row.id = some row ∧ row.status = .ready

theorem provision_safe (justifies : ∀ s v, Justified s v → event s v) {p : Principal}
    {role : AccountRole} {vars : Creation} (open' : vars.resultErr = none) :
    (provision p gatewayID role vars).Safe (accountContract limits inv event)
      (fun r _ t => joinErrors r.2 r.1.resultErr = none → Delivered r.1.row t) h s := by
  refine safe_locked (by simp [open']) (fun ω s' => wp_provision rfl) ?_
  intro ω s' r l t _ concluded
  have calls : ∀ {c : Context Store Event Creation}, (∀ v ∈ c.log, Justified s' v) →
      ∀ v ∈ c.log, event s' v := fun justified v member => justifies s' v (justified v member)
  cases concluded with
  | committed ended =>
    refine ⟨calls ended.calls, ended.provisioning.change, fun clean => ?_⟩
    cases ended.provisioning with
    | refused _ _ _ _ failed =>
      simp only [joinErrors_none_left] at clean
      rw [clean] at failed
      cases failed
    | delivered _ _ wrote result =>
      dsimp only
      rw [result]
      exact ⟨wrote.accounts.find?_new, rfl⟩
  | replyLost ended =>
    exact ⟨calls ended.calls, ended.provisioning.change, fun clean => absurd clean (joinErrors_some_left _ _)⟩
  | rolledBack ended =>
    exact ⟨calls ended.calls, .of_idle ended.provisioning.base, fun clean => absurd clean (joinErrors_some_left _ _)⟩
  | failed ended =>
    exact ⟨calls ended.calls, .of_idle ended.base, fun clean => absurd clean (joinErrors_some_left _ _)⟩

theorem compensate_safe :
    (compensate gatewayID id).Safe (accountContract limits inv event)
      (fun _ _ _ => True) h s := by
  refine safe_locked trivial (fun ω s' => wp_compensate) ?_
  intro ω s' r l t _ concluded
  cases concluded with
  | committed ended =>
    rw [ended.calls]
    exact ⟨by simp, ended.compensation.change, trivial⟩
  | replyLost ended =>
    rw [ended.calls]
    exact ⟨by simp, ended.compensation.change, trivial⟩
  | rolledBack ended =>
    rw [ended.calls]
    exact ⟨by simp, .of_idle ended.compensation.base, trivial⟩
  | failed ended =>
    rw [ended.calls]
    exact ⟨by simp, .of_idle ended.base, trivial⟩

/-- **Creation meets the contract**, and what it returns is stored as ready. -/
theorem create_safe (justifies : ∀ s v, Justified s v → event s v)
    (keeps : ∀ h s t, Change svc.limits h s t → inv s → inv t) (fuel : Nat) {p : Principal}
    {input : CreateRequest} :
    (create svc fuel p gatewayID input).Safe (accountContract svc.limits inv event)
      (fun r _ t => ∀ created, r = .ok created → Delivered created.account t) h s := by
  unfold create
  split
  · exact fun _ never => nomatch never
  refine Proc.Safe.bind readClock_safe ?_
  intro now h₁ t₁ _
  split
  · exact fun _ never => nomatch never
  unfold createReserved
  refine Proc.Safe.bind reserve_safe ?_
  rintro ⟨vars, err⟩ h₂ t₂ reserved
  cases err with
  | some e => exact fun _ never => nomatch never
  | none =>
    unfold provisionReserved
    refine Proc.Safe.bind (provision_safe justifies (reserved rfl)) ?_
    rintro ⟨vars', err'⟩ h₃ t₃ delivered
    dsimp only
    split
    · rename_i clean
      rintro created ⟨⟩
      exact delivered clean
    · unfold abandon
      refine Proc.Safe.bind compensate_safe ?_
      intro _ h₄ t₄ _
      refine Proc.Safe.bind (recover_safe justifies keeps fuel) ?_
      intro _ h₅ t₅ _ created never
      cases never

/-! ### Change -/

theorem request_safe {p : Principal} {remove : Bool} :
    (request p gatewayID id remove).Safe (accountContract limits inv event)
      (fun _ _ _ => True) h s := by
  refine safe_locked trivial (fun ω s' => wp_request) ?_
  intro ω s' r l t _ concluded
  cases concluded with
  | committed ended =>
    rw [ended.calls]
    exact ⟨by simp, ended.request.change, trivial⟩
  | replyLost ended =>
    rw [ended.calls]
    exact ⟨by simp, ended.request.change, trivial⟩
  | rolledBack ended =>
    rw [ended.calls]
    exact ⟨by simp, .of_idle ended.request.base, trivial⟩
  | failed ended =>
    rw [ended.calls]
    exact ⟨by simp, .of_idle ended.base, trivial⟩

/-- **A change meets the contract.** -/
theorem change_safe (justifies : ∀ s v, Justified s v → event s v)
    (keeps : ∀ h s t, Change limits h s t → inv s → inv t) (fuel : Nat) {p : Principal}
    {remove : Bool} :
    (change svc fuel p gatewayID id remove).Safe (accountContract limits inv event)
      (fun _ _ _ => True) h s := by
  unfold change
  refine Proc.Safe.bind request_safe ?_
  rintro ⟨row, err⟩ h₁ t₁ _
  dsimp only
  split
  · trivial
  split
  · trivial
  refine Proc.Safe.bind (recover_safe justifies keeps fuel) ?_
  intro err' h₂ t₂ _
  split
  · trivial
  split
  · trivial
  refine Proc.Safe.bind (?_ : Proc.Safe _ (fun _ _ _ => True) _ _ _) ?_
  · intro s' _ _ ω _
    exact ⟨by simp, .of_idle (Store.Idle.refl s'), trivial⟩
  · intro answer h₃ t₃ _
    split <;> trivial

/-! ### Cleanup -/

/-- The transaction of a cleanup removed a live row. -/
structure Cleaned (ω : Env) (s : Store) (row : ServiceAccount) (c : Context Store Event Unit) :
    Prop where
  calls : c.log = []
  cleaned : ∃ current entry t, s.account? row.id = some current ∧ current.live = true ∧
    current.gatewayID = row.gatewayID ∧
    Wrote ω False s c current { current with
      status := .deleting, active := false, activeName := none, lastError := none,
      revokedAt := t, deletedAt := some c.store.time, updatedTime := c.store.time } [entry]

/-- **The transaction of a cleanup.** -/
theorem wp_removeAccount {ω : Env} {s : Store} {row : ServiceAccount} :
    Tx.wp ω (underAccount row.id (removeBody row)) (fun _ => Cleaned ω s row)
      (fun _ => FailedSilently s) (Context.start s ()) := by
  have start : Underway ω False s (Context.start s ()) := .start s () False.elim
  simp only [underAccount, Tx.wp_bind]
  refine Action.wp_query (fun _ => ⟨start.base, rfl⟩) (fun _ never => nomatch never) fun _ _ => ?_
  refine Action.wp_query (fun _ => ⟨start.base, rfl⟩) (fun _ _ => ⟨start.base, rfl⟩) ?_
  intro current found
  obtain ⟨stored, live⟩ := Store.getAccount_ok found
  have sameID : current.id = row.id := Store.id_of_account? stored
  have here : s.account? current.id = some current := by rw [sameID]; exact stored
  simp only [removeBody, Tx.wp_bind]
  rw [Tx.wp_require]
  split_ifs with same
  swap
  · exact ⟨start.base, rfl⟩
  -- The time of the revocation is read unless there is one.
  have finish : ∀ t c, Underway ω False s c → c.log = [] →
      Tx.wp ω (do
        let current ← save { current with
          status := .deleting, active := false, activeName := none, lastError := none,
          revokedAt := t }
        audit current "system" "gateway_cleanup" "succeeded"
        Action.update (Store.deleteAccount current.id)) (fun _ => Cleaned ω s row)
        (fun _ => FailedSilently s) c := by
    intro t c underway silent
    simp only [Tx.wp_bind]
    refine wp_save underway here live ⟨rfl, rfl, Or.inr rfl⟩ ?_ ?_
    · intro _ c' broke
      exact ⟨broke.base, broke.log.trans silent⟩
    intro c₁ wrote beside₁
    have silent₁ : c₁.log = [] := beside₁.log.trans silent
    refine wp_audit wrote ?_ ?_
    · intro e c' _ _ broke
      exact ⟨broke.base, broke.log.trans silent₁⟩
    intro entry c₂ _ wrote' beside₂
    have silent₂ : c₂.log = [] := beside₂.log.trans silent₁
    refine wp_delete wrote' live ?_ ?_
    · intro _ c' broke
      exact ⟨broke.base, broke.log.trans silent₂⟩
    intro c₃ wrote'' beside₃
    have time : c₃.store.time = c.store.time :=
      beside₃.time.trans (beside₂.time.trans beside₁.time)
    rw [← beside₃.time] at wrote''
    rw [← time] at wrote''
    exact ⟨beside₃.log.trans silent₂, current, entry, t, stored, live, same.2, wrote''⟩
  cases revoked : current.revokedAt with
  | some t => exact finish (some t) _ (start.at _) rfl
  | none =>
    simp only [Tx.wp_bind, Tx.wp_map]
    refine wp_clock (start.at _) ?_
    intro t c underway _ _ _ log _
    have finished := finish (some t) c underway log
    simpa only [Tx.wp_bind] using finished

/-- A provider call outside a transaction changes no account. -/
theorem callProvider_safe {call : Call} (allows : ∀ s t b, event s ⟨call, t, b⟩) :
    (callProvider call).Safe (accountContract limits inv event)
      (fun r h' _ => r = .ok () → ∃ t, ⟨call, t, true⟩ ∈ h') h s := by
  intro s' _ _ ω _
  refine ⟨?_, .of_idle ((Store.Idle.refl s').call _ _), ?_⟩
  · intro v member
    rw [show (_ : Outcome _ _ _).log = [_] from rfl, List.mem_singleton] at member
    rw [member]
    exact allows _ _ _
  · intro answered
    refine ⟨s'.time, List.mem_append_right h (List.mem_singleton.mpr ?_)⟩
    simp only at answered
    rw [answered]
    rfl

/-- **The cleanup of an account meets the contract** where deletions need no
justification. -/
theorem cleanupGatewayAccount_safe {row : ServiceAccount}
    (allows : ∀ s t b, event s ⟨.delete row.gatewayID row.id row.clientUuid, t, b⟩) :
    (cleanupGatewayAccount row).Safe (accountContract limits inv event)
      (fun _ _ _ => True) h s := by
  unfold cleanupGatewayAccount
  refine Proc.Safe.bind (callProvider_safe allows) ?_
  intro answer h₁ t₁ confirmed
  cases answer with
  | error e => trivial
  | ok _ =>
    obtain ⟨at', called⟩ := confirmed rfl
    dsimp only
    split
    · trivial
    refine Proc.Safe.bind (?_ : Proc.Safe _ (fun _ _ _ => True) _ _ _) ?_
    · refine safe_transact (fun ω s' _ _ _ => wp_removeAccount) ?_
      intro ω s' r l t _ _ moved concluded
      have change : ∀ {c : Context Store Event Unit}, Cleaned ω s' row c →
          Change limits (h₁ ++ c.log) s' c.store := by
        intro c ended
        obtain ⟨current, entry, t, stored, live, gateway, wrote⟩ := ended.cleaned
        have sameID : current.id = row.id := Store.id_of_account? stored
        refine wrote.change live (.clean ⟨at', row.clientUuid, Or.inl ?_⟩ (le_refl _))
        rw [sameID, gateway]
        exact List.mem_append_left _ called
      cases concluded with
      | committed ended => exact ⟨by simp [ended.calls], change ended, trivial⟩
      | replyLost ended => exact ⟨by simp [ended.calls], change ended, trivial⟩
      | rolledBack ended =>
        obtain ⟨_, _, _, _, _, _, wrote⟩ := ended.cleaned
        exact ⟨by simp [ended.calls], .of_idle wrote.base, trivial⟩
      | failed ended => exact ⟨by simp [ended.calls], .of_idle ended.base, trivial⟩
    · rintro ⟨_, err⟩ h₂ t₂ _
      cases err <;> trivial

end Safe

/-! ### Systems of account processes -/

/-- What the processes of a system return. -/
inductive Reply
  | created (result : Except Err Created)
  | changed (result : ServiceAccount × Bool × Option Err)
  | recovered (err : Option Err)
  | cleaned (err : Option Err)

/-- A call of an account operation, by any principal and with any arguments, of a
service with the given limits. -/
inductive AccountProcess (limits : Limits) : Process Reply → Prop
  | create (svc : Service) (configured : svc.limits = limits) (fuel : Nat) (p : Principal)
      (gatewayID : String) (input : CreateRequest) :
      AccountProcess limits (Reply.created <$> create svc fuel p gatewayID input)
  | change (svc : Service) (configured : svc.limits = limits) (fuel : Nat) (p : Principal)
      (gatewayID id : String) (remove : Bool) :
      AccountProcess limits (Reply.changed <$> change svc fuel p gatewayID id remove)
  | recover (svc : Service) (configured : svc.limits = limits) (fuel : Nat)
      (gatewayID id : String) :
      AccountProcess limits (Reply.recovered <$> recover svc gatewayID id fuel)

/-- Those, and the cleanup of any account row that was read before. -/
inductive CleanupProcess (limits : Limits) : Process Reply → Prop
  | account {p : Process Reply} (process : AccountProcess limits p) : CleanupProcess limits p
  | cleanup (row : ServiceAccount) :
      CleanupProcess limits (Reply.cleaned <$> cleanupGatewayAccount row)

/-- A returned account is stored, and ready. -/
def Answered (r : Reply) (_ : List Event) (t : Store) : Prop :=
  ∀ created, r = .created (.ok created) → Delivered created.account t

section Systems

variable {limits : Limits} {inv : Store → Prop} {event : Store → Event → Prop}

/-- **Every account process meets the contract.** -/
theorem accountProcess_safe (justifies : ∀ s v, Justified s v → event s v)
    (keeps : ∀ h s t, Change limits h s t → inv s → inv t) {p : Process Reply}
    (process : AccountProcess limits p) (h : List Event) (s : Store) :
    p.Safe (accountContract limits inv event) Answered h s := by
  cases process with
  | create svc configured fuel p gatewayID input =>
    subst configured
    refine ((create_safe justifies keeps fuel).mono ?_).map
    rintro r _ t delivered created ⟨⟩
    exact delivered created rfl
  | change svc configured fuel p gatewayID id remove =>
    exact ((change_safe justifies keeps fuel).mono fun _ _ _ _ _ never => nomatch never).map
  | recover svc configured fuel gatewayID id =>
    exact ((recover_safe justifies keeps fuel).mono fun _ _ _ _ _ never => nomatch never).map

theorem cleanupProcess_safe (allows : ∀ s v, event s v)
    (keeps : ∀ h s t, Change limits h s t → inv s → inv t) {p : Process Reply}
    (process : CleanupProcess limits p) (h : List Event) (s : Store) :
    p.Safe (accountContract limits inv event) Answered h s := by
  cases process with
  | account process => exact accountProcess_safe (fun s v _ => allows s v) keeps process h s
  | cleanup row =>
    exact ((cleanupGatewayAccount_safe fun s t b => allows s _).mono
      fun _ _ _ _ _ never => nomatch never).map

/-- Any number of account processes and cleanups, over a store that others use. -/
theorem cleanup_governed {init : Store → Prop} (starts : ∀ s, init s → inv s)
    (keeps : ∀ h s t, Change limits h s t → inv s → inv t)
    (elsewhere : ∀ s t, Elsewhere s t → inv s → inv t) :
    System.Governed (accountContract limits inv fun _ _ => True) Answered
      {p | CleanupProcess limits p} Elsewhere init where
  sound := accountContract_sound keeps
  oracle _ := trivial
  safe _ process s _ := cleanupProcess_safe (fun _ _ => trivial) keeps process [] s
  outside holds moved := ⟨elsewhere _ _ moved holds, moved.later⟩
  init := starts

/-- Any number of account processes, with justified provider calls, over a store that
others use. -/
theorem account_governed {init : Store → Prop} {outside : Store → Store → Prop}
    (starts : ∀ s, init s → inv s)
    (keeps : ∀ h s t, Change limits h s t → inv s → inv t)
    (others : ∀ {s t}, inv s → outside s t → inv t ∧ Later s t) :
    System.Governed (accountContract limits inv Justified) Answered
      {p | AccountProcess limits p} outside init where
  sound := accountContract_sound keeps
  oracle _ := trivial
  safe _ process s _ := accountProcess_safe (fun _ _ justified => justified) keeps process [] s
  outside := others
  init := starts

end Systems

end Hypershell
