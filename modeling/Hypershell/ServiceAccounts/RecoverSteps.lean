import Hypershell.ServiceAccounts.Steps

/-!
# What the transactions of `Recover` do

Every way in which the two transactions of a recovery can end, with the row each
leaves and the conditions it was reached under.  Later results case on these ends
and never look into the transactions again.

## Main definitions

* `Intent` — the ends of the first transaction
* `Settlement` — the ends of the second one
* `wp_intentBody`, `wp_settleBody` — the transactions reach no others
-/

namespace Hypershell

open Foundation

variable [Platform]

section Ends

variable (ω : Env) (alone : Prop) (s : Store) (gatewayID id : String)

/-- How the first transaction of a recovery ends, from the committed store `s`.  Its
variable says whether anything is pending. -/
inductive Intent (c : Context Store Event Bool) : Prop
  | absent (missing : ∀ row, ¬ s.Owns gatewayID id row) (underway : Underway ω alone s c)
      (pending : c.locals = false)
  | kept {row : ServiceAccount} (owns : s.Owns gatewayID id row)
      (unready : row.status ≠ .ready)
      (lowered : row.status = .degraded → row.role = .user)
      (underway : Underway ω alone s c) (pending : c.locals = true)
  | holds {row : ServiceAccount} {access : Access} (owns : s.Owns gatewayID id row)
      (ready : row.status = .ready)
      (granted : s.directory.access gatewayID row.createdByUserID = .ok access)
      (unexpired : c.store.time < row.expiresAt)
      (ceiling : row.role = .admin → access.owner = true)
      (underway : Underway ω alone s c) (pending : c.locals = false)
  | lowered {row : ServiceAccount} {u : Int} (owns : s.Owns gatewayID id row)
      (degraded : row.status = .degraded)
      (wrote : Wrote ω alone s c row { row with role := .user, updatedTime := u } [])
      (pending : c.locals = true)
  | queued {row : ServiceAccount} {u : Int} {entry : ServiceAccountAudit}
      (owns : s.Owns gatewayID id row) (ready : row.status = .ready)
      (wrote : Wrote ω alone s c row { row with status := .revoking, updatedTime := u } [entry])
      (pending : c.locals = true)
  | demoted {row : ServiceAccount} {u : Int} {entry : ServiceAccountAudit}
      (owns : s.Owns gatewayID id row) (ready : row.status = .ready)
      (wrote : Wrote ω alone s c row
        { row with status := .degraded, role := .user, updatedTime := u } [entry])
      (pending : c.locals = true)

/-- The first transaction of a recovery ended without a provider call. -/
structure Intended (c : Context Store Event Bool) : Prop where
  calls : c.log = []
  intent : Intent ω alone s gatewayID id c

/-- The first transaction of a recovery failed. -/
structure IntentFailed (e : Err) (c : Context Store Event Bool) : Prop where
  base : s.Idle c.base
  calls : c.log = []
  bounded : e ≠ .recursionLimit
  cause : ¬ Smooth ω s ∨ (∀ g, s.gateway? gatewayID = some g → g.live = false) ∨
    ∃ row, s.Owns gatewayID id row ∧ row.status = .ready

/-- How the second transaction of a recovery ends, from the committed store `s`.  Its
variable says whether a revocation was queued. -/
inductive Settlement (c : Context Store Event Bool) : Prop
  | absent (missing : ∀ row, ¬ s.Owns gatewayID id row) (underway : Underway ω alone s c)
      (queued : c.locals = false)
  | ready {row : ServiceAccount} (owns : s.Owns gatewayID id row)
      (ready : row.status = .ready) (underway : Underway ω alone s c)
      (queued : c.locals = false)
  | removed {row : ServiceAccount} {entry : ServiceAccountAudit}
      (owns : s.Owns gatewayID id row)
      (doomed : row.status = .error ∨ row.status = .deleting ∨
        row.status = .provisioning ∧ row.createdTime + reclaimAfter ≤ c.store.time)
      (deleted : ∃ t, ⟨.delete row.gatewayID row.id row.clientUuid, t, true⟩ ∈ c.log)
      (report : Reports entry row "system" "delete" "succeeded")
      (wrote : Wrote ω alone s c row { row with
        active := false, activeName := none, lastError := none,
        deletedAt := some c.store.time, updatedTime := c.store.time } [entry])
      (queued : c.locals = false)
  | revoked {row : ServiceAccount} {entry : ServiceAccountAudit} {t : Int}
      (owns : s.Owns gatewayID id row)
      (held : row.status = .revoking ∨ row.status = .revoked ∨ row.status = .expired ∨
        row.status = .degraded)
      (stopped : ∃ t, ⟨.revoke row.gatewayID row.id row.clientUuid, t, true⟩ ∈ c.log)
      (report : Reports entry row "system" "revoke" "succeeded")
      (wrote : Wrote ω alone s c row { row with
        active := false, activeName := none, lastError := none,
        revokedAt := some (row.revokedAt.getD t),
        status := if ¬ c.store.time < row.expiresAt then .expired else .revoked,
        updatedTime := c.store.time } [entry])
      (queued : c.locals = false)
  | queued {row : ServiceAccount} {u : Int} {entry : ServiceAccountAudit}
      (owns : s.Owns gatewayID id row) (degraded : row.status = .degraded)
      (wrote : Wrote ω alone s c row { row with status := .revoking, updatedTime := u } [entry])
      (queued : c.locals = true)
  | restored {row : ServiceAccount} {access : Access} {entry : ServiceAccountAudit}
      (owns : s.Owns gatewayID id row) (degraded : row.status = .degraded)
      (granted : s.directory.access gatewayID row.createdByUserID = .ok access)
      (unexpired : c.store.time < row.expiresAt)
      (wrote : Wrote ω alone s c row { row with
        role := if access.owner then row.role else .user, status := .ready,
        lastError := none, updatedTime := c.store.time } [entry])
      (queued : c.locals = false)

/-- The second transaction of a recovery settled the account, and the provider calls it
made were justified. -/
structure Settled (c : Context Store Event Bool) : Prop where
  calls : ∀ v ∈ c.log, Justified s v
  settlement : Settlement ω alone s gatewayID id c

/-- The second transaction of a recovery failed. -/
structure SettleFailed (e : Err) (c : Context Store Event Bool) : Prop where
  base : s.Idle c.base
  calls : ∀ v ∈ c.log, Justified s v
  bounded : e ≠ .recursionLimit
  cause : ¬ Smooth ω s ∨ (∀ g, s.gateway? gatewayID = some g → g.live = false) ∨
    (∃ n e, ω.reply n = .error e) ∨
    ∃ row, s.Owns gatewayID id row ∧ row.status.terminal = false

end Ends

section Proofs

variable {ω : Env} {alone : Prop} {s : Store} {gatewayID id : String}
  {c : Context Store Event Bool} {row : ServiceAccount}

/-! ### The first transaction -/

/-- A stored intent is one of the ends, whatever its new status. -/
theorem wp_saveIntent {row' : ServiceAccount} {ok : Unit → Context Store Event Bool → Prop}
    {fails : Err → Context Store Event Bool → Prop} (underway : Underway ω alone s c)
    (owns : s.Owns gatewayID id row) (same : row'.id = row.id)
    (keeps : KeepsEntries row row')
    (broke : ∀ e c', e ≠ .recursionLimit → ¬ Smooth ω s → Broke s c c' → fails e c')
    (saved : ∀ entry u c', Wrote ω alone s c' row (row'.over row u) [entry] →
      c'.log = c.log → c'.locals = c.locals → ok () c') :
    Tx.wp ω (saveIntent row') ok fails c := by
  have stored : s.account? row'.id = some row := by
    rw [same, owns.id_eq]
    exact owns.stored
  simp only [saveIntent, Tx.wp_bind]
  refine wp_save underway stored owns.live keeps ?_ ?_
  · intro faulty c' failed
    exact broke _ _ (by simp) (fun smooth => smooth.not_faulty faulty) failed
  · intro c₁ wrote beside
    refine wp_audit wrote ?_ ?_
    · intro e c' bounded rough failed
      exact broke _ _ bounded rough (failed.after beside)
    · intro entry c₂ _ wrote beside'
      have all := beside.trans beside'
      exact saved entry _ _ wrote all.log all.locals

theorem IntentFailed.of_broke {c' : Context Store Event Bool} {e : Err} (silent : c.log = [])
    (bounded : e ≠ .recursionLimit) (rough : ¬ Smooth ω s) (broke : Broke s c c') :
    IntentFailed ω s gatewayID id e c' :=
  ⟨broke.base, broke.log.trans silent, bounded, Or.inl rough⟩

theorem wp_storeIntent (owns : s.Owns gatewayID id row) (underway : Underway ω alone s c)
    (variable_ : c.locals = true) (silent : c.log = [])
    (directory : c.store.directory = s.directory) :
    Tx.wp ω (storeIntent gatewayID row) (fun _ => Intended ω alone s gatewayID id)
      (IntentFailed ω s gatewayID id) c := by
  unfold storeIntent
  rw [Tx.wp_ite]
  by_cases admin : row.status = .degraded ∧ row.role = .admin
  · rw [if_pos admin, Tx.wp_bind]
    have stored : s.account? row.id = some row := by
      rw [owns.id_eq]
      exact owns.stored
    refine wp_save underway stored owns.live ⟨rfl, rfl, Or.inl rfl⟩ ?_ ?_
    · intro faulty c' broke
      exact .of_broke silent (by simp) (fun smooth => smooth.not_faulty faulty) broke
    · intro c' wrote beside
      exact ⟨beside.log.trans silent,
        .lowered owns admin.1 wrote (beside.locals.trans variable_)⟩
  rw [if_neg admin, Tx.wp_ite]
  by_cases ready : row.status = .ready
  · rw [if_neg (not_not.mpr ready), Tx.wp_bind, Tx.wp_attempt]
    have cause : ∃ row, s.Owns gatewayID id row ∧ row.status = .ready := ⟨row, owns, ready⟩
    refine wp_accessForUser ?_ ?_ ?_
    · intro faulty n
      exact ⟨underway.base, silent, (by simp), Or.inr (Or.inr cause)⟩
    · intro e n denied
      have bounded := Directory.access_error denied
      rw [Tx.wp_ite]
      split_ifs
      · have silentAt : (c.at n).log = [] := silent
        refine wp_saveIntent (underway.at n) owns rfl ⟨rfl, rfl, Or.inl rfl⟩
          (fun _ _ bounded rough broke => .of_broke silentAt bounded rough broke) ?_
        intro entry u c' wrote log locals
        exact ⟨log.trans silent, .queued owns ready wrote (locals.trans variable_)⟩
      · exact ⟨underway.base, silent, bounded, Or.inr (Or.inr cause)⟩
    · intro access n granted
      rw [directory] at granted
      simp only [Tx.wp_bind]
      refine wp_clock (underway.at n) ?_
      intro t c₁ underway₁ later now sameDirectory log locals
      have broken : ∀ e c', e ≠ .recursionLimit → ¬ Smooth ω s → Broke s c₁ c' →
          IntentFailed ω s gatewayID id e c' := fun e c' bounded rough broke =>
        .of_broke (log.trans silent) bounded rough broke
      rw [Tx.wp_ite]
      by_cases expired : ¬ t < row.expiresAt
      · rw [if_pos expired]
        refine wp_saveIntent underway₁ owns rfl ⟨rfl, rfl, Or.inl rfl⟩ broken ?_
        intro entry u c' wrote log' locals'
        exact ⟨(log'.trans log).trans silent,
          .queued owns ready wrote ((locals'.trans locals).trans variable_)⟩
      rw [if_neg expired, Tx.wp_ite]
      by_cases exceeds : row.role = .admin ∧ access.owner = false
      · rw [if_pos exceeds]
        refine wp_saveIntent underway₁ owns rfl ⟨rfl, rfl, Or.inl rfl⟩ broken ?_
        intro entry u c' wrote log' locals'
        exact ⟨(log'.trans log).trans silent,
          .demoted owns ready wrote ((locals'.trans locals).trans variable_)⟩
      · rw [if_neg exceeds, Tx.wp_capture]
        refine ⟨log.trans silent, .holds owns ready granted ?_ ?_ (underway₁.capture false) rfl⟩
        · rw [← now] at expired
          exact not_not.mp expired
        · intro isAdmin
          by_contra notOwner
          exact exceeds ⟨isAdmin, by simpa using notOwner⟩
  · rw [if_pos ready]
    refine ⟨silent, .kept owns ready ?_ underway variable_⟩
    intro degraded
    cases role : row.role with
    | user => rfl
    | admin => exact absurd ⟨degraded, role⟩ admin

/-- **The first transaction of a recovery.** -/
theorem wp_recoverIntent (quiet : alone → ω.Quiet) :
    Tx.wp ω (underGateway gatewayID fun _ => intentBody gatewayID id)
      (fun _ => Intended ω alone s gatewayID id) (IntentFailed ω s gatewayID id)
      (Context.start s true) := by
  refine wp_underGateway quiet ?_ ?_
  · intro e c bounded cause broke
    refine ⟨broke.base, broke.log, bounded, ?_⟩
    exact (rough_of_fault cause).elim Or.inl fun missing => Or.inr (Or.inl missing)
  · intro g c _ _ underway beside _ _ _
    simp only [intentBody, Tx.wp_bind, Tx.wp_attempt]
    refine wp_account ?_ ?_ ?_
    · intro faulty n
      refine ⟨underway.base, beside.log, (by simp), Or.inl ?_⟩
      exact fun smooth => smooth.not_faulty faulty
    · intro n missing
      exact ⟨beside.log, .absent (fun row owns => missing row (underway.store.owns.mpr owns))
        ((underway.at n).capture false) rfl⟩
    · intro row n owns
      exact wp_storeIntent (underway.store.owns.mp owns) (underway.at n) beside.locals
        beside.log beside.directory

/-! ### The second transaction -/

/-- The time of a call that is made now. -/
theorem Underway.time_le {L : Type} {c : Context Store Event L}
    (underway : Underway ω alone s c) : s.time ≤ c.store.time :=
  underway.store.time

theorem SettleFailed.of_broke {c' : Context Store Event Bool} {e : Err}
    (calls : ∀ v ∈ c.log, Justified s v) (bounded : e ≠ .recursionLimit)
    (rough : ¬ Smooth ω s) (broke : Broke s c c') :
    SettleFailed ω s gatewayID id e c' :=
  ⟨broke.base, fun v member => calls v (broke.log ▸ member), bounded, Or.inl rough⟩

/-- A removal at the provider ends in the removal of the row. -/
theorem wp_retire_remove (owns : s.Owns gatewayID id row) (underway : Underway ω alone s c)
    (variable_ : c.locals = false) (silent : c.log = [])
    (doomed : row.status = .error ∨ row.status = .deleting ∨
      row.status = .provisioning ∧ row.createdTime + reclaimAfter ≤ c.store.time) :
    Tx.wp ω (retire row true) (fun _ => Settled ω alone s gatewayID id)
      (SettleFailed ω s gatewayID id) c := by
  have same := owns.id_eq
  have stored : s.account? row.id = some row := by rw [same]; exact owns.stored
  simp only [retire, Tx.wp_bind]
  refine wp_call underway ?_
  intro answer c₁ replied underway₁ time locals log
  rw [silent, List.nil_append] at log
  have calls : ∀ v ∈ c₁.log, Justified s v := by
    intro v member
    rw [log, List.mem_singleton] at member
    rw [member]
    exact ⟨underway.time_le, row, by rw [← owns.gateway, ← same] at owns; exact owns, doomed⟩
  cases answer with
  | error e =>
    exact ⟨underway₁.base, calls, (by simp), Or.inr (Or.inr (Or.inl ⟨_, e, replied.symm⟩))⟩
  | ok _ =>
    simp only [if_true, Tx.wp_bind]
    refine wp_save underway₁ stored owns.live ⟨rfl, rfl, Or.inr rfl⟩ ?_ ?_
    · intro faulty c' broke
      exact .of_broke calls (by simp) (fun smooth => smooth.not_faulty faulty) broke
    intro c₂ wrote beside
    refine wp_audit wrote ?_ ?_
    · intro e c' bounded rough broke
      exact .of_broke calls bounded rough (broke.after beside)
    intro entry c₃ report wrote' beside'
    refine wp_delete wrote' owns.live ?_ ?_
    · intro faulty c' broke
      exact .of_broke calls (by simp) (fun smooth => smooth.not_faulty faulty)
        (broke.after (beside.trans beside'))
    intro c₄ wrote'' beside''
    have all := (beside.trans beside').trans beside''
    have passed : c₄.store.time = c₁.store.time := all.time
    have calls' : ∀ v ∈ c₄.log, Justified s v := by rw [all.log]; exact calls
    have deleted : ∃ t, ⟨.delete row.gatewayID row.id row.clientUuid, t, true⟩ ∈ c₄.log := by
      refine ⟨c.store.time, ?_⟩
      rw [all.log, log]
      exact List.mem_singleton_self _
    have report' : Reports entry row "system" "delete" "succeeded" :=
      ⟨report.account, report.gateway, report.actor, report.action, report.outcome⟩
    rw [(beside.trans beside').time, ← passed] at wrote''
    rw [← time, ← passed] at doomed
    exact ⟨calls', .removed owns doomed deleted report' wrote''
      (all.locals.trans (locals.trans variable_))⟩

/-- A revocation at the provider ends in the revocation of the row. -/
theorem wp_retire_revoke (owns : s.Owns gatewayID id row) (underway : Underway ω alone s c)
    (variable_ : c.locals = false) (silent : c.log = [])
    (held : row.status = .revoking ∨ row.status = .revoked ∨ row.status = .expired ∨
      row.status = .degraded) :
    Tx.wp ω (retire row false) (fun _ => Settled ω alone s gatewayID id)
      (SettleFailed ω s gatewayID id) c := by
  have same := owns.id_eq
  have stored : s.account? row.id = some row := by rw [same]; exact owns.stored
  simp only [retire, Tx.wp_bind]
  refine wp_call underway ?_
  intro answer c₁ replied underway₁ time locals log
  rw [silent, List.nil_append] at log
  have calls : ∀ v ∈ c₁.log, Justified s v := by
    intro v member
    rw [log, List.mem_singleton] at member
    rw [member]
    exact ⟨underway.time_le, row, by rw [← owns.gateway, ← same] at owns; exact owns, held⟩
  cases answer with
  | error e =>
    exact ⟨underway₁.base, calls, (by simp), Or.inr (Or.inr (Or.inl ⟨_, e, replied.symm⟩))⟩
  | ok _ =>
    simp only [Bool.false_eq_true, if_false, Tx.wp_bind]
    refine wp_clock underway₁ ?_
    intro t c₂ underway₂ _ _ _ log₂ locals₂
    refine wp_clock underway₂ ?_
    intro later c₃ underway₃ _ now _ log₃ locals₃
    have calls₃ : ∀ v ∈ c₃.log, Justified s v := by rw [log₃, log₂]; exact calls
    refine wp_save underway₃ stored owns.live ⟨rfl, rfl, Or.inr rfl⟩ ?_ ?_
    · intro faulty c' broke
      exact .of_broke calls₃ (by simp) (fun smooth => smooth.not_faulty faulty) broke
    intro c₄ wrote beside
    refine wp_audit wrote ?_ ?_
    · intro e c' bounded rough broke
      exact .of_broke calls₃ bounded rough (broke.after beside)
    intro entry c₅ report wrote' beside'
    have all := beside.trans beside'
    have calls' : ∀ v ∈ c₅.log, Justified s v := by rw [all.log]; exact calls₃
    have stopped : ∃ t, ⟨.revoke row.gatewayID row.id row.clientUuid, t, true⟩ ∈ c₅.log := by
      refine ⟨c.store.time, ?_⟩
      rw [all.log, log₃, log₂, log]
      exact List.mem_singleton_self _
    have report' : Reports entry row "system" "revoke" "succeeded" :=
      ⟨report.account, report.gateway, report.actor, report.action, report.outcome⟩
    have stamp : (if row.revokedAt.isNone then some t else row.revokedAt) =
        some (row.revokedAt.getD t) := by
      cases row.revokedAt <;> rfl
    rw [stamp, now, ← now, ← all.time] at wrote'
    exact ⟨calls', .revoked owns held stopped report' wrote'
      (all.locals.trans (locals₃.trans (locals₂.trans (locals.trans variable_))))⟩

omit [Platform] in
/-- The role that a restored account has. -/
theorem allowed_ceiling (access : Access) (role : AccountRole) :
    allowed access (if access.owner then role else .user) = true := by
  cases owner : access.owner with
  | false => rfl
  | true => cases role <;> simp [owner]

/-- A degraded account is restored under its creator's ceiling, or its revocation is
queued. -/
theorem wp_restore {gateway : Gateway} {access : Access}
    (owns : s.Owns gatewayID id row) (underway : Underway ω alone s c)
    (variable_ : c.locals = false) (silent : c.log = [])
    (degraded : row.status = .degraded)
    (granted : s.directory.access gatewayID row.createdByUserID = .ok access)
    (unexpired : c.store.time < row.expiresAt) :
    Tx.wp ω (restore gatewayID gateway row access) (fun _ => Settled ω alone s gatewayID id)
      (SettleFailed ω s gatewayID id) c := by
  have same := owns.id_eq
  have stored : s.account? row.id = some row := by rw [same]; exact owns.stored
  -- Both outcomes of the provider's work store a row and report it.
  have queue : ∀ c₁ : Context Store Event Bool, Underway ω alone s c₁ →
      (∀ v ∈ c₁.log, Justified s v) →
      Tx.wp ω (do
        let row ← save { row with status := .revoking }
        Tx.capture fun _ => true
        audit row "system" "revoke" "started")
        (fun _ => Settled ω alone s gatewayID id) (SettleFailed ω s gatewayID id) c₁ := by
    intro c₁ underway₁ calls
    simp only [Tx.wp_bind]
    refine wp_save underway₁ stored owns.live ⟨rfl, rfl, Or.inl rfl⟩ ?_ ?_
    · intro faulty c' broke
      exact .of_broke calls (by simp) (fun smooth => smooth.not_faulty faulty) broke
    intro c₂ wrote beside
    rw [Tx.wp_capture]
    have calls₂ : ∀ v ∈ c₂.log, Justified s v := by rw [beside.log]; exact calls
    refine wp_audit (wrote.capture true) ?_ ?_
    · intro e c' bounded rough broke
      exact .of_broke (c := { c₂ with locals := true }) calls₂ bounded rough broke
    intro entry c₃ _ wrote' beside'
    refine ⟨?_, .queued owns degraded wrote' beside'.locals⟩
    rw [beside'.log]
    exact calls₂
  unfold restore
  cases oidcConnection gateway row.clientID false with
  | error e =>
    refine queue c underway ?_
    rw [silent]
    exact fun v member => nomatch member
  | ok connection =>
    simp only [Tx.wp_bind]
    refine wp_call underway ?_
    intro answer c₁ replied underway₁ time locals log
    rw [silent, List.nil_append] at log
    have calls : ∀ v ∈ c₁.log, Justified s v := by
      intro v member
      rw [log, List.mem_singleton] at member
      rw [member]
      refine ⟨underway.time_le, row, ?_, degraded, ?_, access, ?_, allowed_ceiling access row.role⟩
      · show s.Owns gatewayID row.id row
        rw [same]
        exact owns
      · intro low
        show (if access.owner then row.role else .user) = .user
        rw [low, ite_self]
      · rw [owns.gateway]
        exact granted
    cases answer with
    | error e => exact queue c₁ underway₁ calls
    | ok _ =>
      simp only [Tx.wp_bind]
      refine wp_save underway₁ stored owns.live ⟨rfl, rfl, Or.inl rfl⟩ ?_ ?_
      · intro faulty c' broke
        exact .of_broke calls (by simp) (fun smooth => smooth.not_faulty faulty) broke
      intro c₂ wrote beside
      refine wp_audit wrote ?_ ?_
      · intro e c' bounded rough broke
        exact .of_broke calls bounded rough (broke.after beside)
      intro entry c₃ _ wrote' beside'
      have all := beside.trans beside'
      have calls' : ∀ v ∈ c₃.log, Justified s v := by rw [all.log]; exact calls
      rw [← time, ← all.time] at unexpired
      rw [← all.time] at wrote'
      exact ⟨calls', .restored owns degraded granted unexpired wrote'
        (all.locals.trans (locals.trans variable_))⟩

theorem wp_settleDegraded {gateway : Gateway} (owns : s.Owns gatewayID id row)
    (underway : Underway ω alone s c) (variable_ : c.locals = false) (silent : c.log = [])
    (directory : c.store.directory = s.directory) (degraded : row.status = .degraded) :
    Tx.wp ω (settleDegraded gatewayID gateway row) (fun _ => Settled ω alone s gatewayID id)
      (SettleFailed ω s gatewayID id) c := by
  have failed : ∀ e n, e ≠ .recursionLimit → SettleFailed ω s gatewayID id e (c.at n) := by
    intro e n bounded
    refine ⟨underway.base, ?_, bounded, Or.inr (Or.inr (Or.inr ⟨row, owns, ?_⟩))⟩
    · rw [Context.at_log, silent]
      exact fun v member => nomatch member
    · rw [degraded]
      rfl
  have held : row.status = .revoking ∨ row.status = .revoked ∨ row.status = .expired ∨
      row.status = .degraded := Or.inr (Or.inr (Or.inr degraded))
  simp only [settleDegraded, Tx.wp_bind, Tx.wp_attempt]
  refine wp_accessForUser ?_ ?_ ?_
  · intro _ n
    exact failed _ n (by simp)
  · intro e n denied
    rw [Tx.wp_ite]
    split_ifs
    · exact wp_retire_revoke owns (underway.at n) variable_ silent held
    · exact failed e n (Directory.access_error denied)
  · intro access n granted
    rw [directory] at granted
    refine wp_clock (underway.at n) ?_
    intro t c₁ underway₁ _ now _ log locals
    rw [Tx.wp_ite]
    split_ifs with unexpired
    · refine wp_restore owns underway₁ (locals.trans variable_) (log.trans silent) degraded
        granted ?_
      rw [now]
      exact unexpired
    · exact wp_retire_revoke owns underway₁ (locals.trans variable_) (log.trans silent) held

/-- **The second transaction of a recovery.** -/
theorem wp_recoverSettle (quiet : alone → ω.Quiet) :
    Tx.wp ω (underGateway gatewayID (settleBody gatewayID id))
      (fun _ => Settled ω alone s gatewayID id) (SettleFailed ω s gatewayID id)
      (Context.start s false) := by
  refine wp_underGateway quiet ?_ ?_
  · intro e c bounded cause broke
    refine ⟨broke.base, ?_, bounded,
      (rough_of_fault cause).elim Or.inl fun missing => Or.inr (Or.inl missing)⟩
    rw [broke.log]
    exact fun v member => nomatch member
  intro g c _ _ underway beside _ _ _
  have silent : c.log = [] := beside.log
  have quietly : ∀ {c' : Context Store Event Bool}, c'.log = [] →
      ∀ v ∈ c'.log, Justified s v := by
    intro c' none v member
    rw [none] at member
    cases member
  simp only [settleBody, Tx.wp_bind, Tx.wp_attempt]
  refine wp_account ?_ ?_ ?_
  · intro faulty n
    exact ⟨underway.base, quietly silent, (by simp),
      Or.inl fun smooth => smooth.not_faulty faulty⟩
  · intro n missing
    exact ⟨quietly silent, .absent (fun row owns => missing row (underway.store.owns.mpr owns))
      (underway.at n) beside.locals⟩
  intro row n found
  have owns := underway.store.owns.mp found
  have running : ∀ {e : Err} {c' : Context Store Event Bool}, e ≠ .recursionLimit →
      s.Idle c'.base → c'.log = [] → row.status.terminal = false →
      SettleFailed ω s gatewayID id e c' := fun bounded base none open' =>
    ⟨base, quietly none, bounded, Or.inr (Or.inr (Or.inr ⟨row, owns, open'⟩))⟩
  -- One case for each status that a row can have.
  show Tx.wp ω (settle gatewayID g row) _ _ _
  unfold settle
  cases status : row.status with
  | error =>
    exact wp_retire_remove owns (underway.at n) beside.locals silent (Or.inl status)
  | deleting =>
    exact wp_retire_remove owns (underway.at n) beside.locals silent (Or.inr (Or.inl status))
  | provisioning =>
    simp only [Tx.wp_bind]
    refine wp_clock (underway.at n) ?_
    intro t c₁ underway₁ _ now _ log locals
    rw [Tx.wp_ite]
    split_ifs with young
    · exact running (by simp) underway₁.base (log.trans silent) (by rw [status]; rfl)
    · refine wp_retire_remove owns underway₁ (locals.trans beside.locals) (log.trans silent) ?_
      rw [now]
      exact Or.inr (Or.inr ⟨status, by omega⟩)
  | revoking =>
    exact wp_retire_revoke owns (underway.at n) beside.locals silent (Or.inl status)
  | revoked =>
    exact wp_retire_revoke owns (underway.at n) beside.locals silent (Or.inr (Or.inl status))
  | expired =>
    exact wp_retire_revoke owns (underway.at n) beside.locals silent
      (Or.inr (Or.inr (Or.inl status)))
  | ready => exact ⟨quietly silent, .ready owns status (underway.at n) beside.locals⟩
  | degraded =>
    exact wp_settleDegraded owns (underway.at n) beside.locals silent beside.directory status
  | other text => exact running (by simp) underway.base silent (by rw [status]; rfl)

end Proofs

end Hypershell
