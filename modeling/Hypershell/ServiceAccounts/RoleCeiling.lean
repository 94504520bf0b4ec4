import Hypershell.ServiceAccounts.Sample

/-!
# The role ceiling after a recovery

A recovery that returns without error leaves the account gone, revoked, or ready
within its expiry and its creator's role.  It calls itself once at most, and in every
execution the role it restores exceeds neither the stored one nor the creator's.

## Main definitions

* `Ceiling` — what holds of an account after a recovery

## Main results

* `recover_ceiling` — the three parts together
-/

namespace Hypershell

open Foundation

section Ceiling

variable [Platform]

/-- The account is absent, deleted, of another Gateway, revoked, or ready within its
expiry and its creator's role. -/
def Ceiling (s : Store) (gatewayID id : String) : Prop :=
  ∀ row, s.Owns gatewayID id row →
    (row.status = .revoked ∨ row.status = .expired) ∧ row.active = false ∨
    row.status = .ready ∧ s.time < row.expiresAt ∧
      ∃ access, s.directory.access gatewayID row.createdByUserID = .ok access ∧
        (row.role = .admin → access.owner = true)

/-- A transaction that neither time nor others disturb. -/
def Undisturbed (s t : Store) : Prop := t = s

variable {svc : Service} {gatewayID id : String} {s t : Store} {ω : Env}

/-- The row that a transaction wrote is the one the account has after it. -/
theorem Wrote.unique {L : Type} {alone : Prop} {c : Context Store Event L}
    {a b row : ServiceAccount} {entries : List ServiceAccountAudit}
    (wrote : Wrote ω alone s c a b entries) (same : b.id = id)
    (owns : c.store.Owns gatewayID id row) : row = b := by
  have stored := wrote.accounts.find?_new
  have found := owns.stored
  rw [← same] at found
  exact Option.some.inj (found.symm.trans stored)

/-- What the first transaction leaves behind when something is pending. -/
theorem Intent.unready {alone : Prop} {c : Context Store Event Bool}
    (ended : Intent ω alone s gatewayID id c) (pending : c.locals = true)
    {row : ServiceAccount} (owns : c.store.Owns gatewayID id row) : row.status ≠ .ready := by
  cases ended with
  | absent _ _ none => rw [none] at pending; cases pending
  | holds _ _ _ _ _ _ none => rw [none] at pending; cases pending
  | kept owns' unready _ underway =>
    rw [(underway.store.owns.mp owns).unique owns']
    exact unready
  | lowered owns' degraded wrote =>
    rw [wrote.unique owns'.id_eq owns]
    simp [degraded]
  | queued owns' _ wrote =>
    rw [wrote.unique owns'.id_eq owns]
    simp
  | demoted owns' _ wrote =>
    rw [wrote.unique owns'.id_eq owns]
    simp

/-- The first transaction returns without anything pending only for an account within
its ceiling. -/
theorem Intent.ceiling {alone : Prop} (is : alone) {c : Context Store Event Bool}
    (ended : Intent ω alone s gatewayID id c) (pending : c.locals = false) :
    Ceiling c.store gatewayID id := by
  intro row owns
  cases ended with
  | absent missing underway => exact absurd (underway.store.owns.mp owns) (missing row)
  | holds owns' ready granted unexpired ceiling underway =>
    have same := (underway.store.owns.mp owns).unique owns'
    subst same
    refine Or.inr ⟨ready, unexpired, _, ?_, ceiling⟩
    rw [(underway.alone is).2.1]
    exact granted
  | kept _ _ _ _ some => rw [some] at pending; cases pending
  | lowered _ _ _ some => rw [some] at pending; cases pending
  | queued _ _ _ some => rw [some] at pending; cases pending
  | demoted _ _ _ some => rw [some] at pending; cases pending

/-- The second transaction settles an account that is not ready within its ceiling,
unless it queues a revocation. -/
theorem Settlement.ceiling {alone : Prop} (is : alone) {c : Context Store Event Bool}
    (ended : Settlement ω alone s gatewayID id c) (done : c.locals = false)
    (unready : ∀ row, s.Owns gatewayID id row → row.status ≠ .ready) :
    Ceiling c.store gatewayID id := by
  intro row owns
  cases ended with
  | absent missing underway => exact absurd (underway.store.owns.mp owns) (missing row)
  | ready owns' ready => exact absurd ready (unready _ owns')
  | removed owns' _ _ _ wrote =>
    have live := owns.live
    rw [wrote.unique owns'.id_eq owns] at live
    cases live
  | revoked owns' _ _ _ wrote =>
    rw [wrote.unique owns'.id_eq owns]
    refine Or.inl ⟨?_, rfl⟩
    dsimp only
    split_ifs
    · exact Or.inl rfl
    · exact Or.inr rfl
  | queued _ _ _ queued => rw [queued] at done; cases done
  | @restored row' access entry owns' degraded granted unexpired wrote =>
    rw [wrote.unique owns'.id_eq owns]
    refine Or.inr ⟨rfl, unexpired, access, ?_, ?_⟩
    · rw [(wrote.alone is).2.1]
      exact granted
    · intro admin
      by_contra notOwner
      simp [notOwner] at admin

/-- **A recovery alone leaves the account within its ceiling** if it returns without
error. -/
theorem RecoverRun.ceiling {fuel : Nat} {steps : List (Env × Store)} {err : Option Err}
    {l : List Event} (run : RecoverRun Undisturbed svc gatewayID id fuel s steps err l t)
    (quiet : ∀ x ∈ steps, x.1.Quiet) (clean : err = none) : Ceiling t gatewayID id := by
  induction run with
  | refused => cases clean
  | ended moved intent last =>
    subst clean
    obtain ⟨c, ended, pending, -, rfl⟩ := intent.committed_of_ok
    have idle := last.resolve_left (not_not.mpr rfl)
    rw [← pending] at idle
    exact ended.intent.ceiling (quiet _ List.mem_cons_self) idle
  | settled moved intent moved' settle last =>
    subst clean
    obtain ⟨c, ended, pending, -, rfl⟩ := intent.committed_of_ok
    obtain ⟨c', ended', queued, -, rfl⟩ := settle.committed_of_ok
    have unqueued := last.resolve_left (not_not.mpr rfl)
    rw [← queued] at unqueued
    have alone := quiet _ (List.mem_cons_of_mem _ List.mem_cons_self)
    refine ended'.settlement.ceiling alone unqueued ?_
    -- The second transaction finds what the first one left.
    rw [Undisturbed] at moved'
    subst moved'
    exact fun row owns => ended.intent.unready pending owns
  | repeated _ _ _ _ _ ih =>
    exact ih (fun x member => quiet x (List.mem_cons_of_mem _ (List.mem_cons_of_mem _ member))) clean

/-- **The role ceiling of a recovery.**  Alone and with a fixed clock, a recovery that
returns without error leaves the account within its ceiling.  In every system of
account processes a restored role exceeds neither the stored role nor the creator's.
Whatever other processes do, two nested calls are enough. -/
theorem recover_ceiling :
    (∀ (svc : Service) (gatewayID id : String) (fuel : Nat) (s t : Store)
      (steps : List (Env × Store)) (l : List Event), (∀ x ∈ steps, x.1.Quiet) →
      (recover svc gatewayID id fuel).Exec Undisturbed s steps none l t →
      Ceiling t gatewayID id) ∧
    (∀ (limits : Limits) (x y : System Env Store Event Reply) (record : Record Store Event Reply),
      System.Reachable {p | AccountProcess limits p} (Alongside limits) (fun _ => True) x →
      System.Step {p | AccountProcess limits p} (Alongside limits) x (some record) y →
      ∀ spec uuid subject time answer,
        ⟨.reconcile spec uuid subject, time, answer⟩ ∈ record.log →
        ∃ row access, x.store.Owns spec.gatewayID spec.serviceAccountID row ∧
          (spec.role = .admin → row.role = .admin) ∧
          x.store.directory.access row.gatewayID row.createdByUserID = .ok access ∧
          allowed access spec.role = true) ∧
    ∀ (svc : Service) (gatewayID id : String) (fuel : Nat) (s t : Store)
      (steps : List (Env × Store)) (err : Option Err) (l : List Event), 2 ≤ fuel →
      (recover svc gatewayID id fuel).Exec Later s steps err l t →
      err ≠ some .recursionLimit := by
  refine ⟨?_, ?_, ?_⟩
  · intro svc gatewayID id fuel s t steps l quiet exec
    exact (recover_run exec).ceiling quiet rfl
  · intro limits x y record reach step spec uuid subject time answer member
    have governed : System.Governed (accountContract limits (fun _ => True) Justified) Answered
        {p | AccountProcess limits p} (Alongside limits) fun _ => True :=
      account_governed (fun _ _ => trivial) (fun _ _ _ _ _ => trivial)
        fun _ alongside => ⟨trivial, alongside.later⟩
    obtain ⟨-, row, owns, degraded, low, access, granted, permitted⟩ :=
      (governed.event_of_step reach step).2 _ member
    refine ⟨row, access, owns, ?_, granted, permitted⟩
    intro admin
    by_contra notAdmin
    have isUser : row.role = .user := by
      cases role : row.role with
      | user => rfl
      | admin => exact absurd role notAdmin
    rw [low isUser] at admin
    cases admin
  · intro svc gatewayID id fuel s t steps err l enough exec limit
    have safe : (recover svc gatewayID id fuel).Safe
        (accountContract svc.limits (fun _ => True) Justified)
        (fun r _ _ => r = some .recursionLimit → fuel = 0 ∨ fuel = 1 ∧ ¬ s.Terminal id) [] s :=
      recover_safe (fun _ _ justified => justified) (fun _ _ _ _ _ => trivial) fuel
    have bounded := safe.exec (fun _ _ => trivial) (fun _ _ => trivial)
      (exec.mono fun _ _ later _ => ⟨later, trivial⟩) trivial limit
    rcases bounded with none | ⟨one, -⟩ <;> omega

end Ceiling

end Hypershell
