import Hypershell.ServiceAccounts.RecoverSteps
import Hypershell.ServiceAccounts.CreateSteps

/-!
# Executions of a recovery

A recovery alone, among others that move the store only in a given way: which
transactions it takes, and what it does to an account in a terminal status when every
storage operation and provider call succeeds.

## Main definitions

* `RecoverRun` — the executions of a recovery by their transactions
* `Succeeds` — a transaction in which nothing fails

## Main results

* `RecoverRun.of_terminal` — a terminal account is settled in one pass
-/

namespace Hypershell

open Foundation

variable [Platform]

/-- Every storage operation and every provider call of the transaction succeeds. -/
structure Succeeds (ω : Env) (s : Store) : Prop where
  smooth : Smooth ω s
  reply : ∀ n, ω.reply n = .ok ()
  commit : ω.commit = .committed

variable {svc : Service} {gatewayID id : String} {s : Store}

/-- An execution of a transaction under the Gateway lock is one step, which ends as its
body does, or none for an ID that is never looked up. -/
theorem exec_locked {L : Type} {between : Store → Store → Prop} {init : L}
    {body : Gateway → Action L Unit} {t : Store} {steps : List (Env × Store)}
    {r : L × Option Err} {l : List Event} {done : Env → Store → Context Store Event L → Prop}
    {broken : Env → Store → Err → Context Store Event L → Prop}
    (exec : (locked gatewayID init body).Exec between s steps r l t)
    (run : ∀ ω s', steps = [(ω, s')] → between s s' →
      Tx.wp ω (underGateway gatewayID body) (fun _ => done ω s') (broken ω s')
        (Context.start s' init)) :
    (Platform.validID gatewayID = true ∧ ∃ ω s', steps = [(ω, s')] ∧ between s s' ∧
      (outcome Env.commit .storage init (underGateway gatewayID body) ω s').result = r ∧
      Concluded ω.commit .storage (done ω s') (broken ω s') r l t) ∨
    (Platform.validID gatewayID = false ∧ steps = [] ∧ r = (init, some .notFound) ∧ l = [] ∧
      t = s) := by
  unfold locked at exec
  split_ifs at exec with valid
  · exact Or.inl ⟨valid, exec_transact exec run⟩
  · obtain ⟨rfl, rfl, rfl, rfl⟩ := Proc.exec_ret exec
    exact Or.inr ⟨by simpa using valid, rfl, rfl, rfl, rfl⟩

/-- The executions of a recovery, by the transactions they take. -/
inductive RecoverRun (between : Store → Store → Prop) (svc : Service) (gatewayID id : String) :
    Nat → Store → List (Env × Store) → Option Err → List Event → Store → Prop
  | refused {fuel : Nat} {s : Store} {e : Err}
      (cause : fuel = 0 ∨ svc.provider = false ∨ Platform.validID gatewayID = false) :
      RecoverRun between svc gatewayID id fuel s [] (some e) [] s
  | ended {fuel : Nat} {s u t : Store} {ω : Env} {pending : Bool} {err : Option Err}
      {l : List Event} (moved : between s u)
      (intent : Concluded ω.commit .storage (Intended ω ω.Quiet u gatewayID id)
        (IntentFailed ω u gatewayID id) (pending, err) l t)
      (last : err ≠ none ∨ pending = false) :
      RecoverRun between svc gatewayID id (fuel + 1) s [(ω, u)] err l t
  | settled {fuel : Nat} {s u t u' t' : Store} {ω ω' : Env} {queued : Bool} {err : Option Err}
      {l l' : List Event} (moved : between s u)
      (intent : Concluded ω.commit .storage (Intended ω ω.Quiet u gatewayID id)
        (IntentFailed ω u gatewayID id) (true, none) l t)
      (moved' : between t u')
      (settle : Concluded ω'.commit .storage (Settled ω' ω'.Quiet u' gatewayID id)
        (SettleFailed ω' u' gatewayID id) (queued, err) l' t')
      (last : err ≠ none ∨ queued = false) :
      RecoverRun between svc gatewayID id (fuel + 1) s [(ω, u), (ω', u')] err (l ++ l') t'
  | repeated {fuel : Nat} {s u t u' t' v : Store} {ω ω' : Env} {steps : List (Env × Store)}
      {err : Option Err} {l l' l'' : List Event} (moved : between s u)
      (intent : Concluded ω.commit .storage (Intended ω ω.Quiet u gatewayID id)
        (IntentFailed ω u gatewayID id) (true, none) l t)
      (moved' : between t u')
      (settle : Concluded ω'.commit .storage (Settled ω' ω'.Quiet u' gatewayID id)
        (SettleFailed ω' u' gatewayID id) (true, none) l' t')
      (again : RecoverRun between svc gatewayID id fuel t' steps err l'' v) :
      RecoverRun between svc gatewayID id (fuel + 1) s ((ω, u) :: (ω', u') :: steps) err
        (l ++ (l' ++ l'')) v

/-- Every execution of a recovery is one of these. -/
theorem recover_run {between : Store → Store → Prop} {fuel : Nat} {t : Store}
    {steps : List (Env × Store)} {err : Option Err} {l : List Event}
    (exec : (recover svc gatewayID id fuel).Exec between s steps err l t) :
    RecoverRun between svc gatewayID id fuel s steps err l t := by
  induction fuel generalizing s steps l with
  | zero =>
    obtain ⟨rfl, rfl, rfl, rfl⟩ := Proc.exec_ret exec
    exact .refused (Or.inl rfl)
  | succ fuel ih =>
    unfold recover at exec
    split at exec
    · rename_i missing
      obtain ⟨rfl, rfl, rfl, rfl⟩ := Proc.exec_ret exec
      exact .refused (Or.inr (Or.inl missing))
    obtain ⟨steps₁, steps₂, ⟨pending, err₁⟩, l₁, l₂, u, rfl, rfl, first, rest⟩ :=
      Proc.exec_bind exec
    dsimp only at rest
    rcases exec_locked first (fun ω s' _ _ => wp_recoverIntent (fun is : ω.Quiet => is)) with
      ⟨valid, ω, s', rfl, moved, -, intent⟩ | ⟨invalid, rfl, same, rfl, rfl⟩
    swap
    · cases same
      obtain ⟨rfl, rfl, rfl, rfl⟩ := Proc.exec_ret rest
      exact .refused (Or.inr (Or.inr invalid))
    split at rest
    · rename_i last
      obtain ⟨rfl, rfl, rfl, rfl⟩ := Proc.exec_ret rest
      rw [List.append_nil, List.append_nil]
      exact .ended moved intent (last.imp Option.isSome_iff_ne_none.mp fun is => is)
    rename_i more
    rw [not_or, Option.not_isSome_iff_eq_none, Bool.not_eq_false] at more
    obtain ⟨rfl, rfl⟩ := more
    obtain ⟨steps₃, steps₄, ⟨queued, err₂⟩, l₃, l₄, v, rfl, rfl, second, final⟩ :=
      Proc.exec_bind rest
    dsimp only at final
    rcases exec_locked second (fun ω s' _ _ => wp_recoverSettle (fun is : ω.Quiet => is)) with
      ⟨-, ω', u', rfl, moved', -, settle⟩ | ⟨invalid, -, -, -, -⟩
    swap
    · rw [valid] at invalid
      cases invalid
    split at final
    · rename_i again
      obtain ⟨rfl, rfl⟩ := again
      exact .repeated moved intent moved' settle (ih final)
    · rename_i last
      obtain ⟨rfl, rfl, rfl, rfl⟩ := Proc.exec_ret final
      rw [List.append_nil, List.append_nil]
      refine .settled moved intent moved' settle ?_
      rcases Decidable.not_and_iff_or_not.mp last with failed | unqueued
      · exact Or.inl failed
      · exact Or.inr (by simpa using unqueued)

/-! ### Terminal accounts -/

omit [Platform] in
/-- A transaction that commits and cannot fail ends as its body does when it returns. -/
theorem Concluded.of_committed {L : Type} {reply : CommitReply} {lost : Err}
    {done : Context Store Event L → Prop} {broken : Err → Context Store Event L → Prop}
    {r : L × Option Err} {l : List Event} {t : Store}
    (concluded : Concluded reply lost done broken r l t) (commit : reply = .committed)
    (sound : ∀ e c, ¬ broken e c) :
    ∃ c, done c ∧ r = (c.locals, none) ∧ l = c.log ∧ t = c.store := by
  cases concluded with
  | committed ended => exact ⟨_, ended, rfl, rfl, rfl⟩
  | replyLost _ took => rw [commit] at took; cases took
  | rolledBack _ failed => rw [commit] at failed; cases failed
  | failed ended => exact absurd ended (sound _ _)

section Terminal

variable {ω : Env} {u t : Store} {r : Bool × Option Err} {l : List Event} {row : ServiceAccount}

/-- The first transaction leaves a terminal account pending. -/
theorem intends_of_terminal (succeeds : Succeeds ω u) (live : u.GatewayLive gatewayID)
    (owns : u.Owns gatewayID id row) (terminal : row.status.terminal = true)
    (concluded : Concluded ω.commit .storage (Intended ω ω.Quiet u gatewayID id)
      (IntentFailed ω u gatewayID id) r l t) : r = (true, none) ∧ l = [] ∧ u.Idle t := by
  have status : ∀ {row'}, u.Owns gatewayID id row' → row'.status.terminal = true := by
    intro row' other
    rw [other.unique owns]
    exact terminal
  obtain ⟨c, ended, rfl, rfl, rfl⟩ := Concluded.of_committed concluded succeeds.commit <| by
    rintro e c ⟨-, -, -, rough | dead | ⟨row', other, ready⟩⟩
    · exact rough succeeds.smooth
    · exact live.not_dead dead
    · have settled := status other
      rw [ready] at settled
      cases settled
  cases ended.intent with
  | absent missing => exact absurd owns (missing row)
  | kept _ _ _ underway pending => exact ⟨by rw [pending], ended.calls, underway.store⟩
  | holds other is => have settled := status other; rw [is] at settled; cases settled
  | lowered other is => have settled := status other; rw [is] at settled; cases settled
  | queued other is => have settled := status other; rw [is] at settled; cases settled
  | demoted other is => have settled := status other; rw [is] at settled; cases settled

/-- The second transaction settles a terminal account for good. -/
theorem settles_of_terminal (succeeds : Succeeds ω u) (live : u.GatewayLive gatewayID)
    (owns : u.Owns gatewayID id row) (terminal : row.status.terminal = true)
    (concluded : Concluded ω.commit .storage (Settled ω ω.Quiet u gatewayID id)
      (SettleFailed ω u gatewayID id) r l t) :
    r = (false, none) ∧ ∃ c, Settlement ω ω.Quiet u gatewayID id c ∧ l = c.log ∧
      t = c.store := by
  have status : ∀ {row'}, u.Owns gatewayID id row' → row'.status.terminal = true := by
    intro row' other
    rw [other.unique owns]
    exact terminal
  obtain ⟨c, ended, rfl, rfl, rfl⟩ := Concluded.of_committed concluded succeeds.commit <| by
    rintro e c ⟨-, -, -, rough | dead | ⟨n, e', refused⟩ | ⟨row', other, open'⟩⟩
    · exact rough succeeds.smooth
    · exact live.not_dead dead
    · rw [succeeds.reply n] at refused
      cases refused
    · rw [status other] at open'
      cases open'
  refine ⟨?_, c, ended.settlement, rfl, rfl⟩
  cases ended.settlement with
  | absent _ _ unqueued => rw [unqueued]
  | ready _ _ _ unqueued => rw [unqueued]
  | removed _ _ _ _ _ unqueued => rw [unqueued]
  | revoked _ _ _ _ _ unqueued => rw [unqueued]
  | restored _ _ _ _ _ unqueued => rw [unqueued]
  | queued other is => have settled := status other; rw [is] at settled; cases settled

end Terminal

/-- **A pass over a terminal account** takes both transactions, whatever between them
leaves the account and its Gateway alone, and returns without error. -/
theorem RecoverRun.of_terminal {between : Store → Store → Prop} {fuel : Nat} {t : Store}
    {steps : List (Env × Store)} {err : Option Err} {l : List Event} {row : ServiceAccount}
    (run : RecoverRun between svc gatewayID id fuel s steps err l t)
    (enough : 0 < fuel) (provider : svc.provider = true)
    (valid : Platform.validID gatewayID = true)
    (keeps : ∀ s t, between s t → s.GatewayLive gatewayID → s.Owns gatewayID id row →
      t.GatewayLive gatewayID ∧ t.Owns gatewayID id row)
    (live : s.GatewayLive gatewayID) (owns : s.Owns gatewayID id row)
    (terminal : row.status.terminal = true)
    (succeeds : ∀ x ∈ steps, Succeeds x.1 x.2) :
    err = none ∧ ∃ ω u u' u'' c, between s u ∧ u.Idle u' ∧ between u' u'' ∧
      u''.Owns gatewayID id row ∧ Settlement ω ω.Quiet u'' gatewayID id c ∧ l = c.log ∧
      t = c.store := by
  have intends : ∀ {ω : Env} {u t : Store} {r : Bool × Option Err} {l : List Event},
      between s u → Succeeds ω u →
      Concluded ω.commit .storage (Intended ω ω.Quiet u gatewayID id)
        (IntentFailed ω u gatewayID id) r l t →
      r = (true, none) ∧ l = [] ∧ u.Idle t ∧ t.GatewayLive gatewayID ∧
        t.Owns gatewayID id row := by
    intro ω u t r l moved good concluded
    obtain ⟨live', owns'⟩ := keeps s u moved live owns
    obtain ⟨same, silent, idle⟩ := intends_of_terminal good live' owns' terminal concluded
    exact ⟨same, silent, idle, (idle.toFrame.gatewayLive gatewayID).mpr live',
      idle.owns.mpr owns'⟩
  cases run with
  | refused cause =>
    rcases cause with none | none | none
    · omega
    · rw [provider] at none; cases none
    · rw [valid] at none; cases none
  | ended moved intent last =>
    obtain ⟨same, -⟩ := intends moved (succeeds _ List.mem_cons_self) intent
    cases same
    simp at last
  | @settled _ _ u u' u'' _ _ ω' _ _ _ _ moved intent moved' settle last =>
    obtain ⟨-, rfl, idle, live', owns'⟩ := intends moved (succeeds _ List.mem_cons_self) intent
    have good := succeeds _ (List.mem_cons_of_mem _ List.mem_cons_self)
    obtain ⟨live'', owns''⟩ := keeps _ _ moved' live' owns'
    obtain ⟨same, c, ended, rfl, rfl⟩ := settles_of_terminal good live'' owns'' terminal settle
    cases same
    exact ⟨rfl, ω', u, u', u'', c, moved, idle, moved', owns'', ended, rfl, rfl⟩
  | repeated moved intent moved' settle again =>
    obtain ⟨-, -, -, live', owns'⟩ := intends moved (succeeds _ List.mem_cons_self) intent
    have good := succeeds _ (List.mem_cons_of_mem _ List.mem_cons_self)
    obtain ⟨live'', owns''⟩ := keeps _ _ moved' live' owns'
    obtain ⟨same, -⟩ := settles_of_terminal good live'' owns'' terminal settle
    cases same

end Hypershell
