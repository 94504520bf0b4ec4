import Hypershell.ServiceAccounts.Executions
import Hypershell.ServiceAccounts.Recovery
import Hypershell.ServiceAccounts.Sample

/-!
# Repeated recovery of a settled account

The sweep visits revoked and expired accounts forever.  A pass that gets through both
transactions repeats the provider's revocation, stores the row once more and adds
another success audit; any other pass leaves the row and the audit trail alone.

## Main definitions

* `RecoveryPass`, `Passes` — one pass, and any number of them
* `GoesThrough` — nothing stops a pass

## Main results

* `unchanged_iff` — the passes change nothing exactly if none goes through
-/

namespace Hypershell

open Foundation

section Passes

variable [Platform]

/-- Others leave the account row and the audit trail alone. -/
structure Leaves (id : String) (s t : Store) : Prop where
  account : t.account? id = s.account? id
  audits : t.audits = s.audits

/-- A pass of the recovery over one account, by itself or from a stream of live rows. -/
inductive RecoveryPass (svc : Service) (gatewayID id : String) : Process (Option Err) → Prop
  | recover (fuel : Nat) : RecoveryPass svc gatewayID id (recover svc gatewayID id (fuel + 1))
  | stream {row : ServiceAccount} (fuel : Nat) (live : row.live = true)
      (gateway : row.gatewayID = gatewayID) (same : row.id = id) :
      RecoveryPass svc gatewayID id (recoverAccountTask svc row false (fuel + 1))

/-- Any number of passes, one after the other, with the transactions of each. -/
inductive Passes (svc : Service) (gatewayID id : String) :
    Store → List (List (Env × Store)) → Store → Prop
  | done {s : Store} : Passes svc gatewayID id s [] s
  | pass {p : Process (Option Err)} {s t u : Store} {steps : List (Env × Store)}
      {r : Option Err} {l : List Event} {more : List (List (Env × Store))}
      (known : RecoveryPass svc gatewayID id p)
      (exec : p.Exec (Leaves id) s steps r l t) (rest : Passes svc gatewayID id t more u) :
      Passes svc gatewayID id s (steps :: more) u

/-- Nothing stops a pass: the Gateway is live, no storage operation of its transactions
fails, the audit entry gets a new ID, and both commits take effect. -/
def GoesThrough (gatewayID : String) (steps : List (Env × Store)) : Prop :=
  ∃ ω u ω' u', steps = [(ω, u), (ω', u')] ∧
    u.GatewayLive gatewayID ∧ (∀ n ∈ [0, 1, 2], ω.fault n = false) ∧ ω.commit = .committed ∧
    u'.GatewayLive gatewayID ∧ (∀ n ∈ [0, 1, 2, 6, 7], ω'.fault n = false) ∧
    Draws ω' 8 u' ∧ ω'.commit ≠ .rolledBack

/-- A settled account: live, and revoked or expired. -/
def Store.Settled (s : Store) (gatewayID id : String) : Prop :=
  ∃ row, s.Owns gatewayID id row ∧ (row.status = .revoked ∨ row.status = .expired)

section Exact

variable {ω : Env} {s t : Store} {gatewayID id : String} {row : ServiceAccount}

omit [Platform] in
theorem Leaves.refl (id : String) (s : Store) : Leaves id s s := ⟨rfl, rfl⟩

omit [Platform] in
theorem Leaves.trans {u : Store} (first : Leaves id s t) (second : Leaves id t u) :
    Leaves id s u :=
  ⟨second.account.trans first.account, second.audits.trans first.audits⟩

omit [Platform] in
theorem Leaves.of_idle (idle : s.Idle t) : Leaves id s t := ⟨idle.account? id, idle.audits⟩

theorem Leaves.owns (leaves : Leaves id s t) (owns : s.Owns gatewayID id row) :
    t.Owns gatewayID id row :=
  ⟨owns.valid, leaves.account.trans owns.stored, owns.live, owns.gateway⟩

/-- The read of an account that is there takes one operation. -/
theorem wp_account_exact {L : Type} {c : Context Store Event L}
    {ok : ServiceAccount → Context Store Event L → Prop}
    {fails : Err → Context Store Event L → Prop} (owns : c.store.Owns gatewayID id row)
    (fault : ω.fault c.tick = true → fails .storage (c.at (c.tick + 1)))
    (found : ω.fault c.tick = false → ok row (c.at (c.tick + 1))) :
    Tx.wp ω (account gatewayID id) ok fails c := by
  unfold account
  rw [if_pos owns.valid, Tx.wp_bind]
  cases reads : ω.fault c.tick with
  | true => exact Action.wp_query_fault reads (fault reads)
  | false =>
    refine Action.wp_query_answer reads ?_ ?_
    · intro e absent
      rw [Store.getAccount_of_live owns.stored owns.live] at absent
      cases absent
    · intro value read
      rw [Store.getAccount_of_live owns.stored owns.live] at read
      cases read
      rw [Tx.wp_ite, if_neg (not_not.mpr owns.gateway)]
      exact found reads

/-- The first transaction over a settled account goes on if its three operations do not
fail, and never writes. -/
theorem wp_intent_exact (owns : s.Owns gatewayID id row)
    (settled : row.status = .revoked ∨ row.status = .expired) :
    Tx.wp ω (underGateway gatewayID fun _ => intentBody gatewayID id)
      (fun _ c => c.locals = true ∧ s.Idle c.store ∧ s.Idle c.base ∧ s.GatewayLive gatewayID ∧
        ∀ n ∈ [0, 1, 2], ω.fault n = false)
      (fun _ c => s.Idle c.base ∧
        ¬ (s.GatewayLive gatewayID ∧ ∀ n ∈ [0, 1, 2], ω.fault n = false))
      (Context.start s true) := by
  refine wp_underGateway (fun never : False => never.elim) ?_ ?_
  · intro e c _ cause broke
    refine ⟨broke.base, ?_⟩
    rintro ⟨live, smooth⟩
    rcases cause with faulty | faulty | dead
    · rw [smooth 0 (by decide)] at faulty
      cases faulty
    · rw [smooth 1 (by decide)] at faulty
      cases faulty
    · exact live.not_dead dead
  · intro g c stored live underway beside begun locks tick
    have alive : s.GatewayLive gatewayID := ⟨g, stored, live⟩
    simp only [intentBody, Tx.wp_bind, Tx.wp_attempt]
    refine wp_account_exact (underway.store.owns.mpr owns) ?_ ?_
    · intro faulty
      refine ⟨underway.base, fun smooth => ?_⟩
      rw [tick, smooth.2 2 (by decide)] at faulty
      cases faulty
    · intro reads
      rw [tick] at reads
      have unready : row.status ≠ .ready := by rcases settled with is | is <;> simp [is]
      have undegraded : ¬ (row.status = .degraded ∧ row.role = .admin) := by
        rcases settled with is | is <;> simp [is]
      show Tx.wp ω (storeIntent gatewayID row) _ _ _
      unfold storeIntent
      rw [Tx.wp_ite, if_neg undegraded, Tx.wp_ite, if_pos unready]
      refine ⟨beside.locals, underway.store, underway.base, alive, fun n member => ?_⟩
      simp only [List.mem_cons, List.not_mem_nil, or_false] at member
      rcases member with rfl | rfl | rfl
      · exact begun
      · exact locks
      · exact reads

/-- The operations of a revocation that may fail do not. -/
def Stores (ω : Env) (s : Store) : Prop :=
  (∀ n ∈ [0, 1, 2, 6, 7], ω.fault n = false) ∧ Draws ω 8 s

/-- What a revocation of a settled account leaves. -/
structure Repeated (ω : Env) (s : Store) (gatewayID id : String)
    (c : Context Store Event Bool) : Prop where
  stores : Stores ω s
  audits : ∃ entry, c.store.audits.rows = s.audits.rows ++ [entry]
  base : s.Idle c.base
  settled : c.store.Settled gatewayID id
  queued : c.locals = false

/-- A confirmed revocation is stored and reported exactly if these operations do not
fail. -/
theorem wp_retire_exact {c : Context Store Event Bool} (owns : s.Owns gatewayID id row)
    (reply : ∀ n, ω.reply n = .ok ()) (underway : Underway ω False s c) (tick : c.tick = 3)
    (queued : c.locals = false) (before : ∀ n ∈ [0, 1, 2], ω.fault n = false) :
    Tx.wp ω (retire row false) (fun _ => Repeated ω s gatewayID id)
      (fun _ c' => ¬ Stores ω s ∧ s.Idle c'.base) c := by
  have same := owns.id_eq
  have stored : s.account? row.id = some row := by rw [same]; exact owns.stored
  simp only [retire, Tx.wp_bind]
  refine wp_call_exact underway ?_
  intro answer c₁ replied underway₁ _ locals₁ _ tick₁
  rw [reply] at replied
  subst replied
  simp only [Bool.false_eq_true, if_false, Tx.wp_bind]
  refine wp_clock_exact underway₁ ?_
  intro t c₂ underway₂ _ _ _ _ locals₂ tick₂
  refine wp_clock_exact underway₂ ?_
  intro later c₃ underway₃ _ _ _ _ locals₃ tick₃
  have six : c₃.tick = 6 := by omega
  refine wp_save_exact underway₃ stored owns.live ⟨rfl, rfl, Or.inr rfl⟩ ?_ ?_
  · rw [six]
    intro faulty c' broke
    refine ⟨fun stores => ?_, broke.base⟩
    rcases faulty with faulty | faulty
    · rw [stores.1 6 (by decide)] at faulty
      cases faulty
    · rw [stores.1 7 (by decide)] at faulty
      cases faulty
  · rw [six]
    intro writes reads c₄ tick₄ wrote beside
    refine wp_audit_exact wrote ?_ ?_
    · rw [tick₄]
      intro e c' _ rough broke
      exact ⟨fun stores => rough stores.2, broke.base⟩
    · rw [tick₄]
      intro draws entry c₅ _ wrote' beside'
      refine ⟨⟨fun n member => ?_, draws⟩, ⟨entry, wrote'.audits⟩, wrote'.base, ?_, ?_⟩
      · simp only [List.mem_cons, List.not_mem_nil, or_false] at member
        rcases member with rfl | rfl | rfl | rfl | rfl
        · exact before 0 (by decide)
        · exact before 1 (by decide)
        · exact before 2 (by decide)
        · exact writes
        · exact reads
      · have found : c₅.store.account? row.id = some _ := wrote'.accounts.find?_new
        rw [same] at found
        refine ⟨_, ⟨owns.valid, found, owns.live, owns.gateway⟩, ?_⟩
        · show (if ¬ later < row.expiresAt then Status.expired else .revoked) = .revoked ∨
            (if ¬ later < row.expiresAt then Status.expired else .revoked) = .expired
          split
          · exact Or.inr rfl
          · exact Or.inl rfl
      · exact (beside.trans beside').locals.trans
          (locals₃.trans (locals₂.trans (locals₁.trans queued)))

/-- **The second transaction over a settled account** stores and reports the revocation
exactly if no operation fails. -/
theorem wp_settle_exact (owns : s.Owns gatewayID id row)
    (settled : row.status = .revoked ∨ row.status = .expired)
    (reply : ∀ n, ω.reply n = .ok ()) :
    Tx.wp ω (underGateway gatewayID (settleBody gatewayID id))
      (fun _ c => s.GatewayLive gatewayID ∧ Repeated ω s gatewayID id c)
      (fun _ c => ¬ (s.GatewayLive gatewayID ∧ Stores ω s) ∧ s.Idle c.base)
      (Context.start s false) := by
  refine wp_underGateway (fun never : False => never.elim) ?_ ?_
  · intro e c _ cause broke
    refine ⟨?_, broke.base⟩
    rintro ⟨live, smooth, -⟩
    rcases cause with faulty | faulty | dead
    · rw [smooth 0 (by decide)] at faulty
      cases faulty
    · rw [smooth 1 (by decide)] at faulty
      cases faulty
    · exact live.not_dead dead
  · intro g c stored live underway beside begun locks tick
    have alive : s.GatewayLive gatewayID := ⟨g, stored, live⟩
    simp only [settleBody, Tx.wp_bind, Tx.wp_attempt]
    refine wp_account_exact (underway.store.owns.mpr owns) ?_ ?_
    · intro faulty
      refine ⟨fun goes => ?_, underway.base⟩
      rw [tick, goes.2.1 2 (by decide)] at faulty
      cases faulty
    · intro reads
      rw [tick] at reads
      have retires : settle gatewayID g row = retire row false := by
        unfold settle
        rcases settled with is | is <;> rw [is]
      show Tx.wp ω (settle gatewayID g row) _ _ _
      rw [retires]
      have before : ∀ n ∈ [0, 1, 2], ω.fault n = false := by
        intro n member
        simp only [List.mem_cons, List.not_mem_nil, or_false] at member
        rcases member with rfl | rfl | rfl
        · exact begun
        · exact locks
        · exact reads
      refine Tx.wp_mono (wp_retire_exact owns reply (underway.at _) ?_ beside.locals before)
        ?_ ?_
      · rw [Context.at_tick, tick]
      · intro _ c' repeated
        exact ⟨alive, repeated⟩
      · rintro e c' ⟨broken, base⟩
        exact ⟨fun goes => broken goes.2, base⟩

end Exact

/-! ### One pass -/

section Pass

variable {svc : Service} {s t : Store} {gatewayID id : String}

/-- A pass that goes through adds one audit entry; another pass changes nothing.  The
account stays settled. -/
structure PassEnds (gatewayID id : String) (s : Store) (steps : List (Env × Store))
    (t : Store) : Prop where
  through : GoesThrough gatewayID steps → ∃ entry, t.audits.rows = s.audits.rows ++ [entry]
  stopped : ¬ GoesThrough gatewayID steps → Leaves id s t
  settled : t.Settled gatewayID id

theorem PassEnds.of_leaves {steps : List (Env × Store)} (leaves : Leaves id s t)
    (settled : s.Settled gatewayID id) (stopped : ¬ GoesThrough gatewayID steps) :
    PassEnds gatewayID id s steps t := by
  obtain ⟨row, owns, status⟩ := settled
  exact ⟨fun goes => absurd goes stopped, fun _ => leaves, row, leaves.owns owns, status⟩

theorem recover_pass {fuel : Nat} {steps : List (Env × Store)} {r : Option Err} {l : List Event}
    (settled : s.Settled gatewayID id) (reply : ∀ x ∈ steps, ∀ n, x.1.reply n = .ok ())
    (exec : (recover svc gatewayID id (fuel + 1)).Exec (Leaves id) s steps r l t) :
    PassEnds gatewayID id s steps t := by
  have single : ∀ x : Env × Store, ¬ GoesThrough gatewayID [x] := by
    rintro x ⟨_, _, _, _, same, -⟩
    cases same
  have refused : PassEnds gatewayID id s [] s := by
    refine .of_leaves (.refl id s) settled ?_
    rintro ⟨_, _, _, _, same, -⟩
    cases same
  unfold recover at exec
  split at exec
  · obtain ⟨-, rfl, -, rfl⟩ := Proc.exec_ret exec
    exact refused
  obtain ⟨row, owns, status⟩ := settled
  obtain ⟨steps₁, steps₂, ⟨pending, err⟩, l₁, l₂, s₁, rfl, -, first, rest⟩ :=
    Proc.exec_bind exec
  dsimp only at rest
  rcases exec_locked first (fun ω s' _ moved => wp_intent_exact (moved.owns owns) status) with
    ⟨valid, ω, u, rfl, moved, -, intent⟩ | ⟨-, rfl, same, rfl, rfl⟩
  swap
  · cases same
    obtain ⟨-, rfl, -, rfl⟩ := Proc.exec_ret rest
    exact refused
  -- The first transaction writes nothing, and goes on exactly if nothing fails.
  have kept : Leaves id s s₁ := by
    refine moved.trans ?_
    cases intent with
    | committed ended => exact .of_idle ended.2.1
    | replyLost ended => exact .of_idle ended.2.1
    | rolledBack ended => exact .of_idle ended.2.2.1
    | failed ended => exact .of_idle ended.1
  split at rest
  · rename_i last
    obtain ⟨-, rfl, -, rfl⟩ := Proc.exec_ret rest
    exact .of_leaves kept ⟨row, owns, status⟩ (single (ω, u))
  rename_i more
  rw [not_or, Option.not_isSome_iff_eq_none, Bool.not_eq_false] at more
  obtain ⟨rfl, rfl⟩ := more
  have begun : u.GatewayLive gatewayID ∧ (∀ n ∈ [0, 1, 2], ω.fault n = false) ∧
      ω.commit = .committed := by
    generalize result : (true, (none : Option Err)) = r at intent
    cases intent with
    | committed ended took => exact ⟨ended.2.2.2.1, ended.2.2.2.2, took⟩
    | replyLost => cases congrArg Prod.snd result
    | rolledBack => cases congrArg Prod.snd result
    | failed => cases congrArg Prod.snd result
  obtain ⟨steps₃, steps₄, ⟨queued, err'⟩, l₃, l₄, s₂, rfl, -, second, final⟩ :=
    Proc.exec_bind rest
  dsimp only at final
  have owns₁ := kept.owns owns
  have replies : ∀ ω' u', steps₃ = [(ω', u')] → ∀ n, ω'.reply n = .ok () := by
    rintro ω' u' rfl
    exact reply (ω', u') (List.mem_append_right _ (List.mem_append_left _ List.mem_cons_self))
  rcases exec_locked second (fun ω' u' only moved' =>
      wp_settle_exact (moved'.owns owns₁) status (replies ω' u' only)) with
    ⟨-, ω', u', rfl, moved', -, settle⟩ | ⟨invalid, rfl, -, -, rfl⟩
  swap
  · rw [valid] at invalid
    cases invalid
  have settled' : s₂.Settled gatewayID id ∧ (GoesThrough gatewayID [(ω, u), (ω', u')] →
      ∃ entry, s₂.audits.rows = u'.audits.rows ++ [entry]) ∧
      (¬ GoesThrough gatewayID [(ω, u), (ω', u')] → Leaves id u' s₂) ∧
      ¬ (err' = none ∧ queued = true) := by
    have stays : ∀ {v : Store}, u'.Idle v → v.Settled gatewayID id := fun idle =>
      ⟨row, (Leaves.of_idle idle).owns (moved'.owns owns₁), status⟩
    have goes : u'.GatewayLive gatewayID → Stores ω' u' → ω'.commit ≠ .rolledBack →
        GoesThrough gatewayID [(ω, u), (ω', u')] := fun live stores took =>
      ⟨ω, u, ω', u', rfl, begun.1, begun.2.1, begun.2.2, live, stores.1, stores.2, took⟩
    have through : GoesThrough gatewayID [(ω, u), (ω', u')] →
        u'.GatewayLive gatewayID ∧ Stores ω' u' ∧ ω'.commit ≠ .rolledBack := by
      rintro ⟨_, _, _, _, same, -, -, -, live, faults, draws, took⟩
      cases same
      exact ⟨live, ⟨faults, draws⟩, took⟩
    cases settle with
    | committed ended took =>
      obtain ⟨live, repeated⟩ := ended
      refine ⟨repeated.settled, fun _ => repeated.audits, fun stopped => absurd ?_ stopped, ?_⟩
      · exact goes live repeated.stores (by rw [took]; decide)
      · rintro ⟨-, queued⟩
        rw [repeated.queued] at queued
        cases queued
    | replyLost ended took =>
      obtain ⟨live, repeated⟩ := ended
      refine ⟨repeated.settled, fun _ => repeated.audits, fun stopped => absurd ?_ stopped, ?_⟩
      · exact goes live repeated.stores (by rw [took]; decide)
      · rintro ⟨never, -⟩
        cases never
    | rolledBack ended failed =>
      refine ⟨stays ended.2.base, fun goes => absurd failed (through goes).2.2,
        fun _ => .of_idle ended.2.base, ?_⟩
      rintro ⟨never, -⟩
      cases never
    | failed ended =>
      refine ⟨stays ended.2, fun goes => absurd ⟨(through goes).1, (through goes).2.1⟩ ended.1,
        fun _ => .of_idle ended.2, ?_⟩
      rintro ⟨never, -⟩
      cases never
  obtain ⟨stays, through, stopped, last⟩ := settled'
  rw [if_neg last] at final
  obtain ⟨-, rfl, -, rfl⟩ := Proc.exec_ret final
  have before : Leaves id s u' := kept.trans moved'
  refine ⟨fun goes => ?_, fun stops => before.trans (stopped stops), stays⟩
  obtain ⟨entry, added⟩ := through goes
  refine ⟨entry, ?_⟩
  rw [added, before.audits]

/-- **One pass.** -/
theorem RecoveryPass.ends {p : Process (Option Err)} {steps : List (Env × Store)}
    {r : Option Err} {l : List Event} (known : RecoveryPass svc gatewayID id p)
    (settled : s.Settled gatewayID id) (reply : ∀ x ∈ steps, ∀ n, x.1.reply n = .ok ())
    (exec : p.Exec (Leaves id) s steps r l t) : PassEnds gatewayID id s steps t := by
  cases known with
  | recover => exact recover_pass settled reply exec
  | stream _ live gateway same =>
    rw [recoverAccountTask_live live, gateway, same] at exec
    exact recover_pass settled reply exec

end Pass

/-! ### Any number of passes -/

section Runs

variable {svc : Service} {s t : Store} {gatewayID id : String}
  {runs : List (List (Env × Store))}

/-- The passes only add to the audit trail: nothing if none goes through, and something if
one does. -/
theorem Passes.ends (passes : Passes svc gatewayID id s runs t)
    (settled : s.Settled gatewayID id)
    (reply : ∀ steps ∈ runs, ∀ x ∈ steps, ∀ n, x.1.reply n = .ok ()) :
    s.audits.rows.length ≤ t.audits.rows.length ∧
    ((∀ steps ∈ runs, ¬ GoesThrough gatewayID steps) → Leaves id s t) ∧
    ((∃ steps ∈ runs, GoesThrough gatewayID steps) →
      s.audits.rows.length < t.audits.rows.length) := by
  induction passes with
  | done => exact ⟨le_refl _, fun _ => .refl id _, fun ⟨_, member, _⟩ => nomatch member⟩
  | @pass p s t u steps r l more known exec rest ih =>
    have first := known.ends settled (reply steps List.mem_cons_self) exec
    obtain ⟨grows, kept, adds⟩ := ih first.settled fun steps member =>
      reply steps (List.mem_cons_of_mem _ member)
    by_cases goes : GoesThrough gatewayID steps
    · obtain ⟨entry, added⟩ := first.through goes
      have longer : t.audits.rows.length = s.audits.rows.length + 1 := by
        rw [added, List.length_append]
        rfl
      refine ⟨by omega, fun none => absurd goes (none steps List.mem_cons_self), fun _ => ?_⟩
      omega
    · have leaves := first.stopped goes
      have same : t.audits.rows.length = s.audits.rows.length := by rw [leaves.audits]
      refine ⟨by omega, fun none => ?_, fun some => ?_⟩
      · exact leaves.trans (kept fun steps member => none steps (List.mem_cons_of_mem _ member))
      · obtain ⟨steps', member, goes'⟩ := some
        rcases List.mem_cons.mp member with rfl | later
        · exact absurd goes' goes
        · have more' := adds ⟨steps', later, goes'⟩
          omega

/-- **Repeated recovery of a settled account.**  After any number of passes whose provider
calls succeed, the account row and the audit trail are as before exactly if none of the
passes went through. -/
theorem unchanged_iff (passes : Passes svc gatewayID id s runs t)
    (settled : s.Settled gatewayID id)
    (reply : ∀ steps ∈ runs, ∀ x ∈ steps, ∀ n, x.1.reply n = .ok ()) :
    (t.account? id = s.account? id ∧ t.audits = s.audits) ↔
      ∀ steps ∈ runs, ¬ GoesThrough gatewayID steps := by
  obtain ⟨-, kept, adds⟩ := passes.ends settled reply
  constructor
  · rintro ⟨-, audits⟩ steps member goes
    have longer := adds ⟨steps, member, goes⟩
    rw [audits] at longer
    exact lt_irrefl _ longer
  · intro none
    exact ⟨(kept none).account, (kept none).audits⟩

end Runs

end Passes

/-! ### The sample -/

namespace Sample

/-- The sample's account was revoked, and one pass runs. -/
def revisit (ω ω' : Env) : Option (List (Env × Store) × Option Err × List Event × Store) :=
  (recover service gatewayID accountID 1).run [ω, ω'] (store (some revokedAccount) none)

theorem revoked_settled : (store (some revokedAccount) none).Settled gatewayID accountID :=
  ⟨revokedAccount, ⟨by decide, by decide +kernel, rfl, rfl⟩, Or.inl rfl⟩

end Sample

open Sample in
/-- **A second success audit.**  One pass over the sample's revoked account, in which
nothing fails, adds an audit entry. -/
theorem revisited_sample : ∃ runs t,
    Passes Sample.service Sample.gatewayID Sample.accountID
      (Sample.store (some Sample.revokedAccount) none) runs t ∧
    (∀ steps ∈ runs, ∀ x ∈ steps, ∀ n, x.1.reply n = .ok ()) ∧
    t.audits ≠ (Sample.store (some Sample.revokedAccount) none).audits := by
  let ω : Env := Sample.env ⟨Sample.auditID, by decide⟩
  have computed : ((Sample.revisit ω ω).any fun (_, _, _, t) => !t.audits.rows.isEmpty) = true := by
    decide +kernel
  obtain ⟨⟨steps, r, l, t⟩, run, added⟩ := (Option.any_eq_true _ _).mp computed
  have oracles := Proc.oracles_of_run run
  refine ⟨[steps], t, .pass (.recover 0) (Proc.exec_of_run (Leaves.refl _) run) .done, ?_, ?_⟩
  · intro steps' member x inside n
    rw [List.mem_singleton] at member
    subst member
    have drawn : x.1 ∈ [ω, ω] := oracles.subset (List.mem_map_of_mem inside)
    have same : x.1 = ω := by simpa using drawn
    rw [same]
    rfl
  · intro same
    change (!t.audits.rows.isEmpty) = true at added
    rw [same] at added
    cases added

open Sample in
/-- A pass over the sample's account that is refused the audit entry changes nothing. -/
theorem unchanged_sample : ∃ runs t,
    Passes Sample.service Sample.gatewayID Sample.accountID
      (Sample.store (some Sample.revokedAccount) none) runs t ∧
    t.account? Sample.accountID = some Sample.revokedAccount ∧ t.audits.rows = [] := by
  let ω : Env := Sample.env ⟨Sample.auditID, by decide⟩
  let ω' : Env := { ω with entropy := fun _ => none }
  have computed : (Sample.revisit ω ω').isSome = true := by decide +kernel
  obtain ⟨⟨steps, r, l, t⟩, run⟩ := Option.isSome_iff_exists.mp computed
  have oracles := Proc.oracles_of_run run
  have passes : Passes Sample.service Sample.gatewayID Sample.accountID
      (Sample.store (some Sample.revokedAccount) none) [steps] t :=
    .pass (.recover 0) (Proc.exec_of_run (Leaves.refl _) run) .done
  have unchanged := (unchanged_iff passes Sample.revoked_settled ?_).mpr ?_
  · refine ⟨[steps], t, passes, ?_, ?_⟩
    · rw [unchanged.1]
      decide +kernel
    · exact congrArg Table.rows unchanged.2
  · intro steps' member x inside n
    rw [List.mem_singleton] at member
    subst member
    have drawn : x.1 ∈ [ω, ω'] := oracles.subset (List.mem_map_of_mem inside)
    simp only [List.mem_cons, List.not_mem_nil, or_false] at drawn
    rcases drawn with same | same <;> rw [same] <;> rfl
  · intro steps' member goes
    rw [List.mem_singleton] at member
    subst member
    obtain ⟨_, _, ω₂, _, rfl, -, -, -, -, -, draws, -⟩ := goes
    have same : ω₂ = ω' := by
      have both : [_, ω₂] <+: [ω, ω'] := oracles
      obtain ⟨-, later⟩ := List.cons_prefix_cons.mp both
      exact (List.cons_prefix_cons.mp later).1
    obtain ⟨id, drawn, -⟩ := draws.entropy
    rw [same] at drawn
    cases drawn

end Hypershell
