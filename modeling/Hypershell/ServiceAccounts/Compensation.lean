import Hypershell.ServiceAccounts.Sample

/-!
# The compensation of a failed creation

A creation whose second transaction fails marks the reserved account as failed and
removes it, at the provider and from live storage.  The ID for that comes from a
variable that the second transaction assigns: where it cannot read the account, the
variable holds the zero row, and the reservation stays.

## Main definitions

* `Spared` — what others may do meanwhile
* `Withdrawn` — the account was marked as failed and removed
* `ReservedBy` — the account that a creation reserved

## Main results

* `withdrawn_iff` — a failed creation is compensated unless the read failed
-/

namespace Hypershell

open Foundation

section Compensation

variable [Platform]

/-- Others leave one account alone and its Gateway live. -/
structure Spared (gatewayID id : String) (s t : Store) : Prop where
  account : t.account? id = s.account? id
  live : s.GatewayLive gatewayID → t.GatewayLive gatewayID

/-- The account was marked as failed, and then removed at the provider and from live
storage.  It holds neither its slot nor its name. -/
def Withdrawn (l : List Event) (t : Store) (gatewayID id : String) : Prop :=
  (∃ row, t.account? id = some row ∧ row.gatewayID = gatewayID ∧ row.live = false ∧
    row.status = .error ∧ row.active = false ∧ row.activeName = none) ∧
  ∃ uuid time, ⟨.delete gatewayID id uuid, time, true⟩ ∈ l

/-- The creation read the clock and committed the reservation of the account `id`. -/
def ReservedBy (svc : Service) (p : Principal) (gatewayID : String) (request : CreateRequest)
    (clock reservation : Env × Store) (id : String) : Prop :=
  ∃ name role expires vars, validateRequest request = .ok (name, role) ∧
    expiryOf request (clock.2.time + clock.1.elapsed 0) = .ok expires ∧
    (outcome Env.commit .storage Creation.zero
      (underGateway gatewayID (reserveBody svc p gatewayID
        ⟨name, request.description, role, expires⟩)) reservation.1 reservation.2).result =
      (vars, none) ∧ vars.row.id = id

/-- The account is live in a state that a creation left it in. -/
def Unfinished (s : Store) (gatewayID id : String) : Prop :=
  ∃ row, s.Owns gatewayID id row ∧
    (row.status = .provisioning ∨ row.status = .ready ∨ row.status = .error)

variable {svc : Service} {gatewayID id : String} {s t u : Store} {ω : Env}

theorem Spared.owns {row : ServiceAccount} (spared : Spared gatewayID id s t)
    (owns : s.Owns gatewayID id row) : t.Owns gatewayID id row :=
  ⟨owns.valid, spared.account.trans owns.stored, owns.live, owns.gateway⟩

/-! ### Recovery of a failed account -/

/-- **A recovery removes a failed account** if its transactions succeed. -/
theorem RecoverRun.withdrawn {fuel : Nat} {steps : List (Env × Store)} {err : Option Err}
    {l : List Event} (run : RecoverRun (Spared gatewayID id) svc gatewayID id fuel s steps err l t)
    (enough : 0 < fuel) (provider : svc.provider = true)
    (valid : Platform.validID gatewayID = true) (live : s.GatewayLive gatewayID)
    {row : ServiceAccount} (owns : s.Owns gatewayID id row) (failed : row.status = .error)
    (succeeds : ∀ x ∈ steps, Succeeds x.1 x.2) : Withdrawn l t gatewayID id := by
  obtain ⟨-, ω, u, u', u'', c, -, -, -, owns', ended, rfl, rfl⟩ :=
    run.of_terminal enough provider valid
      (fun _ _ spared live owns => ⟨spared.live live, spared.owns owns⟩) live owns
      (by rw [failed]; rfl) succeeds
  have status : ∀ {row'}, u''.Owns gatewayID id row' → row'.status = .error := by
    intro row' other
    rw [other.unique owns']
    exact failed
  cases ended with
  | absent missing => exact absurd owns' (missing row)
  | ready other is => rw [status other] at is; cases is
  | queued other is => rw [status other] at is; cases is
  | restored other is => rw [status other] at is; cases is
  | revoked other is => rw [status other] at is; simp at is
  | @removed row' _ other _ deleted _ wrote =>
    obtain ⟨time, called⟩ := deleted
    rw [other.gateway, other.id_eq] at called
    have stored : c.store.account? id = some { row' with
        active := false, activeName := none, lastError := none,
        deletedAt := some c.store.time, updatedTime := c.store.time } := by
      rw [← other.id_eq]
      exact wrote.accounts.find?_new
    have isError : row'.status = .error := status other
    exact ⟨⟨_, stored, other.gateway, rfl, isError, rfl, rfl⟩, _, time, called⟩

/-! ### The end of a failed creation -/

/-- **The end of a creation that kept the account's ID** withdraws the account. -/
theorem abandon_withdraws {fuel : Nat} {steps : List (Env × Store)} {e : Err}
    {r : Except Err Created} {l : List Event}
    (exec : (abandon svc fuel gatewayID id e).Exec (Spared gatewayID id) s steps r l t)
    (enough : 0 < fuel) (provider : svc.provider = true)
    (valid : Platform.validID gatewayID = true) (live : s.GatewayLive gatewayID)
    (unfinished : Unfinished s gatewayID id) (succeeds : ∀ x ∈ steps, Succeeds x.1 x.2) :
    Withdrawn l t gatewayID id := by
  obtain ⟨row, owns, status⟩ := unfinished
  obtain ⟨steps₁, steps₂, ⟨_, err⟩, l₁, l₂, s₁, rfl, rfl, first, rest⟩ := Proc.exec_bind exec
  obtain ⟨steps₃, steps₄, err', l₃, l₄, s₂, rfl, rfl, second, final⟩ := Proc.exec_bind rest
  obtain ⟨-, rfl, rfl, rfl⟩ := Proc.exec_ret final
  rcases exec_locked first (fun ω s' _ _ => wp_compensate) with
    ⟨-, ω, u, rfl, moved, -, concluded⟩ | ⟨invalid, -, -, -, -⟩
  swap
  · rw [valid] at invalid
    cases invalid
  have owns' := moved.owns owns
  have live' := moved.live live
  have good : Succeeds ω u := succeeds (ω, u) (List.mem_append_left _ List.mem_cons_self)
  obtain ⟨c, ended, -, rfl, rfl⟩ := Concluded.of_committed concluded good.commit <| by
    rintro e' c ⟨-, rough | dead | missing⟩
    · exact rough good.smooth
    · exact live'.not_dead dead
    · exact missing row owns'
  -- The compensation leaves the account marked as failed, whichever state it found.
  have marked : ∃ row', c.store.Owns gatewayID id row' ∧ row'.status = .error ∧
      c.store.GatewayLive gatewayID := by
    cases ended.compensation with
    | @failed row' entry reason m other unfinished wrote =>
      have stored : c.store.account? id = some { row' with
          status := .error, lastError := some reason, updatedTime := m } := by
        rw [← other.id_eq]
        exact wrote.accounts.find?_new
      exact ⟨_, ⟨other.valid, stored, other.live, other.gateway⟩, rfl,
        (wrote.frame.gatewayLive gatewayID).mpr live'⟩
    | kept other finished underway =>
      rw [other.unique owns'] at finished
      have isError : row.status = .error :=
        (status.resolve_left finished.1).resolve_left finished.2
      exact ⟨row, underway.store.owns.mpr owns', isError,
        (underway.store.toFrame.gatewayLive gatewayID).mpr live'⟩
  obtain ⟨row', owns'', isError, live''⟩ := marked
  obtain ⟨withdrawn, uuid, time, called⟩ :=
    (recover_run second).withdrawn enough provider valid live'' owns'' isError fun x member =>
      succeeds x (List.mem_append_right _ (List.mem_append_left _ member))
  exact ⟨withdrawn, uuid, time, List.mem_append_right _ (List.mem_append_left _ called)⟩

/-- A store with the same account. -/
def SameAccount (id : String) (s t : Store) : Prop := t.account? id = s.account? id

/-- A recovery of an ID that no account has leaves every account. -/
theorem RecoverRun.still {between : Store → Store → Prop} {unknown : String} {fuel : Nat}
    {steps : List (Env × Store)} {err : Option Err} {l : List Event}
    (run : RecoverRun between svc gatewayID unknown fuel s steps err l t)
    (missing : ∀ (u : Store) row, ¬ u.Owns gatewayID unknown row)
    (keeps : ∀ s t, between s t → SameAccount id s t) : SameAccount id s t := by
  have intends : ∀ {ω : Env} {u t : Store} {r : Bool × Option Err} {l : List Event},
      Concluded ω.commit .storage (Intended ω ω.Quiet u gatewayID unknown)
        (IntentFailed ω u gatewayID unknown) r l t →
      r ≠ (true, none) ∧ SameAccount id u t := by
    intro ω u t r l concluded
    have absent : ∀ {c}, Intended ω ω.Quiet u gatewayID unknown c →
        c.locals = false ∧ u.Idle c.store ∧ u.Idle c.base := by
      intro c ended
      cases ended.intent with
      | absent _ underway pending => exact ⟨pending, underway.store, underway.base⟩
      | kept owns => exact absurd owns (missing u _)
      | holds owns => exact absurd owns (missing u _)
      | lowered owns => exact absurd owns (missing u _)
      | queued owns => exact absurd owns (missing u _)
      | demoted owns => exact absurd owns (missing u _)
    cases concluded with
    | committed ended =>
      obtain ⟨none, idle, -⟩ := absent ended
      exact ⟨by simp [none], idle.account? id⟩
    | replyLost ended => exact ⟨by simp, (absent ended).2.1.account? id⟩
    | rolledBack ended => exact ⟨by simp, (absent ended).2.2.account? id⟩
    | failed ended => exact ⟨by simp, ended.base.account? id⟩
  cases run with
  | refused => rfl
  | ended moved intent => exact (intends intent).2.trans (keeps _ _ moved)
  | settled moved intent => exact absurd rfl (intends intent).1
  | repeated moved intent => exact absurd rfl (intends intent).1

/-- **The end of a creation that lost the account's ID** leaves the account. -/
theorem abandon_still {fuel : Nat} {steps : List (Env × Store)} {e : Err}
    {r : Except Err Created} {l : List Event}
    (exec : (abandon svc fuel gatewayID "" e).Exec (Spared gatewayID id) s steps r l t) :
    SameAccount id s t := by
  have missing : ∀ (u : Store) row, ¬ u.Owns gatewayID "" row := by
    intro u row owns
    have valid := owns.valid
    rw [Platform.validID_empty] at valid
    cases valid
  obtain ⟨steps₁, steps₂, ⟨_, err⟩, l₁, l₂, s₁, rfl, rfl, first, rest⟩ := Proc.exec_bind exec
  obtain ⟨steps₃, steps₄, err', l₃, l₄, s₂, rfl, rfl, second, final⟩ := Proc.exec_bind rest
  obtain ⟨-, rfl, rfl, rfl⟩ := Proc.exec_ret final
  have recovered : SameAccount id s₁ t :=
    (recover_run second).still missing fun _ _ spared => spared.account
  refine recovered.trans ?_
  rcases exec_locked first (fun ω s' _ _ => wp_compensate) with
    ⟨-, ω, u, rfl, moved, -, concluded⟩ | ⟨-, -, -, -, rfl⟩
  swap
  · rfl
  refine Eq.trans ?_ moved.account
  have absent : ∀ {c}, Compensated ω u gatewayID "" c → False := by
    intro c ended
    cases ended.compensation with
    | failed owns => exact missing u _ owns
    | kept owns => exact missing u _ owns
  cases concluded with
  | committed ended => exact (absent ended).elim
  | replyLost ended => exact (absent ended).elim
  | rolledBack ended => exact (absent ended).elim
  | failed ended => exact ended.base.account? id

/-! ### The failure of the second transaction -/

/-- What a failed provisioning leaves: an unfinished account and its ID, or the
reservation and no ID. -/
theorem provision_leaves {vars : Creation} {r : Creation × Option Err} {l : List Event}
    {row : ServiceAccount} (owns : u.Owns gatewayID id row)
    (reserved : row.status = .provisioning) (live : u.GatewayLive gatewayID)
    (failed : joinErrors r.2 r.1.resultErr ≠ none)
    (concluded : Concluded ω.commit Err.storage (Provisioned ω u gatewayID id vars)
      (fun _ => ProvisionFailed ω u gatewayID id) r l t) :
    (¬ RereadFails ω → r.1.row.id = id ∧ Unfinished t gatewayID id ∧
      t.GatewayLive gatewayID) ∧
    (RereadFails ω → r.1.row.id = "" ∧ SameAccount id u t) := by
  -- Either the working copy is committed or the base is left, which is idle.
  have rolledBack : ∀ {t}, u.Idle t → Unfinished t gatewayID id ∧ t.GatewayLive gatewayID :=
    fun idle => ⟨⟨row, idle.owns.mpr owns, Or.inl reserved⟩,
      (idle.toFrame.gatewayLive gatewayID).mpr live⟩
  have kept : ∀ {c}, Provisioned ω u gatewayID id vars c → c.locals.row.id = id := by
    intro c ended
    cases ended.provisioning with
    | refused _ _ _ same => exact same
    | delivered other _ _ result =>
      rw [result]
      exact other.id_eq
  have written : ∀ {c}, Provisioned ω u gatewayID id vars c →
      Unfinished c.store gatewayID id ∧ c.store.GatewayLive gatewayID := by
    intro c ended
    cases ended.provisioning with
    | @refused row' entry uuid subject reason m other _ wrote =>
      have stored : c.store.account? id = some { row' with
          status := .error, lastError := some reason, clientUuid := uuid, subject := subject,
          updatedTime := m } := by
        rw [← other.id_eq]
        exact wrote.accounts.find?_new
      exact ⟨⟨_, ⟨other.valid, stored, other.live, other.gateway⟩, Or.inr (Or.inr rfl)⟩,
        (wrote.frame.gatewayLive gatewayID).mpr live⟩
    | @delivered row' entry uuid subject m other _ wrote =>
      have stored : c.store.account? id = some { row' with
          status := .ready, lastError := none, clientUuid := uuid, subject := subject,
          updatedTime := m } := by
        rw [← other.id_eq]
        exact wrote.accounts.find?_new
      exact ⟨⟨_, ⟨other.valid, stored, other.live, other.gateway⟩, Or.inr (Or.inl rfl)⟩,
        (wrote.frame.gatewayLive gatewayID).mpr live⟩
  cases concluded with
  | committed ended =>
    exact ⟨fun _ => ⟨kept ended, written ended⟩, fun fails => absurd fails ended.reread⟩
  | replyLost ended =>
    exact ⟨fun _ => ⟨kept ended, written ended⟩, fun fails => absurd fails ended.reread⟩
  | rolledBack ended =>
    exact ⟨fun _ => ⟨kept ended, rolledBack ended.provisioning.base⟩,
      fun fails => absurd fails ended.reread⟩
  | failed ended =>
    exact ⟨fun reads => ⟨ended.kept reads ⟨row, owns⟩, rolledBack ended.base⟩,
      fun fails => ⟨ended.lost fails live, ended.base.account? id⟩⟩

/-- A committed reservation. -/
theorem reserve_leaves {vars : Creation} {l : List Event}
    (concluded : Concluded ω.commit Err.storage (Reserving u gatewayID svc)
      (fun _ => FailedSilently u) (vars, none) l t) :
    svc.provider = true ∧ t.GatewayLive gatewayID ∧
      ∃ row, t.Owns gatewayID vars.row.id row ∧ row.status = .provisioning := by
  obtain ⟨c, ended, rfl, -, rfl⟩ := concluded.committed_of_ok
  obtain ⟨row, same, gateway, checked, inserted⟩ := ended.stored
  have stored : c.store.account? c.locals.row.id = some row := by
    rw [Store.account?, Table.find?_insert? inserted, key_serviceAccount, if_pos same.symm]
  refine ⟨ended.provider, (ended.frame.gatewayLive gatewayID).mpr ended.live,
    row, ⟨?_, stored, ?_, gateway⟩, checked.status⟩
  · rw [← same]
    exact checked.valid
  · rw [Meta.live, checked.live]
    rfl

omit [Platform] in
theorem Withdrawn.mono {l l' : List Event} (withdrawn : Withdrawn l t gatewayID id)
    (more : l ⊆ l') : Withdrawn l' t gatewayID id := by
  obtain ⟨row, uuid, time, called⟩ := withdrawn
  exact ⟨row, uuid, time, more called⟩

/-- An account that is still live was not withdrawn. -/
theorem Store.Owns.not_withdrawn {row : ServiceAccount} {l : List Event}
    (owns : t.Owns gatewayID id row) : ¬ Withdrawn l t gatewayID id := by
  rintro ⟨⟨row', stored, -, dead, -⟩, -⟩
  have is : row' = row := Option.some.inj (stored.symm.trans owns.stored)
  rw [is, owns.live] at dead
  cases dead

theorem SameAccount.owns {row : ServiceAccount} (same : SameAccount id s t)
    (owns : s.Owns gatewayID id row) : t.Owns gatewayID id row :=
  ⟨owns.valid, same.trans owns.stored, owns.live, owns.gateway⟩

/-- **After a committed reservation**, a failure withdraws the account unless it is the
read of the second transaction that failed, which leaves the account live. -/
theorem provisionReserved_fails {p : Principal} {role : AccountRole} {vars : Creation}
    {fuel : Nat} {later : List (Env × Store)} {e : Err} {l : List Event} {row : ServiceAccount}
    (exec : (provisionReserved svc fuel p gatewayID role vars).Exec
      (Spared gatewayID vars.row.id) s ((ω, u) :: later) (.error e) l t)
    (enough : 0 < fuel) (provider : svc.provider = true)
    (valid : Platform.validID gatewayID = true) (live : s.GatewayLive gatewayID)
    (owns : s.Owns gatewayID vars.row.id row)
    (reserved : row.status = .provisioning) (succeeds : ∀ x ∈ later, Succeeds x.1 x.2) :
    (¬ RereadFails ω → Withdrawn l t gatewayID vars.row.id) ∧
    (RereadFails ω → ∃ row', t.Owns gatewayID vars.row.id row') := by
  obtain ⟨steps₁, steps₂, r, l₁, l₂, s₁, steps, rfl, first, rest⟩ := Proc.exec_bind exec
  have failed : joinErrors r.2 r.1.resultErr ≠ none := by
    intro none
    dsimp only at rest
    rw [none] at rest
    obtain ⟨never, -⟩ := Proc.exec_ret rest
    cases never
  obtain ⟨e', is⟩ := Option.ne_none_iff_exists'.mp failed
  dsimp only at rest
  rw [is] at rest
  rcases exec_locked first (fun ω s' _ _ => wp_provision rfl) with
    ⟨-, ω', u', rfl, moved, -, concluded⟩ | ⟨invalid, -⟩
  swap
  · rw [valid] at invalid
    cases invalid
  cases steps
  obtain ⟨keeps, loses⟩ :=
    provision_leaves (moved.owns owns) reserved (moved.live live) failed concluded
  refine ⟨fun reads => ?_, fun fails => ?_⟩
  · obtain ⟨same, unfinished, live'⟩ := keeps reads
    rw [same] at rest
    refine (abandon_withdraws rest enough provider valid live' unfinished succeeds).mono ?_
    exact List.subset_append_right _ _
  · obtain ⟨lost, same⟩ := loses fails
    rw [lost] at rest
    exact ⟨row, (abandon_still rest).owns (same.owns (moved.owns owns))⟩

/-- **A failed creation is compensated exactly when its second transaction could read
the account**, or failed before it tried.  The reservation had committed, the Gateway
stays live, and everything after the failure succeeds. -/
theorem withdrawn_iff {p : Principal} {request : CreateRequest} {fuel : Nat}
    {clock reservation : Env × Store} {later : List (Env × Store)} {e : Err} {l : List Event}
    (enough : 0 < fuel)
    (exec : (create svc fuel p gatewayID request).Exec (Spared gatewayID id) s
      (clock :: reservation :: (ω, u) :: later) (.error e) l t)
    (reserved : ReservedBy svc p gatewayID request clock reservation id)
    (succeeds : ∀ x ∈ later, Succeeds x.1 x.2) :
    Withdrawn l t gatewayID id ↔ ¬ RereadFails ω := by
  obtain ⟨name, role, expires, vars, named, dated, committed, rfl⟩ := reserved
  unfold create at exec
  rw [named] at exec
  -- The clock, then the reservation.
  obtain ⟨ω₀, u₀, steps₀, l₀, same, -, rfl, exec⟩ := Proc.exec_act exec
  cases same
  simp only [Proc.bind, dated] at exec
  unfold createReserved at exec
  obtain ⟨steps₁, steps₂, ⟨vars', err⟩, l₁, l₂, s₁, steps, rfl, first, rest⟩ :=
    Proc.exec_bind exec
  dsimp only at rest
  rcases exec_locked first (fun ω s' _ _ => wp_reserve) with
    ⟨valid, ω₁, u₁, rfl, -, result, concluded⟩ | ⟨invalid, rfl, same, rfl, rfl⟩
  swap
  · cases same
    obtain ⟨-, none, -⟩ := Proc.exec_ret rest
    cases steps.trans none
  cases steps
  cases result.symm.trans committed
  obtain ⟨provider, live, row, owns, status⟩ := reserve_leaves concluded
  obtain ⟨withdraws, stays⟩ :=
    provisionReserved_fails rest enough provider valid live owns status succeeds
  constructor
  · intro withdrawn fails
    obtain ⟨row', owns'⟩ := stays fails
    exact owns'.not_withdrawn withdrawn
  · intro reads
    refine (withdraws reads).mono ?_
    exact List.subset_append_right _ _

end Compensation

/-! ### The sample -/

namespace Sample

/-- An environment whose drawn ID no earlier audit entry has. -/
def fresh : Env := env drawnID

/-- A creation by the sample's owner, whose second transaction meets `ω`. -/
def creation (ω : Env) : Option (List (Env × Store) × Except Err Created × List Event × Store) :=
  (create service 1 principal gatewayID ⟨"Robot", none, "", "", none⟩).run
    [env ⟨accountID, by decide⟩, env ⟨accountID, by decide⟩, ω, fresh, fresh, fresh]
    (store none none)

/-- It reserved the account, failed, and drew new IDs afterwards. -/
def failed (steps : List (Env × Store)) (result : Except Err Created) : Bool :=
  match steps, result with
  | clock :: reservation :: _ :: later, .error _ =>
    let input : Reservation := ⟨⟨"Robot", by decide⟩, none, .user, defaultExpiration⟩
    let (vars, err) := (outcome Env.commit .storage Creation.zero
      (underGateway gatewayID (reserveBody service principal gatewayID input))
      reservation.1 reservation.2).result
    decide (clock.2.time + clock.1.elapsed 0 = 0) && decide (err = none) &&
      decide (vars.row.id = accountID) && later.all fun x => (x.2.audits.find? auditID).isNone
  | _, _ => false

theorem creation_fails (ω : Env) (final : List Event → Store → Bool)
    (ends : (creation ω).any (fun r => failed r.1 r.2.1 && final r.2.2.1 r.2.2.2) = true) :
    ∃ clock reservation u later e l t,
      (create service 1 principal gatewayID ⟨"Robot", none, "", "", none⟩).Exec
        (Spared gatewayID accountID) (store none none)
        (clock :: reservation :: (ω, u) :: later) (.error e) l t ∧
      ReservedBy service principal gatewayID ⟨"Robot", none, "", "", none⟩ clock reservation
        accountID ∧
      (∀ x ∈ later, Succeeds x.1 x.2) ∧ final l t = true := by
  obtain ⟨⟨steps, result, l, t⟩, run, checked⟩ := (Option.any_eq_true _ _).mp ends
  rw [Bool.and_eq_true] at checked
  obtain ⟨checked, last⟩ := checked
  dsimp only at checked last
  have oracles := Proc.oracles_of_run run
  have exec := Proc.exec_of_run (fun _ => ⟨rfl, id⟩ : ∀ s, Spared gatewayID accountID s s) run
  unfold failed at checked
  split at checked
  swap
  · cases checked
  rename_i clock reservation second later e
  simp only [Bool.and_eq_true, decide_eq_true_eq, List.all_eq_true] at checked
  obtain ⟨⟨⟨time, committed⟩, named⟩, drawn⟩ := checked
  simp only [List.map_cons, List.cons_prefix_cons] at oracles
  obtain ⟨-, -, same, rest⟩ := oracles
  obtain ⟨ω', u⟩ := second
  cases same
  refine ⟨clock, reservation, u, later, e, l, t, exec, ?_, ?_, last⟩
  · refine ⟨⟨"Robot", by decide⟩, .user, defaultExpiration, _, rfl, ?_, Prod.ext rfl committed,
      named⟩
    rw [time]
    rfl
  · intro x member
    have same : x.1 = fresh := by
      have drawn : x.1 ∈ [fresh, fresh, fresh] := rest.subset (List.mem_map_of_mem member)
      simpa using drawn
    rw [same]
    exact ⟨⟨fun _ => rfl, fun _ => ⟨_, rfl, by simpa [drawnID] using drawn x member⟩⟩, fun _ => rfl, rfl⟩

end Sample

open Sample in
/-- **A failed read strands the account.**  The second transaction of the sample's
creation fails to read the account; everything later succeeds, and the account still
holds its slot when the creation has returned its error. -/
theorem stranded_sample :
    let request : CreateRequest := ⟨"Robot", none, "", "", none⟩
    let ω : Env := { Sample.fresh with fault := fun n => decide (n = 2) }
    ∃ clock reservation u later e l t,
      (create Sample.service 1 Sample.principal Sample.gatewayID request).Exec
        (Spared Sample.gatewayID Sample.accountID) (Sample.store none none)
        (clock :: reservation :: (ω, u) :: later) (.error e) l t ∧
      ReservedBy Sample.service Sample.principal Sample.gatewayID request clock reservation
        Sample.accountID ∧
      (∀ x ∈ later, Succeeds x.1 x.2) ∧
      ¬ Withdrawn l t Sample.gatewayID Sample.accountID ∧
      t.countActive Sample.gatewayID "" = 1 := by
  intro request ω
  obtain ⟨clock, reservation, u, later, e, l, t, exec, reserved, succeeds, final⟩ :=
    Sample.creation_fails ω (fun _ t =>
      (t.account? Sample.accountID).all (fun row => row.live) &&
        decide (t.countActive Sample.gatewayID "" = 1)) (by decide +kernel)
  rw [Bool.and_eq_true, decide_eq_true_eq, Option.all_eq_true] at final
  obtain ⟨live, held⟩ := final
  refine ⟨clock, reservation, u, later, e, l, t, exec, reserved, succeeds, ?_, held⟩
  rintro ⟨⟨row, stored, -, dead, -⟩, -⟩
  rw [live row stored] at dead
  cases dead

open Sample in
/-- The sample's creation is compensated when the provider fails instead. -/
theorem withdrawn_sample :
    ∃ steps e l t, (create Sample.service 1 Sample.principal Sample.gatewayID
        ⟨"Robot", none, "", "", none⟩).Exec (Spared Sample.gatewayID Sample.accountID)
        (Sample.store none none) steps (.error e) l t ∧
      Withdrawn l t Sample.gatewayID Sample.accountID := by
  let ω : Env := { Sample.env ⟨Sample.ownerID, by decide⟩ with
    credential := fun _ => .error .storage }
  obtain ⟨clock, reservation, u, later, e, l, t, exec, reserved, succeeds, -⟩ :=
    Sample.creation_fails ω (fun _ _ => true) (by decide +kernel)
  refine ⟨_, e, l, t, exec, (withdrawn_iff (by decide) exec reserved succeeds).mpr ?_⟩
  rintro ⟨-, -, never⟩
  cases never

end Hypershell
