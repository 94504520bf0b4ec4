import Hypershell.ServiceAccounts.Service

/-!
# The lifecycle of an account

What may become of one account row, as a transition system of its own: the named
moves, the order of rows they generate and the facts about a row that they keep.
It does not mention transactions; that every committed transaction makes one of
these moves, or none, is proved with the transactions.

## Main definitions

* `Move` — one lifecycle move, with the provider's confirmation where it needs one
* `Follows` — what holds between a row and any later version of it
* `RowInv` — what holds of every stored row
-/

namespace Hypershell

/-- A status that only ends in removal or revocation. -/
def Status.terminal : Status → Bool
  | .error | .revoking | .deleting | .revoked | .expired => true
  | .provisioning | .ready | .degraded | .other _ => false

/-- A status that the code writes. -/
def Status.known : Status → Bool
  | .other _ => false
  | _ => true

/-- Among the events, the provider confirmed that it deleted or revoked the
account's client. -/
def Released (h : List Event) (a : ServiceAccount) : Prop :=
  ∃ t uuid, ⟨.delete a.gatewayID a.id uuid, t, true⟩ ∈ h ∨
    ⟨.revoke a.gatewayID a.id uuid, t, true⟩ ∈ h

theorem Released.of_delete {h : List Event} {a : ServiceAccount} {t : Int} {uuid : String}
    (deleted : ⟨.delete a.gatewayID a.id uuid, t, true⟩ ∈ h) : Released h a :=
  ⟨t, uuid, Or.inl deleted⟩

theorem Released.of_revoke {h : List Event} {a : ServiceAccount} {t : Int} {uuid : String}
    (stopped : ⟨.revoke a.gatewayID a.id uuid, t, true⟩ ∈ h) : Released h a :=
  ⟨t, uuid, Or.inr stopped⟩

/-- One move of an account row, at a time up to `now`, by a process with the events
`h`. -/
inductive Move (h : List Event) (now : Int) (a : ServiceAccount) : ServiceAccount → Prop
  /-- A creation failed or nobody received its credential. -/
  | fail {u : Int} {uuid subject reason : String}
      (unfinished : a.status = .provisioning ∨ a.status = .ready) :
      Move h now a { a with
        status := .error, lastError := some reason, clientUuid := uuid, subject := subject,
        updatedTime := u }
  /-- The provider created the client. -/
  | deliver {u : Int} {uuid subject : String} (reserved : a.status = .provisioning) :
      Move h now a { a with
        status := .ready, lastError := none, clientUuid := uuid, subject := subject,
        updatedTime := u }
  /-- A user requested deletion or revocation. -/
  | request {u : Int} (remove : Bool)
      (old : a.status = .provisioning → a.createdTime + reclaimAfter ≤ now)
      (kept : a.status = .deleting → remove = true)
      (open' : remove = false → a.status ≠ .revoked ∧ a.status ≠ .expired) :
      Move h now a { a with
        status := if remove then .deleting else .revoking, lastError := none, updatedTime := u }
  /-- An earlier version left a pending reduction with the higher role. -/
  | lower {u : Int} (degraded : a.status = .degraded) :
      Move h now a { a with role := .user, updatedTime := u }
  /-- The account must lose its credential. -/
  | queue {u : Int} (held : a.status = .ready ∨ a.status = .degraded) :
      Move h now a { a with status := .revoking, updatedTime := u }
  /-- The creator no longer permits the role. -/
  | demote {u : Int} (ready : a.status = .ready) :
      Move h now a { a with status := .degraded, role := .user, updatedTime := u }
  /-- The provider holds the account at a permitted role. -/
  | restore {u : Int} {role : AccountRole} (degraded : a.status = .degraded)
      (ceiling : a.role = .user → role = .user) :
      Move h now a { a with
        role := role, status := .ready, lastError := none, updatedTime := u }
  /-- The provider stopped issuing credentials for the account. -/
  | revoke {u : Int} {t : Option Int} {status : Status}
      (held : a.status = .revoking ∨ a.status = .revoked ∨ a.status = .expired ∨
        a.status = .degraded)
      (released : Released h a) (ended : status = .revoked ∨ status = .expired) :
      Move h now a { a with
        active := false, activeName := none, lastError := none, revokedAt := t,
        status := status, updatedTime := u }
  /-- The provider removed the client, and the row is deleted. -/
  | remove {u d : Int}
      (doomed : a.status = .error ∨ a.status = .deleting ∨
        a.status = .provisioning ∧ a.createdTime + reclaimAfter ≤ d)
      (released : Released h a) (past : d ≤ now) :
      Move h now a { a with
        active := false, activeName := none, lastError := none, deletedAt := some d,
        updatedTime := u }
  /-- The Gateway's cleanup removed the account. -/
  | clean {u d : Int} {t : Option Int} (released : Released h a) (past : d ≤ now) :
      Move h now a { a with
        status := .deleting, active := false, activeName := none, lastError := none,
        revokedAt := t, deletedAt := some d, updatedTime := u }

/-- What holds between a row and a later version of it. -/
structure Follows (a b : ServiceAccount) : Prop where
  id : b.id = a.id
  gatewayID : b.gatewayID = a.gatewayID
  name : b.name = a.name
  creator : b.createdByUserID = a.createdByUserID
  clientID : b.clientID = a.clientID
  createdTime : b.createdTime = a.createdTime
  expiresAt : b.expiresAt = a.expiresAt
  /-- A terminal status is never left for a live one. -/
  terminal : a.status.terminal = true → b.status.terminal = true
  /-- A deletion request is never withdrawn or weakened. -/
  deleting : a.status = .deleting → b.status = .deleting
  /-- A role is never raised. -/
  role : a.role = .user → b.role = .user
  /-- A released slot is never taken again. -/
  active : a.active = false → b.active = false
  /-- A deleted row does not change. -/
  frozen : a.live = false → b = a

theorem Follows.refl (a : ServiceAccount) : Follows a a :=
  ⟨rfl, rfl, rfl, rfl, rfl, rfl, rfl, fun same => same, fun same => same, fun same => same,
    fun same => same, fun _ => rfl⟩

theorem Follows.trans {a b c : ServiceAccount} (first : Follows a b) (second : Follows b c) :
    Follows a c where
  id := second.id.trans first.id
  gatewayID := second.gatewayID.trans first.gatewayID
  name := second.name.trans first.name
  creator := second.creator.trans first.creator
  clientID := second.clientID.trans first.clientID
  createdTime := second.createdTime.trans first.createdTime
  expiresAt := second.expiresAt.trans first.expiresAt
  terminal h := second.terminal (first.terminal h)
  deleting h := second.deleting (first.deleting h)
  role h := second.role (first.role h)
  active h := second.active (first.active h)
  frozen h := by
    have same := first.frozen h
    subst same
    exact second.frozen h

section Moves

variable {h : List Event} {now : Int} {a b : ServiceAccount}

/-- A move keeps what identifies the account. -/
theorem Move.keeps (move : Move h now a b) :
    b.id = a.id ∧ b.gatewayID = a.gatewayID ∧ b.name = a.name ∧
      b.createdByUserID = a.createdByUserID ∧ b.clientID = a.clientID ∧
      b.createdTime = a.createdTime ∧ b.expiresAt = a.expiresAt := by
  cases move <;> exact ⟨rfl, rfl, rfl, rfl, rfl, rfl, rfl⟩

theorem Move.terminal (move : Move h now a b) (settled : a.status.terminal = true) :
    b.status.terminal = true := by
  cases move with
  | fail => rfl
  | deliver reserved => rw [reserved] at settled; cases settled
  | request remove => cases remove <;> rfl
  | lower => exact settled
  | queue => rfl
  | demote ready => rw [ready] at settled; cases settled
  | restore degraded => rw [degraded] at settled; cases settled
  | revoke held released ended => rcases ended with rfl | rfl <;> rfl
  | remove => exact settled
  | clean => rfl

theorem Move.deleting (move : Move h now a b) (requested : a.status = .deleting) :
    b.status = .deleting := by
  cases move with
  | fail unfinished => rcases unfinished with is | is <;> rw [is] at requested <;> cases requested
  | deliver reserved => rw [reserved] at requested; cases requested
  | request remove old kept => rw [kept requested]; rfl
  | lower => exact requested
  | queue held => rcases held with is | is <;> rw [is] at requested <;> cases requested
  | demote ready => rw [ready] at requested; cases requested
  | restore degraded => rw [degraded] at requested; cases requested
  | revoke held =>
    rcases held with is | is | is | is <;> rw [is] at requested <;> cases requested
  | remove => exact requested
  | clean => rfl

theorem Move.role (move : Move h now a b) (low : a.role = .user) : b.role = .user := by
  cases move with
  | lower => rfl
  | demote => rfl
  | restore _ ceiling => exact ceiling low
  | _ => exact low

theorem Move.active (move : Move h now a b) (free : a.active = false) : b.active = false := by
  cases move with
  | revoke => rfl
  | remove => rfl
  | clean => rfl
  | _ => exact free

/-- **A slot is released only after the provider confirmed it.** -/
theorem Move.released (move : Move h now a b) (held : a.active = true)
    (free : b.active = false) : Released h a := by
  cases move with
  | revoke _ released => exact released
  | remove _ released => exact released
  | clean released => exact released
  | _ => rw [show a.active = false from free] at held; cases held

/-- Every move leads to a row that follows the moved one. -/
theorem Move.follows (move : Move h now a b) (live : a.live = true) : Follows a b := by
  obtain ⟨id, gatewayID, name, creator, clientID, createdTime, expiresAt⟩ := move.keeps
  exact ⟨id, gatewayID, name, creator, clientID, createdTime, expiresAt, move.terminal,
    move.deleting, move.role, move.active, fun dead => by rw [live] at dead; cases dead⟩

end Moves

/-! ### The invariant of a row -/

variable [Platform]

/-- What holds of every stored row, at the time `now`. -/
structure RowInv (now : Int) (a : ServiceAccount) : Prop where
  valid : Platform.validID a.id = true
  /-- An active account, and no other, reserves its name. -/
  slot : a.active = a.activeName.isSome
  /-- The reserved name is the trimmed name in lower case. -/
  name : ∀ n, a.activeName = some n → n = Platform.toLower a.name ∧ trimSpace a.name = a.name
  known : a.status.known = true
  creator : a.createdByUserID ≠ ""
  /-- A revoked account holds no slot. -/
  settled : a.status = .revoked ∨ a.status = .expired → a.active = false
  /-- A deleted row holds no slot and was doomed when it was deleted. -/
  gone : ∀ d, a.deletedAt = some d → d ≤ now ∧ a.active = false ∧
    (a.status = .error ∨ a.status = .deleting ∨
      a.status = .provisioning ∧ a.createdTime + reclaimAfter ≤ d)

theorem RowInv.later {s t : Int} {a : ServiceAccount} (inv : RowInv s a) (later : s ≤ t) :
    RowInv t a :=
  { inv with gone := fun d deleted =>
      have gone := inv.gone d deleted
      ⟨gone.1.trans later, gone.2⟩ }

/-- **A move keeps the invariant.** -/
theorem Move.rowInv {h : List Event} {now s : Int} {a b : ServiceAccount}
    (move : Move h now a b) (live : a.live = true) (inv : RowInv s a) : RowInv now b := by
  have alive : ∀ {P : Int → Prop} (d : Int), a.deletedAt = some d → P d := by
    intro P d deleted
    simp [Meta.live, deleted] at live
  have valid := inv.valid
  have creator := inv.creator
  cases move with
  | fail =>
    exact ⟨valid, inv.slot, inv.name, rfl, creator, (by rintro (is | is) <;> cases is), alive⟩
  | deliver =>
    exact ⟨valid, inv.slot, inv.name, rfl, creator, (by rintro (is | is) <;> cases is), alive⟩
  | request remove =>
    refine ⟨valid, inv.slot, inv.name, ?_, creator, ?_, alive⟩
    · cases remove <;> rfl
    · cases remove <;> rintro (is | is) <;> cases is
  | lower degraded => exact ⟨valid, inv.slot, inv.name, inv.known, creator, inv.settled, alive⟩
  | queue =>
    exact ⟨valid, inv.slot, inv.name, rfl, creator, (by rintro (is | is) <;> cases is), alive⟩
  | demote =>
    exact ⟨valid, inv.slot, inv.name, rfl, creator, (by rintro (is | is) <;> cases is), alive⟩
  | restore =>
    exact ⟨valid, inv.slot, inv.name, rfl, creator, (by rintro (is | is) <;> cases is), alive⟩
  | revoke held released ended =>
    refine ⟨valid, rfl, ?_, ?_, creator, fun _ => rfl, alive⟩
    · rintro n ⟨⟩
    · rcases ended with rfl | rfl <;> rfl
  | remove doomed released past =>
    refine ⟨valid, rfl, ?_, inv.known, creator, fun _ => rfl, ?_⟩
    · rintro n ⟨⟩
    · rintro d ⟨⟩
      exact ⟨past, rfl, doomed⟩
  | clean released past =>
    refine ⟨valid, rfl, ?_, rfl, creator, fun _ => rfl, ?_⟩
    · rintro n ⟨⟩
    · rintro d ⟨⟩
      exact ⟨past, rfl, Or.inr (Or.inl rfl)⟩

end Hypershell
