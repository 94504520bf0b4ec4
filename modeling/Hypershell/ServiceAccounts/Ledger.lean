import Hypershell.ServiceAccounts.Lifecycle

/-!
# The account table as a ledger of moves

The lifecycle lifted to the store: one committed step reserves one account, moves
one account, or leaves every account alone.  The invariant of the account table
and the order of its versions follow from that, and together they are the contract
that the account processes are checked against.

## Main definitions

* `AccountChange`, `Change` — what one step may do to the store
* `AccountsInv` — the rows' invariant and both quotas
* `Later` — what holds between a store and a later one
* `Justified` — the committed status that a provider call needs
* `accountContract` — all of them as a contract
-/

namespace Hypershell

open Foundation

namespace Store

/-- The account is the live row `row` of the Gateway.  Only a canonical ID is ever
stored or looked up. -/
structure Owns [Platform] (s : Store) (gatewayID id : String) (row : ServiceAccount) : Prop where
  valid : Platform.validID id = true
  stored : s.account? id = some row
  live : row.live = true
  gateway : row.gatewayID = gatewayID

theorem Owns.id_eq [Platform] {s : Store} {gatewayID id : String} {row : ServiceAccount}
    (owns : s.Owns gatewayID id row) : row.id = id :=
  id_of_account? owns.stored

/-- One live row at most. -/
theorem Owns.unique [Platform] {s : Store} {gatewayID id : String} {a b : ServiceAccount}
    (first : s.Owns gatewayID id a) (second : s.Owns gatewayID id b) : a = b :=
  Option.some.inj (first.stored.symm.trans second.stored)

/-- Everything but the accounts, their audit trail and the directory is as before,
the clock has not gone back and no provider call is forgotten. -/
structure Frame (s t : Store) : Prop where
  time : s.time ≤ t.time
  gateways : t.gateways = s.gateways
  outbox : t.outbox = s.outbox
  effects : t.effects = s.effects
  checkpoints : t.checkpoints = s.checkpoints
  states : t.states = s.states
  scopes : t.scopes = s.scopes
  history : s.history <+: t.history

theorem Frame.refl (s : Store) : Frame s s :=
  ⟨le_refl _, rfl, rfl, rfl, rfl, rfl, rfl, List.prefix_rfl⟩

theorem Frame.trans {s t u : Store} (first : Frame s t) (second : Frame t u) : Frame s u where
  time := first.time.trans second.time
  gateways := second.gateways.trans first.gateways
  outbox := second.outbox.trans first.outbox
  effects := second.effects.trans first.effects
  checkpoints := second.checkpoints.trans first.checkpoints
  states := second.states.trans first.states
  scopes := second.scopes.trans first.scopes
  history := first.history.trans second.history

/-- The clock and the directory moved, the provider was called, and nothing else
happened. -/
structure Idle (s t : Store) : Prop extends Frame s t where
  accounts : t.accounts = s.accounts
  audits : t.audits = s.audits

theorem Idle.refl (s : Store) : Idle s s := ⟨Frame.refl s, rfl, rfl⟩

theorem Idle.trans {s t u : Store} (first : Idle s t) (second : Idle t u) : Idle s u :=
  ⟨first.toFrame.trans second.toFrame, second.accounts.trans first.accounts,
    second.audits.trans first.audits⟩

theorem Idle.account? {s t : Store} (idle : Idle s t) (id : String) :
    t.account? id = s.account? id := by
  rw [Store.account?, Store.account?, idle.accounts]

theorem Frame.gatewayLive {s t : Store} (frame : Frame s t) (gatewayID : String) :
    t.GatewayLive gatewayID ↔ s.GatewayLive gatewayID := by
  rw [GatewayLive, GatewayLive, gateway?, gateway?, frame.gateways]

theorem Idle.owns [Platform] {s t : Store} (idle : Idle s t) {gatewayID id : String}
    {row : ServiceAccount} : t.Owns gatewayID id row ↔ s.Owns gatewayID id row :=
  ⟨fun owns => ⟨owns.valid, (idle.account? id).symm.trans owns.stored, owns.live, owns.gateway⟩,
    fun owns => ⟨owns.valid, (idle.account? id).trans owns.stored, owns.live, owns.gateway⟩⟩

end Store

variable [Platform]

/-! ### Changes -/

/-- A row that a reservation may store: quotas and name were checked. -/
structure Reserved (limits : Limits) (s : Store) (row : ServiceAccount) : Prop where
  valid : Platform.validID row.id = true
  status : row.status = .provisioning
  live : row.deletedAt = none
  active : row.active = true
  activeName : row.activeName = some (Platform.toLower row.name)
  trimmed : trimSpace row.name = row.name
  creator : row.createdByUserID ≠ ""
  gatewayQuota : (s.countActive row.gatewayID "" : Int) < limits.perGateway
  creatorQuota : (s.countActive row.gatewayID row.createdByUserID : Int) < limits.perCreator

/-- What one step of a process with the events `h` may do to the accounts. -/
inductive AccountChange (limits : Limits) (h : List Event) (s t : Store) : Prop
  | still (accounts : t.accounts = s.accounts)
  | reserved {row : ServiceAccount} (checked : Reserved limits s row)
      (inserted : s.accounts.insert? row = some t.accounts)
  | moved {a b : ServiceAccount} (live : a.live = true)
      (becomes : s.accounts.Becomes t.accounts a b) (move : Move h t.time a b)

/-- What one step of a process may do to the store. -/
structure Change (limits : Limits) (h : List Event) (s t : Store) : Prop where
  frame : s.Frame t
  accounts : AccountChange limits h s t

theorem Change.of_idle {limits : Limits} {h : List Event} {s t : Store} (idle : s.Idle t) :
    Change limits h s t :=
  ⟨idle.toFrame, .still idle.accounts⟩

/-! ### The invariant -/

/-- Every row meets its invariant. -/
def RowsInv (s : Store) : Prop := ∀ id a, s.account? id = some a → RowInv s.time a

/-- Every row meets its invariant and the active rows fit both quotas. -/
structure AccountsInv (limits : Limits) (s : Store) : Prop where
  rows : RowsInv s
  gatewayQuota : ∀ gatewayID, (s.countActive gatewayID "" : Int) ≤ limits.perGateway
  creatorQuota : ∀ gatewayID creator, creator ≠ "" →
    (s.countActive gatewayID creator : Int) ≤ limits.perCreator

section Quota

variable {limits : Limits} {s t : Store} {row : ServiceAccount}

omit [Platform] in
/-- A move puts no row into a quota that did not count it. -/
theorem Move.holdsSlot {h : List Event} {now : Int} {a b : ServiceAccount}
    (move : Move h now a b) (live : a.live = true) (gatewayID creator : String)
    (held : Store.holdsSlot gatewayID creator b = true) :
    Store.holdsSlot gatewayID creator a = true := by
  obtain ⟨-, gateway, -, owner, -, -, -⟩ := move.keeps
  have active : a.active = true := by
    by_contra free
    have freed := move.active (by simpa using free)
    simp [Store.holdsSlot, freed] at held
  simp only [Store.holdsSlot, gateway, owner] at held
  simp only [Store.holdsSlot, live, active, Bool.true_and, Bool.and_true]
  simp only [Bool.and_eq_true] at held
  rw [Bool.and_eq_true]
  exact ⟨held.1.1.2, held.2⟩

omit [Platform] in
theorem countActive_moved {h : List Event} {now : Int} {a b : ServiceAccount}
    (live : a.live = true) (becomes : s.accounts.Becomes t.accounts a b)
    (move : Move h now a b) (gatewayID creator : String) :
    t.countActive gatewayID creator ≤ s.countActive gatewayID creator :=
  becomes.countP_le _ (move.holdsSlot live gatewayID creator)

omit [Platform] in
theorem countActive_reserved (inserted : s.accounts.insert? row = some t.accounts)
    (gatewayID creator : String) :
    t.countActive gatewayID creator = s.countActive gatewayID creator +
      if Store.holdsSlot gatewayID creator row = true then 1 else 0 := by
  rw [Store.countActive, Table.rows_of_insert? inserted, List.countP_append,
    List.countP_singleton]
  rfl

omit [Platform] in
/-- A row counted for a Gateway, or for a creator there, is its own. -/
theorem holdsSlot_self {gatewayID creator : String}
    (held : Store.holdsSlot gatewayID creator row = true) :
    row.gatewayID = gatewayID ∧ (creator = "" ∨ row.createdByUserID = creator) := by
  simp only [Store.holdsSlot, Bool.and_eq_true, Bool.or_eq_true, decide_eq_true_eq] at held
  exact ⟨held.1.1.2, held.2⟩

theorem quota_reserved (checked : Reserved limits s row)
    (inserted : s.accounts.insert? row = some t.accounts) (inv : AccountsInv limits s) :
    (∀ gatewayID, (t.countActive gatewayID "" : Int) ≤ limits.perGateway) ∧
      ∀ gatewayID creator, creator ≠ "" →
        (t.countActive gatewayID creator : Int) ≤ limits.perCreator := by
  constructor
  · intro gatewayID
    rw [countActive_reserved inserted]
    split
    · rename_i held
      obtain ⟨rfl, -⟩ := holdsSlot_self held
      have room := checked.gatewayQuota
      omega
    · exact inv.gatewayQuota gatewayID
  · intro gatewayID creator named
    rw [countActive_reserved inserted]
    split
    · rename_i held
      obtain ⟨rfl, owner⟩ := holdsSlot_self held
      obtain rfl := owner.resolve_left named
      have room := checked.creatorQuota
      omega
    · exact inv.creatorQuota gatewayID creator named

end Quota

theorem Reserved.rowInv {limits : Limits} {s : Store} {row : ServiceAccount} {now : Int}
    (checked : Reserved limits s row) : RowInv now row where
  valid := checked.valid
  slot := by rw [checked.active, checked.activeName]; rfl
  name := by
    intro n named
    rw [checked.activeName] at named
    cases named
    exact ⟨rfl, checked.trimmed⟩
  known := by rw [checked.status]; rfl
  creator := checked.creator
  settled := by rintro (is | is) <;> rw [checked.status] at is <;> cases is
  gone := by
    intro d deleted
    rw [checked.live] at deleted
    cases deleted

/-- **One step keeps the rows' invariant.** -/
theorem Change.rowsInv {limits : Limits} {h : List Event} {s t : Store}
    (change : Change limits h s t) (inv : RowsInv s) : RowsInv t := by
  have older : ∀ id a, s.account? id = some a → RowInv t.time a :=
    fun id a stored => (inv id a stored).later change.frame.time
  intro id a stored
  cases change.accounts with
  | still accounts =>
    rw [Store.account?, accounts] at stored
    exact older id a stored
  | reserved checked inserted =>
    rw [Store.account?, Table.find?_insert? inserted] at stored
    split at stored
    · cases stored
      exact checked.rowInv
    · exact older id a stored
  | moved live becomes move =>
    rw [Store.account?, becomes.find?] at stored
    split at stored
    · cases stored
      exact move.rowInv live (inv _ _ becomes.stored)
    · exact older id a stored

/-- **One step keeps the invariant.** -/
theorem Change.inv {limits : Limits} {h : List Event} {s t : Store}
    (change : Change limits h s t) (inv : AccountsInv limits s) : AccountsInv limits t := by
  have rows := change.rowsInv inv.rows
  cases change.accounts with
  | still accounts =>
    refine ⟨rows, ?_, ?_⟩
    · intro gatewayID
      rw [Store.countActive, accounts]
      exact inv.gatewayQuota gatewayID
    · intro gatewayID creator named
      rw [Store.countActive, accounts]
      exact inv.creatorQuota gatewayID creator named
  | reserved checked inserted =>
    obtain ⟨gatewayQuota, creatorQuota⟩ := quota_reserved checked inserted inv
    exact ⟨rows, gatewayQuota, creatorQuota⟩
  | moved live becomes move =>
    refine ⟨rows, ?_, ?_⟩
    · intro gatewayID
      have fewer := countActive_moved live becomes move gatewayID ""
      have bound := inv.gatewayQuota gatewayID
      omega
    · intro gatewayID creator named
      have fewer := countActive_moved live becomes move gatewayID creator
      have bound := inv.creatorQuota gatewayID creator named
      omega

/-! ### Later stores -/

/-- What holds between a store and a later one, whoever moved it. -/
structure Later (s t : Store) : Prop where
  time : s.time ≤ t.time
  /-- A deleted Gateway stays deleted. -/
  gateways : ∀ id g, s.gateway? id = some g →
    ∃ g', t.gateway? id = some g' ∧ (g.live = false → g'.live = false)
  accounts : ∀ id a, s.account? id = some a → ∃ b, t.account? id = some b ∧ Follows a b
  history : s.history <+: t.history

omit [Platform] in
theorem Later.refl (s : Store) : Later s s :=
  ⟨le_refl _, fun _ g stored => ⟨g, stored, fun dead => dead⟩,
    fun _ a stored => ⟨a, stored, Follows.refl a⟩, List.prefix_rfl⟩

omit [Platform] in
theorem Later.trans {s t u : Store} (first : Later s t) (second : Later t u) : Later s u where
  time := first.time.trans second.time
  gateways id g stored := by
    obtain ⟨g', stored', dead'⟩ := first.gateways id g stored
    obtain ⟨g'', stored'', dead''⟩ := second.gateways id g' stored'
    exact ⟨g'', stored'', fun dead => dead'' (dead' dead)⟩
  accounts id a stored := by
    obtain ⟨b, stored', follows⟩ := first.accounts id a stored
    obtain ⟨c, stored'', follows'⟩ := second.accounts id b stored'
    exact ⟨c, stored'', follows.trans follows'⟩
  history := first.history.trans second.history

theorem AccountChange.follows {limits : Limits} {h : List Event} {s t : Store}
    (change : AccountChange limits h s t) (id : String) (a : ServiceAccount)
    (stored : s.account? id = some a) : ∃ b, t.account? id = some b ∧ Follows a b := by
  cases change with
  | still accounts =>
    refine ⟨a, ?_, Follows.refl a⟩
    rw [Store.account?, accounts]
    exact stored
  | @reserved row checked inserted =>
    refine ⟨a, ?_, Follows.refl a⟩
    have other : id ≠ Relation.key row := by
      rintro rfl
      rw [Store.account?, Table.absent_of_insert? inserted] at stored
      cases stored
    rw [Store.account?, Table.find?_insert? inserted, if_neg other]
    exact stored
  | @moved a' b live becomes move =>
    by_cases here : id = Relation.key b
    · subst here
      have same : a' = a := Option.some.inj (becomes.stored.symm.trans stored)
      subst same
      exact ⟨b, becomes.find?_new, move.follows live⟩
    · refine ⟨a, ?_, Follows.refl a⟩
      rw [Store.account?, becomes.find?, if_neg here]
      exact stored

/-- **One step leads to a later store.** -/
theorem Change.later {limits : Limits} {h : List Event} {s t : Store}
    (change : Change limits h s t) : Later s t where
  time := change.frame.time
  gateways id g stored := by
    refine ⟨g, ?_, fun dead => dead⟩
    rw [Store.gateway?, change.frame.gateways]
    exact stored
  accounts := change.accounts.follows
  history := change.frame.history

/-- What others than the account processes do to the store: any work on users,
grants and Gateways, none on accounts.  A deleted Gateway stays deleted. -/
structure Elsewhere (s t : Store) : Prop where
  time : s.time ≤ t.time
  gateways : ∀ id g, s.gateway? id = some g →
    ∃ g', t.gateway? id = some g' ∧ (g.live = false → g'.live = false)
  accounts : t.accounts = s.accounts
  history : s.history <+: t.history

omit [Platform] in
theorem Elsewhere.later {s t : Store} (elsewhere : Elsewhere s t) : Later s t where
  time := elsewhere.time
  gateways := elsewhere.gateways
  accounts id a stored := by
    refine ⟨a, ?_, Follows.refl a⟩
    rw [Store.account?, elsewhere.accounts]
    exact stored
  history := elsewhere.history

theorem Elsewhere.rowsInv {s t : Store} (elsewhere : Elsewhere s t) (inv : RowsInv s) :
    RowsInv t := by
  intro id a stored
  rw [Store.account?, elsewhere.accounts] at stored
  exact (inv id a stored).later elsewhere.time

theorem Elsewhere.inv {limits : Limits} {s t : Store} (elsewhere : Elsewhere s t)
    (inv : AccountsInv limits s) : AccountsInv limits t where
  rows := elsewhere.rowsInv inv.rows
  gatewayQuota gatewayID := by
    rw [Store.countActive, elsewhere.accounts]
    exact inv.gatewayQuota gatewayID
  creatorQuota gatewayID creator named := by
    rw [Store.countActive, elsewhere.accounts]
    exact inv.creatorQuota gatewayID creator named

/-- What others than the processes under consideration do: other work, and account
work that keeps to the lifecycle, such as the cleanup of a deleted Gateway. -/
def Alongside (limits : Limits) (s t : Store) : Prop :=
  Elsewhere s t ∨ ∃ h, Change limits h s t

theorem Alongside.later {limits : Limits} {s t : Store} (alongside : Alongside limits s t) :
    Later s t := by
  rcases alongside with elsewhere | ⟨h, change⟩
  · exact elsewhere.later
  · exact change.later

theorem Alongside.rowsInv {limits : Limits} {s t : Store} (alongside : Alongside limits s t)
    (inv : RowsInv s) : RowsInv t := by
  rcases alongside with elsewhere | ⟨h, change⟩
  · exact elsewhere.rowsInv inv
  · exact change.rowsInv inv

/-- A store before the first account. -/
def NoAccounts (s : Store) : Prop := s.accounts.rows = []

omit [Platform] in
theorem NoAccounts.account? {s : Store} (none : NoAccounts s) (id : String) :
    s.account? id = Option.none := by
  rw [Store.account?, Table.find?, none]
  rfl

theorem NoAccounts.rowsInv {s : Store} (none : NoAccounts s) : RowsInv s := by
  intro id a stored
  rw [none.account?] at stored
  cases stored

theorem NoAccounts.inv {limits : Limits} {s : Store} (none : NoAccounts s)
    (gatewayLimit : 0 < limits.perGateway) (creatorLimit : 0 < limits.perCreator) :
    AccountsInv limits s := by
  refine ⟨none.rowsInv, ?_, ?_⟩
  · intro gatewayID
    rw [Store.countActive, none, List.countP_nil]
    exact le_of_lt gatewayLimit
  · intro gatewayID creator _
    rw [Store.countActive, none, List.countP_nil]
    exact le_of_lt creatorLimit

/-! ### Provider calls -/

/-- The committed account that a call under the Gateway lock needs.  A deletion or
revocation must have been stored as an intent before. -/
def Justified (s : Store) (event : Event) : Prop :=
  s.time ≤ event.time ∧ ∃ row, s.Owns event.call.gateway event.call.account row ∧
    match event.call with
    | .provision _ => row.status = .provisioning
    | .reconcile spec _ _ => row.status = .degraded ∧ (row.role = .user → spec.role = .user) ∧
        ∃ access, s.directory.access row.gatewayID row.createdByUserID = .ok access ∧
          allowed access spec.role = true
    | .delete _ _ _ => row.status = .error ∨ row.status = .deleting ∨
        row.status = .provisioning ∧ row.createdTime + reclaimAfter ≤ event.time
    | .revoke _ _ _ => row.status = .revoking ∨ row.status = .revoked ∨
        row.status = .expired ∨ row.status = .degraded

/-- The contract of the account processes, for an invariant of the store and a
condition on provider calls. -/
def accountContract (limits : Limits) (inv : Store → Prop) (event : Store → Event → Prop) :
    Contract Env Store Event where
  oracle _ := True
  inv := inv
  rely := Later
  event := event
  change := Change limits

theorem accountContract_sound {limits : Limits} {inv : Store → Prop}
    {event : Store → Event → Prop}
    (keeps : ∀ h s t, Change limits h s t → inv s → inv t) :
    (accountContract limits inv event).Sound where
  refl := Later.refl
  trans := Later.trans
  keeps holds change := ⟨keeps _ _ _ change holds, change.later⟩

end Hypershell
