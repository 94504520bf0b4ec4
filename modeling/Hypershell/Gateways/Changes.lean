import Hypershell.Gateways.ClientCondition
import Hypershell.Gateways.Counts
import Hypershell.Gateways.DeletionRuns
import Hypershell.Gateways.Evidence
import Hypershell.Gateways.Owners

/-!
# What the Gateway operations commit

Every operation on Gateways commits one kind of change.  It moves rows of Gateways and of their
grants only forward, and what it does to a row it publishes in the same commit.

## Main definitions

* `RowMove` — what a commit does to one Gateway, with the messages that tell it
* `GrantsMove` — what it does to the grants of Gateways
* `GatewayCommit` — one commit of an operation
* `GatewayCall` — the operations, by any principals and with any arguments

## Main results

* `GatewayCall.safe` — each operation meets every contract that such commits keep
-/

namespace Hypershell

open Foundation

/-- The messages contain one of a kind about a Gateway. -/
def Announced (id kind : String) (news : List Notification) : Prop :=
  ∃ n ∈ news, n.sourceID = id ∧ n.kind = kind

/-- The messages that the deletion of a Gateway is complete. -/
def removals (id : String) (news : List Notification) : Nat :=
  news.countP fun n => decide (n.sourceID = id ∧ n.kind = "gateway.deleted")

variable [Platform]

/-- What a commit with some messages does to one Gateway. -/
inductive RowMove (id : String) (news : List Notification) (s t : Store) : Prop
  | kept (row : t.gateway? id = s.gateway? id) (quiet : removals id news = 0)
  | created {g : Gateway} (absent : s.gateway? id = none) (stored : t.gateway? id = some g)
      (live : g.live = true) (unfinalized : g.deletionFinalizedAt = none)
      (drawn : Platform.validID id = true) (told : Announced id "gateway.created" news) (quiet : removals id news = 0)
  | changed {g g' : Gateway} (before : s.gateway? id = some g) (after : t.gateway? id = some g')
      (newer : g.resourceVersion < g'.resourceVersion) (dead : g.live = false → g'.live = false)
      (same : g'.deletionFinalizedAt = g.deletionFinalizedAt)
      (told : Announced id "gateway.updated" news) (quiet : removals id news = 0)
  | finalized {g g' : Gateway} (before : s.gateway? id = some g) (after : t.gateway? id = some g')
      (newer : g.resourceVersion < g'.resourceVersion) (dead : g.live = false)
      (gone : g'.live = false) (unfinalized : g.deletionFinalizedAt = none)
      (final : g'.deletionFinalizedAt.isSome = true) (told : removals id news = 1)

/-- What a commit with some messages does to the grants of Gateways: it adds some and deletes
some. -/
structure GrantsMove (news : List Notification) (s t : Store) : Prop where
  kept : ∀ b ∈ s.directory.gatewayGrants, b ∈ t.directory.gatewayGrants ∨
    b.live = true ∧ Announced b.id "rolebinding.deleted" news ∧
      ∃ time, { b with deletedAt := some time } ∈ t.directory.gatewayGrants
  added : ∀ b ∈ t.directory.gatewayGrants, (∃ b₀ ∈ s.directory.gatewayGrants, b₀.id = b.id) ∨
    b.live = true ∧ Announced b.id "rolebinding.created" news
  grows : s.directory.Grows t.directory

/-- One commit of a Gateway operation. -/
structure GatewayCommit (s t : Store) : Prop where
  rest : ∃ d gateways outbox effects checkpoints, t = { s with
    directory := d, gateways := gateways, outbox := outbox, effects := effects,
    checkpoints := checkpoints }
  rows : ∃ news, t.outbox = s.outbox ++ news ∧ (∀ id, RowMove id news s t) ∧ GrantsMove news s t

/-! ### Commits of single rows -/

section Rows

variable {s t : Store} {id : String} {news : List Notification}

omit [Platform] in
@[simp] theorem removals_nil : removals id [] = 0 := rfl

omit [Platform] in
theorem removals_append (id : String) (news news' : List Notification) :
    removals id (news ++ news') = removals id news + removals id news' :=
  List.countP_append ..

omit [Platform] in
theorem removals_of_other {source eventType kind : String} (other : id ≠ source) :
    removals id [⟨source, eventType, kind⟩] = 0 := by
  simp [removals, Ne.symm other]

omit [Platform] in
theorem removals_of_kind {news : List Notification} (kinds : ∀ n ∈ news, n.kind ≠ "gateway.deleted") :
    removals id news = 0 := by
  refine List.countP_eq_zero.mpr fun n member => ?_
  simp [kinds n member]

omit [Platform] in
theorem deletions_append (outbox : t.outbox = s.outbox ++ news) :
    t.deletions id = s.deletions id + removals id news := by
  rw [Store.deletions, outbox, List.countP_append]
  rfl

theorem GrantsMove.of_projects (projects : s.directory.Projects t.directory) :
    GrantsMove news s t :=
  ⟨fun _ member => .inl (projects.2.1 ▸ member),
    fun b member => .inl ⟨b, projects.2.1 ▸ member, rfl⟩, projects.2.2⟩

/-- A new grant. -/
theorem GrantsMove.append {b : RoleBinding}
    (grants : t.directory.gatewayGrants = s.directory.gatewayGrants ++ [b]) (live : b.live = true)
    (told : Announced b.id "rolebinding.created" news)
    (grows : s.directory.Grows t.directory) : GrantsMove news s t := by
  refine ⟨fun _ member => .inl (grants ▸ List.mem_append_left _ member), fun a member => ?_, grows⟩
  rcases List.mem_append.mp (grants ▸ member) with old | new
  · exact .inl ⟨a, old, rfl⟩
  · rw [List.mem_singleton.mp new]
    exact .inr ⟨live, told⟩

/-- A deleted grant. -/
theorem GrantsMove.overwrite {b : RoleBinding} {time : Int} (stored : b ∈ s.directory.gatewayGrants)
    (live : b.live = true)
    (grants : t.directory.gatewayGrants =
      Table.overwrite s.directory.gatewayGrants { b with deletedAt := some time })
    (told : Announced b.id "rolebinding.deleted" news)
    (grows : s.directory.Grows t.directory) : GrantsMove news s t := by
  have only : ∀ a ∈ s.directory.gatewayGrants, a.id = b.id → a = b := by
    intro a member same
    exact s.directory.bindings.eq_of_key (List.mem_of_mem_filter member)
      (List.mem_of_mem_filter stored) same
  refine ⟨?_, ?_, grows⟩
  · intro a member
    rw [grants]
    by_cases here : a.id = b.id
    · obtain rfl := only a member here
      exact .inr ⟨live, told, time, Table.mem_overwrite.mpr (.inl ⟨rfl, a, member, rfl⟩)⟩
    · exact .inl (Table.mem_overwrite.mpr (.inr ⟨member, here⟩))
  · intro a member
    rw [grants] at member
    rcases Table.mem_overwrite.mp member with ⟨rfl, -⟩ | ⟨old, -⟩
    · exact .inl ⟨b, stored, rfl⟩
    · exact .inl ⟨a, old, rfl⟩

/-- A commit that concerns one row. -/
theorem GatewayCommit.of_row (source : String)
    (rest : ∃ d gateways outbox effects checkpoints, t = { s with
      directory := d, gateways := gateways, outbox := outbox, effects := effects,
      checkpoints := checkpoints })
    (outbox : t.outbox = s.outbox ++ news)
    (others : ∀ id ≠ source, t.gateway? id = s.gateway? id)
    (quiet : ∀ id ≠ source, removals id news = 0) (move : RowMove source news s t)
    (grants : GrantsMove news s t) : GatewayCommit s t := by
  refine ⟨rest, news, outbox, fun id => ?_, grants⟩
  by_cases here : id = source
  · rw [here]
    exact move
  · exact .kept (others id here) (quiet id here)

/-- A commit that concerns no row. -/
theorem GatewayCommit.of_quiet {d : Directory} (projects : s.directory.Projects d) :
    GatewayCommit s { s with directory := d } :=
  ⟨⟨d, s.gateways, s.outbox, s.effects, s.checkpoints, rfl⟩, [], (List.append_nil _).symm,
    fun _ => .kept rfl rfl, .of_projects projects⟩

theorem GatewayCommit.refl (s : Store) : GatewayCommit s s := .of_quiet (.refl _)

theorem Store.Aside.commit (aside : s.Aside t) : GatewayCommit s t := by
  obtain ⟨d, rfl, projects⟩ := aside
  exact .of_quiet projects

end Rows

/-! ### Every end is a commit -/

section Ends

variable {s t : Store} {id : String}

/-- A row with a new revision is a change, the same one is not. -/
theorem RowMove.of_noted {g g' : Gateway} {news : List Notification} (before : s.gateway? id = some g)
    (after : t.gateway? id = some g') (noted : g.Noted g')
    (told : Announced id "gateway.updated" news) (quiet : removals id news = 0) :
    RowMove id news s t := by
  rcases noted.version with rfl | next
  · exact .kept (after.trans before.symm) quiet
  · refine .changed before after (by omega) (fun dead => noted.live.trans dead) ?_ told quiet
    rw [noted.columns]

omit [Platform] in
theorem announced_update (id : String) : Announced id "gateway.updated" [⟨id, "Update", "gateway.updated"⟩] :=
  ⟨_, List.mem_cons_self, rfl, rfl⟩

omit [Platform] in
theorem removals_update (id source : String) :
    removals id [⟨source, "Update", "gateway.updated"⟩] = 0 :=
  removals_of_kind (by simp)

theorem GrantMove.commit {gatewayID source eventType kind : String} {grants : List RoleBinding}
    (move : GrantMove s gatewayID grants source eventType kind t) (grant : kind ≠ "gateway.deleted")
    (moves : GrantsMove [⟨source, eventType, kind⟩, ⟨gatewayID, "Update", "gateway.updated"⟩] s t) :
    GatewayCommit s t := by
  have quiet : ∀ id, removals id
      [⟨source, eventType, kind⟩, ⟨gatewayID, "Update", "gateway.updated"⟩] = 0 :=
    fun id => removals_of_kind (by simpa using grant)
  obtain ⟨g, g', here, -, there, noted, -⟩ := move.invalidated.row
  obtain ⟨d, gateways, checkpoints, outbox, same⟩ := move.rest
  refine .of_row _ ⟨d, gateways, outbox, s.effects, checkpoints, same⟩ move.outbox
    move.invalidated.others (fun id _ => quiet id) ?_ moves
  refine RowMove.of_noted here there noted ?_ (quiet _)
  exact ⟨_, List.mem_cons_of_mem _ List.mem_cons_self, rfl, rfl⟩

theorem CycleSaved.commit {version generation revision : Int} {data : String}
    {cycle old : CycleState} {g g' : Gateway}
    (saved : CycleSaved s id version generation revision data cycle g g' old t) :
    GatewayCommit s t := by
  obtain ⟨gateways, checkpoints, outbox, same⟩ := saved.rest
  have rest : ∃ d gateways outbox effects checkpoints, t = { s with
      directory := d, gateways := gateways, outbox := outbox, effects := effects,
      checkpoints := checkpoints } := ⟨s.directory, gateways, outbox, s.effects, checkpoints, same⟩
  have grants : s.directory.Projects t.directory := by
    rw [same]
    exact .refl _
  rcases saved.outbox with ⟨unchanged, silent⟩ | ⟨-, told⟩
  · refine .of_row _ rest (silent.trans (List.append_nil _).symm) saved.others (fun _ _ => rfl) ?_
      (.of_projects grants)
    refine .kept ?_ rfl
    rw [saved.row, saved.stored, unchanged]
  · exact .of_row _ rest told saved.others (fun _ _ => removals_update _ _)
      (.of_noted saved.stored saved.row saved.noted (announced_update id) (removals_update _ _))
      (.of_projects grants)

theorem IdentityObserved.commit {version : Int} {oidc : Option String} {update : ConditionUpdate}
    (observed : IdentityObserved s id version oidc update t) : GatewayCommit s t := by
  obtain ⟨g, here, live, -, ⟨-, rfl⟩ | ⟨-, g', written⟩⟩ := observed.row
  · exact .refl _
  obtain ⟨gateways, outbox, same⟩ := written.rest
  refine .of_row _ ⟨s.directory, gateways, outbox, s.effects, s.checkpoints, same⟩ written.outbox
    written.others (fun _ _ => removals_update _ _) ?_ (.of_projects (by rw [same]; exact .refl _))
  refine .changed here written.row ?_ (fun dead => ?_) ?_ (announced_update id)
    (removals_update _ _)
  · rw [written.observed.version]
    split <;> omega
  · rw [live] at dead
    cases dead
  · rw [written.observed.columns]

/-- A rewritten live row is a change. -/
theorem Gateway.Rewrites.move {g w g' : Gateway} {news : List Notification}
    (rewrites : g.Rewrites w g') (live : g.live = true) (before : s.gateway? id = some g)
    (after : t.gateway? id = some g') (told : Announced id "gateway.updated" news)
    (quiet : removals id news = 0) : RowMove id news s t := by
  refine .changed before after rewrites.version (fun dead => ?_) rewrites.finalized told quiet
  rw [live] at dead
  cases dead

theorem Updated.commit {svc : GatewayService} {p : Principal} {patch : PatchRequest}
    {console route : Option String} {version : Int} {g g' : Gateway}
    (updated : Updated svc p id patch console route version s g g' t) : GatewayCommit s t := by
  obtain ⟨d, gateways, outbox, same⟩ := updated.rest
  exact .of_row _ ⟨d, gateways, outbox, s.effects, s.checkpoints, same⟩ updated.outbox updated.others
    (fun _ _ => removals_update _ _) (updated.rewrites.move updated.live updated.stored updated.row
      (announced_update id) (removals_update _ _)) (.of_projects updated.same.projects)

theorem Counted.commit (counted : Counted s t) : GatewayCommit s t := by
  cases counted with
  | same => exact .refl _
  | @written g g' next gateways stored live rewrites becomes changes =>
    have key : g'.id = g.id := by
      rw [rewrites.columns]
    have found := becomes.find?
    rw [key_gateway, key] at found
    refine .of_row g.id ⟨s.directory, gateways, _, s.effects, s.checkpoints, rfl⟩ rfl
      (fun id other => (found id).trans (if_neg other)) (fun _ _ => removals_update _ _) ?_
      (.of_projects (.refl _))
    exact rewrites.move live stored ((found g.id).trans (if_pos rfl)) (announced_update _)
      (removals_update _ _)

theorem Removed.commit (removed : Removed s id t) (same : s.directory.SameGrants t.directory) :
    GatewayCommit s t := by
  cases removed with
  | already => exact .of_quiet same.projects
  | @deleted g row gateways d here alive revised becomes =>
    have key : row.id = id := revised.id.trans (Store.id_of_gateway? here)
    have found := becomes.find?
    rw [key_gateway, key] at found
    refine .of_row _ ⟨d, gateways, _, s.effects, s.checkpoints, rfl⟩ rfl
      (fun id other => (found id).trans (if_neg other)) (fun _ _ => removals_update _ _) ?_
      (.of_projects same.projects)
    refine .changed here ((found id).trans (if_pos rfl)) ?_ (fun dead => ?_)
      (revised.finalization rfl) (announced_update id) (removals_update _ _)
    · rw [revised.version]
      exact Nat.lt_succ_self _
    · rw [alive] at dead
      cases dead

omit [Platform] in
theorem Gateway.deletionFinalizedAt_observe (g : Gateway) (owner : CleanupOwner) (target : String)
    (complete : Bool) : (g.observe owner target complete).deletionFinalizedAt = g.deletionFinalizedAt := by
  unfold Gateway.observe
  split <;> rfl

omit [Platform] in
/-- A stored observation leaves a deleted row of a later revision. -/
theorem Revised.observed {g row : Gateway} {owner : CleanupOwner} {target : String} {complete : Bool}
    {time : Int} (dead : g.live = false)
    (revised : Revised g { g.observe owner target complete with updatedTime := time } row) :
    row.id = g.id ∧ g.resourceVersion < row.resourceVersion ∧ row.live = false ∧
      row.deletionFinalizedAt = g.deletionFinalizedAt := by
  refine ⟨revised.id, ?_, ?_, ?_⟩
  · rw [revised.version]
    exact Nat.lt_succ_self _
  · rw [Meta.live, revised.permanent dead]
    exact dead
  · exact revised.finalization (g.deletionFinalizedAt_observe owner target complete)

omit [Platform] in
theorem Observed.row {owner : CleanupOwner} {target : String} {complete : Bool} {g mid : Gateway}
    (observed : Observed s owner target complete g mid) (dead : g.live = false) :
    mid.id = g.id ∧ g.resourceVersion ≤ mid.resourceVersion ∧
      mid.deletionFinalizedAt = g.deletionFinalizedAt := by
  cases observed with
  | same => exact ⟨rfl, le_refl _, rfl⟩
  | stored _ revised =>
    obtain ⟨id, newer, -, finalized⟩ := revised.observed dead
    exact ⟨id, newer.le, finalized⟩

theorem Recorded.commit {version : Int} {owner : CleanupOwner} {target : String} {complete : Bool}
    (recorded : Recorded s id version owner target complete t) : GatewayCommit s t := by
  cases recorded with
  | same => exact .refl _
  | @stored g row gateways on differs revised becomes =>
    obtain ⟨sameID, newer, dead, finalized⟩ := revised.observed on.dead
    have key : row.id = id := sameID.trans (Store.id_of_gateway? on.stored)
    have found := becomes.find?
    rw [key_gateway, key] at found
    refine .of_row _ ⟨s.directory, gateways, _, s.effects, s.checkpoints, rfl⟩ rfl
      (fun id other => (found id).trans (if_neg other)) (fun _ _ => removals_update _ _) ?_
      (.of_projects (.refl _))
    exact .changed on.stored ((found id).trans (if_pos rfl)) newer (fun _ => dead) finalized
      (announced_update id) (removals_update _ _)
  | @finalized g mid row gateways time on observed dead unfinalized all revised becomes =>
    obtain ⟨sameID, newer, finalized⟩ := observed.row on.dead
    have key : row.id = id :=
      revised.id.trans (sameID.trans (Store.id_of_gateway? on.stored))
    have found := becomes.find?
    rw [key_gateway, key] at found
    refine .of_row _ ⟨s.directory, gateways, _, s.effects, s.checkpoints, rfl⟩ rfl
      (fun id other => (found id).trans (if_neg other)) (fun _ other => removals_of_other other) ?_
      (.of_projects (.refl _))
    obtain ⟨final, gone, -⟩ := revised.finalizes unfinalized rfl
    refine .finalized on.stored ((found id).trans (if_pos rfl)) ?_ on.dead gone
      (finalized ▸ unfinalized) final ?_
    · rw [revised.version]
      omega
    · simp [removals]

theorem Placed.commit {p : Principal} {r : GatewayCreateRequest} (placed : Placed p r s t) :
    GatewayCommit s t := by
  obtain ⟨b, owner, g, live, -, -, -, -, -, grants, absent, rows, inserted, outbox⟩ := placed.row
  obtain ⟨d, gateways, outbox', same⟩ := placed.rest
  have found := Store.gateway?_of_append absent rows
  have quiet : ∀ id, removals id
      [⟨b.id, "Create", "rolebinding.created"⟩, ⟨g.id, "Create", "gateway.created"⟩] = 0 :=
    fun id => removals_of_kind (by simp)
  refine .of_row g.id ⟨d, gateways, outbox', s.effects, s.checkpoints, same⟩ outbox
    (fun id other => (found id).trans (if_neg other)) (fun id _ => quiet id) ?_
    (.append grants live ⟨_, List.mem_cons_self, rfl, rfl⟩ placed.grows)
  have stored : t.gateway? g.id = some g := (found g.id).trans (if_pos rfl)
  unfold Gateway.insert at inserted
  split_ifs at inserted with refused
  rw [not_or, Option.not_isSome_iff_eq_none] at refused
  have valid : Platform.validID g.id = true := by
    refine (placed.drawn g (Table.mem_of_find? stored)).resolve_left fun old => ?_
    cases absent.symm.trans (Table.find?_of_mem old)
  refine .created absent stored ?_ ?_ valid ⟨_, List.mem_cons_of_mem _ List.mem_cons_self, rfl, rfl⟩
    (quiet _)
  · rw [← Except.ok.inj inserted]
    rfl
  · rw [← Except.ok.inj inserted]
    exact refused.1

theorem Projected.commit (projected : Projected s t) : GatewayCommit s t := by
  obtain ⟨d, news, rfl, projects, kinds⟩ := projected
  refine ⟨⟨d, s.gateways, _, s.effects, s.checkpoints, rfl⟩, news, rfl, fun id => .kept rfl ?_,
    .of_projects projects⟩
  refine removals_of_kind fun n member deleted => ?_
  rcases kinds n member with kind | kind
  · exact absurd (kind.symm.trans deleted) (by decide)
  · exact absurd (kind.symm.trans deleted) (by decide)

end Ends

/-! ### The operations -/

section Calls

attribute [local irreducible] validatePrincipal

variable {svc : GatewayService}

/-- An operation that may change a Gateway or its grants, and the projection of roles that
precedes each request. -/
inductive GatewayCall (svc : GatewayService) : Process (Option Err) → Prop
  | prepare (p : Principal) : GatewayCall svc (Prod.snd <$> prepareRequest p)
  | create (p : Principal) (r : GatewayCreateRequest) :
      GatewayCall svc (Prod.snd <$> createGateway svc p r)
  | update (p : Principal) (id : String) (patch : PatchRequest) :
      GatewayCall svc (Prod.snd <$> update svc p id patch)
  | updateControlPlane (p : Principal) (id : String) (patch : PatchRequest)
      (console route : Option String) (version : Int) :
      GatewayCall svc (Prod.snd <$> updateControlPlane svc p id patch console route version)
  | delete (p : Principal) (id : String) : GatewayCall svc (Prod.snd <$> deleteGateway svc p id)
  | createGrant (p : Principal) (input : GrantRequest) :
      GatewayCall svc (Prod.snd <$> createGrant svc p input)
  | deleteGrant (p : Principal) (id : String) : GatewayCall svc (deleteGrant svc p id)
  | observeIdentity (p : Principal) (id : String) (version : Int) (oidc : Option String)
      (reason : String) :
      GatewayCall svc (Prod.snd <$> observeIdentity svc p id version oidc reason)
  | saveCycle (p : Principal) (id : String) (version generation revision : Int) (data : String) :
      GatewayCall svc (Prod.snd <$> saveIdentityScanCycle svc p id version generation revision data)
  | observeCleanup (p : Principal) (id : String) (version : Int) (owner target : String)
      (complete : Bool) :
      GatewayCall svc (Prod.snd <$> observeCleanup svc p id version owner target complete)
  | recordCleanup (id : String) (version : Int) (owner target : String) (complete : Bool) :
      GatewayCall svc (Prod.snd <$> recordAlone id version owner target complete)
  | changeCount (p : Principal) (nameSpace : String) (input : Int) (relative : Bool)
      (cluster : String) :
      GatewayCall svc (Prod.snd <$> changeCount svc p nameSpace input relative cluster)

variable {C : Contract Env Store Event} {h : List Event} {s : Store}

/-- A call whose commits are such commits meets the contract. -/
theorem Settles.gateway_safe {L : Type} {ends : Store → L → Store → Prop}
    {p : Process (L × Option Err)} (settles : Settles ends p)
    (commits : ∀ s x t, ends s x t → GatewayCommit s t)
    (events : ∀ s v, C.event s v) (change : ∀ h s t, GatewayCommit s t → C.change h s t) :
    p.Safe C (fun _ _ _ => True) h s :=
  settles.safe events (fun _ _ _ => trivial) (fun h s t aside => change h s t aside.commit)
    fun h s x t ended => change h s t (commits s x t ended)

/-- A call with another result meets the contract too. -/
theorem safe_mapped {α β : Type} {call : Process α} {f : α → β}
    (safe : call.Safe C (fun _ _ _ => True) h s) : (f <$> call).Safe C (fun _ _ _ => True) h s :=
  Proc.Safe.map safe

theorem safe_readOnce {α β : Type} {f : Store → Except Err α} {rest : Except Err α → Process β}
    (events : ∀ s v, C.event s v) (change : ∀ h s t, GatewayCommit s t → C.change h s t)
    (safe : ∀ r h s, (rest r).Safe C (fun _ _ _ => True) h s) :
    (readOnce f >>= rest).Safe C (fun _ _ _ => True) h s := by
  intro s' _ _ ω _
  exact ⟨fun v _ => events s' v, change _ _ _ (.refl s'), safe _ _ _⟩

theorem deleteGrant_safe (events : ∀ s v, C.event s v)
    (change : ∀ h s t, GatewayCommit s t → C.change h s t) (p : Principal) (id : String) :
    (deleteGrant svc p id).Safe C (fun _ _ _ => True) h s := by
  unfold deleteGrant
  split
  · exact trivial
  split
  · exact trivial
  apply safe_readOnce events change
  intro r h s
  cases r with
  | error e => exact trivial
  | ok initial =>
    dsimp only [deleteLocked]
    split
    · apply @Proc.Safe.bind _ _ _ _ _ _ fun _ _ _ => True
      · exact safe_mapped ((settles_getGrant id).gateway_safe
          (fun _ _ _ aside => aside.commit) events change)
      · rintro ⟨_, e⟩ _ _ _
        cases e <;> exact trivial
    split
    · exact trivial
    split
    · exact trivial
    · refine safe_mapped ((settles_deleteGrant id _).gateway_safe (fun _ _ _ revoked => ?_) events change)
      obtain ⟨b, owner, stored, live, -, isID, -, -, move⟩ := revoked.move
      refine move.commit (by decide) (.overwrite stored live move.grants ?_ move.grows)
      exact ⟨_, List.mem_cons_self, isID.symm, rfl⟩

/-- **Every operation** meets a contract that such commits keep. -/
theorem GatewayCall.safe {p : Process (Option Err)} (known : GatewayCall svc p)
    (events : ∀ s v, C.event s v) (change : ∀ h s t, GatewayCommit s t → C.change h s t)
    (h : List Event) (s : Store) : p.Safe C (fun _ _ _ => True) h s := by
  cases known with
  | prepare p =>
    refine safe_mapped (settles_prepareRequest.gateway_safe ?_ events change)
    exact fun _ _ _ projected => projected.commit
  | create p r =>
    refine safe_mapped (safe_mapped ((settles_createGateway r).gateway_safe ?_ events change))
    exact fun _ _ _ placed => placed.commit
  | update p id patch =>
    apply safe_mapped
    unfold Hypershell.update
    split
    · exact trivial
    split
    · exact trivial
    split
    · exact trivial
    refine safe_mapped (update_commits.settles.gateway_safe ?_ events change)
    rintro _ _ _ ⟨_, _, updated⟩
    exact updated.commit
  | updateControlPlane p id patch console route version =>
    apply safe_mapped
    unfold Hypershell.updateControlPlane
    split
    · exact trivial
    split
    · exact trivial
    split
    · exact trivial
    refine safe_mapped (update_commits.settles.gateway_safe ?_ events change)
    rintro _ _ _ ⟨_, _, updated⟩
    exact updated.commit
  | delete p id =>
    refine safe_mapped ((deleteGateway_settles p id).gateway_safe ?_ events change)
    rintro _ _ _ ⟨removed, same, _⟩
    exact removed.commit same
  | createGrant p input =>
    apply safe_mapped
    unfold Hypershell.createGrant
    split
    · exact trivial
    · refine safe_mapped ((settles_createGrant input).gateway_safe (fun _ _ _ granted => ?_) events change)
      obtain ⟨b, live, -, -, -, -, move⟩ := granted.move
      refine move.commit (by decide) (.append move.grants live ?_ move.grows)
      exact ⟨_, List.mem_cons_self, rfl, rfl⟩
  | deleteGrant p id => exact deleteGrant_safe events change p id
  | observeIdentity p id version oidc reason =>
    refine safe_mapped (observeIdentity_commits.settles.gateway_safe ?_ events change)
    rintro _ _ _ ⟨_, _, observed⟩
    exact observed.commit
  | saveCycle p id version generation revision data =>
    refine safe_mapped (settles_saveIdentityScanCycle.gateway_safe (fun _ _ _ ended => ?_) events change)
    obtain ⟨cycle, g, g', old, -, saved⟩ := ended.saved
    exact saved.commit
  | observeCleanup p id version owner target complete =>
    refine safe_mapped (observeCleanup_commits.settles.gateway_safe ?_ events change)
    rintro _ _ _ ⟨_, _, recorded⟩
    exact recorded.commit
  | recordCleanup id version owner target complete =>
    refine safe_mapped (recordAlone_commits.settles.gateway_safe ?_ events change)
    rintro _ _ _ ⟨_, _, recorded⟩
    exact recorded.commit
  | changeCount p nameSpace input relative cluster =>
    refine safe_mapped (safe_mapped (changeCount_commits.settles.gateway_safe ?_ events change))
    exact fun _ _ _ counted => counted.commit

end Calls

end Hypershell
