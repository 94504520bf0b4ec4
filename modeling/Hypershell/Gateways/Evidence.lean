import Hypershell.Gateways.ControllerWrites

/-!
# The evidence that grants are synchronized

Any number of scan workers save cycles while owners change grants and Gateways.  Every commit
keeps the evidence about a Gateway, takes it away with a change of its grants, or is a save.

## Main definitions

* `AcceptedSave`, `Returned` — executions of a save that took effect, and values they named
* `EvidenceStep` — what one commit does to the evidence about a Gateway
* `EvidenceCall`, `EvidenceReachable` — the calls, and the systems they lead to
* `Progress` — versions only grow, and name what was stored under them

## Main results

* `AcceptedSave.saved`, `Returned.of` — what a save and a read knew
* `evidence_of_step` — every step of every system is one of the evidence
-/

namespace Hypershell

open Foundation

section Defs

variable [Platform] (svc : GatewayService)

/-- An execution of a save from `s` to `t` that took effect. -/
def AcceptedSave (id : String) (version generation revision : Int) (data : String) (s t : Store) :
    Prop :=
  ∃ p ω r l, (saveIdentityScanCycle svc p id version generation revision data).Exec Eq s
      [(ω, s)] r l t ∧
    t.checkpointVersion id identityCycleScope ≠ s.checkpointVersion id identityCycleScope

/-- A read or a save returned these values when it left the store `s`. -/
def Returned (id : String) (values : IdentityCycle) (s : Store) : Prop :=
  (∃ p ω s' l, (identityScanCycle svc p id).Exec Eq s' [(ω, s')] (values, none) l s) ∨
    ∃ p version generation revision data ω s' l,
      (saveIdentityScanCycle svc p id version generation revision data).Exec Eq s' [(ω, s')]
        (values, none) l s

/-- The row of a Gateway is the same or a later one.  If it is live, it was, with the same
condition of its grants. -/
inductive RowKept (id : String) (s t : Store) : Prop
  | same (row : t.gateway? id = s.gateway? id)
  | later {g g' : Gateway} (before : s.gateway? id = some g) (after : t.gateway? id = some g')
      (version : g.resourceVersion < g'.resourceVersion)
      (condition : g'.live = true → g.live = true ∧
        g'.conditionState .identityUsers = g.conditionState .identityUsers ∧
        g.resourceGeneration ≤ g'.resourceGeneration)

/-- The grants and the checkpoint of a Gateway are the same. -/
structure EvidenceKept (id : String) (s t : Store) : Prop where
  grants : t.directory.grantsOf id = s.directory.grantsOf id
  checkpoint : t.checkpoint? id identityCycleScope = s.checkpoint? id identityCycleScope
  row : RowKept id s t

/-- The last two messages of a commit: a grant and its Gateway. -/
def PublishedWith (id gatewayKind : String) (s t : Store) : Prop :=
  ∃ source grantEvent grantKind gatewayEvent, t.outbox = s.outbox ++
    [⟨source, grantEvent, grantKind⟩, ⟨id, gatewayEvent, gatewayKind⟩] ∧
    (grantKind = "rolebinding.created" ∨ grantKind = "rolebinding.deleted")

/-- What one commit does to the evidence about a Gateway. -/
inductive EvidenceStep (id : String) (s t : Store) : Prop
  | kept (same : EvidenceKept id s t)
  | created {g : Gateway} (absent : s.gateway? id = none) (stored : t.gateway? id = some g)
      (unknown : g.conditionState .identityUsers = none)
      (checkpoint : t.checkpoint? id identityCycleScope = s.checkpoint? id identityCycleScope)
      (differ : t.directory.grantsOf id ≠ s.directory.grantsOf id)
      (published : PublishedWith id "gateway.created" s t)
  | changed (invalidated :
        s.Invalidated id { s with gateways := t.gateways, checkpoints := t.checkpoints })
      (differ : t.directory.grantsOf id ≠ s.directory.grantsOf id)
      (published : PublishedWith id "gateway.updated" s t)
  | saved {version generation revision : Int} {data : String}
      (accepted : AcceptedSave svc id version generation revision data s t)

end Defs

/-! ### What a save does -/

section Saves

variable [Platform] {svc : GatewayService} {p : Principal} {id : String}
  {version generation revision : Int} {data : String} {s t : Store}

/-- How a save ends. -/
structure SaveEnd (id : String) (version generation revision : Int) (data : String) (s : Store)
    (x : IdentityCycle) (t : Store) : Prop where
  saved : ∃ cycle g g' old, checkCycleData version generation data = .ok cycle ∧
    CycleSaved s id version generation revision data cycle g g' old t
  data : x.checkpoint.after = data
  values : x.Of t id

theorem settles_saveIdentityScanCycle :
    Settles (SaveEnd id version generation revision data)
      (saveIdentityScanCycle svc p id version generation revision data) := by
  unfold saveIdentityScanCycle
  split
  · exact .refused
  split
  · exact .refused
  split
  · exact .refused
  rename_i cycle checked
  refine .transaction fun ω s n => ?_
  rw [Tx.wp_bind]
  refine Action.wp_query (fun _ => .refl s) (fun _ _ => .refl s) fun g read => ?_
  obtain ⟨here, live⟩ := Store.getGateway_ok read
  refine wp_saveIdentityScanCycleBody here live (fun _ _ _ _ => .refl s) ?_
  intro n g' old t l saved same values
  exact ⟨.refl s, ⟨cycle, g, g', old, checked, saved⟩, same, values⟩

theorem settles_identityScanCycle :
    Settles (fun s x t => t = s ∧ IdentityCycle.Of x t id) (identityScanCycle svc p id) := by
  unfold identityScanCycle
  split
  · exact .refused
  refine .transaction fun ω s n => ?_
  exact wp_identityScanCycleBody (fun _ _ _ => .refl s) fun _ _ values => ⟨.refl s, rfl, values⟩

/-- **An accepted save** replaced the version it named. -/
theorem AcceptedSave.saved (accepted : AcceptedSave svc id version generation revision data s t) :
    ∃ cycle g g' old, checkCycleData version generation data = .ok cycle ∧
      CycleSaved s id version generation revision data cycle g g' old t := by
  obtain ⟨p, ω, r, l, exec, took⟩ := accepted
  have still : ∀ {u : Store}, s.Aside u →
      u.checkpointVersion id identityCycleScope = s.checkpointVersion id identityCycleScope := by
    rintro u ⟨d, rfl, -⟩
    rfl
  generalize steps : [(ω, s)] = path at exec
  cases settles_saveIdentityScanCycle.exec exec with
  | refused => cases steps
  | failed moved aside =>
    subst moved
    exact absurd (still aside) took
  | committed moved ended =>
    subst moved
    exact ended.saved
  | lost moved ended =>
    subst moved
    exact ended.saved

/-- The values that a call returned are those of the store it left. -/
theorem Returned.of {values : IdentityCycle} (returned : Returned svc id values s) :
    values.Of s id := by
  rcases returned with ⟨p, ω, s', l, exec⟩ | ⟨p, version, generation, revision, data, ω, s', l, exec⟩
  · obtain ⟨_, _, -, -, -, values⟩ := (settles_identityScanCycle.exec exec).committed_of_ok
    exact values
  · obtain ⟨_, _, -, -, ended⟩ := (settles_saveIdentityScanCycle.exec exec).committed_of_ok
    exact ended.values

theorem checkCycleData_ok {cycle : CycleState}
    (checked : checkCycleData version generation data = .ok cycle) :
    decodeCycle data = .ok cycle ∧ data ≠ "" ∧ cycle.source = cycleSource generation := by
  unfold checkCycleData at checked
  split at checked
  · cases checked
  · rename_i decoded
    split_ifs at checked with refused
    cases checked
    rw [not_or, not_or, not_or, not_or, not_not] at refused
    exact ⟨decoded, refused.1, refused.2.2.2.1⟩

end Saves

/-! ### What every commit does to the evidence -/

namespace Directory

variable {d d' : Directory} {id gatewayID : String} {b old : RoleBinding}

theorem grantsOf_append (grants : d'.gatewayGrants = d.gatewayGrants ++ [b])
    (gateway : b.gatewayID = some gatewayID) :
    d'.grantsOf id = if id = gatewayID then d.grantsOf id ++ [b] else d.grantsOf id := by
  rw [grantsOf_eq, grantsOf_eq, grants, List.filter_append]
  split
  · rename_i same
    rw [same, List.filter_cons_of_pos (by simpa using gateway), List.filter_nil]
  · rename_i other
    have apart : b.gatewayID ≠ some id := by
      rw [gateway, ne_eq, Option.some.injEq]
      exact fun same => other same.symm
    simp only [List.filter_cons, apart, decide_false, Bool.false_eq_true, if_false,
      List.filter_nil, List.append_nil]

theorem separate_gatewayGrants (d : Directory) : d.gatewayGrants.Pairwise Separate :=
  d.bindings.separate.filter _

theorem grantsOf_overwrite (grants : d'.gatewayGrants = Table.overwrite d.gatewayGrants b)
    (member : old ∈ d.gatewayGrants) (key : b.id = old.id) (same : b.gatewayID = old.gatewayID)
    (gateway : old.gatewayID = some gatewayID) :
    d'.grantsOf id =
      if id = gatewayID then Table.overwrite (d.grantsOf id) b else d.grantsOf id := by
  rw [grantsOf_eq, grantsOf_eq, grants,
    Store.filter_overwrite d.separate_gatewayGrants member key (by rw [same])]
  split
  · rfl
  · rename_i other
    refine Store.overwrite_eq_self fun a inside sameKey => ?_
    obtain ⟨stored, kept⟩ := List.mem_filter.mp inside
    have one : a = old := by
      by_contra apart
      exact (d.separate_gatewayGrants.forall stored member apart).1 (sameKey.trans key)
    rw [one, gateway, decide_eq_true_eq, Option.some.injEq] at kept
    exact other kept.symm

/-- A withdrawn grant is no longer as it was. -/
theorem overwrite_ne (member : old ∈ d.grantsOf id) (key : b.id = old.id) (differs : b ≠ old) :
    Table.overwrite (d.grantsOf id) b ≠ d.grantsOf id := by
  intro same
  have inside : old ∈ Table.overwrite (d.grantsOf id) b := by
    rw [same]
    exact member
  rw [Table.overwrite, List.mem_map] at inside
  obtain ⟨a, -, is⟩ := inside
  split at is
  · exact differs is
  · rename_i apart
    rw [is] at apart
    exact apart key.symm

end Directory

section Ends

variable [Platform] {svc : GatewayService} {p : Principal} {id : String} {s t : Store}

theorem evidenceKept_of_same (gateways : t.gateway? id = s.gateway? id)
    (checkpoint : t.checkpoint? id identityCycleScope = s.checkpoint? id identityCycleScope)
    (projects : s.directory.Projects t.directory) : EvidenceKept id s t :=
  ⟨projects.grantsOf id, checkpoint, .same gateways⟩

theorem Store.Aside.evidence (aside : s.Aside t) : EvidenceStep svc id s t := by
  obtain ⟨d, rfl, projects⟩ := aside
  exact .kept (evidenceKept_of_same rfl rfl projects)

theorem Projected.evidence (projected : Projected s t) : EvidenceStep svc id s t := by
  obtain ⟨d, news, rfl, projects, -⟩ := projected
  exact .kept (evidenceKept_of_same rfl rfl projects)

/-- Of other Gateways, a change of grants keeps everything. -/
theorem GrantMove.kept {gatewayID : String} {grants : List RoleBinding}
    {source eventType kind : String} (move : GrantMove s gatewayID grants source eventType kind t)
    (other : id ≠ gatewayID) (same : t.directory.grantsOf id = s.directory.grantsOf id) :
    EvidenceKept id s t := by
  refine ⟨same, ?_, .same (move.invalidated.others id other)⟩
  exact move.invalidated.checkpoints id _ fun key => other (Prod.mk.inj key).1

theorem Granted.evidence {input : GrantRequest} (granted : Granted svc p input s t) :
    EvidenceStep svc id s t := by
  obtain ⟨b, -, gateway, -, -, -, move⟩ := granted.move
  have grants : t.directory.grantsOf id = if id = input.gatewayID
      then s.directory.grantsOf id ++ [b] else s.directory.grantsOf id :=
    Directory.grantsOf_append move.grants gateway
  by_cases here : id = input.gatewayID
  · subst here
    refine .changed move.invalidated ?_ ⟨b.id, _, _, _, move.outbox, Or.inl rfl⟩
    rw [grants, if_pos rfl]
    exact fun same => List.cons_ne_nil b [] (List.append_right_eq_self.mp same)
  · rw [if_neg here] at grants
    exact .kept (move.kept here grants)

theorem Revoked.evidence {grantID gatewayID : String}
    (revoked : Revoked svc p grantID gatewayID s t) : EvidenceStep svc id s t := by
  obtain ⟨b, owner, granted, live, gateway, key, -, -, move⟩ := revoked.move
  have grants : t.directory.grantsOf id = if id = gatewayID
      then Table.overwrite (s.directory.grantsOf id) { b with deletedAt := some s.time }
      else s.directory.grantsOf id :=
    Directory.grantsOf_overwrite move.grants granted rfl rfl gateway
  by_cases here : id = gatewayID
  · subst here
    refine .changed move.invalidated ?_ ⟨_, _, _, _, move.outbox, Or.inr rfl⟩
    rw [grants, if_pos rfl]
    have inside : b ∈ s.directory.grantsOf id := by
      rw [Directory.grantsOf_eq]
      exact List.mem_filter.mpr ⟨granted, by simpa using gateway⟩
    refine Directory.overwrite_ne inside rfl fun same => ?_
    rw [← same] at live
    cases live
  · rw [if_neg here] at grants
    exact .kept (move.kept here grants)

theorem Placed.evidence {r : GatewayCreateRequest} (placed : Placed p r s t) :
    EvidenceStep svc id s t := by
  obtain ⟨b, owner, g, -, gateway, -, -, -, -, grants, absent, rows, inserted, outbox⟩ := placed.row
  have grantsOf : t.directory.grantsOf id = if id = g.id
      then s.directory.grantsOf id ++ [b] else s.directory.grantsOf id :=
    Directory.grantsOf_append grants gateway
  have found := Store.gateway?_of_append absent rows id
  have checkpoint : t.checkpoint? id identityCycleScope = s.checkpoint? id identityCycleScope := by
    obtain ⟨d, gateways, o, rfl⟩ := placed.rest
    rfl
  by_cases here : id = g.id
  · rw [if_pos here] at found grantsOf
    refine .created (g := g) (by rw [here]; exact absent) found ?_ checkpoint ?_
      ⟨b.id, _, _, _, by rw [here]; exact outbox, Or.inl rfl⟩
    · unfold Gateway.insert at inserted
      split_ifs at inserted
      rw [Except.ok.injEq] at inserted
      rw [← inserted]
    · rw [grantsOf]
      exact fun same => List.cons_ne_nil b [] (List.append_right_eq_self.mp same)
  · rw [if_neg here] at found grantsOf
    exact .kept ⟨grantsOf, checkpoint, .same found⟩

theorem Removed.kept {gatewayID : String} (removed : Removed s gatewayID t)
    (same : s.directory.SameGrants t.directory) : EvidenceKept id s t := by
  have grants := same.projects.grantsOf id
  cases removed with
  | already => exact ⟨grants, rfl, .same rfl⟩
  | @deleted g row gateways d here alive revised becomes =>
    refine ⟨grants, rfl, ?_⟩
    have key : row.id = gatewayID := revised.id.trans (Store.id_of_gateway? here)
    have found := becomes.find? id
    rw [key_gateway, key] at found
    split at found
    · rename_i target
      subst target
      refine .later here found (by rw [revised.version]; omega) fun live => ?_
      rw [Meta.live, revised.deletedAt] at live
      cases live
    · exact .same found

theorem Gateway.conditionState_changedBy (g : Gateway) (patch : PatchRequest)
    (console route : Option String) :
    (g.changedBy patch console route).conditionState = g.conditionState := by
  unfold Gateway.changedBy
  split
  · rfl
  · unfold Gateway.observedBy
    generalize patch.observations console route = observations
    induction observations generalizing g with
    | nil => rfl
    | cons o rest ih =>
      refine (ih (g.withObservation o)).trans ?_
      cases o <;> rfl

theorem Updated.kept {gatewayID : String} {patch : PatchRequest} {console route : Option String}
    {version : Int} {g g' : Gateway}
    (updated : Updated svc p gatewayID patch console route version s g g' t) :
    EvidenceKept id s t := by
  have checkpoint : t.checkpoint? id identityCycleScope = s.checkpoint? id identityCycleScope := by
    obtain ⟨d, gateways, outbox, rfl⟩ := updated.rest
    rfl
  refine ⟨updated.same.projects.grantsOf id, checkpoint, ?_⟩
  by_cases target : id = gatewayID
  · subst target
    refine .later updated.stored updated.row updated.rewrites.version fun _ => ?_
    refine ⟨updated.live, ?_, ?_⟩
    · rw [updated.rewrites.columns]
      exact congrFun (g.conditionState_changedBy patch console route) _
    · rw [updated.rewrites.generation]
      exact Nat.le_add_right _ _
  · exact .same (updated.others id target)

end Ends

/-! ### The system -/

/-- A condition is of a generation that the Gateway has reached.  What does not exist has no
checkpoint. -/
structure Evidenced (id : String) (s : Store) : Prop where
  absent : s.gateway? id = none → s.checkpoint? id identityCycleScope = none
  observed : ∀ g condition, s.gateway? id = some g → g.live = true →
    g.conditionState .identityUsers = some condition →
    condition.observedGeneration ≤ g.resourceGeneration

/-- A Gateway stays, its revision and its checkpoint's version only grow, and neither what the
revision names nor the grants under a version change. -/
structure Progress (id : String) (s t : Store) : Prop where
  row : ∀ g, s.gateway? id = some g → ∃ g', t.gateway? id = some g' ∧
    (g' = g ∨ g.resourceVersion < g'.resourceVersion)
  version : s.checkpointVersion id identityCycleScope ≤ t.checkpointVersion id identityCycleScope
  grants : ∀ g, s.gateway? id = some g →
    t.checkpointVersion id identityCycleScope = s.checkpointVersion id identityCycleScope →
    t.directory.grantsOf id = s.directory.grantsOf id

theorem Progress.refl (id : String) (s : Store) : Progress id s s :=
  ⟨fun g stored => ⟨g, stored, Or.inl rfl⟩, le_refl _, fun _ _ _ => rfl⟩

theorem Progress.trans {id : String} {s t u : Store} (first : Progress id s t)
    (second : Progress id t u) : Progress id s u := by
  refine ⟨fun g stored => ?_, first.version.trans second.version, fun g stored same => ?_⟩
  · obtain ⟨g', stored', earlier⟩ := first.row g stored
    obtain ⟨g'', stored'', later⟩ := second.row g' stored'
    refine ⟨g'', stored'', ?_⟩
    rcases earlier with rfl | earlier
    · exact later
    rcases later with rfl | later
    · exact Or.inr earlier
    · exact Or.inr (earlier.trans later)
  · obtain ⟨g', stored', -⟩ := first.row g stored
    have before := first.version
    have after := second.version
    exact (second.grants g' stored' (by omega)).trans (first.grants g stored (by omega))

section Steps

variable {id : String} {s t : Store}

theorem checkpointVersion_of_same
    (same : t.checkpoint? id identityCycleScope = s.checkpoint? id identityCycleScope) :
    t.checkpointVersion id identityCycleScope = s.checkpointVersion id identityCycleScope := by
  rw [Store.checkpointVersion, Store.checkpointVersion, same]

theorem checkpointCursor_of_same
    (same : t.checkpoint? id identityCycleScope = s.checkpoint? id identityCycleScope) :
    t.checkpointCursor id identityCycleScope = s.checkpointCursor id identityCycleScope := by
  rw [Store.checkpointCursor, Store.checkpointCursor, same]

theorem EvidenceKept.progress (kept : EvidenceKept id s t) : Progress id s t := by
  refine ⟨fun g stored => ?_, (checkpointVersion_of_same kept.checkpoint).ge,
    fun _ _ _ => kept.grants⟩
  cases kept.row with
  | same row => exact ⟨g, row.trans stored, Or.inl rfl⟩
  | @later g₁ g' before after version condition =>
    obtain rfl : g₁ = g := Option.some.inj (before.symm.trans stored)
    exact ⟨g', after, Or.inr version⟩

theorem EvidenceKept.evidenced (kept : EvidenceKept id s t) (holds : Evidenced id s) :
    Evidenced id t := by
  cases kept.row with
  | same row =>
    refine ⟨fun absent => kept.checkpoint.trans (holds.absent (row.symm.trans absent)), ?_⟩
    exact fun g condition stored => holds.observed g condition (row.symm.trans stored)
  | @later g g' before after version condition =>
    refine ⟨fun absent => absurd (after.symm.trans absent) (by simp), ?_⟩
    intro g'' observed stored live known
    obtain rfl : g' = g'' := Option.some.inj (after.symm.trans stored)
    obtain ⟨alive, same, generation⟩ := condition live
    exact (holds.observed g observed before alive (same ▸ known)).trans generation

theorem Gateway.Noted.advance {g g' : Gateway} (noted : g.Noted g') :
    g' = g ∨ g.resourceVersion < g'.resourceVersion :=
  noted.version.imp_right fun next => by omega

/-- A condition that reports something current was observed of the present generation. -/
theorem Gateway.Reports.generation {g : Gateway} {update : ConditionUpdate}
    {condition : StoredCondition} (reports : g.Reports update)
    (stored : g.conditionState .identityUsers = some condition) :
    condition.observedGeneration = g.resourceGeneration ∧ condition.status = update.status := by
  obtain ⟨current, status, -⟩ := reports
  simp only [Gateway.condition, stored, Bool.and_eq_true, decide_eq_true_eq] at current status
  exact ⟨current.2, status⟩

end Steps

section System

attribute [local irreducible] validatePrincipal

variable [Platform] {svc : GatewayService}

theorem EvidenceStep.progress {id : String} {s t : Store} (step : EvidenceStep svc id s t) :
    Progress id s t := by
  cases step with
  | kept same => exact same.progress
  | @created g absent stored unknown checkpoint =>
    refine ⟨fun g stored => ?_, (checkpointVersion_of_same checkpoint).ge, fun g stored => ?_⟩
    · rw [absent] at stored
      cases stored
    · rw [absent] at stored
      cases stored
  | changed invalidated =>
    obtain ⟨g, g', here, -, there, noted, -⟩ := invalidated.row
    have version : t.checkpointVersion id identityCycleScope = _ := invalidated.version
    refine ⟨fun g₁ stored => ?_, by omega, fun _ _ same => by omega⟩
    obtain rfl : g = g₁ := Option.some.inj (here.symm.trans stored)
    exact ⟨g', there, noted.advance⟩
  | saved accepted =>
    obtain ⟨cycle, g, g', old, -, saved⟩ := accepted.saved
    have version := saved.version
    refine ⟨fun g₁ stored => ?_, by omega, fun _ _ same => by omega⟩
    obtain rfl : g = g₁ := Option.some.inj (saved.stored.symm.trans stored)
    exact ⟨g', saved.row, saved.noted.advance⟩

theorem EvidenceStep.evidenced {id : String} {s t : Store} (step : EvidenceStep svc id s t)
    (holds : Evidenced id s) : Evidenced id t := by
  cases step with
  | kept same => exact same.evidenced holds
  | @created g absent stored unknown checkpoint =>
    refine ⟨fun missing => absurd (stored.symm.trans missing) (by simp), ?_⟩
    intro g' condition stored' live known
    obtain rfl : g = g' := Option.some.inj (stored.symm.trans stored')
    rw [unknown] at known
    cases known
  | changed invalidated =>
    obtain ⟨g, g', here, -, there, noted, reports⟩ := invalidated.row
    have there' : t.gateway? id = some g' := there
    refine ⟨fun missing => absurd (there'.symm.trans missing) (by simp), ?_⟩
    intro g'' condition stored live known
    obtain rfl : g' = g'' := Option.some.inj (there'.symm.trans stored)
    exact (reports.generation known).1.le
  | saved accepted =>
    obtain ⟨cycle, g, g', old, -, saved⟩ := accepted.saved
    refine ⟨fun missing => absurd (saved.row.symm.trans missing) (by simp), ?_⟩
    intro g'' condition stored live known
    obtain rfl : g' = g'' := Option.some.inj (saved.row.symm.trans stored)
    by_cases ends : cycle.failed = true ∨ cycle.complete = true
    · exact ((saved.outcome ends).generation known).1.le
    · rw [not_or, Bool.not_eq_true, Bool.not_eq_true] at ends
      obtain rfl := saved.open_ ends.1 ends.2
      exact holds.observed g' condition saved.stored live known

/-- A call that creates or changes a Gateway or its grants, or reads or saves a cycle. -/
inductive EvidenceCall (svc : GatewayService) : Process (Option Err) → Prop
  | create (p : Principal) (r : GatewayCreateRequest) :
      EvidenceCall svc (Prod.snd <$> createGateway svc p r)
  | update (p : Principal) (id : String) (patch : PatchRequest) :
      EvidenceCall svc (Prod.snd <$> update svc p id patch)
  | updateControlPlane (p : Principal) (id : String) (patch : PatchRequest)
      (console route : Option String) (version : Int) :
      EvidenceCall svc (Prod.snd <$> updateControlPlane svc p id patch console route version)
  | delete (p : Principal) (id : String) : EvidenceCall svc (Prod.snd <$> deleteGateway svc p id)
  | createGrant (p : Principal) (input : GrantRequest) :
      EvidenceCall svc (Prod.snd <$> createGrant svc p input)
  | deleteGrant (p : Principal) (id : String) : EvidenceCall svc (deleteGrant svc p id)
  | prepareRequest (p : Principal) : EvidenceCall svc (Prod.snd <$> prepareRequest p)
  | read (p : Principal) (id : String) : EvidenceCall svc (Prod.snd <$> identityScanCycle svc p id)
  | save (p : Principal) (id : String) (version generation revision : Int) (data : String) :
      EvidenceCall svc (Prod.snd <$> saveIdentityScanCycle svc p id version generation revision data)

/-- What everything else does: it leaves grants and their evidence alone. -/
def EvidenceWork (s t : Store) : Prop := ∀ id, EvidenceKept id s t

/-- A store before its first Gateway. -/
structure Unevidenced (s : Store) : Prop where
  gateways : s.gateways.rows = []
  checkpoints : ∀ id, s.checkpoint? id identityCycleScope = none

/-- The systems of these calls, from the first Gateway on. -/
abbrev EvidenceReachable (svc : GatewayService) (x : System Env Store Event (Option Err)) : Prop :=
  System.Reachable {p | EvidenceCall svc p} EvidenceWork Unevidenced x

/-- Every commit keeps the evidence of every Gateway, invalidates it or is a save. -/
def evidenceContract (svc : GatewayService) : Contract Env Store Event where
  oracle _ := True
  inv s := ∀ id, Evidenced id s
  rely s t := ∀ id, Progress id s t
  event _ _ := True
  change _ s t := ∀ id, EvidenceStep svc id s t

theorem evidenceContract_sound : (evidenceContract svc).Sound where
  refl s id := .refl id s
  trans first second id := (first id).trans (second id)
  keeps inv change := ⟨fun id => (change id).evidenced (inv id), fun id => (change id).progress⟩

/-- A call meets the contract if its commits are steps of the evidence. -/
theorem Settles.evidence {L : Type} {ends : Store → L → Store → Prop}
    {p : Process (L × Option Err)} (settles : Settles ends p)
    (steps : ∀ id s x t, ends s x t → EvidenceStep svc id s t) {h : List Event} {s : Store} :
    p.Safe (evidenceContract svc) (fun _ _ _ => True) h s :=
  settles.safe (fun _ _ => trivial) (fun _ _ _ => trivial) (fun _ _ _ aside _ => aside.evidence)
    fun _ _ _ _ ended id => steps id _ _ _ ended

theorem readOnce_evidence {α β : Type} {f : Store → Except Err α} {rest : Except Err α → Process β}
    (safe : ∀ r h s, (rest r).Safe (evidenceContract svc) (fun _ _ _ => True) h s)
    {h : List Event} {s : Store} :
    (readOnce f >>= rest).Safe (evidenceContract svc) (fun _ _ _ => True) h s := by
  intro s' _ _ ω _
  exact ⟨fun _ _ => trivial, fun _ => (Store.Aside.refl s').evidence, safe _ _ _⟩

theorem evidence_map {α β : Type} {call : Process α} {f : α → β} {h : List Event} {s : Store}
    (safe : call.Safe (evidenceContract svc) (fun _ _ _ => True) h s) :
    (f <$> call).Safe (evidenceContract svc) (fun _ _ _ => True) h s :=
  Proc.Safe.map safe

theorem deleteGrant_evidence (p : Principal) (id : String) {h : List Event} {s : Store} :
    (deleteGrant svc p id).Safe (evidenceContract svc) (fun _ _ _ => True) h s := by
  unfold deleteGrant
  split
  · exact trivial
  split
  · exact trivial
  apply readOnce_evidence
  intro r h s
  cases r with
  | error e => exact trivial
  | ok initial =>
    dsimp only [deleteLocked]
    split
    · apply @Proc.Safe.bind _ _ _ _ _ _ fun _ _ _ => True
      · apply evidence_map
        apply (settles_getGrant id).evidence
        exact fun _ _ _ _ aside => aside.evidence
      · rintro ⟨_, e⟩ _ _ _
        cases e <;> exact trivial
    split
    · exact trivial
    split
    · exact trivial
    · apply evidence_map
      apply (settles_deleteGrant id _).evidence
      exact fun _ _ _ _ ended => ended.evidence

omit [Platform] in
/-- An accepted save commits a step of its own; of other Gateways it keeps everything. -/
theorem CycleSaved.kept {id id' : String} {version generation revision : Int} {data : String}
    {cycle old : CycleState} {g g' : Gateway} {s t : Store}
    (saved : CycleSaved s id version generation revision data cycle g g' old t)
    (other : id' ≠ id) : EvidenceKept id' s t := by
  obtain ⟨gateways, checkpoints, outbox, same⟩ := saved.rest
  refine ⟨by rw [same], ?_, .same (saved.others id' other)⟩
  exact saved.checkpoints id' _ fun key => other (Prod.mk.inj key).1

theorem save_evidence (p : Principal) (id : String) (version generation revision : Int)
    (data : String) {h : List Event} {s : Store} :
    (saveIdentityScanCycle svc p id version generation revision data).Safe (evidenceContract svc)
      (fun _ _ _ => True) h s := by
  apply settles_saveIdentityScanCycle.safe_run
  · exact fun _ _ => trivial
  · exact fun _ _ _ => trivial
  · exact fun _ _ _ aside _ => aside.evidence
  · intro h ω s r l t exec ended id'
    obtain ⟨cycle, g, g', old, -, saved⟩ := ended.saved
    by_cases here : id' = id
    · subst here
      have version := saved.version
      exact .saved ⟨p, ω, r, l, exec, by omega⟩
    · exact .kept (saved.kept here)

theorem EvidenceCall.safe {call : Process (Option Err)} (known : EvidenceCall svc call)
    (s : Store) : call.Safe (evidenceContract svc) (fun _ _ _ => True) [] s := by
  cases known with
  | create p r =>
    apply evidence_map
    apply evidence_map
    apply (settles_createGateway r).evidence
    exact fun _ _ _ _ placed => placed.evidence
  | update p id patch =>
    apply evidence_map
    unfold Hypershell.update
    split
    · exact trivial
    split
    · exact trivial
    split
    · exact trivial
    apply evidence_map
    apply update_commits.settles.evidence
    exact fun _ _ _ _ ⟨_, _, updated⟩ => .kept updated.kept
  | updateControlPlane p id patch console route version =>
    apply evidence_map
    unfold Hypershell.updateControlPlane
    split
    · exact trivial
    split
    · exact trivial
    split
    · exact trivial
    apply evidence_map
    apply update_commits.settles.evidence
    exact fun _ _ _ _ ⟨_, _, updated⟩ => .kept updated.kept
  | delete p id =>
    apply evidence_map
    apply (deleteGateway_settles p id).evidence
    exact fun _ _ _ _ ended => .kept (ended.1.kept ended.2.1)
  | createGrant p input =>
    apply evidence_map
    unfold Hypershell.createGrant
    split
    · exact trivial
    · apply evidence_map
      apply (settles_createGrant input).evidence
      exact fun _ _ _ _ granted => granted.evidence
  | deleteGrant p id => exact deleteGrant_evidence p id
  | prepareRequest p =>
    apply evidence_map
    apply settles_prepareRequest.evidence
    exact fun _ _ _ _ projected => projected.evidence
  | read p id =>
    apply evidence_map
    apply settles_identityScanCycle.evidence
    rintro _ _ _ _ ⟨rfl, -⟩
    exact (Store.Aside.refl _).evidence
  | save p id version generation revision data =>
    apply evidence_map
    exact save_evidence p id version generation revision data

theorem evidenceGoverned : System.Governed (evidenceContract svc) (fun _ _ _ => True)
    {p | EvidenceCall svc p} EvidenceWork Unevidenced where
  sound := evidenceContract_sound
  oracle _ := trivial
  safe _ known s _ := EvidenceCall.safe known s
  outside := fun holds work =>
    ⟨fun id => (work id).evidenced (holds id), fun id => (work id).progress⟩
  init := by
    intro s empty id
    have absent : ∀ g, s.gateway? id ≠ some g := by
      intro g stored
      have member := Table.mem_of_find? stored
      rw [empty.gateways] at member
      cases member
    exact ⟨fun _ => empty.checkpoints id, fun g _ stored => absurd stored (absent g)⟩

/-- **Every step** of the system is one of the evidence, for every Gateway. -/
theorem evidence_of_step {x y : System Env Store Event (Option Err)} (reach : EvidenceReachable svc x)
    (move : System.Moves {p | EvidenceCall svc p} EvidenceWork x y) (id : String) :
    EvidenceStep svc id x.store y.store := by
  have still : EvidenceStep svc id x.store x.store := (Store.Aside.refl _).evidence
  obtain ⟨record, step⟩ := move
  cases step with
  | start known => exact still
  | crash => exact still
  | interrupt ω started => exact still
  | outside moved => exact .kept (moved id)
  | act ω => exact (evidenceGoverned.step_safe (evidenceGoverned.good_of_reachable reach) ω).2.1 id

end System

end Hypershell
