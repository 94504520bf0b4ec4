import Hypershell.Gateways.IdentityCycle

/-!
# What the operations on an identity cycle do

The invalidation of a cycle and the save of a cycle, as the stores they leave.

## Main definitions

* `Gateway.Noted` — a row whose conditions and revision alone may differ
* `Store.Conditioned` — a condition was observed
* `Store.Invalidated`, `CycleSaved` — the ends of the two operations

## Main results

* `wp_resetIdentityCycle`, `wp_saveIdentityScanCycleBody`, `wp_identityScanCycleBody`
-/

namespace Hypershell

open Foundation

namespace Gateway

/-- A row of the same resource: its conditions, its revision and what the trigger keeps of
the cleanup may differ.  Its deletion is as far as it was. -/
structure Noted (g g' : Gateway) : Prop where
  columns : g' = { g with
    updatedTime := g'.updatedTime
    resourceVersion := g'.resourceVersion
    conditionState := g'.conditionState
    cleanupState := g'.cleanupState
    cleanupTargetState := g'.cleanupTargetState }
  version : g' = g ∨ g'.resourceVersion = g.resourceVersion + 1

theorem Noted.refl (g : Gateway) : g.Noted g := ⟨rfl, Or.inl rfl⟩

section Noted

variable {g g' : Gateway} (noted : g.Noted g')
include noted

theorem Noted.live : g'.live = g.live := by
  rw [noted.columns]
  rfl

theorem Noted.generation : g'.resourceGeneration = g.resourceGeneration := by
  rw [noted.columns]

theorem Noted.clusterID : g'.clusterID = g.clusterID := by
  rw [noted.columns]

theorem Noted.releaseID : g'.releaseID = g.releaseID := by
  rw [noted.columns]

theorem Noted.version_le : g.resourceVersion ≤ g'.resourceVersion := by
  rcases noted.version with same | next
  · rw [same]
  · omega

end Noted

/-- The condition of the grants is current and as an update says. -/
def Reports (g : Gateway) (update : ConditionUpdate) : Prop :=
  let condition := g.condition .identityUsers
  condition.current = true ∧ condition.status = update.status ∧
    condition.reason = update.reason ∧ condition.message = update.message

/-- The row that a new observation leaves. -/
theorem noted_of_revise {time : Int} {g g' : Gateway} {update : ConditionUpdate}
    (live : g.live = true)
    (stored : revise time g (g.observeCondition time .identityUsers update) = .ok g') :
    g.Noted g' ∧ g'.Reports update ∧ g'.resourceVersion = g.resourceVersion + 1 := by
  have columns := eq_of_revise stored
  have spec : sameSpec g (g.observeCondition time .identityUsers update) = true := by
    simp [sameSpec, observeCondition]
  rw [spec] at columns
  have generation : g'.resourceGeneration = g.resourceGeneration := by
    rw [columns]
    rfl
  have version : g'.resourceVersion = g.resourceVersion + 1 := by
    rw [columns]
  have alive : g'.live = true := by
    rw [columns]
    exact live
  have condition : ∃ since, g'.conditionState .identityUsers =
      some ⟨update.status, update.reason, update.message, g.resourceGeneration, since⟩ := by
    have kept : g'.conditionState = (g.observeCondition time .identityUsers update).conditionState := by
      rw [columns]
    rw [kept]
    exact observeCondition_self g time .identityUsers update
  have finalized : g'.deletionFinalizedAt = g.deletionFinalizedAt :=
    (revised_of_revise stored).finalization rfl
  refine ⟨⟨?_, Or.inr version⟩, ?_, version⟩
  · rw [columns] at finalized ⊢
    dsimp only at finalized ⊢
    rw [finalized]
    rfl
  · obtain ⟨since, state⟩ := condition
    simp only [Reports, Gateway.condition, state, alive, generation, decide_true, Bool.and_self,
      and_self]

end Gateway

/-- The condition of a Gateway's grants was observed, and written unless it was known. -/
structure Store.Conditioned (s : Store) (id : String) (update : ConditionUpdate) (g g' : Gateway)
    (changed : Bool) (t : Store) : Prop where
  rest : ∃ gateways, t = { s with gateways := gateways }
  stored : t.gateway? id = some g'
  others : ∀ id' ≠ id, t.gateway? id' = s.gateway? id'
  noted : g.Noted g'
  reports : g'.Reports update
  unchanged : changed = false → t = s ∧ g' = g
  changes : changed = true → g'.resourceVersion = g.resourceVersion + 1

section Steps

variable [Platform] {L : Type} {ω : Env} {c : Context Store Event L} {id : String}

/-- **The observation of the condition.** -/
theorem wp_writeGrantCondition {g : Gateway} {update : ConditionUpdate}
    {ok : Bool → Context Store Event L → Prop} {fails : Err → Context Store Event L → Prop}
    (here : c.store.gateway? id = some g) (live : g.live = true)
    (failed : ∀ e n, fails e (c.at n))
    (noted : ∀ changed n g' t, Store.Conditioned c.store id update g g' changed t →
      ok changed (c.put n t)) :
    Tx.wp ω (writeGrantCondition g update) ok fails c := by
  have key : g.id = id := Store.id_of_gateway? here
  simp only [writeGrantCondition, Tx.wp_bind]
  refine Tx.wp_lift (fun _ _ => failed _ c.tick) fun values read => ?_
  rw [Gateway.conditions_ok read, Tx.wp_ite]
  split
  · rename_i known
    refine noted false c.tick g c.store ⟨⟨_, rfl⟩, here, fun _ _ => rfl, .refl g, known, ?_, ?_⟩
    · exact fun _ => ⟨rfl, rfl⟩
    · exact fun never => nomatch never
  · rw [Tx.wp_bind]
    refine Action.wp_update (fun _ => failed _ _) (fun _ _ => failed _ _) fun t written => ?_
    rw [key] at written
    unfold Store.observeConditionsIfVersion at written
    split_ifs at written
    obtain ⟨old, g', -, rewritten⟩ := Store.writeIfVersion_ok written
    obtain rfl : old = g := by
      have same := rewritten.stored
      rw [here] at same
      exact (Option.some.inj same).symm
    obtain ⟨noted', reports, version⟩ := Gateway.noted_of_revise live rewritten.revise
    refine noted true _ g' t ⟨rewritten.same, rewritten.gateway?, fun _ => rewritten.others, noted',
      reports, ?_, fun _ => version⟩
    exact fun never => nomatch never

end Steps

/-! ### Invalidation -/

/-- A Gateway's cycle was invalidated: its cursor is empty under the next version, and its
condition is unknown. -/
structure Store.Invalidated (s : Store) (id : String) (t : Store) : Prop where
  rest : ∃ gateways checkpoints, t = { s with gateways := gateways, checkpoints := checkpoints }
  row : ∃ g g', s.gateway? id = some g ∧ g.live = true ∧ t.gateway? id = some g' ∧ g.Noted g' ∧
    g'.Reports changedUpdate
  others : ∀ id' ≠ id, t.gateway? id' = s.gateway? id'
  version : t.checkpointVersion id identityCycleScope =
    s.checkpointVersion id identityCycleScope + 1
  cursor : t.checkpointCursor id identityCycleScope = ""
  checkpoints : ∀ id' scope, (id', scope) ≠ (id, identityCycleScope) →
    t.checkpoint? id' scope = s.checkpoint? id' scope

section Reset

variable [Platform] {L : Type} {ω : Env} {c : Context Store Event L} {id : String}

/-- **The invalidation of a cycle.** -/
theorem wp_resetIdentityCycle {ok : Unit → Context Store Event L → Prop}
    {fails : Err → Context Store Event L → Prop}
    (failed : ∀ e n t, fails e (c.put n t))
    (invalidated : ∀ n t, c.store.Invalidated id t → ok () (c.put n t)) :
    Tx.wp ω (resetIdentityCycle id) ok fails c := by
  simp only [resetIdentityCycle, Tx.wp_bind]
  refine Action.wp_query (fun _ => failed _ _ c.store) (fun _ _ => failed _ _ c.store) ?_
  intro previous loaded
  have known := Store.loadCheckpoint_ok loaded
  refine Action.wp_update (fun _ => failed _ _ c.store) (fun _ _ => failed _ _ c.store) ?_
  intro u wrote
  obtain ⟨version, expected, saved⟩ := Store.saveCheckpoint_ok wrote
  have same : c.store.checkpointVersion id identityCycleScope = version := saved.before
  refine Action.wp_query (fun _ => failed _ _ u) (fun _ _ => failed _ _ u) ?_
  intro g read
  obtain ⟨here, live⟩ := Store.getGateway_ok read
  rw [Tx.wp_require]
  split_ifs
  swap
  · exact failed _ _ u
  refine wp_writeGrantCondition here live (fun e n => failed e n u) ?_
  intro changed n g' t noted
  obtain ⟨checkpoints, rfl⟩ := saved.same
  obtain ⟨gateways, rfl⟩ := noted.rest
  refine invalidated n _ ⟨⟨gateways, checkpoints, rfl⟩, ?_, noted.others, ?_, ?_, ?_⟩
  · exact ⟨g, g', here, live, noted.stored, noted.noted, noted.reports⟩
  · rw [same]
    exact saved.version
  · exact saved.cursor
  · exact saved.others

end Reset

/-! ### Reads and saves -/

/-- The values of a scan are those of the store: the version of the checkpoint, and the
generation and revision of the Gateway. -/
structure IdentityCycle.Of (values : IdentityCycle) (s : Store) (id : String) : Prop where
  version : values.checkpoint.version = s.checkpointVersion id identityCycleScope
  row : ∃ g, s.gateway? id = some g ∧ values.generation = g.resourceGeneration ∧
    values.revision = g.resourceVersion

/-- A cycle was saved: what its writer knew, what it replaced, and what it left. -/
structure CycleSaved (s : Store) (id : String) (version generation revision : Int)
    (data : String) (cycle : CycleState) (g g' : Gateway) (old : CycleState) (t : Store) :
    Prop where
  rest : ∃ gateways checkpoints outbox,
    t = { s with gateways := gateways, checkpoints := checkpoints, outbox := outbox }
  stored : s.gateway? id = some g
  live : g.live = true
  generation : (g.resourceGeneration : Int) = generation
  revision : (g.resourceVersion : Int) = revision
  known : (s.checkpointVersion id identityCycleScope : Int) = version
  replaced : decodeCycle (s.checkpointCursor id identityCycleScope) = .ok old
  follows : validateCycleTransition old cycle = .ok ()
  advances : cycleAdvances old cycle = true
  cursor : cycle.after = "" ∨ grantCursor id cycle.after s = .ok ()
  row : t.gateway? id = some g'
  noted : g.Noted g'
  others : ∀ id' ≠ id, t.gateway? id' = s.gateway? id'
  version : t.checkpointVersion id identityCycleScope =
    s.checkpointVersion id identityCycleScope + 1
  data : t.checkpointCursor id identityCycleScope = data
  checkpoints : ∀ id' scope, (id', scope) ≠ (id, identityCycleScope) →
    t.checkpoint? id' scope = s.checkpoint? id' scope
  /-- An outcome is recorded. -/
  outcome : cycle.failed = true ∨ cycle.complete = true → g'.Reports (syncUpdate cycle.failed)
  /-- Otherwise the Gateway is left alone. -/
  open_ : cycle.failed = false → cycle.complete = false → g' = g
  /-- A new outcome is published. -/
  outbox : g' = g ∧ t.outbox = s.outbox ∨ g.resourceVersion < g'.resourceVersion ∧
    t.outbox = s.outbox ++ [⟨id, "Update", "gateway.updated"⟩]

section Save

variable [Platform] {L : Type} {ω : Env} {id : String}

theorem wp_validateIdentityCursor {c : Context Store Event L} {after : String}
    {ok : Unit → Context Store Event L → Prop} {fails : Err → Context Store Event L → Prop}
    (failed : ∀ e n, fails e (c.at n))
    (valid : ∀ n, after = "" ∨ grantCursor id after c.store = .ok () → ok () (c.at n)) :
    Tx.wp ω (validateIdentityCursor id after) ok fails c := by
  unfold validateIdentityCursor
  rw [Tx.wp_ite]
  split
  · rename_i empty
    exact valid c.tick (Or.inl empty)
  · exact Action.wp_query (fun _ => failed _ _) (fun _ _ => failed _ _)
      fun _ found => valid _ (Or.inr found)

/-- **The outcome of a cycle** is recorded and published if it is new. -/
theorem wp_publishCycle {c : Context Store Event IdentityCycle} {g : Gateway} {cycle : CycleState}
    {ok : Unit → Context Store Event IdentityCycle → Prop}
    {fails : Err → Context Store Event IdentityCycle → Prop}
    (here : c.store.gateway? id = some g) (live : g.live = true)
    (revision : c.locals.revision = g.resourceVersion)
    (failed : ∀ e n t, fails e (c.put n t))
    (published : ∀ n g' gateways outbox,
      gateways.find? id = some g' → g.Noted g' →
      (∀ id' ≠ id, gateways.find? id' = c.store.gateway? id') →
      (cycle.failed = true ∨ cycle.complete = true → g'.Reports (syncUpdate cycle.failed)) →
      (cycle.failed = false → cycle.complete = false → g' = g) →
      (g' = g ∧ outbox = c.store.outbox ∨ g.resourceVersion < g'.resourceVersion ∧
        outbox = c.store.outbox ++ [⟨id, "Update", "gateway.updated"⟩]) →
      ok () { c.put n { c.store with gateways := gateways, outbox := outbox } with
        locals := { c.locals with revision := g'.resourceVersion } }) :
    Tx.wp ω (publishCycle id g cycle) ok fails c := by
  have still : c.locals = { c.locals with revision := g.resourceVersion } := by
    rw [← revision]
  unfold publishCycle
  rw [Tx.wp_ite]
  split
  · rename_i quiet
    have done := published c.tick g c.store.gateways c.store.outbox here (.refl g)
      (fun _ _ => rfl) (fun ends => by simp [quiet.1, quiet.2] at ends) (fun _ _ => rfl)
      (Or.inl ⟨rfl, rfl⟩)
    rw [← still] at done
    exact done
  · rename_i ends
    have noisy : ¬ (cycle.failed = false ∧ cycle.complete = false) := ends
    rw [Tx.wp_bind]
    refine wp_writeGrantCondition here live (fun e n => failed e n c.store) ?_
    intro changed n g' t noted
    obtain ⟨gateways, rfl⟩ := noted.rest
    rw [Tx.wp_ite]
    split
    · rename_i same
      obtain ⟨unchanged, rfl⟩ := noted.unchanged same
      have done := published n g' gateways c.store.outbox noted.stored noted.noted noted.others
        (fun _ => noted.reports) (fun first second => absurd ⟨first, second⟩ noisy)
        (Or.inl ⟨rfl, rfl⟩)
      rw [← still] at done
      exact done
    · rename_i changes
      have newer : g.resourceVersion < g'.resourceVersion := by
        rw [noted.changes (Bool.not_eq_false _ ▸ changes)]
        exact Nat.lt_succ_self _
      rw [Tx.wp_bind]
      refine Action.wp_update (fun _ => failed _ _ _) (fun _ _ => failed _ _ _) fun u wrote => ?_
      cases wrote
      rw [Tx.wp_bind]
      refine Action.wp_query (fun _ => failed _ _ _) (fun _ _ => failed _ _ _) fun current read => ?_
      obtain ⟨found, -⟩ := Store.getGateway_ok read
      obtain rfl : current = g' := Option.some.inj (found.symm.trans noted.stored)
      rw [Tx.wp_bind, Tx.wp_require]
      split
      · exact published _ current gateways _ noted.stored noted.noted noted.others
          (fun _ => noted.reports) (fun first second => absurd ⟨first, second⟩ noisy)
          (Or.inr ⟨newer, rfl⟩)
      · exact failed _ _ _

/-- **The save of a cycle.** -/
theorem wp_saveIdentityScanCycleBody {c : Context Store Event IdentityCycle}
    {version generation revision : Int} {data : String} {cycle : CycleState} {g : Gateway}
    {ok : Unit → Context Store Event IdentityCycle → Prop}
    {fails : Err → Context Store Event IdentityCycle → Prop}
    (here : c.store.gateway? id = some g) (live : g.live = true)
    (failed : ∀ e n t l, fails e { c.put n t with locals := l })
    (saved : ∀ n g' old t (l : IdentityCycle),
      CycleSaved c.store id version generation revision data cycle g g' old t →
      l.checkpoint.after = data → l.Of t id → ok () { c.put n t with locals := l }) :
    Tx.wp ω (saveIdentityScanCycleBody id version generation revision data cycle g) ok fails c := by
  have failedAt : ∀ e n, fails e (c.at n) := fun e n => failed e n c.store c.locals
  simp only [saveIdentityScanCycleBody, Tx.wp_bind, Tx.wp_require]
  split_ifs with named current
  swap
  · exact failedAt _ c.tick
  swap
  · exact failedAt _ c.tick
  refine Action.wp_query (fun _ => failedAt _ _) (fun _ _ => failedAt _ _) fun previous loaded => ?_
  have known := Store.loadCheckpoint_ok loaded
  subst known
  split_ifs with expected
  swap
  · exact failedAt _ _
  refine Tx.wp_lift (fun _ _ => failedAt _ _) fun old decoded => ?_
  split_ifs with allowed
  swap
  · exact failedAt _ _
  refine wp_validateIdentityCursor (fun e n => failedAt e n) fun n cursor => ?_
  rw [Tx.wp_attempt]
  refine Action.wp_update (fun _ => failed _ _ c.store _) (fun _ _ => failed _ _ c.store _) ?_
  intro u wrote
  obtain ⟨stored, same, saved'⟩ := Store.saveCheckpoint_ok wrote
  obtain ⟨checkpoints, rfl⟩ := saved'.same
  dsimp only
  rw [Tx.wp_bind, Tx.wp_capture]
  refine wp_publishCycle (g := g) here live rfl (fun e n t => failed e n t _) ?_
  intro n g' gateways outbox found noted others outcome quiet publishes
  have before : c.store.checkpointVersion id identityCycleScope = stored := saved'.before
  have after : (Store.checkpointVersion { c.store with checkpoints := checkpoints } id
      identityCycleScope) = stored + 1 := saved'.version
  refine saved _ g' old _ _ ⟨⟨gateways, checkpoints, outbox, rfl⟩, here, live, current.1, current.2,
    expected, decoded, allowed.1, allowed.2, cursor, found, noted, others, ?_, saved'.cursor,
    saved'.others, outcome, quiet, publishes⟩ rfl ⟨?_, g', found, ?_, rfl⟩
  · rw [before]
    exact after
  · show c.store.checkpointVersion id identityCycleScope + 1 = _
    rw [before]
    exact after.symm
  · exact noted.generation.symm

/-- **The read of a cycle** changes nothing. -/
theorem wp_identityScanCycleBody {c : Context Store Event IdentityCycle}
    {ok : Unit → Context Store Event IdentityCycle → Prop}
    {fails : Err → Context Store Event IdentityCycle → Prop}
    (failed : ∀ e n l, fails e { c.at n with locals := l })
    (read : ∀ n (l : IdentityCycle), l.Of c.store id → ok () { c.at n with locals := l }) :
    Tx.wp ω (identityScanCycleBody id) ok fails c := by
  have failedAt : ∀ e n, fails e (c.at n) := fun e n => failed e n c.locals
  simp only [identityScanCycleBody, Tx.wp_bind]
  refine Action.wp_query (fun _ => failedAt _ _) (fun _ _ => failedAt _ _) fun g found => ?_
  obtain ⟨here, -⟩ := Store.getGateway_ok found
  rw [Tx.wp_require]
  split_ifs
  swap
  · exact failedAt _ _
  refine Action.wp_query (fun _ => failedAt _ _) (fun _ _ => failedAt _ _) fun checkpoint loaded => ?_
  have known := Store.loadCheckpoint_ok loaded
  subst known
  rw [Tx.wp_capture]
  refine Tx.wp_lift (fun _ _ => failed _ _ _) fun cycle _ => ?_
  rw [Tx.wp_capture]
  refine read _ _ ⟨?_, g, here, rfl, rfl⟩
  dsimp only
  split <;> rfl

end Save

end Hypershell
