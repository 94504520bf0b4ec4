import Mathlib.Algebra.GroupWithZero.Nat
import Hypershell.Storage.Store

/-!
# The Gateway table

What the generated store does for `Gateway`: reads of live and of retained rows, the
soft deletion, the conditional writes of cleanup observations, and the trigger that
every write of a row passes.

## Main definitions

* `Gateway.insert`, `Gateway.revise` — the two branches of the trigger
* `Gateway.cleanupTargets`, `Gateway.cleanupObservations`, `Gateway.pendingCleanup`
* `Store.observeCleanupIfVersion`, `Store.observeTargetCleanupIfVersion`,
  `Store.finalizeDeletionIfVersion`, `Store.deleteGateway`

## Main results

* `Gateway.revised_of_revise` — what the trigger guarantees of a stored row

## Design notes

* The keys of a JSON object are listed in a fixed order, so that two objects have
  the same keys if their lists of keys are equal.
* The trigger also bounds the JSON text of all targets, which 128 keys of at most
  256 bytes do not reach.
-/

namespace Hypershell

open Foundation

/-! ### Cleanup observations -/

/-- Every owner. -/
def CleanupOwner.all : List CleanupOwner := [.accounts, .allocation, .identity, .sql, .workload]

/-- Every owner of conditions. -/
def ConditionOwner.all : List ConditionOwner := [.identity, .identityUsers]

/-- The owners whose cleanup is observed per cluster. -/
def CleanupOwner.targeted : List CleanupOwner := [.allocation, .sql, .workload]

theorem CleanupOwner.mem_all (owner : CleanupOwner) : owner ∈ CleanupOwner.all := by
  cases owner <;> decide

namespace Gateway

/-- The clusters that an owner must clean up. -/
def targets (g : Gateway) (owner : CleanupOwner) : List String :=
  (g.cleanupTargetState owner).map Prod.fst

/-- Every target of an owner is complete. -/
def targetsComplete (g : Gateway) (owner : CleanupOwner) : Bool :=
  (g.cleanupTargetState owner).all Prod.snd

/-- The observation of one target, if it is one. -/
def target? (g : Gateway) (owner : CleanupOwner) (target : String) : Option Bool :=
  (g.cleanupTargetState owner).lookup target

/-- The total of all targets. -/
def targetTotal (g : Gateway) : Nat :=
  (CleanupOwner.targeted.map fun owner => (g.targets owner).length).sum

/-- A target name that may be stored. -/
def validTarget (target : String) : Bool :=
  decide (0 < target.utf8ByteSize) && decide (target.utf8ByteSize ≤ 256)

/-- `Gateway.CleanupTargets`: the retained observations, including earlier targets. -/
def cleanupTargets (g : Gateway) : Except Err (CleanupOwner → List (String × Bool)) :=
  if CleanupOwner.targeted.any fun owner => (g.cleanupTargetState owner).isEmpty then
    .error (.text "missing cleanup target history")
  else if CleanupOwner.targeted.any fun owner => decide (g.clusterID ∉ g.targets owner) then
    .error (.text "current cleanup target is absent")
  else if CleanupOwner.targeted.any fun owner => (g.targets owner).any fun t => !validTarget t then
    .error (.text "invalid cleanup target observation")
  else if g.targetTotal > 128 then
    .error (.text "cleanup target history exceeds its limit")
  else
    .ok g.cleanupTargetState

/-- `Gateway.CleanupObservations`: the recorded state of every owner. -/
def cleanupObservations (g : Gateway) : Except Err (CleanupOwner → Bool) :=
  match g.cleanupTargets with
  | .error e => .error e
  | .ok _ =>
    if CleanupOwner.targeted.any fun owner =>
        g.cleanupState owner != (!g.live && g.targetsComplete owner) then
      .error (.text "cleanup owner does not match its target observations")
    else
      .ok g.cleanupState

/-- `Gateway.PendingCleanup`: the owners whose cleanup of a deleted Gateway is not
complete. -/
def pendingCleanup (g : Gateway) : Except Err (List CleanupOwner) :=
  match g.cleanupObservations with
  | .error e => .error e
  | .ok states =>
    if g.live then .ok [] else .ok (CleanupOwner.all.filter fun owner => !states owner)

/-- Every owner's cleanup is complete. -/
def complete (g : Gateway) : Bool := CleanupOwner.all.all g.cleanupState

theorem complete_iff {g : Gateway} : g.complete = true ↔ ∀ owner, g.cleanupState owner = true := by
  rw [complete, List.all_eq_true]
  exact ⟨fun all owner => all owner owner.mem_all, fun all owner _ => all owner⟩

/-! ### The trigger -/

/-- No column differs that the Gateway's desired state consists of. -/
def sameSpec (old new : Gateway) : Bool :=
  decide (new.name = old.name ∧ new.clusterID = old.clusterID ∧
    new.releaseID = old.releaseID ∧ new.nameSpace = old.nameSpace ∧
    new.externalDNS = old.externalDNS ∧ new.tlsMode = old.tlsMode ∧
    new.serviceType = old.serviceType ∧ new.image = old.image ∧
    new.supervisorImage = old.supervisorImage ∧ new.serverDNSNames = old.serverDNSNames ∧
    new.oidc = old.oidc ∧ new.route = old.route ∧
    new.credentialDriver = old.credentialDriver ∧ new.deletedAt = old.deletedAt)

/-- No condition differs. -/
def sameConditions (old new : Gateway) : Bool :=
  ConditionOwner.all.all fun owner =>
    decide (new.conditionState owner = old.conditionState owner)

/-- No column differs but those that record the progress of work on the resource. -/
def sameResource (old new : Gateway) : Bool :=
  decide (new.id = old.id ∧ new.createdTime = old.createdTime) && sameSpec old new &&
    sameConditions old new &&
    decide (new.status = old.status ∧ new.phase = old.phase ∧
      new.routeAddress = old.routeAddress ∧ new.consoleAddress = old.consoleAddress ∧
      new.activeSandboxCount = old.activeSandboxCount)

/-- The trigger drops the cleanup observations unless a deleted row only records
some. -/
def resets (old new : Gateway) : Bool :=
  new.live || old.live || !sameResource old new

/-- The targets of an owner as they are written: a reset keeps the stored ones. -/
def writtenTargets (old new : Gateway) (owner : CleanupOwner) : List (String × Bool) :=
  if resets old new then old.cleanupTargetState owner else new.cleanupTargetState owner

/-- The history of targets is immutable, except that a reset adds the current one. -/
def allowsTargets (old new : Gateway) (owner : CleanupOwner) : Bool :=
  let keys := (writtenTargets old new owner).map Prod.fst
  validTarget new.clusterID && decide (keys = old.targets owner) &&
    (decide (new.clusterID ∈ keys) || resets old new) && keys.all validTarget

/-- The targets of an owner in the stored row.  A reset makes all incomplete. -/
def nextTargets (old new : Gateway) (owner : CleanupOwner) : List (String × Bool) :=
  let state := writtenTargets old new owner
  let state := if new.clusterID ∈ state.map Prod.fst then state
    else state ++ [(new.clusterID, false)]
  if resets old new then state.map fun entry => (entry.1, false) else state

/-- The stored row before its conditions and its finalization are checked. -/
def reviseCleanup (old new : Gateway) : Gateway :=
  { new with
    resourceVersion := old.resourceVersion + 1
    resourceGeneration := old.resourceGeneration + if sameSpec old new then 0 else 1
    observedGenerations :=
      if sameSpec old new then new.observedGenerations else old.observedGenerations
    cleanupTargetState := fun owner =>
      if owner ∈ CleanupOwner.targeted then nextTargets old new owner else []
    cleanupState := fun owner =>
      if owner ∈ CleanupOwner.targeted then
        !new.live && (nextTargets old new owner).all Prod.snd
      else if resets old new then false
      else new.cleanupState owner }

/-- The finalization of a row is permanent and needs a complete cleanup. -/
def reviseFinalization (time : Int) (old new : Gateway) : Except Err Gateway :=
  if old.deletionFinalizedAt.isSome then
    if new.deletionFinalizedAt ≠ old.deletionFinalizedAt then .error .storage else .ok new
  else if new.deletionFinalizedAt.isSome then
    if new.live ∨ new.complete = false then .error .storage
    else .ok { new with deletionFinalizedAt := some time }
  else
    .ok new

/-- A condition was observed of an earlier desired state or the current one. -/
def observedConditions (g : Gateway) : Bool :=
  ConditionOwner.all.all fun owner => (g.conditionState owner).all fun condition =>
    decide (1 ≤ condition.observedGeneration ∧
      condition.observedGeneration ≤ g.resourceGeneration)

/-- The `UPDATE` branch of the trigger: the row that is stored when `new` is to
replace `old`. -/
def revise (time : Int) (old new : Gateway) : Except Err Gateway :=
  if new.id ≠ old.id then
    .error .storage
  else if old.deletedAt.isSome ∧ new.deletedAt ≠ old.deletedAt then
    .error .storage
  else if (reviseCleanup old new).observedConditions = false then
    .error .storage
  else if CleanupOwner.targeted.any fun owner => !allowsTargets old new owner then
    .error .storage
  else
    let row := reviseCleanup old new
    if row.targetTotal > 128 then .error .storage else reviseFinalization time old row

/-- The `INSERT` branch of the trigger: the row that is stored for a new Gateway. -/
def insert (new : Gateway) : Except Err Gateway :=
  if new.deletionFinalizedAt.isSome ∨ ¬ validTarget new.clusterID then
    .error .storage
  else
    .ok { new with
      resourceVersion := 1
      resourceGeneration := 1
      conditionState := fun _ => none
      observedGenerations := fun _ => 0
      cleanupState := fun _ => false
      cleanupTargetState := fun owner =>
        if owner ∈ CleanupOwner.targeted then [(new.clusterID, false)] else [] }

theorem id_of_insert {new row : Gateway} (inserted : insert new = .ok row) : row.id = new.id := by
  unfold insert at inserted
  split_ifs at inserted
  cases inserted
  rfl

end Gateway

/-! ### What the trigger guarantees -/

/-- A row that the trigger stores in the place of `old` when `new` is written. -/
structure Revised (old new row : Gateway) : Prop where
  id : row.id = old.id
  version : row.resourceVersion = old.resourceVersion + 1
  clusterID : row.clusterID = new.clusterID
  deletedAt : row.deletedAt = new.deletedAt
  permanent : old.live = false → row.deletedAt = old.deletedAt
  /-- The state of an owner with targets is that of its targets. -/
  targeted : ∀ owner ∈ CleanupOwner.targeted,
    row.cleanupState owner = (!row.live && row.targetsComplete owner)
  untargeted : ∀ owner ∉ CleanupOwner.targeted,
    row.cleanupState owner = if old.resets new then false else new.cleanupState owner
  current : ∀ owner ∈ CleanupOwner.targeted, row.clusterID ∈ row.targets owner
  history : ∀ owner ∈ CleanupOwner.targeted, ∀ target ∈ old.targets owner,
    target ∈ row.targets owner
  dropped : old.resets new = true → ∀ owner ∈ CleanupOwner.targeted,
    ∀ entry ∈ row.cleanupTargetState owner, entry.2 = false
  recorded : old.resets new = false → ∀ owner ∈ CleanupOwner.targeted,
    row.cleanupTargetState owner = new.cleanupTargetState owner
  unfinalized : old.deletionFinalizedAt = none → new.deletionFinalizedAt = none →
    row.deletionFinalizedAt = none
  finalized : old.deletionFinalizedAt.isSome = true →
    row.deletionFinalizedAt = old.deletionFinalizedAt
  finalizes : old.deletionFinalizedAt = none → new.deletionFinalizedAt.isSome = true →
    row.deletionFinalizedAt.isSome = true ∧ row.live = false ∧ row.complete = true

namespace Gateway

variable {old new row : Gateway} {owner : CleanupOwner}

theorem allowsTargets_iff : allowsTargets old new owner = true ↔
    validTarget new.clusterID = true ∧
      (writtenTargets old new owner).map Prod.fst = old.targets owner ∧
      (new.clusterID ∈ old.targets owner ∨ resets old new = true) ∧
      (old.targets owner).all validTarget = true := by
  simp only [allowsTargets, Bool.and_eq_true, Bool.or_eq_true, decide_eq_true_eq, and_assoc]
  refine and_congr_right fun _ => and_congr_right fun same => ?_
  rw [same]

/-- A stored target was stored before or is the current one. -/
theorem keys_nextTargets (allowed : allowsTargets old new owner = true) :
    (nextTargets old new owner).map Prod.fst =
      if new.clusterID ∈ old.targets owner then old.targets owner
      else old.targets owner ++ [new.clusterID] := by
  obtain ⟨-, same, -, -⟩ := allowsTargets_iff.mp allowed
  have keep : ∀ state : List (String × Bool),
      (if resets old new then state.map fun entry => (entry.1, false) else state).map Prod.fst =
        state.map Prod.fst := by
    intro state
    split
    · rw [List.map_map]
      rfl
    · rfl
  simp only [nextTargets, keep, same]
  split
  · exact same
  · rw [List.map_append, same]
    rfl

theorem nextTargets_reset (reset : resets old new = true) :
    ∀ entry ∈ nextTargets old new owner, entry.2 = false := by
  intro entry member
  simp only [nextTargets, reset, if_true, List.mem_map] at member
  obtain ⟨_, -, rfl⟩ := member
  rfl

theorem nextTargets_recorded (allowed : allowsTargets old new owner = true)
    (kept : resets old new = false) :
    nextTargets old new owner = new.cleanupTargetState owner := by
  obtain ⟨-, same, present, -⟩ := allowsTargets_iff.mp allowed
  have written : writtenTargets old new owner = new.cleanupTargetState owner := by
    simp [writtenTargets, kept]
  have current : new.clusterID ∈ (writtenTargets old new owner).map Prod.fst := by
    rw [same]
    simpa [kept] using present
  rw [nextTargets]
  simp only [if_pos current, kept]
  exact written

theorem reviseFinalization_ok {time : Int} (stored : reviseFinalization time old new = .ok row) :
    row = { new with deletionFinalizedAt := row.deletionFinalizedAt } ∧
    (old.deletionFinalizedAt = none → new.deletionFinalizedAt = none →
      row.deletionFinalizedAt = none) ∧
    (old.deletionFinalizedAt.isSome = true → row.deletionFinalizedAt = old.deletionFinalizedAt) ∧
    (old.deletionFinalizedAt = none → new.deletionFinalizedAt.isSome = true →
      row.deletionFinalizedAt.isSome = true ∧ new.live = false ∧ new.complete = true) := by
  unfold reviseFinalization at stored
  split_ifs at stored with before differs proposed incomplete
  · cases stored
    refine ⟨rfl, fun none => ?_, fun _ => not_not.mp differs, fun none => ?_⟩
    · simp [none] at before
    · simp [none] at before
  · cases stored
    rw [not_or, Bool.not_eq_true, Bool.not_eq_false] at incomplete
    refine ⟨rfl, fun _ none => ?_, fun some => absurd some before, fun _ _ => ⟨rfl, incomplete⟩⟩
    simp [none] at proposed
  · cases stored
    refine ⟨rfl, fun _ none => none, fun some => absurd some before, fun _ some => ?_⟩
    exact absurd some proposed

/-- **The trigger** keeps the history of a row and ties the state of an owner to its
targets. -/
theorem revised_of_revise {time : Int} (stored : revise time old new = .ok row) :
    Revised old new row := by
  unfold revise at stored
  split_ifs at stored with identity reversed unobserved refused
  dsimp only at stored
  split_ifs at stored
  rw [not_not] at identity
  rw [List.any_eq_true, not_exists] at refused
  have allowed : ∀ owner ∈ CleanupOwner.targeted, allowsTargets old new owner = true := by
    intro owner member
    by_contra disallowed
    exact refused owner ⟨member, by simpa using disallowed⟩
  obtain ⟨same, unfinalized, finalized, finalizes⟩ := reviseFinalization_ok stored
  have targets : ∀ owner ∈ CleanupOwner.targeted,
      row.cleanupTargetState owner = nextTargets old new owner := by
    intro owner member
    rw [same]
    exact if_pos member
  have keys : ∀ owner ∈ CleanupOwner.targeted, row.targets owner =
      if new.clusterID ∈ old.targets owner then old.targets owner
      else old.targets owner ++ [new.clusterID] := by
    intro owner member
    rw [Gateway.targets, targets owner member]
    exact keys_nextTargets (allowed owner member)
  have live : row.live = new.live := by rw [same]; rfl
  refine ⟨?_, ?_, ?_, ?_, ?_, ?_, ?_, ?_, ?_, ?_, ?_, unfinalized, finalized, ?_⟩
  · rw [same]
    exact identity
  · rw [same]
    rfl
  · rw [same]
    rfl
  · rw [same]
    rfl
  · intro dead
    have deleted : old.deletedAt.isSome = true := by
      rw [Option.isSome_iff_ne_none]
      intro none
      simp [Meta.live, none] at dead
    rw [same]
    exact not_not.mp fun differs => reversed ⟨deleted, differs⟩
  · intro owner member
    rw [live, Gateway.targetsComplete, targets owner member, same]
    exact if_pos member
  · intro owner other
    rw [same]
    exact if_neg other
  · intro owner member
    have cluster : row.clusterID = new.clusterID := by rw [same]; rfl
    rw [keys owner member, cluster]
    split
    · assumption
    · exact List.mem_append_right _ (List.mem_singleton_self _)
  · intro owner member target known
    rw [keys owner member]
    split
    · exact known
    · exact List.mem_append_left _ known
  · intro reset owner member entry stored'
    rw [targets owner member] at stored'
    exact nextTargets_reset reset entry stored'
  · intro kept owner member
    rw [targets owner member]
    exact nextTargets_recorded (allowed owner member) kept
  · intro before after
    obtain ⟨some, dead, complete⟩ := finalizes before after
    refine ⟨some, live.trans dead, ?_⟩
    rw [same]
    exact complete

end Gateway

/-- A write that leaves the finalization alone keeps it. -/
theorem Revised.finalization {old new row : Gateway} (revised : Revised old new row)
    (same : new.deletionFinalizedAt = old.deletionFinalizedAt) :
    row.deletionFinalizedAt = old.deletionFinalizedAt := by
  cases before : old.deletionFinalizedAt with
  | none => exact revised.unfinalized before (same.trans before)
  | some time =>
    rw [← before]
    exact revised.finalized (by rw [before]; rfl)

namespace Store

/-! ### Reads and writes -/

/-- The Gateway row, live or deleted. -/
def gateway? (s : Store) (id : String) : Option Gateway := s.gateways.find? id

/-- The live Gateway row that `WithLockedResource` locks. -/
def getGateway (id : String) (s : Store) : Except Err Gateway :=
  match s.gateway? id with
  | some row => if row.live then .ok row else .error .notFound
  | none => .error .notFound

/-- `GetRetained(ctx, "Gateway", id)`. -/
def getRetained (id : String) (s : Store) : Except Err Gateway :=
  match s.gateway? id with
  | some row => .ok row
  | none => .error .notFound

/-- `Create(ctx, "Gateway", row)`. -/
def createGateway (new : Gateway) (s : Store) : Except Err Store :=
  match Gateway.insert { new with
      createdTime := s.time, updatedTime := s.time, deletedAt := none } with
  | .error e => .error e
  | .ok row =>
    match s.gateways.insert? row with
    | some gateways => .ok { s with gateways := gateways }
    | none => .error .conflict

/-- A write of a Gateway row, through the trigger. -/
def updateGateway (old new : Gateway) (s : Store) : Except Err Store :=
  match Gateway.revise s.time old new with
  | .error e => .error e
  | .ok row =>
    match s.gateways.replace? row with
    | some gateways => .ok { s with gateways := gateways }
    | none => .error .conflict

/-- A write of a deleted row at the given revision, if `p` holds of it. -/
def updateIfVersion (id : String) (version : Int) (p : Gateway → Bool)
    (write : Gateway → Gateway) (s : Store) : Except Err Store :=
  match s.gateway? id with
  | none => .error .versionConflict
  | some row =>
    if (row.resourceVersion : Int) = version ∧ row.live = false ∧ p row = true then
      let row' := write row
      s.updateGateway row { row' with updatedTime := s.time }
    else
      .error .versionConflict

/-- `ObserveCleanupIfVersion`. -/
def observeCleanupIfVersion (id : String) (version : Int) (owner : CleanupOwner)
    (complete : Bool) (s : Store) : Except Err Store :=
  if owner ∈ CleanupOwner.targeted then
    .error (.text "cleanup owner requires a target observation")
  else
    s.updateIfVersion id version (fun _ => true) fun row =>
      { row with cleanupState := Function.update row.cleanupState owner complete }

/-- The observations of an owner with one of them changed. -/
def setTarget (target : String) (complete : Bool) (entries : List (String × Bool)) :
    List (String × Bool) :=
  entries.map fun entry => if entry.1 = target then (entry.1, complete) else entry

/-- `ObserveTargetCleanupIfVersion`. -/
def observeTargetCleanupIfVersion (id : String) (version : Int) (owner : CleanupOwner)
    (target : String) (complete : Bool) (s : Store) : Except Err Store :=
  if owner ∉ CleanupOwner.targeted then
    .error (.text "target cleanup owner is not declared")
  else
    s.updateIfVersion id version (fun row => decide (target ∈ row.targets owner)) fun row =>
      { row with
        cleanupTargetState := Function.update row.cleanupTargetState owner
          (setTarget target complete (row.cleanupTargetState owner)) }

/-- `FinalizeDeletionIfVersion`. -/
def finalizeDeletionIfVersion (id : String) (version : Int) (s : Store) : Except Err Store :=
  s.updateIfVersion id version (fun row => row.deletionFinalizedAt.isNone && row.complete)
    fun row => { row with deletionFinalizedAt := some s.time }

/-- `Delete(ctx, "Gateway", id)`. -/
def deleteGateway (id : String) (s : Store) : Except Err Store :=
  match s.getGateway id with
  | .error e => .error e
  | .ok row => s.updateGateway row { row with deletedAt := some s.time }

/-- `Notify`: publish one message with the commit. -/
def notify (sourceID eventType kind : String) (s : Store) : Except Err Store :=
  .ok { s with outbox := s.outbox ++ [⟨sourceID, eventType, kind⟩] }

/-! ### What the reads find -/

section Reads

variable {s : Store} {id : String} {g : Gateway} {e : Err}

theorem getGateway_ok (found : s.getGateway id = .ok g) :
    s.gateway? id = some g ∧ g.live = true := by
  unfold getGateway at found
  split at found
  · rename_i row stored
    split_ifs at found with alive
    cases found
    exact ⟨stored, alive⟩
  · cases found

theorem getGateway_error (absent : s.getGateway id = .error e) :
    e = .notFound ∧ ∀ g, s.gateway? id = some g → g.live = false := by
  unfold getGateway at absent
  split at absent
  · rename_i row stored
    split_ifs at absent with alive
    cases absent
    refine ⟨rfl, fun g found => ?_⟩
    rw [stored] at found
    cases found
    simpa using alive
  · rename_i missing
    cases absent
    refine ⟨rfl, fun g found => ?_⟩
    rw [missing] at found
    cases found

theorem getRetained_ok (found : s.getRetained id = .ok g) : s.gateway? id = some g := by
  unfold getRetained at found
  split at found
  · cases found
    assumption
  · cases found

theorem createGateway_ok {new : Gateway} {t : Store} (created : s.createGateway new = .ok t) :
    ∃ gateways row, t = { s with gateways := gateways } ∧
      Gateway.insert { new with
        createdTime := s.time, updatedTime := s.time, deletedAt := none } = .ok row ∧
      gateways.rows = s.gateways.rows ++ [row] ∧ s.gateway? row.id = none := by
  unfold createGateway at created
  split at created
  · cases created
  · rename_i row inserted
    split at created
    · rename_i gateways added
      cases created
      exact ⟨gateways, row, rfl, inserted, Table.rows_of_insert? added,
        Table.absent_of_insert? added⟩
    · cases created

/-- A new row is found under its ID. -/
theorem gateway?_of_append {t : Store} (absent : s.gateway? g.id = none)
    (rows : t.gateways.rows = s.gateways.rows ++ [g]) (id : String) :
    t.gateway? id = if id = g.id then some g else s.gateway? id := by
  unfold gateway? at absent ⊢
  rw [Table.find?, rows, List.find?_append, ← Table.find?]
  split
  · rename_i same
    subst same
    rw [absent]
    simp
  · rename_i other
    have miss : ([g] : List Gateway).find? (fun a => decide (Relation.key a = id)) = none := by
      simpa using fun same => other same.symm
    rw [miss, Option.or_none]

theorem updateGateway_ok {old new : Gateway} {t : Store} (stored : s.gateway? old.id = some old)
    (updated : s.updateGateway old new = .ok t) :
    ∃ gateways row, t = { s with gateways := gateways } ∧ Revised old new row ∧
      s.gateways.Becomes gateways old row := by
  unfold updateGateway at updated
  split at updated
  · cases updated
  · rename_i row revised
    split at updated
    · rename_i gateways replaced
      cases updated
      have guaranteed := Gateway.revised_of_revise revised
      refine ⟨gateways, row, rfl, guaranteed, Table.becomes_of_replace? replaced ?_⟩
      rw [key_gateway, guaranteed.id]
      exact stored
    · cases updated

theorem updateIfVersion_ok {version : Int} {p : Gateway → Bool} {write : Gateway → Gateway}
    {t : Store} (updated : s.updateIfVersion id version p write = .ok t) :
    ∃ old gateways row, s.gateway? id = some old ∧ (old.resourceVersion : Int) = version ∧
      old.live = false ∧ p old = true ∧ t = { s with gateways := gateways } ∧
      Revised old { write old with updatedTime := s.time } row ∧
      s.gateways.Becomes gateways old row := by
  unfold updateIfVersion at updated
  split at updated
  · cases updated
  · rename_i old stored
    split_ifs at updated with current
    obtain ⟨version, dead, holds⟩ := current
    have key : old.id = id := Table.key_of_find? stored
    obtain ⟨gateways, row, same, revised, becomes⟩ :=
      updateGateway_ok (by rw [key]; exact stored) updated
    exact ⟨old, gateways, row, stored, version, dead, holds, same, revised, becomes⟩

theorem id_of_gateway? (stored : s.gateway? id = some g) : g.id = id :=
  Table.key_of_find? stored

end Reads

/-- There is a live Gateway row to lock. -/
def GatewayLive (s : Store) (gatewayID : String) : Prop :=
  ∃ g, s.gateway? gatewayID = some g ∧ g.live = true

theorem GatewayLive.not_dead {s : Store} {gatewayID : String} (live : s.GatewayLive gatewayID) :
    ¬ ∀ g, s.gateway? gatewayID = some g → g.live = false := by
  obtain ⟨g, found, alive⟩ := live
  intro dead
  rw [dead g found] at alive
  cases alive

end Store

/-! ### What a list shows of a row -/

/-- The generation an observation group was confirmed at, zero if it is invalid. -/
def Gateway.observedGeneration (g : Gateway) (group : ObservationGroup) : Nat :=
  let value := g.observedGenerations group
  if value < 1 ∨ value > g.resourceGeneration then 0 else value

/-- Unconfirmed observations give way to their declared unobserved values. -/
def Gateway.currentObservations (g : Gateway) : Gateway :=
  let stale (group : ObservationGroup) : Bool :=
    decide (g.resourceGeneration < 1) ||
      decide (g.observedGeneration group ≠ g.resourceGeneration)
  let g := if stale .console then { g with consoleAddress := some "" } else g
  let g := if stale .endpoint then { g with routeAddress := some "" } else g
  let g :=
    if stale .workload then
      { g with phase := some "Provisioning", status := some "ObservationPending" }
    else g
  if g.deletedAt.isSome && g.deletionFinalizedAt.isNone then
    { g with phase := some "Deleting", status := some "Gateway cleanup is in progress" }
  else g

end Hypershell
