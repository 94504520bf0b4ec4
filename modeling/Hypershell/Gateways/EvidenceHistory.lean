import Mathlib.Data.List.Chain
import Hypershell.Gateways.Evidence

/-!
# The history of the evidence

Only a chain of saves after the last change of a Gateway's grants can confirm that they are
synchronized: from an empty cursor to its end, without a failure.

## Main definitions

* `Since` — the saves accepted since the last change of a Gateway's grants
* `FullCycle` — a chain of saves of one source to its end, without a failure

## Main results

* `unchanged_since` — an accepted save knows what is stored
* `Since.agrees` — the history accounts for the checkpoint and the condition
* `evidence_fresh` — the evidence is never stale
-/

namespace Hypershell

open Foundation

/-! ### The history of saves -/

/-- A chain of saves of one source that starts over, fails nowhere and comes to its end. -/
def FullCycle (source : String) (chain : List CycleState) : Prop :=
  ∃ pages last, chain = pages ++ [last] ∧
    (∀ page ∈ pages, page.source = source ∧ page.failed = false ∧ page.complete = false) ∧
    last.source = source ∧ last.failed = false ∧ last.complete = true

/-- What was saved before leaves an empty cursor to a cycle of the given source: it is nothing,
of another source or complete. -/
def EmptyCursor (source : String) (saves : List CycleState) : Prop :=
  ∀ last ∈ saves.getLast?, last.source ≠ source ∨ last.complete = true

/-- A failure of a running cycle is still there in the next save of its source. -/
def KeepsFailure (cycle next : CycleState) : Prop :=
  next.source = cycle.source → cycle.complete = false → cycle.failed = true → next.failed = true

section History

/-- One of several saves that follow each other is the end of a run without failures. -/
theorem exists_run {saves : List CycleState} {next : CycleState}
    (chain : (saves ++ [next]).IsChain KeepsFailure) (unfailed : next.failed = false) :
    ∃ pre pages, saves = pre ++ pages ∧ EmptyCursor next.source pre ∧
      ∀ page ∈ pages, page.source = next.source ∧ page.failed = false ∧ page.complete = false := by
  induction saves using List.reverseRecOn generalizing next with
  | nil =>
    refine ⟨[], [], rfl, fun last member => ?_, fun page member => ?_⟩
    · cases member
    · cases member
  | append_singleton saves last ih =>
    have earlier : (saves ++ [last]).IsChain KeepsFailure := chain.left_of_append
    have follows : KeepsFailure last next := by
      rw [List.append_assoc] at chain
      have pair : [last, next].IsChain KeepsFailure := chain.right_of_append
      exact List.isChain_pair.mp pair
    by_cases running : last.source = next.source ∧ last.complete = false
    · have healthy : last.failed = false := by
        by_contra failed
        rw [Bool.not_eq_false] at failed
        rw [follows running.1.symm running.2 failed] at unfailed
        cases unfailed
      obtain ⟨pre, pages, rfl, empty, run⟩ := ih earlier healthy
      rw [running.1] at empty run
      refine ⟨pre, pages ++ [last], List.append_assoc .., empty, fun page member => ?_⟩
      rcases List.mem_append.mp member with member | member
      · exact run page member
      · rw [List.mem_singleton.mp member]
        exact ⟨running.1, healthy, running.2⟩
    · refine ⟨saves ++ [last], [], (List.append_nil _).symm, fun page member => ?_, ?_⟩
      swap
      · intro page member
        cases member
      rw [List.getLast?_concat, Option.mem_some_iff] at member
      subst member
      rw [not_and_or, Bool.not_eq_false] at running
      exact running

variable [Platform] (svc : GatewayService)

/-- The saves accepted since the last change of a Gateway's grants. -/
inductive Since (id : String) : List CycleState → System Env Store Event (Option Err) → Prop
  | start {s : Store} (empty : Unevidenced s) : Since id [] ⟨s, []⟩
  | changed {saves : List CycleState} {x y : System Env Store Event (Option Err)}
      (since : Since id saves x) (move : System.Moves {p | EvidenceCall svc p} EvidenceWork x y)
      (differ : y.store.directory.grantsOf id ≠ x.store.directory.grantsOf id) : Since id [] y
  | saved {saves : List CycleState} {x y : System Env Store Event (Option Err)}
      {version generation revision : Int} {data : String} {cycle : CycleState}
      (since : Since id saves x) (move : System.Moves {p | EvidenceCall svc p} EvidenceWork x y)
      (accepted : AcceptedSave svc id version generation revision data x.store y.store)
      (decoded : decodeCycle data = .ok cycle) : Since id (saves ++ [cycle]) y
  | other {saves : List CycleState} {x y : System Env Store Event (Option Err)}
      (since : Since id saves x) (move : System.Moves {p | EvidenceCall svc p} EvidenceWork x y)
      (same : y.store.directory.grantsOf id = x.store.directory.grantsOf id)
      (none : ∀ version generation revision data,
        ¬ AcceptedSave svc id version generation revision data x.store y.store) : Since id saves y

/-- Every reachable system has such a history. -/
theorem exists_since {x : System Env Store Event (Option Err)} (reach : EvidenceReachable svc x)
    (id : String) : ∃ saves, Since svc id saves x := by
  obtain ⟨s, empty, later⟩ := reach
  induction later with
  | refl => exact ⟨[], .start empty⟩
  | @tail x y _ move ih =>
    obtain ⟨saves, since⟩ := ih
    by_cases differ : y.store.directory.grantsOf id = x.store.directory.grantsOf id
    · by_cases some_ : ∃ version generation revision data,
          AcceptedSave svc id version generation revision data x.store y.store
      · obtain ⟨version, generation, revision, data, accepted⟩ := some_
        obtain ⟨cycle, g, g', old, checked, -⟩ := accepted.saved
        exact ⟨_, .saved since move accepted (checkCycleData_ok checked).1⟩
      · refine ⟨saves, .other since move differ fun version generation revision data accepted => ?_⟩
        exact some_ ⟨version, generation, revision, data, accepted⟩
    · exact ⟨[], .changed since move differ⟩

/-- What is stored agrees with the saves since the last change. -/
structure Agrees (id : String) (saves : List CycleState) (s : Store) : Prop where
  cursor : decodeCycle (s.checkpointCursor id identityCycleScope) = .ok (saves.getLastD .zero)
  chain : saves.IsChain KeepsFailure
  confirmed : ∀ g condition, s.gateway? id = some g → g.live = true →
    g.conditionState .identityUsers = some condition → condition.status = .true →
    condition.observedGeneration = g.resourceGeneration →
    ∃ pre chain post, saves = pre ++ chain ++ post ∧ FullCycle (cycleSource g.resourceGeneration) chain ∧
      EmptyCursor (cycleSource g.resourceGeneration) pre

variable {svc} {id : String} {saves : List CycleState} {s t : Store}

/-- A change leaves no saves, an empty cursor and no confirmation. -/
theorem EvidenceStep.reset (step : EvidenceStep svc id s t) (holds : Evidenced id s)
    (differ : t.directory.grantsOf id ≠ s.directory.grantsOf id) :
    t.checkpointCursor id identityCycleScope = "" ∧
      (∃ kind, PublishedWith id kind s t) ∧ ∃ g, t.gateway? id = some g ∧
        ∀ condition, g.conditionState .identityUsers = some condition → condition.status ≠ .true := by
  cases step with
  | kept same => exact absurd same.grants differ
  | @created g absent stored unknown checkpoint differ published =>
    refine ⟨?_, ⟨_, published⟩, g, stored, fun condition known => ?_⟩
    · rw [Store.checkpointCursor, checkpoint, holds.absent absent]
    · rw [unknown] at known
      cases known
  | changed invalidated differ published =>
    obtain ⟨g, g', -, -, there, -, reports⟩ := invalidated.row
    refine ⟨invalidated.cursor, ⟨_, published⟩, g', there, fun condition known => ?_⟩
    rw [(reports.generation known).2]
    intro never
    cases never
  | saved accepted =>
    obtain ⟨cycle, g, g', old, -, saved⟩ := accepted.saved
    obtain ⟨gateways, checkpoints, outbox, rfl⟩ := saved.rest
    exact absurd rfl differ

omit [Platform] in
theorem agrees_nil (cursor : s.checkpointCursor id identityCycleScope = "")
    (unconfirmed : ∀ g, s.gateway? id = some g → ∀ condition,
      g.conditionState .identityUsers = some condition → condition.status ≠ .true) :
    Agrees id [] s := by
  refine ⟨?_, List.isChain_nil, fun g condition stored _ known status => ?_⟩
  · rw [cursor]
    rfl
  · exact absurd status (unconfirmed g stored condition known)

omit [Platform] in
/-- What is kept agrees with the same saves. -/
theorem Agrees.kept (agrees : Agrees id saves s) (holds : Evidenced id s)
    (kept : EvidenceKept id s t) : Agrees id saves t := by
  refine ⟨?_, agrees.chain, fun g condition stored live known status current => ?_⟩
  · rw [checkpointCursor_of_same kept.checkpoint]
    exact agrees.cursor
  · cases kept.row with
    | same row => exact agrees.confirmed g condition (row.symm.trans stored) live known status current
    | @later g₀ g' before after version condition' =>
      obtain rfl : g' = g := Option.some.inj (after.symm.trans stored)
      obtain ⟨alive, same, generation⟩ := condition' live
      rw [same] at known
      have bound := holds.observed g₀ condition before alive known
      have equal : g₀.resourceGeneration = g'.resourceGeneration := by omega
      rw [← equal] at current ⊢
      exact agrees.confirmed g₀ condition before alive known status current

/-- **One more save**: a confirmation that it makes is that of the cycle it ends. -/
theorem Agrees.saved {version generation revision : Int} {data : String} {cycle old : CycleState}
    {g g' : Gateway} (agrees : Agrees id saves s)
    (checked : checkCycleData version generation data = .ok cycle)
    (saved : CycleSaved s id version generation revision data cycle g g' old t) :
    Agrees id (saves ++ [cycle]) t := by
  obtain ⟨decoded, nonempty, source⟩ := checkCycleData_ok checked
  have known : old = saves.getLastD .zero := by
    have same := saved.replaced
    rw [agrees.cursor, Except.ok.injEq] at same
    exact same.symm
  have keeps : ∀ last ∈ saves.getLast?, KeepsFailure last cycle := by
    intro last member same incomplete failed
    have is : old = last := by
      rw [known, List.getLastD_eq_getLast?, Option.mem_def.mp member]
      rfl
    subst is
    refine failed_of_transition saved.follows ⟨?_, incomplete⟩ same.symm failed
    rw [← same]
    exact source_ne_empty_of_transition saved.follows
  have chain : (saves ++ [cycle]).IsChain KeepsFailure :=
    agrees.chain.append (List.isChain_singleton _) fun last member next first => by
      rw [List.head?_cons, Option.mem_some_iff] at first
      subst first
      exact keeps last member
  refine ⟨?_, chain, fun g'' condition stored live observed status current => ?_⟩
  · rw [saved.data, List.getLastD_concat]
    exact decoded
  · obtain rfl : g' = g'' := Option.some.inj (saved.row.symm.trans stored)
    have generation : (g'.resourceGeneration : Int) = generation := by
      rw [saved.noted.generation]
      exact saved.generation
    by_cases ends : cycle.failed = true ∨ cycle.complete = true
    · rw [((saved.outcome ends).generation observed).2] at status
      have unfailed : cycle.failed = false := by
        by_contra failed
        rw [Bool.not_eq_false] at failed
        rw [failed] at status
        cases status
      have complete : cycle.complete = true := by
        rcases ends with failed | complete
        · rw [failed] at unfailed
          cases unfailed
        · exact complete
      obtain ⟨pre, pages, rfl, empty, run⟩ := exists_run chain unfailed
      rw [source, ← generation] at empty run
      refine ⟨pre, pages ++ [cycle], [], by rw [List.append_nil, List.append_assoc],
        ⟨pages, cycle, rfl, run, ?_, unfailed, complete⟩, empty⟩
      rw [source, generation]
    · rw [not_or, Bool.not_eq_true, Bool.not_eq_true] at ends
      obtain rfl := saved.open_ ends.1 ends.2
      obtain ⟨pre, full, post, rfl, run, empty⟩ :=
        agrees.confirmed g' condition saved.stored live observed status current
      exact ⟨pre, full, post ++ [cycle], List.append_assoc .., run, empty⟩

theorem Since.reach {x : System Env Store Event (Option Err)} (since : Since svc id saves x) :
    EvidenceReachable svc x := by
  induction since with
  | start empty => exact ⟨_, empty, .refl⟩
  | changed _ move _ ih =>
    obtain ⟨s, empty, later⟩ := ih
    exact ⟨s, empty, later.tail move⟩
  | saved _ move _ _ ih =>
    obtain ⟨s, empty, later⟩ := ih
    exact ⟨s, empty, later.tail move⟩
  | other _ move _ _ ih =>
    obtain ⟨s, empty, later⟩ := ih
    exact ⟨s, empty, later.tail move⟩

theorem evidenced_of_reachable {x : System Env Store Event (Option Err)}
    (reach : EvidenceReachable svc x) (id : String) : Evidenced id x.store :=
  (evidenceGoverned.good_of_reachable reach).inv id

/-- **The history** of a Gateway's saves accounts for its checkpoint and its condition. -/
theorem Since.agrees {x : System Env Store Event (Option Err)} (since : Since svc id saves x) :
    Agrees id saves x.store := by
  induction since with
  | @start s empty =>
    refine agrees_nil ?_ fun g stored => ?_
    · rw [Store.checkpointCursor, empty.checkpoints]
    · have member := Table.mem_of_find? stored
      rw [empty.gateways] at member
      cases member
  | changed since move differ _ =>
    have step := evidence_of_step since.reach move id
    obtain ⟨cursor, -, g, stored, unconfirmed⟩ :=
      step.reset (evidenced_of_reachable since.reach id) differ
    refine agrees_nil cursor fun g' stored' => ?_
    obtain rfl : g = g' := Option.some.inj (stored.symm.trans stored')
    exact unconfirmed
  | saved _ _ accepted decoded ih =>
    obtain ⟨cycle, g, g', old, checked, saved⟩ := accepted.saved
    obtain rfl : cycle = _ := Except.ok.inj ((checkCycleData_ok checked).1.symm.trans decoded)
    exact ih.saved checked saved
  | other since move same none ih =>
    cases evidence_of_step since.reach move id with
    | kept kept => exact ih.kept (evidenced_of_reachable since.reach id) kept
    | created _ _ _ _ differ => exact absurd same differ
    | changed _ differ => exact absurd same differ
    | saved accepted => exact absurd accepted (none _ _ _ _)

end History

/-! ### The claim -/

section Claims

variable [Platform] {svc : GatewayService} {id : String}

/-- One system leads to another. -/
abbrev EvidenceLater (svc : GatewayService) (x y : System Env Store Event (Option Err)) : Prop :=
  Relation.ReflTransGen (System.Moves {p | EvidenceCall svc p} EvidenceWork) x y

/-- **A save that is accepted** knows the Gateway and its grants as they have been ever since
its values were returned. -/
theorem unchanged_since {x z y : System Env Store Event (Option Err)} {values : IdentityCycle}
    {data : String} {t : Store} (reach : EvidenceReachable svc x) (first : EvidenceLater svc x z)
    (second : EvidenceLater svc z y) (returned : Returned svc id values x.store)
    (accepted : AcceptedSave svc id values.checkpoint.version values.generation values.revision data
      y.store t) :
    z.store.directory.grantsOf id = x.store.directory.grantsOf id ∧
      z.store.gateway? id = x.store.gateway? id := by
  obtain ⟨good, between⟩ :=
    evidenceGoverned.good_later (evidenceGoverned.good_of_reachable reach) first
  have after := (evidenceGoverned.good_later good second).2 id
  have before : Progress id x.store z.store := between id
  obtain ⟨version, g, stored, -, revision⟩ := returned.of
  obtain ⟨cycle, g', _, _, -, saved⟩ := accepted.saved
  have known := saved.known
  have named := saved.revision
  obtain ⟨g₁, stored₁, earlier⟩ := before.row g stored
  obtain ⟨g₂, stored₂, later⟩ := after.row g₁ stored₁
  obtain rfl : g' = g₂ := Option.some.inj (saved.stored.symm.trans stored₂)
  refine ⟨before.grants g stored ?_, ?_⟩
  · have lower := before.version
    have upper := after.version
    omega
  · have same : g₁ = g := by
      rcases earlier with same | newer
      · exact same
      · rcases later with rfl | newest
        · omega
        · omega
    rw [stored₁, stored, same]

/-- **The evidence is never stale.**  An accepted save knows the Gateway and its grants as they
have been since its values were returned.  A condition that is true and current has a full
cycle of saves since the last change of the grants, and no save loses a failure.  Every change
of the grants takes the condition and the cursor away, with its events, in one commit. -/
theorem evidence_fresh {x : System Env Store Event (Option Err)} (reach : EvidenceReachable svc x)
    (id : String) :
    (∀ z y values data t, EvidenceLater svc x z → EvidenceLater svc z y →
      Returned svc id values x.store →
      AcceptedSave svc id values.checkpoint.version values.generation values.revision data
        y.store t →
      z.store.directory.grantsOf id = x.store.directory.grantsOf id ∧
        z.store.gateway? id = x.store.gateway? id) ∧
    (∃ saves, Since svc id saves x) ∧
    (∀ saves, Since svc id saves x → saves.IsChain KeepsFailure ∧
      ∀ g, x.store.gateway? id = some g → (g.condition .identityUsers).status = .true →
        (g.condition .identityUsers).current = true →
        ∃ pre chain post, saves = pre ++ chain ++ post ∧
          FullCycle (cycleSource g.resourceGeneration) chain ∧
          EmptyCursor (cycleSource g.resourceGeneration) pre) ∧
    ∀ y, System.Moves {p | EvidenceCall svc p} EvidenceWork x y →
      y.store.directory.grantsOf id ≠ x.store.directory.grantsOf id →
      y.store.checkpointCursor id identityCycleScope = "" ∧
        (∃ kind, PublishedWith id kind x.store y.store) ∧
        ∃ g, y.store.gateway? id = some g ∧ (g.condition .identityUsers).status ≠ .true := by
  refine ⟨fun z y values data t first second returned accepted => ?_, exists_since svc reach id,
    fun saves since => ⟨since.agrees.chain, fun g stored status current => ?_⟩,
    fun y move differ => ?_⟩
  · exact unchanged_since reach first second returned accepted
  · cases known : g.conditionState .identityUsers with
    | none =>
      simp only [Gateway.condition, known] at status
      cases status
    | some condition =>
      simp only [Gateway.condition, known, Bool.and_eq_true, decide_eq_true_eq] at status current
      exact since.agrees.confirmed g condition stored current.1 known status current.2
  · obtain ⟨cursor, published, g, stored, unconfirmed⟩ :=
      (evidence_of_step reach move id).reset (evidenced_of_reachable reach id) differ
    refine ⟨cursor, published, g, stored, ?_⟩
    cases known : g.conditionState .identityUsers with
    | none => simp [Gateway.condition, known]
    | some condition =>
      simp only [Gateway.condition, known]
      exact unconfirmed condition known

end Claims

/-! ### The sample -/

namespace Sample

/-- A controller of identities. -/
def identityService : GatewayService :=
  ⟨fun subject => decide (subject = "controller"), [], [],
    [⟨"https://issuer.example", "controller", "Gateway", "configure.identity", ""⟩], "", ""⟩

/-- A cycle that has seen every grant. -/
def finished : CycleState := ⟨cycleSource 1, "", false, true⟩

/-- The Gateway is created. -/
def placeGateway : Process (Option Err) := Prod.snd <$> createGateway identityService creator request

/-- The first save of its cycle, which is the last. -/
def finish : Process (Option Err) :=
  Prod.snd <$> saveIdentityScanCycle identityService observer gatewayID 0 1 1
    (String.ofList finished.text)

/-- The store after a creation and a cycle. -/
def synchronized : Option Store := do
  let (_, _, _, s) ← placeGateway.run [env drawnGatewayID] unplaced
  let (_, _, _, t) ← finish.run [env drawnID] s
  return t

theorem synchronized_true : (synchronized.any fun s => (s.gateway? gatewayID).any fun g =>
    decide ((g.condition .identityUsers).status = .true) && (g.condition .identityUsers).current) =
      true := by
  decide +kernel

/-- The sample's Gateway is confirmed in a reachable system. -/
theorem synchronized_reached : ∃ (x : System Env Store Event (Option Err)) (g : Gateway),
    EvidenceReachable identityService x ∧ x.store.gateway? gatewayID = some g ∧
      (g.condition .identityUsers).status = .true ∧ (g.condition .identityUsers).current = true := by
  have computed := synchronized_true
  rw [Option.any_eq_true] at computed
  obtain ⟨t, run, found⟩ := computed
  rw [Option.any_eq_true] at found
  obtain ⟨g, stored, confirmed⟩ := found
  simp only [Bool.and_eq_true, decide_eq_true_eq] at confirmed
  simp only [synchronized, Option.bind_eq_bind, Option.bind_eq_some_iff, Prod.exists] at run
  obtain ⟨steps₁, r₁, l₁, s, placed, steps₂, r₂, l₂, t', saved, same⟩ := run
  cases same
  refine ⟨⟨_, []⟩, g, ⟨unplaced, ⟨rfl, fun _ => rfl⟩, ?_⟩, stored, confirmed.1, confirmed.2⟩
  exact (System.moves_of_call (.create creator request) placed).trans
    (System.moves_of_call (.save observer gatewayID 0 1 1 _) saved)

end Sample

open Sample in
/-- The confirmation of the sample has a full cycle of saves. -/
theorem evidence_fresh_sample : ∃ (x : System Env Store Event (Option Err)) (saves : List CycleState),
    Since Sample.identityService Sample.gatewayID saves x ∧
      ∃ source pre chain post, saves = pre ++ chain ++ post ∧ FullCycle source chain := by
  obtain ⟨x, g, reach, stored, status, current⟩ := Sample.synchronized_reached
  obtain ⟨-, ⟨saves, since⟩, confirmed, -⟩ := evidence_fresh reach Sample.gatewayID
  obtain ⟨pre, chain, post, split, full, -⟩ := (confirmed saves since).2 g stored status current
  exact ⟨x, saves, since, _, pre, chain, post, split, full⟩

end Hypershell
