import Hypershell.Gateways.GrantSteps
import Hypershell.Gateways.Mutations

/-!
# What a change of a Gateway does

The end of the transaction of an update, as the row it leaves.

## Main definitions

* `Gateway.Clean` — a live row as the trigger leaves it
* `Gateway.Rewrites` — a row of which some columns were written
* `Updated` — the end of an update

## Main results

* `update_commits` — an update commits the written columns with one event, or nothing
-/

namespace Hypershell

open Foundation

namespace Gateway

/-- The cleanup columns of a live row: every target is incomplete, the current one
among them. -/
structure Clean (g : Gateway) : Prop where
  states : ∀ owner, g.cleanupState owner = false
  current : ∀ owner ∈ CleanupOwner.targeted, g.clusterID ∈ g.targets owner
  targets : ∀ owner, ∀ entry ∈ g.cleanupTargetState owner, entry.2 = false
  others : ∀ owner ∉ CleanupOwner.targeted, g.cleanupTargetState owner = []

/-- The row `g'` has the columns of `w`, which was written over `g`, but for what the trigger
adds. -/
structure Rewrites (g w g' : Gateway) : Prop where
  columns : g' = { w with
    updatedTime := g'.updatedTime
    resourceVersion := g'.resourceVersion
    resourceGeneration := g'.resourceGeneration
    observedGenerations := g'.observedGenerations
    cleanupState := g'.cleanupState
    cleanupTargetState := g'.cleanupTargetState
    deletionFinalizedAt := g'.deletionFinalizedAt }
  version : g.resourceVersion < g'.resourceVersion
  generation : g'.resourceGeneration = g.resourceGeneration + if sameSpec g w then 0 else 1
  finalized : g'.deletionFinalizedAt = g.deletionFinalizedAt
  cleanup : g.Clean → g'.Clean ∧ g'.cleanupState = g.cleanupState ∧
    g'.cleanupTargetState = g.cleanupTargetState

variable {g w row : Gateway} {time : Int}

/-- A reset leaves the cleanup columns of a clean row alone. -/
theorem nextTargets_clean (clean : g.Clean) (live : w.live = true)
    (cluster : w.clusterID = g.clusterID) {owner : CleanupOwner}
    (targeted : owner ∈ CleanupOwner.targeted) :
    nextTargets g w owner = g.cleanupTargetState owner := by
  have resets : resets g w = true := by
    simp [Gateway.resets, live]
  have present : w.clusterID ∈ (g.cleanupTargetState owner).map Prod.fst := by
    rw [cluster]
    exact clean.current owner targeted
  simp only [nextTargets, writtenTargets, resets, if_true, if_pos present]
  conv_rhs => rw [← List.map_id (g.cleanupTargetState owner)]
  refine List.map_congr_left fun entry member => ?_
  exact Prod.ext rfl (clean.targets owner entry member).symm

/-- **The columns of a write to a live row.** -/
theorem rewrites_of_revise (live : w.live = true) (cluster : w.clusterID = g.clusterID)
    (unfinalized : w.deletionFinalizedAt = g.deletionFinalizedAt)
    (stored : revise time g w = .ok row) : g.Rewrites w row := by
  have columns := eq_of_revise stored
  have revised := revised_of_revise stored
  have finalized := revised.finalization unfinalized
  refine ⟨?_, ?_, ?_, finalized, fun clean => ?_⟩
  · rw [columns]
  · rw [revised.version]
    exact Nat.lt_succ_self _
  · rw [columns]
  have alive : row.live = true := by
    rw [columns]
    exact live
  have here : row.clusterID = g.clusterID := revised.clusterID.trans cluster
  have resets : resets g w = true := by
    simp [Gateway.resets, live]
  have states : row.cleanupState = g.cleanupState := by
    funext owner
    rw [clean.states owner]
    by_cases targeted : owner ∈ CleanupOwner.targeted
    · rw [revised.targeted owner targeted, alive]
      rfl
    · rw [revised.untargeted owner targeted, if_pos resets]
  have targets : row.cleanupTargetState = g.cleanupTargetState := by
    unfold revise at stored
    split_ifs at stored
    dsimp only at stored
    split_ifs at stored
    obtain ⟨same, -⟩ := reviseFinalization_ok stored
    funext owner
    rw [same]
    show (if owner ∈ CleanupOwner.targeted then nextTargets g w owner else []) = _
    split
    · exact nextTargets_clean clean live cluster ‹_›
    · exact (clean.others owner ‹_›).symm
  refine ⟨⟨fun owner => ?_, fun owner targeted => ?_, fun owner => ?_, fun owner other => ?_⟩,
    states, targets⟩
  · rw [states]
    exact clean.states owner
  · rw [here, Gateway.targets, targets]
    exact clean.current owner targeted
  · rw [targets]
    exact clean.targets owner
  · rw [targets]
    exact clean.others owner other

/-! ### Observed columns -/

/-- The row with the fields of several observations. -/
def observedBy (g : Gateway) (observations : List Observation) : Gateway :=
  observations.foldl withObservation g

theorem sameSpec_withObservation (g w : Gateway) (o : Observation) :
    sameSpec g (w.withObservation o) = sameSpec g w := by
  cases o <;> rfl

theorem sameSpec_refl (g : Gateway) : sameSpec g g = true := by
  simp [sameSpec]

theorem sameSpec_observing (g : Gateway) (o : Observation) (time : Int) :
    sameSpec g (g.observing o time) = true := by
  rw [← g.sameSpec_refl, ← sameSpec_withObservation g g o]
  rfl

/-- What the trigger adds does not matter for what was written. -/
theorem Rewrites.of_observing {o : Observation} (rewrites : g.Rewrites (g.observing o time) row) :
    g.Rewrites (g.withObservation o) row := by
  refine ⟨rewrites.columns.trans ?_, rewrites.version, rewrites.generation, rewrites.finalized,
    rewrites.cleanup⟩
  cases o <;> rfl

/-- **One observation after another** is one rewrite. -/
theorem Rewrites.observe {g₁ g₂ : Gateway} {o : Observation} (first : g.Rewrites w g₁)
    (second : g₁.Rewrites (g₁.withObservation o) g₂) : g.Rewrites (w.withObservation o) g₂ := by
  refine ⟨second.columns.trans ?_, first.version.trans second.version, ?_,
    second.finalized.trans first.finalized, fun clean => ?_⟩
  · rw [first.columns]
    cases o <;> rfl
  · rw [second.generation, sameSpec_withObservation, sameSpec_withObservation, sameSpec_refl,
      first.generation]
    rfl
  · obtain ⟨clean₁, states₁, targets₁⟩ := first.cleanup clean
    obtain ⟨clean₂, states₂, targets₂⟩ := second.cleanup clean₁
    exact ⟨clean₂, states₂.trans states₁, targets₂.trans targets₁⟩

end Gateway

/-- A Gateway row was rewritten; no other group of observations was touched. -/
structure RowWritten (s : Store) (id : String) (g w g' : Gateway) (touched : List ObservationGroup)
    (t : Store) : Prop where
  rest : ∃ gateways, t = { s with gateways := gateways }
  stored : t.gateway? id = some g'
  others : ∀ id' ≠ id, t.gateway? id' = s.gateway? id'
  rewrites : g.Rewrites w g'
  observed : ∀ group ∉ touched, g'.observedGenerations group = g.observedGenerations group

section RowWritten

variable {s t u : Store} {id : String} {g w g₁ g₂ : Gateway} {o : Observation}

theorem observedGenerations_observing
    (rewritten : Store.Rewritten s id g (g.observing o s.time) g₁ t) {group : ObservationGroup}
    (other : group ≠ o.group) : g₁.observedGenerations group = g.observedGenerations group := by
  rw [Gateway.eq_of_revise rewritten.revise, Gateway.sameSpec_observing]
  show Function.update g.observedGenerations o.group g.resourceGeneration group = _
  rw [Function.update_of_ne other]

theorem rewrites_observing (rewritten : Store.Rewritten s id g (g.observing o s.time) g₁ t) :
    g.Rewrites (g.withObservation o) g₁ := by
  refine (Gateway.rewrites_of_revise ?_ ?_ ?_ rewritten.revise).of_observing
  · refine Eq.trans ?_ rewritten.live
    cases o <;> rfl
  · cases o <;> rfl
  · cases o <;> rfl

theorem rowWritten_first (rewritten : Store.Rewritten s id g (g.observing o s.time) g₁ t) :
    RowWritten s id g (g.withObservation o) g₁ [o.group] t := by
  refine ⟨rewritten.same, rewritten.gateway?, fun _ => rewritten.others,
    rewrites_observing rewritten, fun group untouched => ?_⟩
  exact observedGenerations_observing rewritten fun same =>
    untouched (by rw [same]; exact List.mem_singleton_self _)

theorem RowWritten.next {touched : List ObservationGroup}
    (written : RowWritten s id g w g₁ touched u)
    (rewritten : Store.Rewritten u id g₁ (g₁.observing o u.time) g₂ t) :
    RowWritten s id g (w.withObservation o) g₂ (touched ++ [o.group]) t := by
  obtain ⟨gateways, same⟩ := written.rest
  obtain ⟨gateways', same'⟩ := rewritten.same
  refine ⟨⟨gateways', by rw [same', same]⟩, rewritten.gateway?, ?_,
    written.rewrites.observe (rewrites_observing rewritten), ?_⟩
  · intro id' other
    exact (rewritten.others other).trans (written.others id' other)
  · intro group untouched
    rw [List.mem_append, not_or] at untouched
    rw [observedGenerations_observing rewritten fun same =>
      untouched.2 (by rw [same]; exact List.mem_singleton_self _)]
    exact written.observed group untouched.1

end RowWritten

section Steps

variable [Platform] {L : Type} {ω : Env} {c : Context Store Event L} {id : String}

/-- **The observations that are left.** -/
theorem wp_observeAll_rest {s : Store} {g : Gateway} {ok : Unit → Context Store Event L → Prop}
    {fails : Err → Context Store Event L → Prop} {observations : List Observation}
    {version : Int} {w g₁ : Gateway} {touched : List ObservationGroup}
    (written : RowWritten s id g w g₁ touched c.store)
    (failed : ∀ e n t, fails e (c.put n t))
    (done : ∀ n g' t, RowWritten s id g (w.observedBy observations) g'
      (touched ++ observations.map Observation.group) t → ok () (c.put n t)) :
    Tx.wp ω (observeAll id version observations) ok fails c := by
  induction observations generalizing c version w g₁ touched with
  | nil =>
    refine done c.tick g₁ c.store ?_
    rw [List.map_nil, List.append_nil]
    exact written
  | cons o rest ih =>
    simp only [observeAll, Tx.wp_bind]
    refine Action.wp_update (fun _ => failed _ _ c.store) (fun _ _ => failed _ _ c.store) ?_
    intro u wrote
    obtain ⟨old, g₂, -, rewritten⟩ := Store.observeIfVersion_ok wrote
    obtain rfl : old = g₁ := Option.some.inj (rewritten.stored.symm.trans written.stored)
    have written' := written.next rewritten
    refine Action.wp_query (fun _ => failed _ _ u) (fun _ _ => failed _ _ u) fun current read => ?_
    rw [Tx.wp_require]
    split
    · refine ih written' (fun e n t => failed e n t) fun n g' t all => done n g' t ?_
      rw [List.append_assoc] at all
      exact all
    · exact failed _ _ u

/-- **All observations of a change** are one rewrite at the revision the caller knows. -/
theorem wp_observeAll {g : Gateway} {ok : Unit → Context Store Event L → Prop}
    {fails : Err → Context Store Event L → Prop} {o : Observation} {rest : List Observation}
    {version : Int} (here : c.store.gateway? id = some g)
    (failed : ∀ e n t, fails e (c.put n t))
    (done : ∀ n g' t, (g.resourceVersion : Int) = version →
      RowWritten c.store id g (g.observedBy (o :: rest)) g' ((o :: rest).map Observation.group) t →
      ok () (c.put n t)) :
    Tx.wp ω (observeAll id version (o :: rest)) ok fails c := by
  simp only [observeAll, Tx.wp_bind]
  refine Action.wp_update (fun _ => failed _ _ c.store) (fun _ _ => failed _ _ c.store) ?_
  intro u wrote
  obtain ⟨old, g₁, known, rewritten⟩ := Store.observeIfVersion_ok wrote
  obtain rfl : old = g := Option.some.inj (rewritten.stored.symm.trans here)
  refine Action.wp_query (fun _ => failed _ _ u) (fun _ _ => failed _ _ u) fun current read => ?_
  rw [Tx.wp_require]
  split
  · exact wp_observeAll_rest (rowWritten_first rewritten) (fun e n t => failed e n t)
      fun n g' t all => done n g' t known all
  · exact failed _ _ u

theorem wp_checkPatched {R : Type} {read : String → Store → Except Err R} {reference : Option String}
    {ok : Unit → Context Store Event L → Prop} {fails : Err → Context Store Event L → Prop}
    (failed : ∀ e n, fails e (c.at n))
    (found : ∀ n, (∀ id, reference = some id → ∃ row, read id c.store = .ok row) →
      ok () (c.at n)) :
    Tx.wp ω (checkPatched read reference) ok fails c := by
  unfold checkPatched
  cases reference with
  | none => exact found c.tick fun _ never => nomatch never
  | some id =>
    refine wp_checkReference failed fun row n stored => found n ?_
    rintro _ ⟨⟩
    exact ⟨row, stored⟩

end Steps

/-! ### The update -/

/-- The columns after a change: what was observed, or else what is desired. -/
def Gateway.changedBy [Platform] (g : Gateway) (patch : PatchRequest) (console route : Option String) :
    Gateway :=
  if patch.observations console route = [] then
    g.replaced (g.patched patch console route) g.updatedTime
  else
    g.observedBy (patch.observations console route)

section Update

variable [Platform]

/-- A Gateway was updated, with one event. -/
structure Updated (svc : GatewayService) (p : Principal) (id : String) (patch : PatchRequest)
    (console route : Option String) (version : Int) (s : Store) (g g' : Gateway) (t : Store) :
    Prop where
  rest : ∃ d gateways outbox,
    t = { s with directory := d, gateways := gateways, outbox := outbox }
  same : s.directory.SameGrants t.directory
  caller : svc.MayChange p t.directory id false
  stored : s.gateway? id = some g
  live : g.live = true
  authorized : version > 0 → authorizePatch svc p g.clusterID patch console route = .ok ()
  cluster : (g.patched patch console route).clusterID = g.clusterID
  clusterLive : ∀ id, patch.clusterID = some id → ∃ row, s.getCluster id = .ok row
  releaseLive : ∀ id, patch.releaseID = some id → ∃ row, s.getRelease id = .ok row
  known : version > 0 → (g.resourceVersion : Int) = version
  row : t.gateway? id = some g'
  others : ∀ id' ≠ id, t.gateway? id' = s.gateway? id'
  rewrites : g.Rewrites (g.changedBy patch console route) g'
  observed : ∀ group ∉ (patch.observations console route).map Observation.group,
    g'.observedGenerations group = g.observedGenerations group
  outbox : t.outbox = s.outbox ++ [⟨id, "Update", "gateway.updated"⟩]

variable {L : Type} {ω : Env} {id : String} {svc : GatewayService} {p : Principal}
  {patch : PatchRequest} {console route : Option String} {version : Int}

omit [Platform] in
theorem rewrites_replaced {s t : Store} {g g' row : Gateway}
    (cluster : row.clusterID = g.clusterID)
    (rewritten : Store.Rewritten s id g (g.replaced row s.time) g' t) :
    RowWritten s id g (g.replaced row g.updatedTime) g' [] t := by
  have rewrites : g.Rewrites (g.replaced row s.time) g' :=
    Gateway.rewrites_of_revise rewritten.live cluster rfl rewritten.revise
  refine ⟨rewritten.same, rewritten.gateway?, fun _ => rewritten.others, ?_, fun group _ => ?_⟩
  · exact ⟨rewrites.columns, rewrites.version, rewrites.generation, rewrites.finalized,
      rewrites.cleanup⟩
  · rw [Gateway.eq_of_revise rewritten.revise]
    dsimp only
    split <;> rfl

/-- **The write of a change.** -/
theorem wp_writePatch {c : Context Store Event L} {g : Gateway}
    {ok : Unit → Context Store Event L → Prop} {fails : Err → Context Store Event L → Prop}
    (here : c.store.gateway? id = some g)
    (cluster : (g.patched patch console route).clusterID = g.clusterID)
    (failed : ∀ e n t, fails e (c.put n t))
    (done : ∀ n g' t, (version > 0 → (g.resourceVersion : Int) = version) →
      RowWritten c.store id g (g.changedBy patch console route) g'
        ((patch.observations console route).map Observation.group) t → ok () (c.put n t)) :
    Tx.wp ω (writePatch id version (g.patched patch console route)
      (patch.observations console route)) ok fails c := by
  unfold Gateway.changedBy at done
  unfold writePatch
  cases observations : patch.observations console route with
  | cons o rest =>
    simp only [observations, reduceCtorEq, if_false] at done
    rw [Tx.wp_ite, if_pos (List.cons_ne_nil o rest)]
    exact wp_observeAll here failed fun n g' t known all => done n g' t (fun _ => known) all
  | nil =>
    simp only [observations, if_true, List.map_nil] at done
    rw [Tx.wp_ite, if_neg (by simp), Tx.wp_ite]
    split
    · refine Action.wp_update (fun _ => failed _ _ c.store) (fun _ _ => failed _ _ c.store) ?_
      intro t wrote
      obtain ⟨old, g', known, rewritten⟩ := Store.replaceIfVersion_ok wrote
      obtain rfl : old = g := Option.some.inj (rewritten.stored.symm.trans here)
      exact done _ g' t (fun _ => known) (rewrites_replaced cluster rewritten)
    · rename_i unversioned
      refine Action.wp_update (fun _ => failed _ _ c.store) (fun _ _ => failed _ _ c.store) ?_
      intro t wrote
      obtain ⟨old, g', rewritten⟩ := Store.replaceGateway_ok wrote
      obtain rfl : old = g := Option.some.inj (rewritten.stored.symm.trans here)
      exact done _ g' t (fun versioned => absurd versioned unversioned)
        (rewrites_replaced cluster rewritten)

theorem applyPatch_ok {g row : Gateway} (applied : applyPatch g patch console route = .ok row) :
    row = g.patched patch console route := by
  unfold applyPatch at applied
  split_ifs at applied
  dsimp only at applied
  split at applied
  · cases applied
  · cases applied
    rfl

/-- **An update** commits what it writes with one event. -/
theorem update_commits :
    Commits (fun s t => ∃ g g', Updated svc p id patch console route version s g g' t)
      (updateGatewayRow svc p id patch console route version) := by
  unfold updateGatewayRow
  split
  · exact .refused
  split
  · exact .refused
  refine .transaction fun ω s n => ?_
  simp only [updateBody, Tx.wp_bind]
  refine wp_mutationTarget_known (fun _ _ _ _ => rfl) fun g m d same stored live allowed => ?_
  refine Tx.wp_lift (fun _ _ => rfl) fun _ authorized => ?_
  have accepted : version > 0 → authorizePatch svc p g.clusterID patch console route = .ok () := by
    intro versioned
    rw [if_pos versioned] at authorized
    exact authorized
  refine Tx.wp_lift (fun _ _ => rfl) fun row applied => ?_
  obtain rfl := applyPatch_ok applied
  refine wp_checkPatched (fun _ _ => rfl) fun m clusterLive => ?_
  refine wp_checkPatched (fun _ _ => rfl) fun m releaseLive => ?_
  rw [Tx.wp_require]
  split
  swap
  · exact rfl
  rename_i cluster
  refine wp_writePatch stored cluster (fun _ _ _ => rfl) fun m g' t known written => ?_
  obtain ⟨gateways, rfl⟩ := written.rest
  refine Action.wp_query (fun _ => rfl) (fun _ _ => rfl) fun result read => ?_
  rw [Tx.wp_capture]
  refine Action.wp_update (fun _ => rfl) (fun _ _ => rfl) fun t published => ?_
  cases published
  exact ⟨rfl, g, g', ⟨d, gateways, _, rfl⟩, same, allowed, stored, live, accepted, cluster,
    clusterLive, releaseLive, known, written.stored, written.others, written.rewrites,
    written.observed, rfl⟩

end Update

end Hypershell
