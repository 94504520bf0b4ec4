import Hypershell.Catalog.Catalog
import Hypershell.Gateways.Owners
import Hypershell.Gateways.MutationSteps

/-!
# References to the catalog

Clusters and releases are created, changed and deleted while Gateways are placed on them,
changed, deleted and cleaned up, with crashes and lost replies anywhere.  Each side checks the
other in its own transaction.

## Main definitions

* `Store.EveryPlaced` — the cluster and the release of every live Gateway are live
* `Store.Unused` — no live Gateway is on a cluster, and no deleted one is unfinished there
* `CatalogCall` — the calls

## Main results

* `catalog_references` — every reachable Gateway is placed, its cluster never changes, and only
  unused clusters are deleted
-/

namespace Hypershell

open Foundation

namespace Store

/-- The cluster and the release of every live Gateway are live. -/
def EveryPlaced (s : Store) : Prop :=
  ∀ id g, s.gateway? id = some g → g.live = true →
    (∃ cluster, s.getCluster g.clusterID = .ok cluster) ∧
      ∃ release, s.getRelease g.releaseID = .ok release

/-- No live Gateway is on a cluster, and no deleted one has a target there that is not
complete. -/
def Unused (s : Store) (cluster : String) : Prop :=
  ∀ id g, s.gateway? id = some g →
    (g.live = true → g.clusterID ≠ cluster) ∧
      (g.live = false → ∀ owner ∈ clusterReferences,
        (g.cleanupTargetState owner).lookup cluster ≠ some false)

/-- Nothing refers to a record. -/
def Unreferenced (entity : CatalogEntity) (id : String) (s : Store) : Prop :=
  match entity with
  | .cluster => ∀ owner ∈ clusterReferences, s.hasUnfinishedReferences owner id = .ok false
  | .release => s.countByRelease id = 0

variable {s t : Store} {id : String}

theorem unused_of_unreferenced (free : s.Unreferenced .cluster id) : s.Unused id := by
  intro id' g stored
  have member := Table.mem_of_find? stored
  have pending : ∀ owner ∈ clusterReferences,
      (decide (g.clusterID = id) && (g.live || !g.cleanupState owner) ||
        decide (owner ∈ CleanupOwner.targeted ∧
          (g.cleanupTargetState owner).lookup id = some false)) = false := by
    intro owner known
    have none := free owner known
    unfold hasUnfinishedReferences at none
    split_ifs at none
    rw [Except.ok.injEq, List.any_eq_false] at none
    simpa using none g member
  refine ⟨fun live here => ?_, fun _ owner known unfinished => ?_⟩
  · have first := pending .allocation (by decide)
    simp [here, live] at first
  · have targeted : owner ∈ CleanupOwner.targeted := by
      revert known
      cases owner <;> decide
    have state := pending owner known
    simp [targeted, unfinished] at state

theorem released_of_unreferenced (free : s.Unreferenced .release id) {id' : String} {g : Gateway}
    (stored : s.gateway? id' = some g) (live : g.live = true) : g.releaseID ≠ id := by
  intro here
  have none : s.countByRelease id = 0 := free
  unfold countByRelease at none
  rw [List.countP_eq_zero] at none
  exact none g (Table.mem_of_find? stored) (by simp [live, here])

/-! ### What every commit does -/

/-- What a commit does to references: Gateways stay placed and on their clusters, and a
cluster that is deleted was unused. -/
structure PlacementStep (s t : Store) : Prop where
  placed : s.EveryPlaced → t.EveryPlaced
  fixed : ∀ id g, s.gateway? id = some g →
    ∃ g', t.gateway? id = some g' ∧ g'.clusterID = g.clusterID
  unused : ∀ id cluster cluster', s.clusters.find? id = some cluster → cluster.live = true →
    t.clusters.find? id = some cluster' → cluster'.live = false → s.Unused id

/-- The catalog is the same.  No Gateway came to life or changed its cluster, and a new release
is live. -/
structure Housed (s t : Store) : Prop where
  clusters : t.clusters = s.clusters
  releases : t.releases = s.releases
  fixed : ∀ id g, s.gateway? id = some g →
    ∃ g', t.gateway? id = some g' ∧ g'.clusterID = g.clusterID
  live : ∀ id g', t.gateway? id = some g' → g'.live = true →
    ∃ g, s.gateway? id = some g ∧ g.live = true ∧ g'.clusterID = g.clusterID ∧
      (g'.releaseID = g.releaseID ∨ ∃ release, s.getRelease g'.releaseID = .ok release)

theorem getCluster_of_same (clusters : t.clusters = s.clusters) (id : String) :
    t.getCluster id = s.getCluster id := by
  rw [getCluster, getCluster, clusters]

theorem getRelease_of_same (releases : t.releases = s.releases) (id : String) :
    t.getRelease id = s.getRelease id := by
  rw [getRelease, getRelease, releases]

/-- Without a change of the clusters none is deleted. -/
theorem unused_of_same (clusters : t.clusters = s.clusters) {id : String}
    {cluster cluster' : ManagedCluster} (stored : s.clusters.find? id = some cluster)
    (live : cluster.live = true) (later : t.clusters.find? id = some cluster')
    (dead : cluster'.live = false) : s.Unused id := by
  rw [clusters, stored, Option.some.injEq] at later
  rw [later, dead] at live
  cases live

theorem Housed.placement (housed : s.Housed t) : PlacementStep s t := by
  refine ⟨fun every id g' stored live => ?_, housed.fixed,
    fun _ _ _ stored alive later dead => unused_of_same housed.clusters stored alive later dead⟩
  obtain ⟨g, stored', live', cluster, release⟩ := housed.live id g' stored live
  obtain ⟨onCluster, runs⟩ := every id g stored' live'
  rw [getCluster_of_same housed.clusters, getRelease_of_same housed.releases, cluster]
  refine ⟨onCluster, ?_⟩
  rcases release with same | found
  · rw [same]
    exact runs
  · exact found

/-- The same rows are housed the same. -/
theorem housed_of_same (clusters : t.clusters = s.clusters) (releases : t.releases = s.releases)
    (gateways : t.gateways = s.gateways) : s.Housed t := by
  have same : ∀ id, t.gateway? id = s.gateway? id := fun id => by
    rw [gateway?, gateway?, gateways]
  refine ⟨clusters, releases, fun id g stored => ⟨g, (same id).trans stored, rfl⟩, ?_⟩
  intro id g' stored live
  exact ⟨g', (same id).symm.trans stored, live, rfl, Or.inl rfl⟩

/-- One row became another on the same cluster. -/
theorem housed_of_row {g row : Gateway} (clusters : t.clusters = s.clusters)
    (releases : t.releases = s.releases) (before : s.gateway? id = some g)
    (after : t.gateway? id = some row) (others : ∀ id' ≠ id, t.gateway? id' = s.gateway? id')
    (cluster : row.clusterID = g.clusterID)
    (release : row.live = true → g.live = true ∧
      (row.releaseID = g.releaseID ∨ ∃ release, s.getRelease row.releaseID = .ok release)) :
    s.Housed t := by
  refine ⟨clusters, releases, fun id' g' stored => ?_, fun id' g' stored live => ?_⟩
  · by_cases same : id' = id
    · subst same
      obtain rfl : g = g' := Option.some.inj (before.symm.trans stored)
      exact ⟨row, after, cluster⟩
    · exact ⟨g', (others id' same).trans stored, rfl⟩
  · by_cases same : id' = id
    · subst same
      obtain rfl : row = g' := Option.some.inj (after.symm.trans stored)
      obtain ⟨alive, runs⟩ := release live
      exact ⟨g, before, alive, cluster, runs⟩
    · exact ⟨g', (others id' same).symm.trans stored, live, rfl, Or.inl rfl⟩

end Store

open Store (PlacementStep)

/-! ### Gateways -/

section Gateways

variable [Platform] {svc : GatewayService} {p : Principal} {id : String} {s t : Store}

theorem Store.Aside.placement (aside : s.Aside t) : PlacementStep s t := by
  obtain ⟨d, rfl, -⟩ := aside
  refine Store.Housed.placement ?_
  exact Store.housed_of_same rfl rfl rfl

theorem Placed.placement {r : GatewayCreateRequest} (placed : Placed p r s t) :
    PlacementStep s t := by
  obtain ⟨b, owner, g, -, -, -, -, -, -, -, absent, rows, inserted, -⟩ := placed.row
  have found := Store.gateway?_of_append absent rows
  obtain ⟨d, gateways, outbox, rfl⟩ := placed.rest
  have columns : g.clusterID = r.clusterID ∧ g.releaseID = r.releaseID := by
    unfold Gateway.insert at inserted
    split_ifs at inserted
    rw [Except.ok.injEq] at inserted
    rw [← inserted]
    exact ⟨rfl, rfl⟩
  refine ⟨fun every id g' stored live => ?_, fun id g' stored => ?_,
    fun _ _ _ stored alive later dead => Store.unused_of_same rfl stored alive later dead⟩
  · rw [found] at stored
    split at stored
    · cases stored
      rw [columns.1, columns.2]
      exact ⟨placed.cluster, placed.release⟩
    · exact every id g' stored live
  · rw [found]
    split
    · rename_i new
      rw [new, absent] at stored
      cases stored
    · exact ⟨g', stored, rfl⟩

theorem Gateway.placement_changedBy {g : Gateway} {patch : PatchRequest} {console route : Option String}
    (cluster : (g.patched patch console route).clusterID = g.clusterID) :
    (g.changedBy patch console route).clusterID = g.clusterID ∧
      (g.changedBy patch console route).deletedAt = g.deletedAt ∧
      ((g.changedBy patch console route).releaseID = g.releaseID ∨
        patch.releaseID = some (g.changedBy patch console route).releaseID) := by
  unfold Gateway.changedBy
  split
  · refine ⟨cluster, rfl, ?_⟩
    show patch.releaseID.getD g.releaseID = g.releaseID ∨
      patch.releaseID = some (patch.releaseID.getD g.releaseID)
    cases patch.releaseID with
    | none => exact Or.inl rfl
    | some release => exact Or.inr rfl
  · unfold Gateway.observedBy
    generalize patch.observations console route = observations
    have same : (observations.foldl Gateway.withObservation g).clusterID = g.clusterID ∧
        (observations.foldl Gateway.withObservation g).deletedAt = g.deletedAt ∧
        (observations.foldl Gateway.withObservation g).releaseID = g.releaseID := by
      clear cluster
      induction observations generalizing g with
      | nil => exact ⟨rfl, rfl, rfl⟩
      | cons o rest ih =>
        obtain ⟨cluster, deleted, release⟩ := ih (g := g.withObservation o)
        rw [List.foldl_cons, cluster, deleted, release]
        cases o <;> exact ⟨rfl, rfl, rfl⟩
    exact ⟨same.1, same.2.1, Or.inl same.2.2⟩

theorem Updated.placement {patch : PatchRequest} {console route : Option String} {version : Int}
    {g g' : Gateway} (updated : Updated svc p id patch console route version s g g' t) :
    PlacementStep s t := by
  obtain ⟨cluster, deleted, release⟩ := Gateway.placement_changedBy updated.cluster
  have same : t.clusters = s.clusters ∧ t.releases = s.releases := by
    obtain ⟨d, gateways, outbox, rfl⟩ := updated.rest
    exact ⟨rfl, rfl⟩
  have columns := updated.rewrites.columns
  refine (Store.housed_of_row same.1 same.2 updated.stored updated.row updated.others ?_
    fun _ => ⟨updated.live, ?_⟩).placement
  · rw [columns]
    exact cluster
  · rw [columns]
    exact release.imp_right fun patched => updated.releaseLive _ patched

omit [Platform] in
/-- A row was written, and it is deleted. -/
theorem housed_of_dead {g row : Gateway} {gateways : Table Gateway} {d : Directory}
    {outbox : List Notification} (stored : s.gateway? id = some g) (key : row.id = id)
    (dead : row.live = false) (cluster : row.clusterID = g.clusterID)
    (becomes : s.gateways.Becomes gateways g row) :
    s.Housed { s with directory := d, gateways := gateways, outbox := outbox } := by
  have found : ∀ id', gateways.find? id' = if id' = id then some row else s.gateways.find? id' := by
    intro id'
    rw [becomes.find?, key_gateway, key]
  refine Store.housed_of_row rfl rfl stored ((found id).trans (if_pos rfl)) ?_ cluster ?_
  · exact fun id' other => (found id').trans (if_neg other)
  · intro live
    rw [dead] at live
    cases live

omit [Platform] in
theorem Removed.placement (removed : Removed s id t) : PlacementStep s t := by
  cases removed with
  | already =>
    refine Store.Housed.placement ?_
    exact Store.housed_of_same rfl rfl rfl
  | @deleted g row gateways d here alive revised becomes =>
    refine Store.Housed.placement ?_
    exact housed_of_dead here (revised.id.trans (Store.id_of_gateway? here))
      (by rw [Meta.live, revised.deletedAt]; rfl) revised.clusterID becomes

omit [Platform] in
theorem Recorded.placement {version : Int} {owner : CleanupOwner} {target : String}
    {complete : Bool} (recorded : Recorded s id version owner target complete t) :
    PlacementStep s t := by
  have observed : ∀ g : Gateway, (g.observe owner target complete).clusterID = g.clusterID ∧
      (g.observe owner target complete).deletedAt = g.deletedAt := by
    intro g
    unfold Gateway.observe
    split <;> exact ⟨rfl, rfl⟩
  cases recorded with
  | same =>
    refine Store.Housed.placement ?_
    exact Store.housed_of_same rfl rfl rfl
  | @stored g row gateways on differs revised becomes =>
    refine Store.Housed.placement ?_
    refine housed_of_dead on.stored (revised.id.trans (Store.id_of_gateway? on.stored)) ?_
      (revised.clusterID.trans (observed g).1) becomes
    rw [Meta.live, revised.deletedAt]
    exact (congrArg Option.isNone (observed g).2).trans on.dead
  | @finalized g mid row gateways time on seen dead unfinalized all revised becomes =>
    have same : mid.id = g.id ∧ mid.clusterID = g.clusterID := by
      cases seen with
      | same => exact ⟨rfl, rfl⟩
      | stored differs first => exact ⟨first.id, first.clusterID.trans (observed g).1⟩
    refine Store.Housed.placement ?_
    refine housed_of_dead on.stored ?_ ?_ (revised.clusterID.trans same.2) becomes
    · exact (revised.id.trans same.1).trans (Store.id_of_gateway? on.stored)
    · rw [Meta.live, revised.deletedAt]
      exact dead

end Gateways

/-! ### The catalog -/

namespace CatalogResource

variable {T C P : Type} [Relation T String] {r : CatalogResource T C P}

/-- One record was written, and published. -/
def Recatalogued (r : CatalogResource T C P) (s : Store) (id : String) (alive : Bool) (t : Store) :
    Prop :=
  ∃ u outbox, r.Changed s id alive u ∧ t = { u with outbox := outbox }

variable [Platform] {svc : GatewayService} {p : Principal} {L : Type} {ω : Env} {id : String}

theorem wp_notify {c : Context Store Event L} {operation suffix : String}
    {ok : Unit → Context Store Event L → Prop} {fails : Err → Context Store Event L → Prop}
    (failed : ∀ e n, fails e (c.at n))
    (done : ∀ n outbox, ok () (c.put n { c.store with outbox := outbox })) :
    Tx.wp ω (r.notify id operation suffix) ok fails c := by
  refine Action.wp_update (fun _ => failed _ _) (fun _ _ => failed _ _) fun t wrote => ?_
  cases wrote
  exact done _ _

theorem createBody_commits {row : T} : Commits (fun s t => ∃ id, r.Recatalogued s id true t)
    (withTransaction none (r.createBody id row)) := by
  refine .transaction fun ω s n => ?_
  simp only [createBody, Tx.wp_bind]
  refine Action.wp_update (fun _ => rfl) (fun _ _ => rfl) fun u wrote => ?_
  refine Action.wp_query (fun _ => rfl) (fun _ _ => rfl) fun stored _ => ?_
  rw [Tx.wp_capture]
  refine wp_notify (fun _ _ => rfl) fun _ outbox => ?_
  exact ⟨rfl, _, u, outbox, insert_ok wrote, rfl⟩

theorem updateBody_commits {input : P} : Commits (fun s t => ∃ id, r.Recatalogued s id true t)
    (withTransaction none (r.updateBody id input)) := by
  refine .transaction fun ω s n => ?_
  simp only [updateBody, Tx.wp_bind]
  refine Action.wp_query (fun _ => rfl) (fun _ _ => rfl) fun row _ => ?_
  refine Tx.wp_lift (fun _ _ => rfl) fun patched _ => ?_
  refine Action.wp_update (fun _ => rfl) (fun _ _ => rfl) fun u wrote => ?_
  refine Action.wp_query (fun _ => rfl) (fun _ _ => rfl) fun stored _ => ?_
  rw [Tx.wp_capture]
  refine wp_notify (fun _ _ => rfl) fun _ outbox => ?_
  exact ⟨rfl, _, u, outbox, replace_ok wrote, rfl⟩

end CatalogResource

section Unreferenced

variable [Platform] {L : Type} {ω : Env} {c : Context Store Event L} {id : String}

/-- **Every owner is asked**, and none has a reference that is pending. -/
theorem wp_checkCleanupReferences {owners : List CleanupOwner}
    {ok : Unit → Context Store Event L → Prop} {fails : Err → Context Store Event L → Prop}
    (failed : ∀ e n, fails e (c.at n))
    (free : ∀ n, (∀ owner ∈ owners, c.store.hasUnfinishedReferences owner id = .ok false) →
      ok () (c.at n)) : Tx.wp ω (checkCleanupReferences id owners) ok fails c := by
  induction owners generalizing c with
  | nil => exact free c.tick fun owner member => nomatch member
  | cons owner rest ih =>
    simp only [checkCleanupReferences, Tx.wp_bind]
    refine Action.wp_query (fun _ => failed _ _) (fun _ _ => failed _ _) fun pending read => ?_
    rw [Tx.wp_ite]
    split
    · exact failed _ _
    · rename_i none
      rw [Bool.not_eq_true] at none
      subst none
      refine ih (fun e n => failed e n) fun n others => free n fun owner' member => ?_
      rcases List.mem_cons.mp member with rfl | member
      · exact read
      · exact others owner' member

theorem wp_checkUnreferenced {entity : CatalogEntity} {ok : Unit → Context Store Event L → Prop}
    {fails : Err → Context Store Event L → Prop} (failed : ∀ e n, fails e (c.at n))
    (free : ∀ n, c.store.Unreferenced entity id → ok () (c.at n)) :
    Tx.wp ω (checkUnreferenced entity id) ok fails c := by
  cases entity with
  | cluster => exact wp_checkCleanupReferences failed free
  | release =>
    simp only [checkUnreferenced, Tx.wp_bind]
    refine Action.wp_query (fun _ => failed _ _) (fun _ _ => failed _ _) fun total counted => ?_
    cases counted
    rw [Tx.wp_require]
    split
    · rename_i none
      exact free _ none
    · exact failed _ _

/-- **A record is removed** only without references, in the same transaction. -/
theorem CatalogResource.deleteBody_commits {T C P : Type} [Relation T String]
    {r : CatalogResource T C P} {svc : GatewayService} {p : Principal} :
    Commits (fun s t => s.Unreferenced r.entity id ∧ r.Recatalogued s id false t)
      (withTransaction () (r.deleteBody svc p id)) := by
  refine .transaction fun ω s n => ?_
  simp only [deleteBody, Tx.wp_bind]
  refine Action.wp_query (fun _ => rfl) (fun _ _ => rfl) fun row _ => ?_
  rw [Tx.wp_require]
  split
  swap
  · exact rfl
  refine wp_checkUnreferenced (fun _ _ => rfl) fun n free => ?_
  refine Action.wp_update (fun _ => rfl) (fun _ _ => rfl) fun u wrote => ?_
  refine wp_notify (fun _ _ => rfl) fun _ outbox => ?_
  exact ⟨rfl, free, u, outbox, remove_ok wrote, rfl⟩

end Unreferenced

section Catalog

variable {s t : Store} {id : String}

/-- The Gateways are untouched by a change of the catalog. -/
theorem fixed_of_same (gateways : t.gateways = s.gateways) (id : String) (g : Gateway)
    (stored : s.gateway? id = some g) :
    ∃ g', t.gateway? id = some g' ∧ g'.clusterID = g.clusterID := by
  refine ⟨g, ?_, rfl⟩
  rw [Store.gateway?, gateways]
  exact stored

/-- A cluster that is not the one written is read as before. -/
theorem getCluster_of_changed {alive : Bool} (changed : clusters.Changed s id alive t)
    {cluster : String} (other : cluster ≠ id) : t.getCluster cluster = s.getCluster cluster := by
  have same : t.clusters.find? cluster = s.clusters.find? cluster := changed.others cluster other
  rw [Store.getCluster, Store.getCluster, Table.getLive, Table.getLive, same]

theorem getRelease_of_changed {alive : Bool} (changed : releases.Changed s id alive t)
    {release : String} (other : release ≠ id) : t.getRelease release = s.getRelease release := by
  have same : t.releases.find? release = s.releases.find? release := changed.others release other
  rw [Store.getRelease, Store.getRelease, Table.getLive, Table.getLive, same]

/-- **A cluster** is written: if it is deleted, nothing refers to it. -/
theorem placement_of_clusters {alive : Bool} (changed : clusters.Recatalogued s id alive t)
    (free : alive = false → s.Unreferenced .cluster id) : PlacementStep s t := by
  obtain ⟨u, outbox, changed, rfl⟩ := changed
  obtain ⟨table, same⟩ := changed.rest
  obtain ⟨row, stored, lives⟩ := changed.row
  have gateways : u.gateways = s.gateways := by rw [same]; rfl
  have releases : u.releases = s.releases := by rw [same]; rfl
  refine ⟨fun every id' g placed live => ?_, fixed_of_same gateways, ?_⟩
  · have placed' : s.gateway? id' = some g := by
      rw [Store.gateway?, ← gateways]
      exact placed
    obtain ⟨onCluster, runs⟩ := every id' g placed' live
    refine ⟨?_, ?_⟩
    · by_cases here : g.clusterID = id
      · cases alive with
        | true =>
          rw [here]
          exact ⟨row, clusters.get_of_row? stored lives⟩
        | false =>
          exact absurd here ((Store.unused_of_unreferenced (free rfl) id' g placed').1 live)
      · obtain ⟨cluster, read⟩ := onCluster
        exact ⟨cluster, (getCluster_of_changed changed here).trans read⟩
    · obtain ⟨release, read⟩ := runs
      exact ⟨release, (Store.getRelease_of_same releases _).trans read⟩
  · intro id' cluster cluster' before live after dead
    have after' : u.clusters.find? id' = some cluster' := after
    by_cases here : id' = id
    · subst here
      have stored' : u.clusters.find? id' = some row := stored
      obtain rfl : cluster' = row := Option.some.inj (after'.symm.trans stored')
      refine Store.unused_of_unreferenced (free ?_)
      rw [← lives]
      exact dead
    · have kept : u.clusters.find? id' = s.clusters.find? id' := changed.others id' here
      obtain rfl : cluster = cluster' :=
        Option.some.inj (before.symm.trans (kept.symm.trans after'))
      rw [dead] at live
      cases live

/-- **A release** is written: if it is deleted, nothing refers to it. -/
theorem placement_of_releases {alive : Bool} (changed : releases.Recatalogued s id alive t)
    (free : alive = false → s.Unreferenced .release id) : PlacementStep s t := by
  obtain ⟨u, outbox, changed, rfl⟩ := changed
  obtain ⟨table, same⟩ := changed.rest
  obtain ⟨row, stored, lives⟩ := changed.row
  have gateways : u.gateways = s.gateways := by rw [same]; rfl
  have clusters : u.clusters = s.clusters := by rw [same]; rfl
  refine ⟨fun every id' g placed live => ?_, fixed_of_same gateways,
    fun _ _ _ stored alive later dead => Store.unused_of_same clusters stored alive later dead⟩
  have placed' : s.gateway? id' = some g := by
    rw [Store.gateway?, ← gateways]
    exact placed
  obtain ⟨⟨cluster, onCluster⟩, release, runs⟩ := every id' g placed' live
  refine ⟨⟨cluster, (Store.getCluster_of_same clusters _).trans onCluster⟩, ?_⟩
  by_cases here : g.releaseID = id
  · cases alive with
    | true =>
      rw [here]
      exact ⟨row, releases.get_of_row? stored lives⟩
    | false => exact absurd here (Store.released_of_unreferenced (free rfl) placed' live)
  · exact ⟨release, (getRelease_of_changed changed here).trans runs⟩

end Catalog

/-! ### The system -/

section System

attribute [local irreducible] validatePrincipal

variable [Platform] {svc : GatewayService}

/-- A call that changes the catalog, or that places, changes, deletes or cleans up a Gateway. -/
inductive CatalogCall (svc : GatewayService) : Process (Option Err) → Prop
  | createCluster (p : Principal) (input : ClusterCreate) :
      CatalogCall svc (Prod.snd <$> clusters.create svc p input)
  | updateCluster (p : Principal) (id : String) (input : ClusterPatch) :
      CatalogCall svc (Prod.snd <$> clusters.update svc p id input)
  | deleteCluster (p : Principal) (id : String) :
      CatalogCall svc (Prod.snd <$> clusters.delete svc p id)
  | createRelease (p : Principal) (input : ReleaseCreate) :
      CatalogCall svc (Prod.snd <$> releases.create svc p input)
  | updateRelease (p : Principal) (id : String) (input : ReleasePatch) :
      CatalogCall svc (Prod.snd <$> releases.update svc p id input)
  | deleteRelease (p : Principal) (id : String) :
      CatalogCall svc (Prod.snd <$> releases.delete svc p id)
  | createGateway (p : Principal) (r : GatewayCreateRequest) :
      CatalogCall svc (Prod.snd <$> createGateway svc p r)
  | updateGateway (p : Principal) (id : String) (patch : PatchRequest) :
      CatalogCall svc (Prod.snd <$> update svc p id patch)
  | updateControlPlane (p : Principal) (id : String) (patch : PatchRequest)
      (console route : Option String) (version : Int) :
      CatalogCall svc (Prod.snd <$> updateControlPlane svc p id patch console route version)
  | deleteGateway (p : Principal) (id : String) :
      CatalogCall svc (Prod.snd <$> deleteGateway svc p id)
  | observeCleanup (p : Principal) (id : String) (version : Int) (owner target : String)
      (complete : Bool) :
      CatalogCall svc (Prod.snd <$> observeCleanup svc p id version owner target complete)
  | recordCleanup (id : String) (version : Int) (owner target : String) (complete : Bool) :
      CatalogCall svc (Prod.snd <$> recordAlone id version owner target complete)

/-- The systems of these calls, from the first Gateway on.  Everything else leaves the catalog
and the places of Gateways alone. -/
abbrev CatalogReachable (svc : GatewayService) (x : System Env Store Event (Option Err)) : Prop :=
  System.Reachable {p | CatalogCall svc p} Store.Housed (fun s => s.gateways.rows = []) x

/-- Every commit keeps Gateways placed. -/
def catalogContract : Contract Env Store Event where
  oracle _ := True
  inv := Store.EveryPlaced
  rely s t := ∀ id g, s.gateway? id = some g →
    ∃ g', t.gateway? id = some g' ∧ g'.clusterID = g.clusterID
  event _ _ := True
  change _ := PlacementStep

theorem catalogContract_sound : catalogContract.Sound where
  refl s id g stored := ⟨g, stored, rfl⟩
  trans first second id g stored := by
    obtain ⟨g', stored', same⟩ := first id g stored
    obtain ⟨g'', stored'', same'⟩ := second id g' stored'
    exact ⟨g'', stored'', same'.trans same⟩
  keeps inv change := ⟨change.placed inv, change.fixed⟩

theorem Settles.catalog {L : Type} {ends : Store → L → Store → Prop}
    {p : Process (L × Option Err)} (settles : Settles ends p)
    (steps : ∀ s x t, ends s x t → PlacementStep s t) {h : List Event} {s : Store} :
    p.Safe catalogContract (fun _ _ _ => True) h s :=
  settles.safe (fun _ _ => trivial) (fun _ _ _ => trivial) (fun _ _ _ aside => aside.placement)
    fun _ _ _ _ ended => steps _ _ _ ended

theorem Commits.catalog {L : Type} {ends : Store → Store → Prop} {p : Process (L × Option Err)}
    (commits : Commits ends p) (steps : ∀ s t, ends s t → PlacementStep s t) {h : List Event}
    {s : Store} : p.Safe catalogContract (fun _ _ _ => True) h s :=
  commits.settles.catalog fun _ _ _ ended => steps _ _ ended

theorem catalog_map {α β : Type} {call : Process α} {f : α → β} {h : List Event} {s : Store}
    (safe : call.Safe catalogContract (fun _ _ _ => True) h s) :
    (f <$> call).Safe catalogContract (fun _ _ _ => True) h s :=
  Proc.Safe.map safe

/-- An ID is drawn from nothing stored. -/
theorem drawID_catalog {β : Type} {rest : Except Err { id : String // Platform.validID id } → Process β}
    (safe : ∀ r h s, (rest r).Safe catalogContract (fun _ _ _ => True) h s) {h : List Event}
    {s : Store} :
    (CatalogResource.drawID >>= rest).Safe catalogContract (fun _ _ _ => True) h s := by
  intro s' _ _ ω _
  exact ⟨fun _ _ => trivial, (Store.Aside.refl s').placement, safe _ _ _⟩

section Resource

variable {T C P : Type} [Relation T String] {r : CatalogResource T C P} {p : Principal}
  {id : String} {h : List Event} {s : Store}

theorem create_catalog {input : C}
    (steps : ∀ s id t, r.Recatalogued s id true t → PlacementStep s t) :
    (r.create svc p input).Safe catalogContract (fun _ _ _ => True) h s := by
  unfold CatalogResource.create
  split
  · exact trivial
  split
  · exact trivial
  · apply drawID_catalog
    intro drawn h s
    cases drawn with
    | error e => exact trivial
    | ok id =>
      dsimp only
      split
      · exact trivial
      · apply catalog_map
        apply CatalogResource.createBody_commits.catalog
        exact fun _ _ ⟨_, changed⟩ => steps _ _ _ changed

theorem update_catalog {input : P}
    (steps : ∀ s id t, r.Recatalogued s id true t → PlacementStep s t) :
    (r.update svc p id input).Safe catalogContract (fun _ _ _ => True) h s := by
  unfold CatalogResource.update
  split
  · exact trivial
  split
  · exact trivial
  split
  · exact trivial
  · apply catalog_map
    apply CatalogResource.updateBody_commits.catalog
    exact fun _ _ ⟨_, changed⟩ => steps _ _ _ changed

theorem delete_catalog
    (steps : ∀ s t, s.Unreferenced r.entity id → r.Recatalogued s id false t → PlacementStep s t) :
    (r.delete svc p id).Safe catalogContract (fun _ _ _ => True) h s := by
  unfold CatalogResource.delete
  split
  · exact trivial
  split
  · exact trivial
  · apply CatalogResource.deleteBody_commits.catalog
    exact fun _ _ ⟨free, changed⟩ => steps _ _ free changed

end Resource

theorem CatalogCall.safe {call : Process (Option Err)} (known : CatalogCall svc call) (s : Store) :
    call.Safe catalogContract (fun _ _ _ => True) [] s := by
  cases known with
  | createCluster p input =>
    apply catalog_map
    apply create_catalog
    exact fun _ _ _ changed => placement_of_clusters changed fun never => nomatch never
  | updateCluster p id input =>
    apply catalog_map
    apply update_catalog
    exact fun _ _ _ changed => placement_of_clusters changed fun never => nomatch never
  | deleteCluster p id =>
    apply catalog_map
    apply delete_catalog
    exact fun _ _ free changed => placement_of_clusters changed fun _ => free
  | createRelease p input =>
    apply catalog_map
    apply create_catalog
    exact fun _ _ _ changed => placement_of_releases changed fun never => nomatch never
  | updateRelease p id input =>
    apply catalog_map
    apply update_catalog
    exact fun _ _ _ changed => placement_of_releases changed fun never => nomatch never
  | deleteRelease p id =>
    apply catalog_map
    apply delete_catalog
    exact fun _ _ free changed => placement_of_releases changed fun _ => free
  | createGateway p r =>
    apply catalog_map
    apply catalog_map
    apply (settles_createGateway r).catalog
    exact fun _ _ _ placed => placed.placement
  | updateGateway p id patch =>
    apply catalog_map
    unfold Hypershell.update
    split
    · exact trivial
    split
    · exact trivial
    split
    · exact trivial
    apply catalog_map
    apply update_commits.catalog
    exact fun _ _ ⟨_, _, updated⟩ => updated.placement
  | updateControlPlane p id patch console route version =>
    apply catalog_map
    unfold Hypershell.updateControlPlane
    split
    · exact trivial
    split
    · exact trivial
    split
    · exact trivial
    apply catalog_map
    apply update_commits.catalog
    exact fun _ _ ⟨_, _, updated⟩ => updated.placement
  | deleteGateway p id =>
    apply catalog_map
    apply (deleteGateway_settles p id).catalog
    exact fun _ _ _ ended => ended.1.placement
  | observeCleanup p id version owner target complete =>
    apply catalog_map
    apply observeCleanup_commits.catalog
    exact fun _ _ ⟨_, _, recorded⟩ => recorded.placement
  | recordCleanup id version owner target complete =>
    apply catalog_map
    apply recordAlone_commits.catalog
    exact fun _ _ ⟨_, _, recorded⟩ => recorded.placement

theorem catalogGoverned : System.Governed catalogContract (fun _ _ _ => True)
    {p | CatalogCall svc p} Store.Housed (fun s => s.gateways.rows = []) where
  sound := catalogContract_sound
  oracle _ := trivial
  safe _ known s _ := CatalogCall.safe known s
  outside := fun every housed => ⟨housed.placement.placed every, housed.placement.fixed⟩
  init := by
    intro s empty id g stored _
    have member := Table.mem_of_find? stored
    rw [empty] at member
    cases member

/-- **Every step** of the system is one of placement. -/
theorem placement_of_step {x y : System Env Store Event (Option Err)}
    (reach : CatalogReachable svc x)
    (move : System.Moves {p | CatalogCall svc p} Store.Housed x y) :
    PlacementStep x.store y.store := by
  have still : PlacementStep x.store x.store := (Store.Aside.refl _).placement
  have governed : System.Governed catalogContract (fun _ _ _ => True) {p | CatalogCall svc p}
    Store.Housed (fun s => s.gateways.rows = []) := catalogGoverned
  obtain ⟨record, step⟩ := move
  cases step with
  | start known => exact still
  | crash => exact still
  | interrupt ω started => exact still
  | outside moved => exact moved.placement
  | act ω => exact (governed.step_safe (governed.good_of_reachable reach) ω).2.1

end System

section Claims

variable [Platform] {svc : GatewayService}

/-- **Referential safety.** In every reachable store the cluster and the release of every live
Gateway are live.  The cluster of a Gateway never changes.  A cluster is deleted only when no
live Gateway is on it and no deleted one has an unfinished target there. -/
theorem catalog_references {x : System Env Store Event (Option Err)}
    (reach : CatalogReachable svc x) :
    x.store.EveryPlaced ∧
      (∀ y, Relation.ReflTransGen (System.Moves {p | CatalogCall svc p} Store.Housed) x y →
        ∀ id g, x.store.gateway? id = some g →
          ∃ g', y.store.gateway? id = some g' ∧ g'.clusterID = g.clusterID) ∧
      ∀ y, System.Moves {p | CatalogCall svc p} Store.Housed x y →
        ∀ id cluster cluster', x.store.clusters.find? id = some cluster → cluster.live = true →
          y.store.clusters.find? id = some cluster' → cluster'.live = false →
          x.store.Unused id := by
  have good := catalogGoverned.good_of_reachable reach
  refine ⟨good.inv, fun y later => ?_, fun y move => (placement_of_step reach move).unused⟩
  exact (catalogGoverned.good_later good later).2

end Claims

/-! ### The sample -/

namespace Sample

/-- The store after a creation. -/
def created : Option Store :=
  (create.run [env drawnGatewayID] unplaced).map fun (_, _, _, s) => s

theorem created_live : (created.any fun s => (s.gateway? gatewayID).any fun g => g.live) = true := by
  decide +kernel

end Sample

open Sample in
/-- The cluster of the sample's Gateway is live. -/
theorem catalog_references_sample : ∃ (x : System Env Store Event (Option Err)) (g : Gateway)
    (cluster : ManagedCluster), x.store.gateway? Sample.gatewayID = some g ∧ g.live = true ∧
      x.store.getCluster g.clusterID = .ok cluster := by
  have computed := Sample.created_live
  simp only [Sample.created, Option.any_eq_true, Option.map_eq_some_iff, Prod.exists] at computed
  obtain ⟨t, ⟨steps, r, l, s, run, rfl⟩, g, stored, live⟩ := computed
  have reach : CatalogReachable Sample.gatewayService ⟨s, []⟩ :=
    ⟨Sample.unplaced, rfl, System.moves_of_call (.createGateway Sample.creator _) run⟩
  obtain ⟨placed, -⟩ := catalog_references reach
  obtain ⟨⟨cluster, read⟩, -⟩ := placed _ g stored live
  exact ⟨⟨s, []⟩, g, cluster, stored, live, read⟩

end Hypershell
