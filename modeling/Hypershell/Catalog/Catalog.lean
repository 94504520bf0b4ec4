import Hypershell.Controller.Cycle
import Hypershell.Gateways.Creation

/-!
# The catalog

Clusters and releases are shared records that Gateways refer to.  One generic resource binds
a catalog type to its storage and its rules.

## Main definitions

* `CatalogResource` — a catalog type, with `create`, `update` and `delete`
* `clusters`, `releases`
* `Store.hasUnfinishedReferences` — what keeps a cluster

## Main results

* `insert_ok`, `replace_ok`, `remove_ok` — what becomes of a catalog table
-/

namespace Hypershell

open Foundation

/-- The catalog types that Gateways refer to. -/
inductive CatalogEntity
  | cluster
  | release
  deriving DecidableEq, Repr

namespace GatewayService

/-- `AuthorizeCatalog`. -/
def authorizeCatalog (svc : GatewayService) (p : Principal) (write : Bool) : Except Err Unit :=
  match validatePrincipal p with
  | .error e => .error e
  | .ok () =>
    if svc.isControlPlane p = true ∨ "platform:admin" ∈ p.roles then .ok ()
    else if write = false ∧ "gateway:creator" ∈ p.roles then .ok ()
    else .error .forbidden

/-- `AuthorizeRecovery` permits only configured controller subjects. -/
def authorizeRecovery (svc : GatewayService) (p : Principal) : Except Err Unit :=
  match validatePrincipal p with
  | .error e => .error e
  | .ok () => if svc.isControlPlane p = false then .error .forbidden else .ok ()

end GatewayService

/-- `textField`. -/
def textField (value : String) (required : Bool) (max : Nat) : Bool :=
  (!required || decide (trimSpace value ≠ "")) && validText value max

namespace Store

/-- `HasUnfinishedReferences`, of the Gateways by their cluster: a live Gateway on it, a deleted
one whose owner is not complete, or a target in the history of any that is not. -/
def hasUnfinishedReferences (owner : CleanupOwner) (id : String) (s : Store) : Except Err Bool :=
  if checkpointText id 256 false = false then
    .error (.text "invalid cleanup reference query")
  else
    .ok (s.gateways.rows.any fun g =>
      decide (g.clusterID = id) && (g.live || !g.cleanupState owner) ||
        decide (owner ∈ CleanupOwner.targeted ∧
          (g.cleanupTargetState owner).lookup id = some false))

/-- The total of the counting `List` over the live Gateways of a release. -/
def countByRelease (id : String) (s : Store) : Nat :=
  s.gateways.rows.countP fun g => g.live && decide (g.releaseID = id)

end Store

/-- A catalog type: its table, the columns that every row has, and its rules. -/
structure CatalogResource (T C P : Type) [Relation T String] where
  entity : CatalogEntity
  eventPrefix : String
  rows : Store → Table T
  put : Table T → Store → Store
  columns : T → Meta
  withColumns : Meta → T → T
  /-- `create` of the source: a new row, if the request is valid. -/
  newRow : String → C → Except Err T
  /-- `patch` of the source. -/
  patchRow : T → P → Except Err T
  rows_put : ∀ table s, rows (put table s) = table
  key_row : ∀ row, Relation.key row = (columns row).id
  columns_with : ∀ columns' row, columns (withColumns columns' row) = columns'

/-! ### Clusters -/

/-- The fields of a request for a cluster. -/
structure ClusterCreate where
  name : String
  provider : String
  region : Option String
  kubeconfigSecret : String
  status : Option String
  apiServerURL : Option String
  deriving DecidableEq, Repr

/-- The changes of a cluster.  `none` is `nil`. -/
structure ClusterPatch where
  name : Option String
  provider : Option String
  region : Option String
  kubeconfigSecret : Option String
  status : Option String
  apiServerURL : Option String
  deriving DecidableEq, Repr

/-- `validateCluster`. -/
def validateCluster (row : ManagedCluster) : Except Err Unit :=
  if textField row.name true 255 = false then .error .invalid
  else if textField row.provider true 64 = false then .error .invalid
  else if row.region.any fun value => !textField value false 255 then .error .invalid
  else if textField row.kubeconfigSecret true 253 = false then .error .invalid
  else if row.status.any fun value => !textField value false 255 then .error .invalid
  else if row.apiServerURL.any fun value => !textField value false 2048 then .error .invalid
  else .ok ()

/-- A row that passes a check. -/
def checked {T : Type} (validate : T → Except Err Unit) (row : T) : Except Err T :=
  match validate row with
  | .error e => .error e
  | .ok () => .ok row

/-- `newCluster`. -/
def newCluster (id : String) (input : ClusterCreate) : Except Err ManagedCluster :=
  checked validateCluster
    ⟨⟨id, 0, 0, none⟩, input.name, input.provider, input.region, input.kubeconfigSecret,
      input.status, input.apiServerURL⟩

/-- `patchCluster`. -/
def patchCluster (row : ManagedCluster) (input : ClusterPatch) : Except Err ManagedCluster :=
  checked validateCluster { row with
    name := input.name.getD row.name
    provider := input.provider.getD row.provider
    region := input.region <|> row.region
    kubeconfigSecret := input.kubeconfigSecret.getD row.kubeconfigSecret
    status := input.status <|> row.status
    apiServerURL := input.apiServerURL <|> row.apiServerURL }

/-- `Service.Clusters`. -/
def clusters : CatalogResource ManagedCluster ClusterCreate ClusterPatch where
  entity := .cluster
  eventPrefix := "managedcluster"
  rows s := s.clusters
  put table s := { s with clusters := table }
  columns row := row.toMeta
  withColumns columns row := { row with toMeta := columns }
  newRow := newCluster
  patchRow := patchCluster
  rows_put _ _ := rfl
  key_row _ := rfl
  columns_with _ _ := rfl

/-! ### Releases -/

/-- The fields of a request for a release. -/
structure ReleaseCreate where
  name : String
  image : String
  rolloutStrategy : Option String
  canaryPercent : Option Int
  canaryDuration : Option String
  status : Option String
  deriving DecidableEq, Repr

/-- The changes of a release. -/
structure ReleasePatch where
  name : Option String
  image : Option String
  rolloutStrategy : Option String
  canaryPercent : Option Int
  canaryDuration : Option String
  status : Option String
  deriving DecidableEq, Repr

/-- `validateRelease`. -/
def validateRelease (row : GatewayRelease) : Except Err Unit :=
  if textField row.name true 255 = false then .error .invalid
  else if textField row.image true 2048 = false then .error .invalid
  else if row.rolloutStrategy.any fun value => !textField value false 64 then .error .invalid
  else if row.canaryPercent.any fun percent => decide (percent < 0 ∨ percent > 100) then
    .error .invalid
  else if row.canaryDuration.any fun value => !textField value false 64 then .error .invalid
  else if row.status.any fun value => !textField value false 255 then .error .invalid
  else .ok ()

/-- `newRelease`. -/
def newRelease (id : String) (input : ReleaseCreate) : Except Err GatewayRelease :=
  checked validateRelease
    ⟨⟨id, 0, 0, none⟩, input.name, input.image, input.rolloutStrategy, input.canaryPercent,
      input.canaryDuration, input.status⟩

/-- `patchRelease`. -/
def patchRelease (row : GatewayRelease) (input : ReleasePatch) : Except Err GatewayRelease :=
  checked validateRelease { row with
    name := input.name.getD row.name
    image := input.image.getD row.image
    rolloutStrategy := input.rolloutStrategy <|> row.rolloutStrategy
    canaryPercent := input.canaryPercent <|> row.canaryPercent
    canaryDuration := input.canaryDuration <|> row.canaryDuration
    status := input.status <|> row.status }

/-- `Service.Releases`. -/
def releases : CatalogResource GatewayRelease ReleaseCreate ReleasePatch where
  entity := .release
  eventPrefix := "gatewayrelease"
  rows s := s.releases
  put table s := { s with releases := table }
  columns row := row.toMeta
  withColumns columns row := { row with toMeta := columns }
  newRow := newRelease
  patchRow := patchRelease
  rows_put _ _ := rfl
  key_row _ := rfl
  columns_with _ _ := rfl

/-! ### Storage of a catalog type -/

namespace CatalogResource

variable {T C P : Type} [Relation T String] (r : CatalogResource T C P)

/-- The stored row with an ID, live or not. -/
def row? (s : Store) (id : String) : Option T := (r.rows s).find? id

/-- A row that is not deleted. -/
def live (row : T) : Bool := (r.columns row).live

/-- `Get(ctx, r.entity, id)`. -/
def get (id : String) (s : Store) : Except Err T := (r.rows s).getLive id r.live

/-- `Create(ctx, r.entity, row)`. -/
def insert (row : T) (s : Store) : Except Err Store :=
  match (r.rows s).insert? (r.withColumns ⟨(r.columns row).id, s.time, s.time, none⟩ row) with
  | some table => .ok (r.put table s)
  | none => .error .conflict

/-- `Replace(ctx, r.entity, id, row)`: every column that is not common to all rows. -/
def replace (id : String) (row : T) (s : Store) : Except Err Store :=
  match r.get id s with
  | .error e => .error e
  | .ok old =>
    match (r.rows s).replace? (r.withColumns { r.columns old with updatedTime := s.time } row) with
    | some table => .ok (r.put table s)
    | none => .error .conflict

/-- `Delete(ctx, r.entity, id)`. -/
def remove (id : String) (s : Store) : Except Err Store :=
  match r.get id s with
  | .error e => .error e
  | .ok old =>
    match (r.rows s).replace? (r.withColumns { r.columns old with deletedAt := some s.time } old) with
    | some table => .ok (r.put table s)
    | none => .error .conflict

/-- One row became another, or a new one, with the liveness that is given. -/
structure Changed (s : Store) (id : String) (alive : Bool) (t : Store) : Prop where
  rest : ∃ table, t = r.put table s
  row : ∃ row, r.row? t id = some row ∧ r.live row = alive
  others : ∀ id' ≠ id, r.row? t id' = r.row? s id'

section Spec

variable {r} {s t : Store} {row : T} {id : String}

theorem get_ok (found : r.get id s = .ok row) : r.row? s id = some row ∧ r.live row = true :=
  Table.getLive_ok found

theorem get_of_row? (stored : r.row? s id = some row) (live : r.live row = true) :
    r.get id s = .ok row := by
  have found : (r.rows s).find? id = some row := stored
  rw [get, Table.getLive, found]
  exact if_pos live

/-- A new row is live. -/
theorem insert_ok (inserted : r.insert row s = .ok t) :
    r.Changed s (r.columns row).id true t := by
  unfold insert at inserted
  split at inserted
  · rename_i table added
    cases inserted
    have found := Table.find?_insert? added
    refine ⟨⟨table, rfl⟩, ?_, fun id' other => ?_⟩
    · refine ⟨r.withColumns ⟨(r.columns row).id, s.time, s.time, none⟩ row, ?_, ?_⟩
      · rw [row?, r.rows_put, found, r.key_row, r.columns_with, if_pos rfl]
      · rw [live, r.columns_with]
        rfl
    · rw [row?, r.rows_put, found, r.key_row, r.columns_with, if_neg other]
      rfl
  · cases inserted

/-- A written row, in the place of a live one. -/
theorem changed_of_replace? {old : T} {columns : Meta} {alive : Bool} {table : Table T}
    (replaced : (r.rows s).replace? (r.withColumns columns row) = some table)
    (stored : r.row? s id = some old) (key : columns.id = (r.columns old).id)
    (lives : columns.live = alive) :
    r.Changed s id alive (r.put table s) := by
  have named : (r.columns old).id = id := by
    rw [← r.key_row]
    exact Table.key_of_find? stored
  have keyed : Relation.key (r.withColumns columns row) = id := by
    rw [r.key_row, r.columns_with, key, named]
  have becomes := Table.becomes_of_replace? replaced (by rw [keyed]; exact stored)
  refine ⟨⟨table, rfl⟩, ⟨r.withColumns columns row, ?_, ?_⟩, fun id' other => ?_⟩
  · rw [row?, r.rows_put, becomes.find?, if_pos keyed.symm]
  · rw [live, r.columns_with]
    exact lives
  · rw [row?, r.rows_put, becomes.find?, keyed, if_neg other]
    rfl

theorem replace_ok (replaced : r.replace id row s = .ok t) : r.Changed s id true t := by
  unfold replace at replaced
  split at replaced
  · cases replaced
  · rename_i old found
    obtain ⟨stored, live⟩ := get_ok found
    split at replaced
    · rename_i table written
      cases replaced
      exact changed_of_replace? written stored rfl live
    · cases replaced

theorem remove_ok (removed : r.remove id s = .ok t) : r.Changed s id false t := by
  unfold remove at removed
  split at removed
  · cases removed
  · rename_i old found
    obtain ⟨stored, live⟩ := get_ok found
    split at removed
    · rename_i table written
      cases removed
      exact changed_of_replace? written stored rfl rfl
    · cases removed

end Spec

/-! ### The operations -/

variable [Platform] {L : Type}

/-- `notify`. -/
def notify (id operation suffix : String) : Action L Unit :=
  Action.update (Store.notify id operation (r.eventPrefix ++ "." ++ suffix))

/-- `ksuid.NewRandom`, before a transaction. -/
def drawID : Process (Except Err { id : String // Platform.validID id }) :=
  .once fun ω s => ⟨s, [], match ω.entropy 0 with
    | some id => .ok id
    | none => .error (.text "random ID")⟩

/-- The callback of `Create`. -/
def createBody (id : String) (row : T) : Action (Option T) Unit := do
  Action.update (r.insert row)
  let stored ← Action.query (r.get id)
  Tx.capture fun _ => some stored
  r.notify id "Create" "created"

/-- `Resource.Create`. -/
def create (svc : GatewayService) (p : Principal) (input : C) : Process (Option T × Option Err) :=
  match svc.authorizeCatalog p true with
  | .error e => .ret (none, some e)
  | .ok () =>
    match svc.authorizeRecovery p with
    | .ok () => .ret (none, some .forbidden)
    | .error _ => do
      match ← drawID with
      | .error e => .ret (none, some e)
      | .ok id =>
        match r.newRow id.val input with
        | .error e => .ret (none, some e)
        | .ok row => dropOnError <$> withTransaction none (r.createBody id.val row)

/-- The callback of `Update`. -/
def updateBody (id : String) (input : P) : Action (Option T) Unit := do
  let row ← Action.query (r.get id)
  let patched ← Tx.lift (r.patchRow row input)
  Action.update (r.replace id patched)
  let stored ← Action.query (r.get id)
  Tx.capture fun _ => some stored
  r.notify id "Update" "updated"

/-- `Resource.Update`. -/
def update (svc : GatewayService) (p : Principal) (id : String) (input : P) :
    Process (Option T × Option Err) :=
  match svc.authorizeCatalog p true with
  | .error e => .ret (none, some e)
  | .ok () =>
    match svc.authorizeRecovery p with
    | .ok () => .ret (none, some .forbidden)
    | .error _ =>
      if ¬ Platform.validID id then .ret (none, some .notFound)
      else dropOnError <$> withTransaction none (r.updateBody id input)

end CatalogResource

/-- The owners whose work on a cluster must be complete. -/
def clusterReferences : List CleanupOwner := [.allocation, .workload, .sql]

section Delete

variable [Platform] {L : Type}

/-- No owner has a reference that is pending. -/
def checkCleanupReferences (id : String) : List CleanupOwner → Action L Unit
  | [] => pure ()
  | owner :: rest => do
    let pending ← Action.query (Store.hasUnfinishedReferences owner id)
    if pending = true then Tx.raise .conflict else checkCleanupReferences id rest

/-- The references to a record, by its entity. -/
def checkUnreferenced (entity : CatalogEntity) (id : String) : Action L Unit :=
  match entity with
  | .cluster => checkCleanupReferences id clusterReferences
  | .release => do
    let total ← Action.query fun s => .ok (s.countByRelease id)
    Tx.require (total = 0) .conflict

namespace CatalogResource

variable {T C P : Type} [Relation T String] (r : CatalogResource T C P)

/-- The callback of `Delete`: references and cleanup are checked in the transaction that
removes the record and commits its event. -/
def deleteBody (svc : GatewayService) (p : Principal) (id : String) : Action L Unit := do
  let _ ← Action.query (r.get id)
  Tx.require (svc.authorizeRecovery p ≠ .ok ()) .forbidden
  checkUnreferenced r.entity id
  Action.update (r.remove id)
  r.notify id "Delete" "deleted"

/-- `Resource.Delete`. -/
def delete (svc : GatewayService) (p : Principal) (id : String) : Process (Unit × Option Err) :=
  match svc.authorizeCatalog p true with
  | .error e => .ret ((), some e)
  | .ok () =>
    if ¬ Platform.validID id then .ret ((), some .notFound)
    else withTransaction () (r.deleteBody svc p id)

end CatalogResource

end Delete

end Hypershell
