import Hypershell.Foundation.Paging
import Hypershell.Foundation.Readings
import Hypershell.Gateways.Presentation
import Hypershell.Sandboxes.Controller
import Hypershell.Workload.Names

/-!
# The catalog of the sandbox count controller

The controller reads the Gateways page by page, asks for the state and the namespace of each one
that is placed on its cluster, and replaces its watches by what it found.  Others create, change
and finalize Gateways between its calls.

## Main definitions

* `CountWorld` — the service, the cluster and the controller
* `refresh` — the catalog scan
* `CatalogMove` — what the others do

## Main results

* `served_page` — a page of the catalog is what the service lists
* `messages_ok` — the messages of a page

## Design notes

* `Oracle` says of each call whether it fails.  An answer of the service without a message does
  not occur.
* `served` has the IDs of the pages that this scan has read, and `enqueued` what it enqueued.
-/

namespace Hypershell.Sandboxes

open Foundation Foundation.Proc Workload

/-! ### The world -/

/-- `CollectionScope`. -/
structure CollectionScope where
  path : String
  labelSelector : String
  identity : String
  deriving DecidableEq, Repr

/-- What `NamespaceUID` answers: the UID, `ErrPending`, or another error. -/
inductive NamespaceAnswer
  | found (uid : String)
  | pending
  | failed
  deriving DecidableEq, Repr

/-- The service's store, the allocated namespaces by profile, name and owner, and the
controller. -/
structure CountWorld where
  store : Store
  allocation : String → String → String → NamespaceAnswer
  served : List (List String)
  watched : List CollectionScope
  assignments : AList fun _ : String => String
  enqueued : List String

/-- A world in which a scan begins. -/
def CountWorld.start (store : Store) (allocation : String → String → String → NamespaceAnswer)
    (watched : List CollectionScope) (assignments : AList fun _ : String => String) :
    CountWorld :=
  ⟨store, allocation, [], watched, assignments, []⟩

/-- How a scan fails. -/
inductive RefreshErr
  /-- The error of a call. -/
  | call
  /-- `errors.New`. -/
  | text (message : String)
  /-- `ErrWatchSetContract`, wrapped. -/
  | contract (message : String)
  /-- Not an error of the code: the model's bound on the number of pages. -/
  | pages
  deriving DecidableEq, Repr

/-- A call fails if this is true. -/
abbrev Oracle : Type := Bool

/-- A part of a scan. -/
abbrev Scan (α : Type) : Type 1 := Trial Oracle CountWorld Empty RefreshErr α

/-- A call that reads. -/
def readCall {α : Type} (answer : CountWorld → Except RefreshErr α) : Scan α :=
  ExceptT.mk (.once fun fault w => ⟨w, [], if fault then .error .call else answer w⟩)

/-- A call that writes. -/
def writeCall (effect : CountWorld → CountWorld) : Scan Unit :=
  ExceptT.mk (.once fun fault w => if fault then ⟨w, [], .error .call⟩ else ⟨effect w, [], .ok ()⟩)

/-- `assignments` of the controller are its own. -/
def assign (assignments : AList fun _ : String => String) : Scan Unit :=
  ExceptT.mk (.once fun _ w => ⟨{ w with assignments := assignments }, [], .ok ()⟩)

section Calls

variable [Platform]

/-- A page of the catalog as messages. -/
def messages (rows : List Gateway) : Except Err (List GatewayMessage) :=
  (rows.map Gateway.currentObservations).mapM present

variable [Database Gateway]

/-- The IDs of the Gateways whose deletion is not finalized, in order. -/
def catalog (s : Store) : List String := (s.gatewaysFor "" false).map fun g => g.id

/-- The service lists a page of one hundred. -/
def serve (number : Nat) (fault : Oracle) (w : CountWorld) :
    Outcome CountWorld Empty (Except RefreshErr (List GatewayMessage)) :=
  if fault then ⟨w, [], .error .call⟩
  else
    let rows := page number 100 (w.store.gatewaysFor "" false)
    match messages rows with
    | .error _ => ⟨w, [], .error .call⟩
    | .ok items =>
      ⟨{ w with served := w.served ++ [rows.map fun g => g.id] }, [], .ok items⟩

/-- `ListGateways` of a page. -/
def listCall (number : Nat) : Scan (List GatewayMessage) := ExceptT.mk (.once (serve number))

/-- The part of `GetGatewayIdentityStateResponse` that the scan reads. -/
structure IdentityStateView where
  gateway : GatewayMessage
  resourceVersion : Nat
  deleted : Bool
  deriving DecidableEq, Repr

omit [Database Gateway] in
/-- `GetGatewayIdentityState`: also of a Gateway whose deletion is finalized. -/
def identityStateCall (id : String) : Scan IdentityStateView :=
  readCall fun w =>
    match w.store.gateway? id with
    | none => .error .call
    | some g =>
      match present g with
      | .error _ => .error .call
      | .ok gateway => .ok ⟨gateway, g.resourceVersion, g.deletedAt.isSome⟩

end Calls

/-- `NamespaceUID`. -/
def namespaceCall (profile name ownerID : String) : Scan NamespaceAnswer :=
  readCall fun w => .ok (w.allocation profile name ownerID)

/-! ### The scan -/

/-- What a scan has found. -/
structure Gathered where
  namespaces : List String
  assignments : AList fun _ : String => String
  scopes : List CollectionScope
  seen : List String

/-- The controller's cluster, and whether sandboxes have namespaces of their own. -/
structure CountOptions where
  cluster : String
  sandbox : Bool

/-- The path that is watched for a namespace. -/
def watchedPath (watchNamespace : String) : String :=
  "/api/v1/namespaces/" ++ watchNamespace ++ "/pods"

section Scan

variable [Platform]

/-- The profile and the namespace that are watched for a Gateway with a namespace. -/
def watchedNamespace (o : CountOptions) (id ns : String) : Except RefreshErr (String × String) :=
  if o.sandbox then
    match sandboxNamespaceOf id with
    | .error _ => .error (.contract "Sandbox namespace is invalid")
    | .ok watchNamespace => .ok ("sandbox", watchNamespace)
  else
    .ok ("gateway", ns)

/-- The watch of a Gateway. -/
def Gathered.watch (g : Gathered) (ns watchNamespace uid : String) : Gathered :=
  { g with
    scopes := g.scopes ++ [⟨watchedPath watchNamespace, sandboxLabel, uid⟩]
    namespaces := g.namespaces ++ [watchNamespace]
    assignments := g.assignments.insert watchNamespace ns }

/-- A Gateway that the catalog places on the cluster. -/
def gatherPlaced (o : CountOptions) (g : Gathered) (id ns : String) : Scan Gathered := do
  let state ← identityStateCall id
  Trial.demand (1 ≤ state.resourceVersion ∧ state.gateway.metadata.id = id ∧
    state.gateway.nameSpace = ns) (.contract "Gateway state identity could not be verified")
  if state.deleted ∨ state.gateway.clusterID ≠ o.cluster then return g
  else do
    let (profile, watchNamespace) ← Trial.lift (watchedNamespace o id ns)
    match ← namespaceCall profile watchNamespace id with
    | .pending => return g
    | .failed => throw (.contract "Gateway namespace identity could not be verified")
    | .found uid => return g.watch ns watchNamespace uid

/-- The canonical namespace of a message. -/
def catalogNamespace (message : GatewayMessage) : Except RefreshErr String :=
  match namespaceOf message.metadata.id with
  | .error _ => .error (.text "Gateway count catalog has invalid identity")
  | .ok ns => .ok ns

/-- One Gateway of the catalog. -/
def gatherItem (o : CountOptions) (g : Gathered) (message : GatewayMessage) : Scan Gathered := do
  let id := message.metadata.id
  let ns ← Trial.lift (catalogNamespace message)
  Trial.demand (ns = message.nameSpace ∧ id ∉ g.seen)
    (.text "Gateway count catalog has invalid identity")
  let g := { g with seen := id :: g.seen }
  Trial.demand (g.seen.length ≤ maxObservedObjects)
    (.text "Gateway count catalog exceeds its limit")
  if message.clusterID = o.cluster then gatherPlaced o g id ns
  else return g

/-- One page of the catalog. -/
def gatherPage (o : CountOptions) (g : Gathered) : List GatewayMessage → Scan Gathered
  | [] => return g
  | message :: rest => do
    let g ← gatherItem o g message
    gatherPage o g rest

variable [Database Gateway]

/-- The pages of the catalog from one on, at most so many. -/
def gatherPages (o : CountOptions) : Nat → Nat → Gathered → Scan Gathered
  | 0, _, _ => throw .pages
  | more + 1, number, g => do
    let items ← listCall number
    Trial.demand (items.length ≤ 100) (.text "invalid Gateway count catalog")
    let g ← gatherPage o g items
    if items.length < 100 then return g
    else gatherPages o more (number + 1) g

omit [Platform] [Database Gateway] in
/-- Enqueue the namespaces. -/
def enqueueAll : List String → Scan Unit
  | [] => return ()
  | ns :: rest => do
    writeCall fun w => { w with enqueued := w.enqueued ++ [ns] }
    enqueueAll rest

/-- The number of full pages that the limit admits, and one more. -/
def pageBound : Nat := maxObservedObjects / 100 + 1

/-- **`refresh`.** -/
def refresh (o : CountOptions) : Scan Unit := do
  let g ← gatherPages o pageBound 1 ⟨[], ∅, [], []⟩
  writeCall fun w => { w with watched := g.scopes }
  assign g.assignments
  enqueueAll g.namespaces

end Scan

/-! ### The others -/

/-- A Gateway is stored and its deletion is not finalized. -/
def Catalogued (s : Store) (id : String) : Prop :=
  ∃ g, s.gateway? id = some g ∧ g.deletionFinalizedAt = none

/-- The deletion of a stored Gateway is finalized. -/
def Finalized (s : Store) (id : String) : Prop :=
  ∃ g, s.gateway? id = some g ∧ g.deletionFinalizedAt ≠ none

/-- A change that finalizes nothing: Gateways are created, their deletions are requested, and
their rows change in every other way. -/
structure Retains (s t : Store) : Prop where
  catalogued : ∀ id, Catalogued s id → Catalogued t id
  finalized : ∀ id, Finalized s id → Finalized t id

/-- A change that finalizes the deletion of one Gateway. -/
structure Finalizes (id : String) (s t : Store) : Prop where
  catalogued : ∀ other, other ≠ id → Catalogued s other → Catalogued t other
  finalized : ∀ other, Finalized s other → Finalized t other
  before : Catalogued s id
  after : Finalized t id

/-- **What the others do** between two calls, if `allowed` says in which worlds a Gateway may be
finalized: the service changes its rows, and the allocator its namespaces. -/
inductive CatalogMove (allowed : CountWorld → String → Prop) : CountWorld → CountWorld → Prop
  | worked {w : CountWorld} {t : Store} (retains : Retains w.store t) :
      CatalogMove allowed w { w with store := t }
  | finalized {w : CountWorld} {t : Store} {id : String} (permitted : allowed w id)
      (finalizes : Finalizes id w.store t) : CatalogMove allowed w { w with store := t }
  | allocated {w : CountWorld} (allocation : String → String → String → NamespaceAnswer) :
      CatalogMove allowed w { w with allocation := allocation }

/-- The others between two calls. -/
def Others (allowed : CountWorld → String → Prop) : CountWorld → CountWorld → Prop :=
  Relation.ReflTransGen (CatalogMove allowed)

/-- The order of the IDs, by which the database orders rows: it reads the IDs only. -/
class Collation (R : Type) [Entity R] [Database R] where
  collate : String → String → Ordering
  ordered : Std.TransCmp collate
  distinct : ∀ a b, collate a b = .eq → a = b
  compare_id : ∀ a b : R, Database.compare "id" a b = collate (Entity.id a) (Entity.id b)

section Claim

variable [Platform] [Database Gateway]

/-- **A finalization that moves no unread Gateway onto a page that has been read**: the Gateway
stands behind these pages, or the first one behind them has been read. -/
def Unshifting (w : CountWorld) (id : String) : Prop :=
  (catalog w.store).idxOf id < w.served.length * 100 →
    ∀ next ∈ catalog w.store, (catalog w.store).idxOf next = w.served.length * 100 →
      next ∈ w.served.flatten

omit [Database Gateway] in
/-- A Gateway is live, placed on the cluster, and its watched namespace is allocated. -/
def Assigned (o : CountOptions) (id : String) (w : CountWorld) : Prop :=
  ∃ g ns profile watchNamespace uid, w.store.gateway? id = some g ∧ g.deletedAt = none ∧
    g.deletionFinalizedAt = none ∧ g.clusterID = o.cluster ∧ namespaceOf id = .ok ns ∧
    watchedNamespace o id ns = .ok (profile, watchNamespace) ∧
    w.allocation profile watchNamespace id = .found uid

end Claim

/-! ### The catalog -/

section Catalog

variable [Database Gateway] {s t : Store} {id : String}

theorem mem_catalog : id ∈ catalog s ↔ Catalogued s id := by
  constructor
  · intro member
    obtain ⟨g, inside, rfl⟩ := List.mem_map.mp member
    obtain ⟨stored, unfinalized, -⟩ := Store.mem_gatewaysFor.mp inside
    exact ⟨g, stored, by simpa using unfinalized⟩
  · rintro ⟨g, stored, unfinalized⟩
    have key := Store.id_of_gateway? stored
    refine List.mem_map.mpr ⟨g, Store.mem_gatewaysFor.mpr ⟨?_, .inr unfinalized, .inl rfl⟩, key⟩
    rwa [key]

theorem catalog_nodup (s : Store) : (catalog s).Nodup := by
  have once : (s.gatewaysFor "" false).Nodup :=
    sorted_perm.nodup_iff.mpr (s.gateways.nodup.filter _)
  refine once.map_on fun a memberA b memberB same => ?_
  have storedA := (Store.mem_gatewaysFor.mp memberA).1
  rw [same, (Store.mem_gatewaysFor.mp memberB).1] at storedA
  exact (Option.some.inj storedA).symm

variable [Collation Gateway]

/-- The catalog is in the order of the IDs. -/
theorem catalog_sorted (s : Store) :
    (catalog s).Pairwise fun a b => (Collation.collate Gateway a b).isLE = true := by
  refine List.pairwise_map.mpr (pairwise_sorted.imp fun {a b} before => ?_)
  have only : orderOf (withID []) a b = Database.compare "id" a b := by
    show (Database.compare "id" a b).then .eq = _
    cases Database.compare "id" a b <;> rfl
  rw [only, Collation.compare_id] at before
  exact before

/-- A catalog with more Gateways has the others in the same order. -/
theorem catalog_sublist {l : List String} (sorted : l.Sublist (catalog s))
    (subset : ∀ id ∈ l, Catalogued t id) : l.Sublist (catalog t) := by
  have antisymm : Std.Antisymm fun a b => (Collation.collate Gateway a b).isLE = true := by
    have ordered := Collation.ordered (R := Gateway)
    refine ⟨fun a b below above => Collation.distinct (R := Gateway) a b ?_⟩
    exact Std.OrientedCmp.isLE_antisymm below above
  exact sublist_of_subset ((catalog_sorted s).sublist sorted) (catalog_sorted t)
    ((catalog_nodup s).sublist sorted) fun id member => mem_catalog.mpr (subset id member)

end Catalog

/-! ### Pages -/

section Pages

variable [Platform]

variable [Database Gateway]

/-- **A page of the catalog is what the service lists**, to a controller. -/
theorem served_page {svc : GatewayService} {p : Principal}
    (controller : svc.isControlPlane p = true) {number : Nat} {s t : Store}
    {steps : List (Env × Store)} {r : ListResult Gateway × Option Err} {l : List Event}
    (exec : (listGateways svc p number 100).Exec Eq s steps r l t) (fine : r.2 = none) :
    r.1.items = (page number 100 (s.gatewaysFor "" false)).map Gateway.currentObservations := by
  unfold listGateways searchGateways at exec
  split_ifs at exec with refused
  · obtain ⟨rfl, -⟩ := Proc.exec_ret exec
    cases fine
  cases valid : validatePrincipal p with
  | error e =>
    rw [selectGateways, valid] at exec
    obtain ⟨rfl, -⟩ := Proc.exec_ret exec
    cases fine
  | ok _ =>
    obtain ⟨s', rfl, listed⟩ := exec_selectGateways controller valid exec
    rw [listed.page fine]
    rfl

end Pages

end Hypershell.Sandboxes
