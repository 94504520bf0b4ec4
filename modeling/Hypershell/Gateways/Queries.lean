import Hypershell.Gateways.Grants
import Hypershell.Storage.Queries

/-!
# Lists of Gateways and grants

What a caller may see.  Access is one of the filters of a list, so the counts, the pages and
the search of a caller are taken from the rows it may see.

## Main definitions

* `selectGateways` — `list`, of which `getGateway`, `searchGateways`, `listGateways` and
  `eventGateway` are uses
* `GrantQuery`, `grantOptions`, `projectGrants` — the parts of a list of grants
* `listGrants`, `allGrants`, `eventGrant` — the lists of grants

## Design notes

* A filter on related rows matches live rows only.
* Lists of users and roles by ID name at most one hundred IDs, which is also the size of
  their page.
-/

namespace Hypershell

open Foundation

/-- The columns of `Gateway`. -/
instance : Entity Gateway where
  columns := ["id", "created_time", "updated_time", "name", "cluster_id", "release_id",
    "namespace", "external_dns", "tls_mode", "service_type", "status", "phase", "image",
    "supervisor_image", "server_dns_names", "route_address", "console_address", "oidc", "route",
    "credential_driver", "active_sandbox_count"]
  id g := g.id

/-- The columns of `RoleBinding`. -/
instance : Entity RoleBinding where
  columns := ["id", "created_time", "updated_time", "user_id", "role_id", "gateway_id", "scope"]
  id b := b.id

/-- The order and the page of a request.  A size of zero asks for the count only. -/
def requestOptions (page size : Int) (search : String) (order : List OrderByField) :
    ListOptions :=
  { page := page, size := size, countOnly := decide (size = 0), search := search,
    orderBy := withID order }

/-- A live grant of one of some roles to a user on a Gateway. -/
def Directory.holds (d : Directory) (gatewayID userID : String) (roleIDs : List String) : Bool :=
  d.bindings.rows.any fun b => b.live && decide (b.gatewayID = some gatewayID) &&
    decide (b.userID = userID) && decide (b.roleID ∈ roleIDs) && decide (b.scope = "gateway")

/-! ### Gateways -/

section Gateways

variable [Platform] [Database Gateway]

/-- The `List` of Gateways: all rows with `includeDeleted`, else those whose deletion is not
finalized.  An empty ID selects every row. -/
def Store.listGateways (id : String) (includeDeleted : Bool)
    (permitted : Directory → Gateway → Bool) (opts : ListOptions) (s : Store) :
    Except Err (ListResult Gateway) :=
  match listRows s.gateways.rows (fun g =>
      (includeDeleted || g.deletionFinalizedAt.isNone) && decide (id = "" ∨ g.id = id) &&
        permitted s.directory g) opts with
  | .error e => .error e
  | .ok result => .ok { result with items := result.items.map Gateway.currentObservations }

/-- The callback of `list`. -/
def selectBody (svc : GatewayService) (p : Principal) (id : String) (opts : ListOptions)
    (includeDeleted : Bool) : Action (ListResult Gateway) Unit := do
  let user ← syncUser p
  if svc.isControlPlane p = false ∧ "platform:admin" ∉ p.roles then do
    let owner ← findRole "gateway:owner"
    let viewer ← findRole "gateway:viewer"
    let result ← Action.query (Store.listGateways id includeDeleted
      (fun d g => d.holds g.id user.id [owner.id, viewer.id]) opts)
    Tx.capture fun _ => result
  else do
    let result ← Action.query (Store.listGateways id includeDeleted (fun _ _ => true) opts)
    Tx.capture fun _ => result

/-- `Service.list`. -/
def selectGateways (svc : GatewayService) (p : Principal) (id : String) (page size : Int)
    (search : String) (order : List OrderByField) (includeDeleted : Bool) :
    Process (ListResult Gateway × Option Err) :=
  match validatePrincipal p with
  | .error e => .ret (⟨[], 0⟩, some e)
  | .ok () => withTransaction ⟨[], 0⟩
      (selectBody svc p id (requestOptions page size search order) includeDeleted)

/-- `Service.Search`. -/
def searchGateways (svc : GatewayService) (p : Principal) (page size : Int) (search : String)
    (order : List OrderByField) : Process (ListResult Gateway × Option Err) :=
  if page < 1 ∨ size < 0 ∨ size > 500 ∨ page > 1000000 then
    .ret (⟨[], 0⟩, some .invalid)
  else
    selectGateways svc p "" page size search order false

/-- `Service.List`. -/
def listGateways (svc : GatewayService) (p : Principal) (page size : Int) :
    Process (ListResult Gateway × Option Err) :=
  searchGateways svc p page size "" []

/-- The single row of a list. -/
def onlyGateway (accepted : Gateway → Bool) :
    ListResult Gateway × Option Err → Except Err Gateway
  | (_, some e) => .error e
  | (result, none) =>
    match result.items with
    | [row] => if accepted row then .ok row else .error .notFound
    | _ => .error .notFound

/-- The only Gateway under an ID that a caller may see and that is accepted. -/
def findGateway (svc : GatewayService) (p : Principal) (id : String) (includeDeleted : Bool)
    (accepted : Gateway → Bool) : Process (Except Err Gateway) :=
  match validatePrincipal p with
  | .error e => .ret (.error e)
  | .ok () =>
    if ¬ Platform.validID id then .ret (.error .notFound)
    else onlyGateway accepted <$> selectGateways svc p id 1 1 "" [] includeDeleted

/-- `Service.Get`. -/
def getGateway (svc : GatewayService) (p : Principal) (id : String) :
    Process (Except Err Gateway) :=
  findGateway svc p id false fun _ => true

/-- `Service.EventGateway`: the event must match the stored deletion state. -/
def eventGateway (svc : GatewayService) (p : Principal) (id : String) (deleted : Bool) :
    Process (Except Err Gateway) :=
  findGateway svc p id deleted fun row => decide (row.deletionFinalizedAt.isSome = deleted)

end Gateways

/-! ### Grants -/

/-- A request for grants. -/
structure GrantQuery where
  page : Int
  size : Int
  search : String
  orderBy : List OrderByField
  userID : String
  gatewayID : String
  deriving DecidableEq, Repr

/-- A grant with the names of its role and of its user. -/
structure GrantView where
  grant : RoleBinding
  roleName : String
  username : String
  deriving DecidableEq, Repr

/-- One page of grants. -/
structure GrantPage where
  items : List GrantView
  total : Nat
  deriving DecidableEq, Repr

/-- The options of a list of grants: its filter reads other tables, `implicit` does not. -/
structure GrantOptions extends ListOptions where
  filter : Store → RoleBinding → Bool
  implicit : RoleBinding → Bool
  includeDeleted : Bool

/-- A live Gateway is related to a grant. -/
def Store.grantsLive (s : Store) (b : RoleBinding) : Bool :=
  s.gateways.rows.any fun g => g.live && decide (b.gatewayID = some g.id)

/-- The grants of a Gateway on which a user has a live grant of a role. -/
def Directory.relatedTo (d : Directory) (userID roleID : String) (b : RoleBinding) : Bool :=
  match b.gatewayID with
  | none => false
  | some gatewayID => d.grants gatewayID userID roleID

/-- The filter of a list of grants; `owner` is absent for a controller. -/
def grantFilter (userID : String) (owner : Option String) (s : Store) (b : RoleBinding) : Bool :=
  (decide (b.scope = "gateway") && s.grantsLive b &&
    match owner with
    | none => true
    | some ownerID => decide (b.userID = userID) || s.directory.relatedTo userID ownerID b) ||
  (decide (b.scope = "global") && decide (b.userID = userID))

/-- An implicit filter.  An empty value is none. -/
def implicitText (value : String) (column : Option String) : Bool :=
  decide (value = "" ∨ column = some value)

section Grants

variable [Platform] {L : Type}

/-- `grantOptions`. -/
def grantOptions (svc : GatewayService) (p : Principal) (q : GrantQuery) :
    Action L GrantOptions := do
  let user ← syncUser p
  let options (owner : Option String) : GrantOptions :=
    { toListOptions := requestOptions q.page q.size q.search q.orderBy
      filter := grantFilter user.id owner
      implicit := fun b => implicitText q.userID (some b.userID) &&
        implicitText q.gatewayID b.gatewayID
      includeDeleted := false }
  if svc.isControlPlane p = false then do
    let owner ← findRole "gateway:owner"
    return options (some owner.id)
  else
    return options none

/-- `validGrantQuery`. -/
def GrantQuery.valid (q : GrantQuery) : Bool :=
  decide (1 ≤ q.page ∧ q.page ≤ 1000000 ∧ 0 ≤ q.size ∧ q.size ≤ 100 ∧
    (q.userID = "" ∨ Platform.validID q.userID = true) ∧
    (q.gatewayID = "" ∨ Platform.validID q.gatewayID = true))

variable [Database RoleBinding]

/-- The `List` of grants. -/
def Store.listBindings (opts : GrantOptions) (s : Store) : Except Err (ListResult RoleBinding) :=
  listRows s.directory.bindings.rows
    (fun b => (opts.includeDeleted || b.live) && opts.filter s b && opts.implicit b)
    opts.toListOptions

/-- The names found so far: `none` for an ID that was not looked up, the empty text for one
that was not found. -/
abbrev Names : Type := String → Option String

/-- The IDs that were not looked up, in order, and the names with these marked. -/
def Names.mark (names : Names) (ids : List String) : List String × Names :=
  ids.foldl (fun (new, names) id =>
    if (names id).isSome then (new, names)
    else (new ++ [id], Function.update names id (some ""))) ([], names)

/-- The names with those of the rows that were found. -/
def Names.fill (names : Names) (found : List (String × String)) : Names :=
  found.foldl (fun names entry => Function.update names entry.1 (some entry.2)) names

/-- Look up the names of the IDs that are new. -/
def lookupNames (named : Store → List (String × String)) (names : Names) (ids : List String) :
    Action L Names :=
  match names.mark ids with
  | ([], names) => pure names
  | (new, names) => do
    let found ← Action.query fun s => .ok ((named s).filter fun entry => decide (entry.1 ∈ new))
    return names.fill (found.take 100)

/-- IDs and names of the live roles. -/
def Store.roleNames (s : Store) : List (String × String) :=
  (s.directory.roles.rows.filter fun r => r.live).map fun r => (r.id, r.name)

/-- IDs and names of the live users. -/
def Store.usernames (s : Store) : List (String × String) :=
  (s.directory.users.rows.filter fun u => u.live).map fun u => (u.id, u.username)

/-- A grant with its names.  A grant without a role's name is not treated as an absent
grant. -/
def viewGrant (roles users : Names) (row : RoleBinding) : Except Err GrantView :=
  if row.scope = "global" ∧ row.gatewayID.isSome ∨ row.scope = "gateway" ∧ row.gatewayID = none ∨
      row.scope ≠ "global" ∧ row.scope ≠ "gateway" then
    .error (.text "invalid grant scope")
  else if (roles row.roleID).getD "" = "" then
    .error (.text "grant role cannot be resolved")
  else
    .ok ⟨row, (roles row.roleID).getD "", (users row.userID).getD ""⟩

/-- One batch after another; each role and each user is looked up once. -/
def projectBatches (roles users : Names) : List (List RoleBinding) → Action L (List GrantView)
  | [] => pure []
  | batch :: rest => do
    let roles ← lookupNames Store.roleNames roles (batch.map fun row => row.roleID)
    let users ← lookupNames Store.usernames users (batch.map fun row => row.userID)
    let views ← Tx.lift (batch.mapM (viewGrant roles users))
    let more ← projectBatches roles users rest
    return views ++ more

/-- `projectGrants`. -/
def projectGrants (rows : List RoleBinding) : Action L (List GrantView) :=
  if rows.length > 10000 then
    Tx.raise (.text "grant response exceeds its resource limit")
  else
    projectBatches (fun _ => none) (fun _ => none) (batches 100 rows.length rows)

/-- `readGrantPage`. -/
def readGrantPage (opts : GrantOptions) : Action L GrantPage := do
  let result ← Action.query (Store.listBindings opts)
  let views ← projectGrants result.items
  return ⟨views, result.total⟩

/-- The callback of `ListGrants`: access applies before search, counts and pages. -/
def listGrantsBody (svc : GatewayService) (p : Principal) (q : GrantQuery) :
    Action (Option GrantPage) Unit := do
  let opts ← grantOptions svc p q
  let page ← readGrantPage opts
  Tx.capture fun _ => some page

/-- `Service.ListGrants`. -/
def listGrants (svc : GatewayService) (p : Principal) (q : GrantQuery) :
    Process (Option GrantPage × Option Err) :=
  match validatePrincipal p with
  | .error e => .ret (none, some e)
  | .ok () =>
    if q.valid = false then .ret (none, some .invalid)
    else dropOnError <$> withTransaction none (listGrantsBody svc p q)

/-- The callback of `AllGrants`. -/
def allGrantsBody (svc : GatewayService) (p : Principal) (q : GrantQuery) :
    Action (Option (List GrantView)) Unit := do
  let opts ← grantOptions svc p q
  let result ← Action.query (Store.listBindings { opts with size := 10000 })
  Tx.require (result.total ≤ 10000) (.text "grant response exceeds its resource limit")
  Tx.require (result.items.length = result.total) (.text "grant snapshot is incomplete")
  let views ← projectGrants result.items
  Tx.capture fun _ => some views

/-- `Service.AllGrants`: a complete snapshot or an error. -/
def allGrants (svc : GatewayService) (p : Principal) (userID gatewayID : String) :
    Process (Option (List GrantView) × Option Err) :=
  match validatePrincipal p with
  | .error e => .ret (none, some e)
  | .ok () =>
    let q : GrantQuery := ⟨1, 100, "", [], userID, gatewayID⟩
    if q.valid = false then .ret (none, some .invalid)
    else dropOnError <$> withTransaction none (allGrantsBody svc p q)

/-- The options for one grant, whose deletion state is given. -/
def GrantOptions.only (opts : GrantOptions) (id : String) (deleted : Bool) : GrantOptions :=
  { opts with
    includeDeleted := deleted
    implicit := fun b => opts.implicit b && decide (b.id = id) }

/-- The callback of `EventGrant`. -/
def eventGrantBody (svc : GatewayService) (p : Principal) (id : String) (deleted : Bool) :
    Action (Option GrantView) Unit := do
  let opts ← grantOptions svc p ⟨1, 1, "", [], "", ""⟩
  let page ← readGrantPage (opts.only id deleted)
  match page.items with
  | [view] => do
    Tx.require (view.grant.live = !deleted) .notFound
    Tx.capture fun _ => some view
  | _ => Tx.raise .notFound

/-- `Service.EventGrant`: current access and the stored deletion state. -/
def eventGrant (svc : GatewayService) (p : Principal) (id : String) (deleted : Bool) :
    Process (Option GrantView × Option Err) :=
  match validatePrincipal p with
  | .error e => .ret (none, some e)
  | .ok () =>
    if ¬ Platform.validID id then .ret (none, some .notFound)
    else dropOnError <$> withTransaction none (eventGrantBody svc p id deleted)

end Grants

end Hypershell
