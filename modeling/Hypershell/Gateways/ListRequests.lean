import Hypershell.Foundation.QueryStrings
import Hypershell.Gateways.Queries
import Hypershell.Gateways.Presentation

/-!
# Requests for lists of Gateways

The query of a request becomes a page request, and the list answers with one page, its number
and the number of all rows the caller may see.

## Main definitions

* `parseOrderBy`, `parsePage` — the order of a request, and the whole request
* `Directory.creator` — the name of the earliest owner
* `answerList` — the handler of the list

## Main results

* `exec_answerList` — an answer has the number of the page and the rows that are left for it

## Design notes

* A query is read parameter by parameter in its order, after the check that no name has two
  values.  The source does both in one pass and in no fixed order, which only changes which of
  two errors is reported.
* The selection of fields and the conversion of a row are parameters.
-/

namespace Hypershell

open Foundation Foundation.Query

/-! ### Parameters -/

/-- How a query is refused. -/
inductive PageError
  /-- `transport.ErrRequest`. -/
  | request
  /-- `gateways.ErrInvalid`. -/
  | invalid
  /-- `transport.ErrProjection`. -/
  | projection
  deriving DecidableEq, Repr

/-- `pageRequest`. -/
structure PageRequest (F : Type) where
  fields : Option F
  page : Int
  size : Int
  search : List UInt8
  orderBy : List OrderByField
  deriving DecidableEq, Repr

/-- `EntityFieldMaps["Gateway"]`: names of fields and of columns. -/
def gatewayFieldMap : List (String × String) :=
  [("id", "id"), ("created_time", "created_time"), ("updated_time", "updated_time"),
    ("created_at", "created_time"), ("updated_at", "updated_time"),
    ("active_sandbox_count", "active_sandbox_count"), ("cluster_id", "cluster_id"),
    ("console_address", "console_address"), ("credential_driver", "credential_driver"),
    ("external_dns", "external_dns"), ("image", "image"), ("name", "name"),
    ("namespace", "namespace"), ("oidc", "oidc"), ("phase", "phase"), ("release_id", "release_id"),
    ("route", "route"), ("route_address", "route_address"),
    ("server_dns_names", "server_dns_names"), ("service_type", "service_type"),
    ("status", "status"), ("supervisor_image", "supervisor_image"), ("tls_mode", "tls_mode")]

/-- `strings.Fields`. -/
def wordsOf (text : List Char) : List String :=
  ((text.splitOnP isSpace).filter fun word => decide (word ≠ [])).map String.ofList

/-- Add a field to an order, under its column. -/
def addField (fieldMap : List (String × String)) (order : List OrderByField)
    (name direction : String) : Except PageError (List OrderByField) :=
  match fieldMap.lookup name with
  | none => .error .request
  | some column =>
    if order.any (fun o => decide (o.field = column)) ∨ direction ≠ "asc" ∧ direction ≠ "desc" then
      .error .request
    else
      .ok (order ++ [⟨column, direction⟩])

/-- One term of an order. -/
def orderTerm (fieldMap : List (String × String)) (order : List OrderByField) (term : List Char) :
    Except PageError (List OrderByField) :=
  match wordsOf term with
  | [name] => addField fieldMap order name "asc"
  -- Only letters of ASCII become those of a direction in lower case.
  | [name, direction] => addField fieldMap order name
      (String.ofList (direction.toList.map Char.toLower))
  | _ => .error .request

/-- The order of a text. -/
def parseOrderText (fieldMap : List (String × String)) (value : String) :
    Except PageError (List OrderByField) :=
  let value := trimSpace value
  if value = "" then .ok []
  else if value.utf8ByteSize > 512 then .error .request
  else
    let terms := value.toList.splitOn ','
    if terms.length > 8 then .error .request
    else terms.foldlM (orderTerm fieldMap) []

/-- **`ParseOrderBy`.**  No column and no direction has bytes that are not UTF-8. -/
def parseOrderBy (fieldMap : List (String × String)) (value : List UInt8) :
    Except PageError (List OrderByField) :=
  match text? value with
  | none => .error .request
  | some text => parseOrderText fieldMap text

/-- A sign, which is true for a minus, and the rest of a number. -/
def splitSign : List Char → Bool × List Char
  | '-' :: rest => (true, rest)
  | '+' :: rest => (false, rest)
  | chars => (false, chars)

/-- `strconv.Atoi`. -/
def atoi (value : String) : Option Int :=
  let (negative, digits) := splitSign value.toList
  if digits = [] ∨ digits.all Char.isDigit = false then none
  else
    let n : Int := Nat.ofDigitChars 10 digits 0
    let n := if negative then -n else n
    if -2 ^ 63 ≤ n ∧ n < 2 ^ 63 then some n else none

/-- `urlValues`, with the values of each name in their order. -/
def urlValues (query : List UInt8) : Except PageError (List (List UInt8 × List UInt8)) :=
  if query.length > 4096 then .error .request
  else
    match Query.parse query with
    | none => .error .request
    | some values => .ok values

section Parse

variable {F : Type}

/-- A number of a request. -/
def pageNumber (value : List UInt8) : Except PageError Int :=
  match (text? value).bind atoi with
  | none => .error .request
  | some n => .ok n

/-- One parameter. -/
def readParameter (projector : List UInt8 → Except PageError F)
    (fieldMap : List (String × String)) (request : PageRequest F) (name value : List UInt8) :
    Except PageError (PageRequest F) :=
  match text? name with
  | some "fields" => return { request with fields := some (← projector value) }
  | some "search" => return { request with search := value }
  | some "orderBy" => return { request with orderBy := ← parseOrderBy fieldMap value }
  | some "page" => return { request with page := ← pageNumber value }
  | some "size" => return { request with size := ← pageNumber value }
  | _ => .error .request

/-- **`parseEntityPage`.** -/
def parseEntityPage (projector : List UInt8 → Except PageError F)
    (fieldMap : List (String × String)) (query : List UInt8) : Except PageError (PageRequest F) := do
  let values ← urlValues query
  -- A name has one value.
  if values.any fun (name, _) => decide ((values.map Prod.fst).count name ≠ 1) then .error .request
  let request ← values.foldlM (fun request (name, value) =>
    readParameter projector fieldMap request name value) ⟨none, 1, 100, [], []⟩
  if request.size > 100 then .error .invalid
  else return request

/-- `parsePage`. -/
def parsePage (projector : List UInt8 → Except PageError F) (query : List UInt8) :
    Except PageError (PageRequest F) :=
  parseEntityPage projector gatewayFieldMap query

end Parse

/-! ### Answers -/

/-- `GatewayList`. -/
structure GatewayList (I : Type) where
  kind : String
  href : String
  page : Int
  size : Int
  total : Nat
  items : List I
  deriving DecidableEq, Repr

section Answers

variable [Platform] [Database Gateway] [Database RoleBinding] {F I : Type}

omit [Platform] [Database Gateway] in
/-- The name of the earliest live owner of a Gateway that is a live user. -/
def Directory.creator (d : Directory) (gatewayID : String) : Option String :=
  let owners := d.bindings.rows.filter fun b =>
    b.live && decide (b.scope = "gateway" ∧ b.gatewayID = some gatewayID) &&
      (d.roles.rows.any fun r => r.live && decide (r.id = b.roleID ∧ r.name = "gateway:owner")) &&
      d.users.rows.any fun u => u.live && decide (u.id = b.userID)
  (sorted (orderOf [⟨"created_time", "asc"⟩, ⟨"id", "asc"⟩]) owners).head?.bind fun b =>
    ((d.users.rows.find? fun u => u.live && decide (u.id = b.userID)).map User.username)

/-- `creatorNames`. -/
def creatorNames (ids : List String) : Process (Except Err (String → Option String)) :=
  if ids = [] then .ret (.ok fun _ => none)
  else if ids.length > 100 then .ret (.error (.text "creator lookup exceeds its page limit"))
  else readOnce fun s => .ok fun id => if id ∈ ids then s.directory.creator id else none

/-- The handler of the list. -/
def answerList (convert : Gateway → String → Except Err I)
    (project : F → GatewayList I → Except Err (GatewayList I)) (svc : GatewayService)
    (p : Principal) (request : PageRequest F) : Process (Except Err (GatewayList I)) :=
  match text? request.search with
  -- The database takes no text that is not UTF-8.
  | none => .ret (.error (.text "search error"))
  | some search => do
    let (result, failed) ← searchGateways svc p request.page request.size search request.orderBy
    match failed with
    | some e => return .error e
    | none => do
      let creators ← creatorNames (result.items.map fun row => row.id)
      return do
        let creators ← creators
        let items ← result.items.mapM fun row =>
          convert row.currentObservations ((creators row.id).getD "")
        let response : GatewayList I :=
          ⟨"GatewayList", "/api/hypershell/v1/gateways", request.page, items.length, result.total,
            items⟩
        match request.fields with
        | none => .ok response
        | some selection => project selection response

omit [Platform] [Database RoleBinding] in
/-- A page of stored rows. -/
theorem Store.length_listGateways {s : Store} {id : String} {includeDeleted : Bool}
    {permitted : Directory → Gateway → Bool} {opts : ListOptions} {result : ListResult Gateway}
    (first : 1 ≤ opts.page) (positive : 0 < opts.size) (rows : opts.countOnly = false)
    (listed : s.listGateways id includeDeleted permitted opts = .ok result) :
    (result.items.length : Int) = pageLength opts.page opts.size result.total := by
  unfold Store.listGateways at listed
  split at listed
  · cases listed
  · rename_i found shown
    cases listed
    rw [List.length_map]
    unfold listRows at shown
    split at shown
    · cases shown
    · split_ifs at shown
      · rename_i counted
        rw [rows] at counted
        cases counted
      · cases shown
        dsimp only
        rw [length_page first positive, length_sorted]

variable {ω : Env} {svc : GatewayService} {p : Principal}

omit [Database RoleBinding] in
/-- The callback of `list` takes a page. -/
theorem wp_selectBody_page {id : String} (opts : ListOptions) {includeDeleted : Bool}
    (first : 1 ≤ opts.page) (positive : 0 < opts.size) (rows : opts.countOnly = false)
    {c : Context Store Event (ListResult Gateway)} :
    Tx.wp ω (selectBody svc p id opts includeDeleted)
      (fun _ d => (d.locals.items.length : Int) =
        pageLength opts.page opts.size d.locals.total) (fun _ _ => True) c := by
  unfold selectBody
  rw [Tx.wp_bind]
  refine Tx.wp_mono (Tx.wp_true (syncUser p) c) (fun user d _ => ?_) fun _ _ _ => trivial
  have page : ∀ (permitted : Directory → Gateway → Bool) (d : Context Store Event (ListResult Gateway)),
      Tx.wp ω (do
        let result ← Action.query (Store.listGateways id includeDeleted permitted opts)
        Tx.capture fun _ => result)
        (fun _ d => (d.locals.items.length : Int) =
          pageLength opts.page opts.size d.locals.total) (fun _ _ => True) d := by
    intro permitted d
    rw [Tx.wp_bind]
    refine Action.wp_query (fun _ => trivial) (fun _ _ => trivial) fun result listed => ?_
    exact Store.length_listGateways first positive rows listed
  split
  · simp only [Tx.wp_bind]
    refine Tx.wp_mono (Tx.wp_true _ _) (fun owner d _ => ?_) fun _ _ _ => trivial
    refine Tx.wp_mono (Tx.wp_true _ _) (fun viewer d _ => ?_) fun _ _ _ => trivial
    have result := page (fun d g => d.holds g.id user.id [owner.id, viewer.id]) d
    rwa [Tx.wp_bind] at result
  · exact page (fun _ _ => true) d

variable {between : Store → Store → Prop} {s t : Store} {steps : List (Env × Store)} {l : List Event}

omit [Database RoleBinding] in
/-- A search that succeeds returns a page. -/
theorem exec_searchGateways {number size : Int} {search : String} {order : List OrderByField}
    (positive : 0 < size) {result : ListResult Gateway}
    (exec : (searchGateways svc p number size search order).Exec between s steps (result, none) l t) :
    (result.items.length : Int) = pageLength number size result.total := by
  unfold searchGateways at exec
  split_ifs at exec with refused
  · obtain ⟨never, -⟩ := Proc.exec_ret exec
    cases never
  unfold selectGateways at exec
  split at exec
  · obtain ⟨never, -⟩ := Proc.exec_ret exec
    cases never
  have sized : ¬ size = 0 := positive.ne'
  have run : ∀ ω s', Tx.wp ω (do
      Action.query fun _ => .ok ()
      selectBody svc p "" (requestOptions number size search order) false)
      (fun _ d => (d.locals.items.length : Int) = pageLength number size d.locals.total)
      (fun _ _ => True) (Context.start s' ⟨[], 0⟩) := by
    intro ω s'
    rw [Tx.wp_bind]
    refine Action.wp_query (fun _ => trivial) (fun _ _ => trivial) fun _ _ => ?_
    exact wp_selectBody_page (requestOptions number size search order)
      (by simp only [requestOptions]; omega) positive (by simp [requestOptions, sized])
  obtain ⟨ω, s', -, -, -, ended⟩ := exec_transact exec fun ω s' _ _ => run ω s'
  obtain ⟨c, long, rfl, -, -⟩ := ended.committed_of_ok
  exact long

/-- **An answer** has the number of the page and the rows that are left for it. -/
theorem exec_answerList {convert : Gateway → String → Except Err I}
    {project : F → GatewayList I → Except Err (GatewayList I)} {request : PageRequest F}
    (whole : request.fields = none) (positive : 0 < request.size) {answer : GatewayList I}
    (exec : (answerList convert project svc p request).Exec between s steps (.ok answer) l t) :
    answer.page = request.page ∧
      (answer.items.length : Int) = pageLength request.page request.size answer.total := by
  unfold answerList at exec
  split at exec
  · obtain ⟨never, -⟩ := Proc.exec_ret exec
    cases never
  obtain ⟨_, _, ⟨result, failed⟩, _, _, u, rfl, rfl, searched, rest⟩ := Proc.exec_bind exec
  cases failed with
  | some e =>
    obtain ⟨never, -⟩ := Proc.exec_ret rest
    cases never
  | none =>
    have long := exec_searchGateways positive searched
    obtain ⟨_, _, creators, _, _, v, rfl, rfl, -, last⟩ := Proc.exec_bind rest
    obtain ⟨made, -⟩ := Proc.exec_ret last
    cases creators with
    | error e => cases made
    | ok creators =>
      rw [whole] at made
      cases items : result.items.mapM fun row =>
          convert row.currentObservations ((creators row.id).getD "") with
      | error e =>
        simp only [items, bind, Except.bind] at made
        cases made
      | ok converted =>
        simp only [items, bind, Except.bind] at made
        cases made
        refine ⟨rfl, ?_⟩
        dsimp only
        rw [length_of_mapM items, long]

end Answers

end Hypershell
