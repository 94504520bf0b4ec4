import Hypershell.Console.Searches
import Hypershell.Gateways.ListRequests
import Hypershell.Gateways.Watch
import Hypershell.Gateways.Visibility

/-!
# Lists of Gateways in the web console

The console writes a request as a query and compares the answer with what it asked for.

## Main definitions

* `GatewayListRequest` — what the console can ask for
* `GatewayListRequest.query`, `GatewayListRequest.receive` — the query and the checks of the answer
* `GatewayListRequest.Agrees` — the server understands the query, and its answers are accepted

## Main results

* `parsePage_query` — how the server reads the query
* `console_lists_agree` — the console and the server agree but for the order by owner

## Design notes

The search is compared as a text.  The numbers of an answer are exact.
-/

namespace Hypershell.Console

open Foundation Foundation.Query

/-! ### Requests -/

/-- `GatewaySortField`. -/
inductive GatewaySortField
  | cluster
  | created
  | endpoint
  | name
  | owner
  | status
  deriving DecidableEq, Repr

/-- `GatewaySortDirection`. -/
inductive GatewaySortDirection
  | asc
  | desc
  deriving DecidableEq, Repr

/-- The text of a direction. -/
def GatewaySortDirection.text : GatewaySortDirection → String
  | .asc => "asc"
  | .desc => "desc"

/-- `gatewaySortFields`. -/
def gatewaySortFields : GatewaySortField → String
  | .cluster => "cluster_id"
  | .created => "created_at"
  | .endpoint => "route_address"
  | .name => "name"
  | .owner => "created_by"
  | .status => "status"

/-- The stored column by which the user sees the rows ordered.  The owner is no column of a
Gateway. -/
def GatewaySortField.column : GatewaySortField → Option String
  | .cluster => some "cluster_id"
  | .created => some "created_time"
  | .endpoint => some "route_address"
  | .name => some "name"
  | .owner => none
  | .status => some "status"

/-- `gatewayListPageSizes`. -/
def gatewayListPageSizes : List Nat := [10, 20, 50, 100]

/-- `GatewayListRequest`, with the pages and sizes that the console offers. -/
structure GatewayListRequest where
  page : Nat
  search : String
  size : Nat
  sortDirection : GatewaySortDirection
  sortField : GatewaySortField
  offered : 1 ≤ page ∧ page ≤ 1000000 ∧ size ∈ gatewayListPageSizes

namespace GatewayListRequest

variable (r : GatewayListRequest)

theorem size_bounds : 10 ≤ r.size ∧ r.size ≤ 100 := by
  have all : ∀ size ∈ gatewayListPageSizes, 10 ≤ size ∧ size ≤ 100 := by decide
  exact all r.size r.offered.2.2

/-- The order of the request. -/
def orderBy : String := gatewaySortFields r.sortField ++ " " ++ r.sortDirection.text

/-- The parameters, in the order of the operation. -/
def parameters : List (String × String) :=
  [("orderBy", r.orderBy), ("page", toString r.page)] ++
    (match gatewaySearch r.search with
      | none => []
      | some search => [("search", search)]) ++
    [("size", toString r.size)]

/-- **The query** that `listGateways` sends. -/
def query : List UInt8 :=
  serialize (r.parameters.map fun (name, value) => (utf8 name, utf8 value))

/-- `expectedItemCount`. -/
def expectedItemCount (total : Int) : Int :=
  max 0 (min r.size (total - ((r.page : Int) - 1) * r.size))

/-- What `listGateways` makes of an answer: `requirePage`, then the comparison. -/
def receive {I : Type} (answer : GatewayList I) : Except String (GatewayList I) :=
  if answer.page < 1 then .error "unavailable"
  else if answer.page ≠ r.page ∨ answer.items.length ≠ r.expectedItemCount answer.total then
    .error "unavailable"
  else
    .ok answer

end GatewayListRequest

/-! ### Numbers and names -/

/-- A number is read back. -/
theorem atoi_toString {n : Nat} (small : n < 2 ^ 63) : atoi (toString n) = some n := by
  have chars : (toString n).toList = Nat.toDigits 10 n := Nat.toList_repr
  have digits : ∀ c ∈ Nat.toDigits 10 n, c.isDigit = true := fun c member =>
    Nat.isDigit_of_mem_toDigits (by decide) (by decide) member
  have value := Nat.ofDigitChars_ten_toDigits (n := n)
  have some' : Nat.toDigits 10 n ≠ [] := Nat.toDigits_ne_nil
  unfold atoi
  rw [chars]
  generalize Nat.toDigits 10 n = text at digits value some'
  have unsigned : splitSign text = (false, text) := by
    unfold splitSign
    split
    · exact absurd (digits '-' List.mem_cons_self) (by decide)
    · exact absurd (digits '+' List.mem_cons_self) (by decide)
    · rfl
  have all : text.all Char.isDigit = true := List.all_eq_true.mpr digits
  simpa [unsigned, some', all, value] using small

theorem utf8_empty : utf8 "" = [] := rfl

theorem utf8_injective : Function.Injective utf8 := by
  intro a b same
  have read := congrArg text? same
  rwa [text?_utf8, text?_utf8, Option.some.injEq] at read

/-- No parameter is written twice. -/
theorem count_parameters (r : GatewayListRequest) {entry : String × String}
    (member : entry ∈ r.parameters) :
    ((r.parameters.map fun (name, value) => (utf8 name, utf8 value)).map Prod.fst).count
      (utf8 entry.1) = 1 := by
  have names : (r.parameters.map fun (name, value) => (utf8 name, utf8 value)).map Prod.fst =
      (r.parameters.map Prod.fst).map utf8 := by
    simp only [List.map_map, Function.comp_def]
  rw [names, List.count_map_of_injective _ _ utf8_injective]
  have once : (r.parameters.map Prod.fst).Nodup := by
    unfold GatewayListRequest.parameters
    cases gatewaySearch r.search <;> simp
  exact List.count_eq_one_of_mem once (List.mem_map_of_mem member)

/-! ### The server's reading -/

section Reading

variable {F : Type} (projector : List UInt8 → Except PageError F) (r : GatewayListRequest)

/-- The server gets the parameters back. -/
theorem urlValues_query (short : r.query.length ≤ 4096) :
    urlValues r.query = .ok (r.parameters.map fun (name, value) => (utf8 name, utf8 value)) := by
  rw [urlValues, if_neg (by omega), GatewayListRequest.query, parse_serialize]

/-- It finds no name twice. -/
theorem parameters_once :
    ((r.parameters.map fun (name, value) => (utf8 name, utf8 value)).any
      fun (name, _) => decide (((r.parameters.map fun (name, value) =>
        (utf8 name, utf8 value)).map Prod.fst).count name ≠ 1)) = false := by
  rw [List.any_eq_false]
  intro encoded member
  obtain ⟨entry, inside, rfl⟩ := List.mem_map.mp member
  simp only [count_parameters r inside, ne_eq, not_true_eq_false, decide_false,
    Bool.false_eq_true, not_false_eq_true]

/-- **The query as the server reads it.**  Only the order can be refused. -/
theorem parsePage_query (short : r.query.length ≤ 4096) :
    parsePage projector r.query =
      (parseOrderText gatewayFieldMap r.orderBy).map fun order =>
        ⟨none, r.page, r.size, utf8 ((gatewaySearch r.search).getD ""), order⟩ := by
  obtain ⟨-, large, -⟩ := r.offered
  have sizes := r.size_bounds
  have values := urlValues_query r short
  have number : pageNumber (utf8 r.page.repr) = .ok (r.page : Int) := by
    have read : atoi r.page.repr = some (r.page : Int) := atoi_toString (by omega)
    rw [pageNumber, text?_utf8, Option.bind_some, read]
  have size : pageNumber (utf8 r.size.repr) = .ok (r.size : Int) := by
    have read : atoi r.size.repr = some (r.size : Int) := atoi_toString (by omega)
    rw [pageNumber, text?_utf8, Option.bind_some, read]
  have once := parameters_once r
  unfold parsePage parseEntityPage
  simp only [values, once, bind, Except.bind, Bool.false_eq_true, if_false, List.foldlM_map]
  have order : parseOrderBy gatewayFieldMap (utf8 r.orderBy) =
      parseOrderText gatewayFieldMap r.orderBy := by
    rw [parseOrderBy, text?_utf8]
  have room : ¬ 100 < (r.size : Int) := by omega
  unfold GatewayListRequest.parameters
  cases parsed : parseOrderText gatewayFieldMap r.orderBy with
  | error e =>
    rw [parsed] at order
    cases gatewaySearch r.search <;>
      simp [readParameter, order, bind, Except.bind, Except.map]
  | ok fields =>
    rw [parsed] at order
    cases gatewaySearch r.search <;>
      simp [readParameter, order, number, size, room, utf8_empty, bind, Except.bind, Except.map, pure,
        Except.pure]

/-- The text of a direction is the storage's. -/
theorem parse_orderBy (field : GatewaySortField) (direction : GatewaySortDirection) :
    parseOrderText gatewayFieldMap (gatewaySortFields field ++ " " ++ direction.text) =
      match field.column with
      | none => .error .request
      | some column => .ok [⟨column, direction.text⟩] := by
  cases field <;> cases direction <;> decide +kernel

end Reading

/-! ### Agreement -/

section Agreement

variable [Platform] [Database Gateway] [Database RoleBinding] {F I : Type}

/-- The query is accepted and says what the console asks for, in an order that the storage and
the list accept. -/
structure GatewayListRequest.Understood (r : GatewayListRequest) (request : PageRequest F) :
    Prop where
  whole : request.fields = none
  page : request.page = r.page ∧ request.page ≤ 1000000
  size : request.size = r.size ∧ request.size ≤ 500
  search : text? request.search = some ((gatewaySearch r.search).getD "")
  ordered : ∃ column, r.sortField.column = some column ∧
    request.orderBy = [⟨column, r.sortDirection.text⟩] ∧
    ∀ o ∈ withID request.orderBy, o.valid Gateway = true

/-- **The console and the server agree on a request**: the server understands its query, and
whatever the server answers, from any store and in any company, is accepted. -/
def GatewayListRequest.Agrees (projector : List UInt8 → Except PageError F)
    (convert : Gateway → String → Except Err I)
    (project : F → GatewayList I → Except Err (GatewayList I)) (r : GatewayListRequest) : Prop :=
  ∃ request, parsePage projector r.query = .ok request ∧ r.Understood request ∧
    ∀ (svc : GatewayService) (p : Principal) (between : Store → Store → Prop) (s t : Store)
      (steps : List (Env × Store)) (answer : GatewayList I) (l : List Hypershell.Event),
      (answerList convert project svc p request).Exec between s steps (.ok answer) l t →
        r.receive answer = .ok answer

variable {projector : List UInt8 → Except PageError F} {convert : Gateway → String → Except Err I}
  {project : F → GatewayList I → Except Err (GatewayList I)} {r : GatewayListRequest}

/-- The answers to what the server understood are accepted. -/
theorem receive_of_exec {request : PageRequest F} (understood : r.Understood request)
    {svc : GatewayService} {p : Principal} {between : Store → Store → Prop} {s t : Store}
    {steps : List (Env × Store)} {answer : GatewayList I} {l : List Hypershell.Event}
    (exec : (answerList convert project svc p request).Exec between s steps (.ok answer) l t) :
    r.receive answer = .ok answer := by
  have sizes := r.size_bounds
  have first := r.offered.1
  have positive : 0 < request.size := by
    rw [understood.size.1]
    omega
  obtain ⟨page, long⟩ := exec_answerList understood.whole positive exec
  rw [understood.page.1, understood.size.1] at long
  rw [understood.page.1] at page
  unfold GatewayListRequest.receive
  rw [if_neg (by omega), if_neg]
  rw [not_or, not_not, not_not]
  exact ⟨page, long⟩

/-- **The console's lists and the server agree** on every request but those ordered by owner. -/
theorem console_lists_agree (projector : List UInt8 → Except PageError F)
    (convert : Gateway → String → Except Err I)
    (project : F → GatewayList I → Except Err (GatewayList I)) (r : GatewayListRequest)
    (short : r.query.length ≤ 4096) :
    r.Agrees projector convert project ↔ r.sortField ≠ .owner := by
  have read := parsePage_query projector r short
  rw [GatewayListRequest.orderBy, parse_orderBy] at read
  constructor
  · rintro ⟨request, parsed, -⟩ owner
    rw [read, owner] at parsed
    cases parsed
  · intro other
    obtain ⟨column, known, columns⟩ : ∃ column, r.sortField.column = some column ∧
        column ∈ ["cluster_id", "created_time", "route_address", "name", "status"] := by
      cases field : r.sortField with
      | owner => exact absurd field other
      | cluster | created | endpoint | name | status =>
        exact ⟨_, rfl, by simp⟩
    rw [known] at read
    have sizes := r.size_bounds
    have pages := r.offered.2.1
    have understood : r.Understood (⟨none, r.page, r.size, utf8 ((gatewaySearch r.search).getD ""),
        [⟨column, r.sortDirection.text⟩]⟩ : PageRequest F) := by
      refine ⟨rfl, ⟨rfl, ?_⟩, ⟨rfl, ?_⟩, text?_utf8 _, column, known, rfl, ?_⟩
      · show (r.page : Int) ≤ 1000000
        omega
      · show (r.size : Int) ≤ 500
        omega
      · have all : ∀ column ∈ ["cluster_id", "created_time", "route_address", "name", "status"],
            ∀ direction ∈ ["asc", "desc"], ∀ o ∈ withID [⟨column, direction⟩],
              o.valid Gateway = true := by decide
        refine all column columns r.sortDirection.text ?_
        cases r.sortDirection <;> simp [GatewaySortDirection.text]
    exact ⟨_, read, understood, fun _ _ _ _ _ _ _ _ exec => receive_of_exec understood exec⟩

end Agreement

/-! ### The sample -/

namespace ListSample

open Hypershell.Sample

/-- A search by the user, in an order. -/
def request (field : GatewaySortField) : GatewayListRequest :=
  ⟨3, "a b", 20, .desc, field, by decide⟩

theorem short (field : GatewaySortField) : (request field).query.length ≤ 4096 := by
  cases field <;> decide +kernel

/-- No selection of fields, and rows without content. -/
def projector : List UInt8 → Except PageError Unit := fun _ => .error .projection

def convert : Gateway → String → Except Err Unit := fun _ _ => .ok ()

def project : Unit → GatewayList Unit → Except Err (GatewayList Unit) := fun _ => .ok

end ListSample

open Hypershell.Sample in
/-- The search by cluster agrees. -/
theorem console_lists_sample :
    (ListSample.request .cluster).Agrees ListSample.projector ListSample.convert
      ListSample.project :=
  (console_lists_agree ListSample.projector ListSample.convert ListSample.project
    (ListSample.request .cluster) (ListSample.short .cluster)).mpr (by decide)

open Hypershell.Sample in
/-- The same search in the order by owner is refused. -/
theorem console_lists_owner :
    (ListSample.request .owner).query.length ≤ 4096 ∧
      parsePage ListSample.projector (ListSample.request .owner).query = .error .request ∧
      ¬ (ListSample.request .owner).Agrees ListSample.projector ListSample.convert
        ListSample.project := by
  have refused : parsePage ListSample.projector (ListSample.request .owner).query =
      .error .request := by
    rw [parsePage_query _ _ (ListSample.short .owner), GatewayListRequest.orderBy, parse_orderBy]
    rfl
  refine ⟨ListSample.short .owner, refused, ?_⟩
  rintro ⟨request, parsed, -⟩
  rw [refused] at parsed
  cases parsed

end Hypershell.Console
