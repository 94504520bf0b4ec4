import Hypershell.Gateways.GrantSteps
import Hypershell.Gateways.Queries

/-!
# What a controller is shown of Gateways

A controller sees every Gateway whose deletion is not finalized, and the finalized row of a
deletion event.  Rows are converted to messages in the current view of their observations.

## Main definitions

* `GatewayMessage`, `present` — a row as a message
* `Store.presented` — what a controller is shown under an ID

## Main results

* `exec_eventGateway` — the row of an event, and when there is none
* `exec_listGateways` — a list whose page has room for all rows

## Design notes

Texts are valid Unicode here and times can be converted, so only a list of DNS names can be
refused.
-/

namespace Hypershell

open Foundation

/-! ### Messages -/

/-- `pb.ObjectReference`. -/
structure ObjectReference where
  id : String
  createdAt : Int
  updatedAt : Int
  kind : String
  href : String
  deriving DecidableEq, Repr

/-- `pb.Gateway`. -/
structure GatewayMessage where
  metadata : ObjectReference
  name : String
  clusterID : String
  releaseID : String
  nameSpace : String
  externalDNS : Option String
  tlsMode : Option String
  serviceType : Option String
  status : Option String
  phase : Option String
  image : Option String
  supervisorImage : Option String
  serverDNSNames : List String
  routeAddress : Option String
  oidc : Option String
  route : Option String
  credentialDriver : Option String
  activeSandboxCount : Option Int
  consoleAddress : Option String
  deriving DecidableEq, Repr

/-- `jsonStrings`: at most so many texts of at most so many bytes, `null` is none of them. -/
def jsonStrings (value : Option (List String)) (maxItems maxItemBytes : Nat) :
    Except Err (List String) :=
  let names := value.getD []
  if names.length > maxItems ∨ names.any fun name => decide (name.utf8ByteSize > maxItemBytes) then
    .error (.text "response conversion failed")
  else
    .ok names

/-- `mapping.Gateway`. -/
def mapGateway (row : Gateway) : Except Err GatewayMessage := do
  let names ← jsonStrings row.serverDNSNames 128 253
  return {
    metadata := ⟨row.id, row.createdTime, row.updatedTime, "Gateway",
      "/api/hypershell/v1/gateways/" ++ row.id⟩
    name := row.name, clusterID := row.clusterID, releaseID := row.releaseID,
    nameSpace := row.nameSpace, externalDNS := row.externalDNS, tlsMode := row.tlsMode,
    serviceType := row.serviceType, status := row.status, phase := row.phase,
    image := row.image, supervisorImage := row.supervisorImage, serverDNSNames := names,
    routeAddress := row.routeAddress, oidc := row.oidc, route := row.route,
    credentialDriver := row.credentialDriver, activeSandboxCount := row.activeSandboxCount,
    consoleAddress := row.consoleAddress }

/-- `present`: the current view of a row as a message. -/
def present (row : Gateway) : Except Err GatewayMessage := mapGateway row.currentObservations

theorem id_of_mapGateway {row : Gateway} {m : GatewayMessage} (mapped : mapGateway row = .ok m) :
    m.metadata.id = row.id := by
  unfold mapGateway at mapped
  cases names : jsonStrings row.serverDNSNames 128 253 with
  | error e =>
    rw [names] at mapped
    cases mapped
  | ok texts =>
    rw [names] at mapped
    cases mapped
    rfl

namespace Gateway

/-- The view of a row changes texts only. -/
theorem currentObservations_columns (g : Gateway) :
    g.currentObservations.id = g.id ∧ g.currentObservations.deletedAt = g.deletedAt ∧
      g.currentObservations.deletionFinalizedAt = g.deletionFinalizedAt := by
  unfold currentObservations
  dsimp only
  split_ifs <;> exact ⟨rfl, rfl, rfl⟩

@[simp] theorem id_currentObservations (g : Gateway) : g.currentObservations.id = g.id :=
  g.currentObservations_columns.1

@[simp] theorem deletionFinalizedAt_currentObservations (g : Gateway) :
    g.currentObservations.deletionFinalizedAt = g.deletionFinalizedAt :=
  g.currentObservations_columns.2.2

end Gateway

theorem id_of_present {row : Gateway} {m : GatewayMessage} (presented : present row = .ok m) :
    m.metadata.id = row.id :=
  (id_of_mapGateway presented).trans row.id_currentObservations

/-- What a controller is shown under an ID: the message of a row whose deletion is not
finalized, as `list` returns the row. -/
def Store.presented (s : Store) (id : String) : Option (Except Err GatewayMessage) :=
  match s.gateway? id with
  | none => none
  | some g => if g.deletionFinalizedAt.isNone then some (present g.currentObservations) else none

/-- The deletion of a Gateway is finalized. -/
def Store.finalized (s : Store) (id : String) : Bool :=
  (s.gateway? id).any fun g => g.deletionFinalizedAt.isSome

section Presented

variable {s : Store} {id : String} {g : Gateway}

theorem Store.presented_of_stored (stored : s.gateway? id = some g)
    (unfinalized : g.deletionFinalizedAt = none) :
    s.presented id = some (present g.currentObservations) := by
  simp [Store.presented, stored, unfinalized]

theorem Store.presented_isNone_of_stored (stored : s.gateway? id = some g) :
    (s.presented id).isNone = g.deletionFinalizedAt.isSome := by
  unfold Store.presented
  rw [stored]
  cases final : g.deletionFinalizedAt <;> simp [final]

theorem Store.finalized_of_stored (stored : s.gateway? id = some g) :
    s.finalized id = g.deletionFinalizedAt.isSome := by
  rw [Store.finalized, stored]
  rfl

/-- A finalized deletion is not shown. -/
theorem Store.presented_of_finalized (finalized : s.finalized id = true) :
    s.presented id = none := by
  rw [Store.finalized, Option.any_eq_true] at finalized
  obtain ⟨g, stored, final⟩ := finalized
  rw [← Option.isNone_iff_eq_none, Store.presented_isNone_of_stored stored]
  exact final

theorem Store.presented_congr {t : Store} (same : t.gateway? id = s.gateway? id) :
    t.presented id = s.presented id := by
  rw [Store.presented, same, Store.presented]

end Presented

/-! ### Lists of a controller -/

section Lists

variable [Platform] {L : Type} {ω : Env} {s : Store} {svc : GatewayService} {p : Principal}

/-- **Finding the user of a principal** does not report that something is missing. -/
theorem wp_syncUser_present {c : Context Store Event L} :
    Tx.wp ω (syncUser p) (fun _ _ => True) (fun e _ => e ≠ .notFound) c := by
  simp only [syncUser, Tx.wp_bind]
  refine Action.wp_query (fun _ => by simp) (by rintro _ ⟨⟩) fun rows listed => ?_
  rw [Except.ok.injEq] at listed
  cases rows with
  | nil =>
    simp only [Tx.wp_bind]
    refine Action.wp_random (fun _ => by simp) fun id _ => ?_
    refine Action.wp_update (fun _ => by simp) (fun e declined => ?_) fun _ _ => trivial
    unfold Store.createUser Store.putUsers at declined
    split at declined
    · split at declined <;> cases declined
      simp
    · cases declined
      simp
  | cons user rest =>
    have known := @Directory.mem_listUsers c.store.directory p.issuer p.subject user
      (by rw [listed]; exact List.mem_cons_self)
    dsimp only
    split
    · intro never
      cases never
    split
    · simp only [Tx.wp_bind]
      refine Action.wp_update (fun _ => by simp) (fun e declined => ?_) fun _ _ => trivial
      have read : c.store.directory.getUser user.id = .ok user := by
        rw [Directory.getUser, known.1]
        exact if_pos known.2.1
      unfold Store.replaceUser Store.putUsers at declined
      rw [Context.at_store, read] at declined
      dsimp only at declined
      split at declined
      · split at declined <;> cases declined
        simp
      · cases declined
        simp
    · exact trivial

variable [Database Gateway]

/-- The rows of a list of a controller, in order. -/
def Store.gatewaysFor (id : String) (includeDeleted : Bool) (s : Store) : List Gateway :=
  sorted (orderOf (withID [])) (s.gateways.rows.filter fun g =>
    (includeDeleted || g.deletionFinalizedAt.isNone) && decide (id = "" ∨ g.id = id))

omit [Platform] in
/-- A list of a controller without a search. -/
theorem Store.listGateways_eq {id : String} {includeDeleted : Bool} {number size : Int} :
    s.listGateways id includeDeleted (fun _ _ => true) (requestOptions number size "" []) = .ok
      ⟨(if size = 0 then [] else page number size (s.gatewaysFor id includeDeleted)).map
        Gateway.currentObservations, (s.gatewaysFor id includeDeleted).length⟩ := by
  have ordered : ∀ o ∈ withID [], o.valid Gateway = true := by decide
  have search : (requestOptions number size "" []).search = "" := rfl
  unfold Store.listGateways
  rw [listRows_eq search ordered]
  have whole : (s.gateways.rows.filter fun g =>
      (includeDeleted || g.deletionFinalizedAt.isNone) && decide (id = "" ∨ g.id = id) && true) =
      s.gateways.rows.filter fun g =>
        (includeDeleted || g.deletionFinalizedAt.isNone) && decide (id = "" ∨ g.id = id) := by
    congr 1
    funext g
    rw [Bool.and_true]
  rw [whole]
  simp only [requestOptions, decide_eq_true_eq, Store.gatewaysFor, length_sorted]

/-- How the list of a controller ends: it leaves all but users alone, and without an error it
has its page; it does not report that something is missing. -/
structure Listed (id : String) (number size : Int) (includeDeleted : Bool) (s : Store)
    (r : ListResult Gateway × Option Err) (t : Store) : Prop where
  aside : s.Aside t
  page : r.2 = none → r.1 =
    ⟨(if size = 0 then [] else Foundation.page number size (s.gatewaysFor id includeDeleted)).map
      Gateway.currentObservations, (s.gatewaysFor id includeDeleted).length⟩
  known : r.2 ≠ some .notFound

/-- The callback of `list` for a controller. -/
theorem wp_selectBody (controller : svc.isControlPlane p = true) {id : String} {number size : Int}
    {includeDeleted : Bool} {c : Context Store Event (ListResult Gateway)} (aside : s.Aside c.base)
    (store : c.store = s) :
    Tx.wp ω (selectBody svc p id (requestOptions number size "" []) includeDeleted)
      (fun _ d => s.Aside d.base ∧ s.Aside d.store ∧ d.locals =
        ⟨(if size = 0 then [] else page number size (s.gatewaysFor id includeDeleted)).map
          Gateway.currentObservations, (s.gatewaysFor id includeDeleted).length⟩)
      (fun e d => s.Aside d.base ∧ e ≠ .notFound) c := by
  subst store
  have asked : ¬ (svc.isControlPlane p = false ∧ "platform:admin" ∉ p.roles) := by
    simp [controller]
  simp only [selectBody, Tx.wp_bind, if_neg asked]
  have known : Tx.wp ω (syncUser p) (fun _ d => c.store.Aside d.base ∧
      ∃ e, c.store.directory.SameGrants e ∧ d.store = { c.store with directory := e })
      (fun _ d => c.store.Aside d.base) c :=
    wp_syncUser_known (fun _ _ _ _ => aside) fun _ _ d same _ => ⟨aside, d, same, rfl⟩
  refine Tx.wp_mono (Tx.wp_and wp_syncUser_present known) ?_ fun e d failed => ⟨failed.2, failed.1⟩
  rintro user d ⟨-, base, e, same, store⟩
  have rows : d.store.gatewaysFor id includeDeleted = c.store.gatewaysFor id includeDeleted := by
    rw [store]
    rfl
  refine Action.wp_query (fun _ => ⟨base, by simp⟩) (fun e declined => ?_) fun result read => ?_
  · rw [Store.listGateways_eq] at declined
    cases declined
  · rw [Store.listGateways_eq, rows, Except.ok.injEq] at read
    rw [Tx.wp_capture]
    exact ⟨base, ⟨e, store, same.projects⟩, read.symm⟩

variable {between : Store → Store → Prop} {t : Store} {steps : List (Env × Store)} {l : List Event}

theorem exec_selectGateways (controller : svc.isControlPlane p = true)
    (valid : validatePrincipal p = .ok ()) {id : String} {number size : Int} {includeDeleted : Bool}
    {r : ListResult Gateway × Option Err}
    (exec : (selectGateways svc p id number size "" [] includeDeleted).Exec between s steps r l t) :
    ∃ s', between s s' ∧ Listed id number size includeDeleted s' r t := by
  rw [selectGateways, valid] at exec
  have run : ∀ ω s', Tx.wp ω (do
      Action.query fun _ => .ok ()
      selectBody svc p id (requestOptions number size "" []) includeDeleted)
      (fun _ d => s'.Aside d.base ∧ s'.Aside d.store ∧ d.locals =
        ⟨(if size = 0 then [] else page number size (s'.gatewaysFor id includeDeleted)).map
          Gateway.currentObservations, (s'.gatewaysFor id includeDeleted).length⟩)
      (fun e d => s'.Aside d.base ∧ e ≠ .notFound) (Context.start s' ⟨[], 0⟩) := by
    intro ω s'
    rw [Tx.wp_bind]
    refine Action.wp_query (fun _ => ⟨.refl s', by simp⟩) (by rintro _ ⟨⟩) ?_
    exact fun _ _ => wp_selectBody controller (.refl s') rfl
  obtain ⟨ω, s', rfl, moved, -, ended⟩ := exec_transact exec fun ω s' _ _ => run ω s'
  refine ⟨s', moved, ?_⟩
  cases ended with
  | committed ended => exact ⟨ended.2.1, fun _ => ended.2.2, by simp⟩
  | replyLost ended => exact ⟨ended.2.1, (fun never => nomatch never), by simp⟩
  | rolledBack ended => exact ⟨ended.1, (fun never => nomatch never), by simp⟩
  | failed ended => exact ⟨ended.1, (fun never => nomatch never), by simpa using ended.2⟩

omit [Platform] in
theorem Store.mem_gatewaysFor {id : String} {includeDeleted : Bool} {g : Gateway} :
    g ∈ s.gatewaysFor id includeDeleted ↔ s.gateway? g.id = some g ∧
      (includeDeleted = true ∨ g.deletionFinalizedAt = none) ∧ (id = "" ∨ g.id = id) := by
  rw [Store.gatewaysFor, mem_sorted, List.mem_filter]
  have stored : g ∈ s.gateways.rows ↔ s.gateway? g.id = some g :=
    ⟨fun member => Table.find?_of_mem member, fun found => Table.mem_of_find? found⟩
  simp [stored]

omit [Platform] in
/-- Under one ID there is one row at most. -/
theorem Store.length_gatewaysFor {id : String} {includeDeleted : Bool} (named : id ≠ "") :
    (s.gatewaysFor id includeDeleted).length ≤ 1 := by
  have once : (s.gatewaysFor id includeDeleted).Nodup :=
    sorted_perm.nodup_iff.mpr (s.gateways.nodup.filter _)
  refine length_le_one once fun a memberA b memberB => ?_
  obtain ⟨storedA, -, isA⟩ := Store.mem_gatewaysFor.mp memberA
  obtain ⟨storedB, -, isB⟩ := Store.mem_gatewaysFor.mp memberB
  rw [isA.resolve_left named] at storedA
  rw [isB.resolve_left named] at storedB
  exact Option.some.inj (storedA.symm.trans storedB)

/-- **The row of an event** is the stored one, if its deletion is as finalized as the event
says.  Otherwise it is missing. -/
theorem exec_eventGateway (controller : svc.isControlPlane p = true) {id : String} {deleted : Bool}
    {r : Except Err Gateway}
    (exec : (eventGateway svc p id deleted).Exec Eq s steps r l t) :
    s.Aside t ∧
    (∀ row, r = .ok row → ∃ g, s.gateway? id = some g ∧ row = g.currentObservations ∧
      g.deletionFinalizedAt.isSome = deleted) ∧
    (r = .error .notFound → Platform.validID id = true →
      ∀ g, s.gateway? id = some g → g.deletionFinalizedAt.isSome ≠ deleted) := by
  unfold eventGateway findGateway at exec
  cases valid : validatePrincipal p with
  | error e =>
    rw [valid] at exec
    obtain ⟨rfl, rfl, rfl, rfl⟩ := Proc.exec_ret exec
    refine ⟨.refl _, fun _ never => (nomatch never), fun missing => ?_⟩
    rw [Except.error.inj missing] at valid
    unfold validatePrincipal at valid
    split_ifs at valid
    cases valid
  | ok _ =>
    rw [valid] at exec
    dsimp only at exec
    split_ifs at exec with isValid
    swap
    · obtain ⟨rfl, rfl, rfl, rfl⟩ := Proc.exec_ret exec
      exact ⟨.refl _, fun _ never => (nomatch never), fun _ accepted => absurd accepted isValid⟩
    obtain ⟨⟨result, error⟩, rfl, inner⟩ := Proc.exec_map exec
    obtain ⟨s', rfl, listed⟩ := exec_selectGateways controller valid inner
    have named : id ≠ "" := by
      rintro rfl
      rw [Platform.validID_empty] at isValid
      cases isValid
    refine ⟨listed.aside, ?_⟩
    cases error with
    | some e =>
      refine ⟨fun _ never => (nomatch never), fun missing => ?_⟩
      exact absurd (congrArg some (Except.error.inj missing)) listed.known
    | none =>
      have shown := listed.page rfl
      dsimp only at shown
      rw [if_neg one_ne_zero, page_one_one (Store.length_gatewaysFor named)] at shown
      rw [shown]
      cases rows : s.gatewaysFor id deleted with
      | nil =>
        refine ⟨fun _ never => (nomatch never), fun _ _ g stored differs => ?_⟩
        have member : g ∈ s.gatewaysFor id deleted := by
          refine Store.mem_gatewaysFor.mpr ⟨?_, ?_, .inr (Store.id_of_gateway? stored)⟩
          · rw [Store.id_of_gateway? stored]
            exact stored
          · rw [← differs]
            cases g.deletionFinalizedAt <;> simp
        rw [rows] at member
        cases member
      | cons g rest =>
        have only : rest = [] := by
          have short : (s.gatewaysFor id deleted).length ≤ 1 := Store.length_gatewaysFor named
          rw [rows, List.length_cons] at short
          exact List.eq_nil_of_length_eq_zero (by omega)
        subst only
        obtain ⟨stored, -, here⟩ := Store.mem_gatewaysFor.mp (rows ▸ List.mem_cons_self)
        rw [here.resolve_left named] at stored
        simp only [List.map_cons, List.map_nil, onlyGateway, decide_eq_true_eq,
          Gateway.deletionFinalizedAt_currentObservations]
        split
        · rename_i matches'
          refine ⟨fun row found => ⟨g, stored, (Except.ok.inj found).symm, matches'⟩, ?_⟩
          exact fun never => nomatch never
        · rename_i differs
          refine ⟨fun _ never => (nomatch never), fun _ _ g' stored' => ?_⟩
          cases stored.symm.trans stored'
          exact differs

/-- **A list with room for all rows** has what a controller is shown. -/
theorem exec_listGateways (controller : svc.isControlPlane p = true) {size : Int}
    {r : ListResult Gateway × Option Err}
    (exec : (listGateways svc p 1 size).Exec Eq s steps r l t) :
    s.Aside t ∧ (r.2 = none → size ≠ 0 → (r.1.total : Int) ≤ size → ∀ id row,
      row ∈ r.1.items ∧ row.id = id ↔ ∃ g, s.gateway? id = some g ∧
        g.deletionFinalizedAt = none ∧ row = g.currentObservations) := by
  unfold listGateways searchGateways at exec
  split_ifs at exec with refused
  · obtain ⟨rfl, rfl, rfl, rfl⟩ := Proc.exec_ret exec
    exact ⟨.refl _, fun never => nomatch never⟩
  cases valid : validatePrincipal p with
  | error e =>
    rw [selectGateways, valid] at exec
    obtain ⟨rfl, rfl, rfl, rfl⟩ := Proc.exec_ret exec
    exact ⟨.refl _, fun never => nomatch never⟩
  | ok _ =>
    obtain ⟨s', rfl, listed⟩ := exec_selectGateways controller valid exec
    refine ⟨listed.aside, fun fine sized whole id row => ?_⟩
    rw [listed.page fine] at whole ⊢
    dsimp only at whole ⊢
    rw [if_neg sized, page_one_of_length_le whole]
    constructor
    · rintro ⟨member, rfl⟩
      obtain ⟨g, inside, rfl⟩ := List.mem_map.mp member
      obtain ⟨stored, live, -⟩ := Store.mem_gatewaysFor.mp inside
      exact ⟨g, by simpa using stored, by simpa using live, rfl⟩
    · rintro ⟨g, stored, live, rfl⟩
      have key := Store.id_of_gateway? stored
      refine ⟨List.mem_map.mpr ⟨g, Store.mem_gatewaysFor.mpr ⟨?_, .inr live, .inl rfl⟩, rfl⟩, ?_⟩
      · rw [key]
        exact stored
      · rw [Gateway.id_currentObservations, key]

end Lists

end Hypershell
