import Hypershell.Gateways.CycleSteps
import Hypershell.Gateways.DeletionSteps
import Hypershell.Gateways.Grants

/-!
# What the operations on grants do

The ends of every transaction that changes grants, as the store it leaves, in the company of
requests that project roles.

## Main definitions

* `Store.Aside` — what others commit while a lock is held
* `Settles`, `CallEnd` — a call of at most one transaction, and how it ends
* `GrantMove` — a Gateway's grants changed, its cycle was invalidated and both published
* `Granted`, `Revoked`, `Placed`, `Projected`

## Main results

* `settles_createGrant`, `settles_deleteLocked`, `settles_createGateway`,
  `settles_prepareRequest`, `settles_getGrant`
-/

namespace Hypershell

open Foundation

variable [Platform]

/-- Only users and global grants differ. -/
def Store.Aside (s t : Store) : Prop :=
  ∃ d, t = { s with directory := d } ∧ s.directory.Projects d

namespace Store

variable {s t u : Store}

theorem Aside.refl (s : Store) : s.Aside s := ⟨s.directory, rfl, .refl _⟩

theorem Aside.trans (first : s.Aside t) (second : t.Aside u) : s.Aside u := by
  obtain ⟨d, rfl, projects⟩ := first
  obtain ⟨d', rfl, projects'⟩ := second
  exact ⟨d', rfl, projects.trans projects'⟩

theorem aside_of_projects {d : Directory} (projects : s.directory.Projects d) :
    s.Aside { s with directory := d } :=
  ⟨d, rfl, projects⟩

theorem Aside.projects (idle : s.Aside t) : s.directory.Projects t.directory := by
  obtain ⟨d, rfl, projects⟩ := idle
  exact projects

theorem Aside.gateway? (idle : s.Aside t) (id : String) : t.gateway? id = s.gateway? id := by
  obtain ⟨d, rfl, -⟩ := idle
  rfl

end Store

theorem Directory.SameGrants.projects {d d' : Directory} (same : d.SameGrants d') :
    d.Projects d' := by
  refine ⟨by rw [same.1], ?_, .of_same same.2⟩
  rw [Directory.gatewayGrants, same.2]
  rfl

/-! ### Calls under a lock -/

variable {L : Type}

/-- A call that fails at once, or runs one transaction.  It starts from some store and, if it
returns, leaves its variables and its store as `ends` says.  Meanwhile others are idle. -/
inductive Settles (ends : Store → L → Store → Prop) : Process (L × Option Err) → Prop
  | refused {vars : L} {e : Err} : Settles ends (.ret (vars, some e))
  | transaction {init : L} {body : Action L Unit}
      (run : ∀ ω s n, Tx.wp ω body (fun _ c => s.Aside c.base ∧ ends s c.locals c.store)
        (fun _ c => s.Aside c.base) ((Context.start s init).at n)) :
      Settles ends (withTransaction init body)

/-- How such a call ends, others moving between its steps by `between`. -/
inductive CallEnd (ends : Store → L → Store → Prop) (between : Store → Store → Prop) (s : Store) :
    List (Env × Store) → L × Option Err → Store → Prop
  | refused {vars : L} {e : Err} : CallEnd ends between s [] (vars, some e) s
  | failed {ω : Env} {s' t : Store} {vars : L} {e : Err} (moved : between s s')
      (idle : s'.Aside t) : CallEnd ends between s [(ω, s')] (vars, some e) t
  | committed {ω : Env} {s' t : Store} {vars : L} (moved : between s s')
      (ended : ends s' vars t) : CallEnd ends between s [(ω, s')] (vars, none) t
  | lost {ω : Env} {s' t : Store} {vars : L} (moved : between s s') (ended : ends s' vars t)
      (reply : ω.commit = .replyLost) :
      CallEnd ends between s [(ω, s')] (vars, some .storage) t

section Settles

variable {ends : Store → L → Store → Prop} {p : Process (L × Option Err)}

/-- A call without an error has committed. -/
theorem CallEnd.committed_of_ok {between : Store → Store → Prop} {s t : Store}
    {steps : List (Env × Store)} {x : L} (ended : CallEnd ends between s steps (x, none) t) :
    ∃ ω s', steps = [(ω, s')] ∧ between s s' ∧ ends s' x t := by
  generalize result : (x, (none : Option Err)) = r at ended
  cases ended with
  | committed moved ended =>
    cases result
    exact ⟨_, _, rfl, moved, ended⟩
  | refused => cases result
  | failed => cases result
  | lost => cases result

theorem Settles.mono {ends' : Store → L → Store → Prop} (settles : Settles ends p)
    (weaker : ∀ s x t, ends s x t → ends' s x t) : Settles ends' p := by
  cases settles with
  | refused => exact .refused
  | transaction run =>
    refine .transaction fun ω s n => Tx.wp_mono (run ω s n) ?_ fun _ _ idle => idle
    rintro _ c ⟨idle, ended⟩
    exact ⟨idle, weaker _ _ _ ended⟩

/-- What a call without interference commits. -/
theorem Commits.settles {commits : Store → Store → Prop} (call : Commits commits p) :
    Settles (fun s _ t => commits s t) p := by
  cases call with
  | refused => exact .refused
  | transaction run =>
    refine .transaction fun ω s n => Tx.wp_mono (run ω s n) ?_ ?_
    · rintro _ c ⟨same, ended⟩
      exact ⟨same ▸ .refl _, ended⟩
    · intro _ c same
      exact same ▸ .refl _

/-- The transaction with its first operation. -/
theorem wp_opened {init : L} {body : Action L Unit} {ω : Env} {s : Store}
    (run : ∀ ω s n, Tx.wp ω body (fun _ c => s.Aside c.base ∧ ends s c.locals c.store)
      (fun _ c => s.Aside c.base) ((Context.start s init).at n)) :
    Tx.wp ω (do Action.query fun _ => .ok (); body)
      (fun _ c => s.Aside c.base ∧ ends s c.locals c.store) (fun _ c => s.Aside c.base)
      (Context.start s init) := by
  rw [Tx.wp_bind]
  exact Action.wp_query (fun _ => .refl s) (fun _ _ => .refl s) fun _ _ => run ω s _

/-- **Executions.** A call is refused, fails, commits, or commits without learning of it. -/
theorem Settles.exec (settles : Settles ends p) {between : Store → Store → Prop} {s t : Store}
    {steps : List (Env × Store)} {r : L × Option Err} {l : List Event}
    (exec : p.Exec between s steps r l t) : CallEnd ends between s steps r t := by
  cases settles with
  | refused =>
    obtain ⟨rfl, rfl, -, rfl⟩ := Proc.exec_ret exec
    exact .refused
  | transaction run =>
    obtain ⟨ω, s', rfl, moved, -, concluded⟩ :=
      exec_transact exec fun ω s' _ _ => wp_opened (ω := ω) (s := s') run
    cases concluded with
    | committed ended => exact .committed moved ended.2
    | replyLost ended took => exact .lost moved ended.2 took
    | rolledBack ended => exact .failed moved ended.1
    | failed ended => exact .failed moved ended

/-- **Contracts.** A call meets a contract that idle others and its own commits keep. -/
theorem Settles.safe {C : Contract Env Store Event} (settles : Settles ends p)
    {post : L × Option Err → List Event → Store → Prop} {h : List Event} {s : Store}
    (events : ∀ s v, C.event s v) (posts : ∀ r h s, post r h s)
    (idle : ∀ h s t, s.Aside t → C.change h s t)
    (change : ∀ h s x t, ends s x t → C.change h s t) : p.Safe C post h s := by
  cases settles with
  | refused => exact Proc.safe_ret.mpr (posts _ _ _)
  | transaction run =>
    refine safe_transact (fun ω s' _ _ _ => wp_opened (ω := ω) (s := s') run) ?_
    intro ω s' r l t _ _ _ concluded
    refine ⟨fun v _ => events s' v, ?_, posts _ _ _⟩
    cases concluded with
    | committed ended => exact change _ _ _ _ ended.2
    | replyLost ended => exact change _ _ _ _ ended.2
    | rolledBack ended => exact idle _ _ _ ended.1
    | failed ended => exact idle _ _ _ ended

/-- A contract may also ask for the execution that a commit comes from. -/
theorem Settles.safe_run {C : Contract Env Store Event} (settles : Settles ends p)
    {post : L × Option Err → List Event → Store → Prop} {h : List Event} {s : Store}
    (events : ∀ s v, C.event s v) (posts : ∀ r h s, post r h s)
    (idle : ∀ h s t, s.Aside t → C.change h s t)
    (change : ∀ h ω s r l t, p.Exec Eq s [(ω, s)] r l t → ends s r.1 t → C.change h s t) :
    p.Safe C post h s := by
  cases settles with
  | refused => exact Proc.safe_ret.mpr (posts _ _ _)
  | @transaction init body run =>
    intro s' _ _ ω _
    have concluded : Concluded ω.commit Err.storage _ _ _ _ _ :=
      concluded_of_wp (wp_opened (ω := ω) (s := s') run)
    refine ⟨fun v _ => events s' v, ?_, posts _ _ _⟩
    rcases concluded.leaves with ⟨c, ended, result, store⟩ | ⟨c, ended, store⟩
    · have exec : (withTransaction init body).Exec Eq s' [(ω, s')] _ _ _ := .act rfl .ret
      have committed := ended.2
      rw [result, store] at committed
      exact change _ ω s' _ _ _ exec committed
    · have still : s'.Aside c.base := by
        rcases ended with ended | ⟨_, failed⟩
        · exact ended.1
        · exact failed
      rw [store] at still
      exact idle _ _ _ still

end Settles

/-! ### Under the lock -/

/-- A transaction that has written nothing but users, while others were idle. -/
structure Waiting (s : Store) (c : Context Store Event L) : Prop where
  store : s.Aside c.store
  base : s.Aside c.base

section Waiting

variable {ω : Env} {s : Store} {c : Context Store Event L}

theorem waiting_start (s : Store) (init : L) (n : Nat) :
    Waiting s ((Context.start s init).at n) := ⟨.refl s, .refl s⟩

theorem Waiting.at (waiting : Waiting s c) (n : Nat) : Waiting s (c.at n) :=
  ⟨waiting.store, waiting.base⟩

theorem Waiting.put (waiting : Waiting s c) {d : Directory} (n : Nat)
    (same : c.store.directory.SameGrants d) :
    Waiting s (c.put n { c.store with directory := d }) :=
  ⟨waiting.store.trans (Store.aside_of_projects same.projects), waiting.base⟩

/-- **Others** project roles. -/
theorem wp_meanwhile {ok : Unit → Context Store Event L → Prop}
    {fails : Err → Context Store Event L → Prop}
    (done : ∀ n d d', c.store.directory.Projects d → c.base.directory.Projects d' →
      ok () { c.at n with
        store := { c.store with directory := d }, base := { c.base with directory := d' } }) :
    Tx.wp ω meanwhile ok fails c :=
  done _ _ _ (projects_projected _ _) (projects_projected _ _)

theorem wp_meanwhile_waiting {ok : Unit → Context Store Event L → Prop}
    {fails : Err → Context Store Event L → Prop} (waiting : Waiting s c)
    (done : ∀ c' : Context Store Event L, Waiting s c' → c'.locals = c.locals → ok () c') :
    Tx.wp ω meanwhile ok fails c := by
  refine wp_meanwhile fun n d d' projects projects' => done _ ⟨?_, ?_⟩ rfl
  · exact waiting.store.trans (Store.aside_of_projects projects)
  · exact waiting.base.trans (Store.aside_of_projects projects')

/-- **The target of a change under its lock.** -/
theorem wp_mutationTarget_waiting {svc : GatewayService} {p : Principal} {id : String}
    {admin deleting : Bool} {ok : Gateway → Context Store Event L → Prop}
    {fails : Err → Context Store Event L → Prop} (waiting : Waiting s c)
    (failed : ∀ e c', Waiting s c' → fails e c')
    (found : ∀ g (c' : Context Store Event L), Waiting s c' → c'.locals = c.locals →
      s.gateway? id = some g →
      (if deleting then g.deletionFinalizedAt.isNone else g.live) = true →
      svc.MayChange p c'.store.directory id admin → ok g c') :
    Tx.wp ω (mutationTarget svc p id admin deleting) ok fails c := by
  refine wp_mutationTarget_known (fun e n d same => failed e _ (waiting.put n same)) ?_
  intro g n d same stored visible allowed
  refine found g _ (waiting.put n same) rfl ?_ visible allowed
  rw [← waiting.store.gateway?]
  exact stored

end Waiting

/-! ### The ends -/

section Ends

/-- A Gateway's grants changed.  Its cycle was invalidated, and the change was published, in
the same commit. -/
structure GrantMove (s : Store) (id : String) (grants : List RoleBinding) (source eventType kind : String)
    (t : Store) : Prop where
  rest : ∃ d gateways checkpoints outbox, t = { s with
    directory := d, gateways := gateways, checkpoints := checkpoints, outbox := outbox }
  roles : t.directory.roles.rows = s.directory.roles.rows
  grants : t.directory.gatewayGrants = grants
  grows : s.directory.Grows t.directory
  invalidated : s.Invalidated id { s with gateways := t.gateways, checkpoints := t.checkpoints }
  outbox : t.outbox = s.outbox ++ [⟨source, eventType, kind⟩, ⟨id, "Update", "gateway.updated"⟩]

/-- The caller could change a Gateway, whatever roles others projected before. -/
def Changeable (svc : GatewayService) (p : Principal) (s : Store) (id : String) (admin : Bool) :
    Prop :=
  ∃ d, s.directory.Projects d ∧ svc.MayChange p d id admin

/-- A grant was created. -/
structure Granted (svc : GatewayService) (p : Principal) (input : GrantRequest) (s : Store)
    (t : Store) : Prop where
  caller : Changeable svc p s input.gatewayID false
  move : ∃ b : RoleBinding, b.live = true ∧ b.gatewayID = some input.gatewayID ∧
    b.roleID = input.roleID ∧ b.userID = input.userID ∧ b.scope = input.scope ∧
    GrantMove s input.gatewayID (s.directory.gatewayGrants ++ [b]) b.id "Create"
      "rolebinding.created" t

/-- A grant was withdrawn.  The last owner stays. -/
structure Revoked (svc : GatewayService) (p : Principal) (id gatewayID : String) (s t : Store) :
    Prop where
  caller : Changeable svc p s gatewayID false
  move : ∃ b owner, b ∈ s.directory.gatewayGrants ∧ b.live = true ∧
    b.gatewayID = some gatewayID ∧ b.id = id ∧
    s.directory.rolesNamed "gateway:owner" = [owner] ∧
    (b.roleID = owner.id → 1 < s.countGrants gatewayID owner.id) ∧
    GrantMove s gatewayID
      (Table.overwrite s.directory.gatewayGrants { b with deletedAt := some s.time }) id "Delete"
      "rolebinding.deleted" t

/-- A Gateway was created with its owner's grant, on a live cluster and release. -/
structure Placed (p : Principal) (r : GatewayCreateRequest) (s t : Store) : Prop where
  rest : ∃ d gateways outbox,
    t = { s with directory := d, gateways := gateways, outbox := outbox }
  roles : t.directory.roles.rows = s.directory.roles.rows
  cluster : ∃ cluster, s.getCluster r.clusterID = .ok cluster
  release : ∃ release, s.getRelease r.releaseID = .ok release
  row : ∃ (b : RoleBinding) (owner : Role) (g : Gateway), b.live = true ∧
    b.gatewayID = some g.id ∧ b.roleID = owner.id ∧ b.scope = "gateway" ∧
    s.directory.rolesNamed "gateway:owner" = [owner] ∧
    t.directory.Identified p b.userID ∧
    t.directory.gatewayGrants = s.directory.gatewayGrants ++ [b] ∧
    s.gateway? g.id = none ∧ t.gateways.rows = s.gateways.rows ++ [g] ∧
    Gateway.insert { r.row g.id with
      createdTime := s.time, updatedTime := s.time, deletedAt := none } = .ok g ∧
    t.outbox = s.outbox ++
      [⟨b.id, "Create", "rolebinding.created"⟩, ⟨g.id, "Create", "gateway.created"⟩]
  drawn : ∀ g ∈ t.gateways.rows, g ∈ s.gateways.rows ∨ Platform.validID g.id = true
  grows : s.directory.Grows t.directory

end Ends

/-! ### Grants of Gateways and others -/

namespace Directory

variable {d : Directory} {bindings : Table RoleBinding} {b : RoleBinding}

omit [Platform] in
theorem gatewayGrants_append (rows : bindings.rows = d.bindings.rows ++ [b])
    (gateway : b.gatewayID.isSome = true) :
    { d with bindings := bindings }.gatewayGrants = d.gatewayGrants ++ [b] := by
  simp only [gatewayGrants, rows, List.filter_append, List.filter_cons, gateway, if_true,
    List.filter_nil]

theorem grows_append (rows : bindings.rows = d.bindings.rows ++ [b])
    (drawn : Platform.validID b.id = true) : d.Grows { d with bindings := bindings } := by
  refine ⟨fun _ member _ => rows ▸ List.mem_append_left _ member, fun a member => ?_⟩
  rcases List.mem_append.mp (rows ▸ member) with old | new
  · exact .inl ⟨a, old, rfl⟩
  · rw [List.mem_singleton.mp new]
    exact .inr drawn

/-- A live grant was deleted. -/
theorem grows_overwrite {old : RoleBinding} (found : old ∈ d.bindings.rows)
    (rows : bindings.rows = Table.overwrite d.bindings.rows b) (key : b.id = old.id)
    (live : old.live = true) : d.Grows { d with bindings := bindings } := by
  constructor
  · intro a member dead
    show a ∈ bindings.rows
    rw [rows]
    refine Table.mem_overwrite.mpr (.inr ⟨member, fun same => ?_⟩)
    rw [d.bindings.eq_of_key member found (same.trans key), live] at dead
    cases dead
  · intro a member
    rcases Table.mem_overwrite.mp (rows ▸ member) with ⟨rfl, -⟩ | ⟨stored, -⟩
    · exact .inl ⟨old, found, key.symm⟩
    · exact .inl ⟨a, stored, rfl⟩

theorem projects_append (rows : bindings.rows = d.bindings.rows ++ [b])
    (notGateway : b.gatewayID = none) (drawn : Platform.validID b.id = true) :
    d.Projects { d with bindings := bindings } := by
  refine ⟨rfl, ?_, grows_append rows drawn⟩
  simp only [gatewayGrants, rows, List.filter_append, List.filter_cons, notGateway,
    Option.isSome_none, Bool.false_eq_true, if_false, List.filter_nil, List.append_nil]

omit [Platform] in
/-- A stored grant of a Gateway is found by its ID whatever others projected. -/
theorem find?_of_gatewayGrants (member : b ∈ d.gatewayGrants) : d.bindings.find? b.id = some b :=
  Table.find?_of_mem (List.mem_of_mem_filter member)

omit [Platform] in
theorem mem_gatewayGrants {id : String} (found : d.bindings.find? id = some b)
    (gateway : b.gatewayID.isSome = true) : b ∈ d.gatewayGrants :=
  List.mem_filter.mpr ⟨Table.mem_of_find? found, gateway⟩

omit [Platform] in
theorem gatewayGrants_overwrite {old : RoleBinding} (member : old ∈ d.gatewayGrants)
    (rows : bindings.rows = Table.overwrite d.bindings.rows b) (key : b.id = old.id)
    (gateway : b.gatewayID = old.gatewayID) :
    { d with bindings := bindings }.gatewayGrants = Table.overwrite d.gatewayGrants b := by
  simp only [gatewayGrants, rows]
  refine Store.filter_overwrite d.bindings.separate (List.mem_of_mem_filter member) key ?_
  rw [gateway]

theorem projects_overwrite {old : RoleBinding} (found : old ∈ d.bindings.rows)
    (rows : bindings.rows = Table.overwrite d.bindings.rows b) (key : b.id = old.id)
    (live : old.live = true) (global : old.gatewayID = none) (gateway : b.gatewayID = old.gatewayID) :
    d.Projects { d with bindings := bindings } := by
  refine ⟨rfl, ?_, grows_overwrite found rows key live⟩
  simp only [gatewayGrants, rows]
  rw [Store.filter_overwrite d.bindings.separate found key (by rw [gateway])]
  refine Store.overwrite_eq_self fun a inside same => ?_
  obtain ⟨stored, kept⟩ := List.mem_filter.mp inside
  have apart : a = old := by
    by_contra other
    exact (d.bindings.separate.forall stored found other).1 (same.trans key)
  rw [apart, global] at kept
  cases kept

end Directory

omit [Platform] in
theorem Store.countGrants_eq (s : Store) (gatewayID roleID : String) :
    s.countGrants gatewayID roleID = s.directory.gatewayGrants.countP fun b =>
      b.live && decide (b.gatewayID = some gatewayID) && decide (b.roleID = roleID) &&
        decide (b.scope = "gateway") := by
  rw [countGrants, Directory.gatewayGrants, List.countP_filter]
  refine List.countP_congr fun b _ => ?_
  cases b.gatewayID <;> simp

section Bodies

variable {ω : Env} {s : Store} {c : Context Store Event L} {id : String}

/-- **The events of a grant** and the invalidation of its Gateway's cycle. -/
theorem wp_notifyGrant {b : RoleBinding} {eventType kind : String}
    {ok : Unit → Context Store Event L → Prop} {fails : Err → Context Store Event L → Prop}
    (gateway : b.gatewayID = some id) (failed : ∀ e n t, fails e (c.put n t))
    (done : ∀ n gateways checkpoints,
      c.store.Invalidated id { c.store with gateways := gateways, checkpoints := checkpoints } →
      ok () (c.put n { c.store with
        gateways := gateways
        checkpoints := checkpoints
        outbox := c.store.outbox ++
          [⟨b.id, eventType, kind⟩, ⟨id, "Update", "gateway.updated"⟩] })) :
    Tx.wp ω (notifyGrant b eventType kind) ok fails c := by
  simp only [notifyGrant, gateway, Tx.wp_bind]
  refine Action.wp_update (fun _ => failed _ _ c.store) (fun _ _ => failed _ _ c.store) ?_
  intro t published
  cases published
  refine wp_resetIdentityCycle (fun e n t => failed e n t) fun n t invalidated => ?_
  obtain ⟨gateways, checkpoints, rfl⟩ := invalidated.rest
  refine Action.wp_update (fun _ => failed _ _ _) (fun _ _ => failed _ _ _) ?_
  intro u published
  cases published
  have done' := done (n + 1) gateways checkpoints ⟨⟨_, _, rfl⟩, invalidated.row,
    invalidated.others, invalidated.version, invalidated.cursor, invalidated.checkpoints⟩
  rw [List.append_cons] at done'
  exact done'

/-- What is left to do once the grants of a Gateway differ. -/
theorem wp_notifyGrant_moved {b : RoleBinding} {eventType kind : String}
    {grants : List RoleBinding} {ok : Unit → Context Store Event L → Prop}
    {fails : Err → Context Store Event L → Prop} {t : Store} {d : Directory}
    (gateway : b.gatewayID = some id) (store : c.store = { t with directory := d })
    (before : s.Aside t) (base : s.Aside c.base) (roles : d.roles.rows = s.directory.roles.rows)
    (moved : d.gatewayGrants = grants) (deleted : s.directory.Grows d)
    (failed : ∀ e c', s.Aside c'.base → fails e c')
    (done : ∀ c' : Context Store Event L, s.Aside c'.base → c'.locals = c.locals →
      GrantMove s id grants b.id eventType kind c'.store → ok () c') :
    Tx.wp ω (notifyGrant b eventType kind) ok fails c := by
  obtain ⟨d', rfl, projects⟩ := before
  refine wp_notifyGrant gateway (fun e n t => failed e _ base) ?_
  intro n gateways checkpoints invalidated
  rw [store] at invalidated ⊢
  refine done _ base rfl ⟨⟨d, gateways, checkpoints, _, rfl⟩, roles, moved, deleted, ?_, rfl⟩
  exact ⟨⟨_, _, rfl⟩, invalidated.row, invalidated.others, invalidated.version,
    invalidated.cursor, invalidated.checkpoints⟩

/-- **The last owner.** -/
theorem wp_keepOwner {grant : RoleBinding} {owner : Role}
    {ok : Unit → Context Store Event L → Prop} {fails : Err → Context Store Event L → Prop}
    (failed : ∀ e n, fails e (c.at n))
    (kept : ∀ n, (grant.roleID = owner.id → 1 < c.store.countGrants id owner.id) →
      ok () (c.at n)) :
    Tx.wp ω (keepOwner grant owner id) ok fails c := by
  unfold keepOwner
  rw [Tx.wp_ite]
  split
  · rw [Tx.wp_bind]
    refine Action.wp_query (fun _ => failed _ _) (fun _ _ => failed _ _) fun total counted => ?_
    cases counted
    rw [Tx.wp_require]
    split
    · rename_i several
      exact kept _ fun _ => not_le.mp several
    · exact failed _ _
  · rename_i other
    exact kept c.tick fun same => absurd same other

end Bodies

/-! ### The transactions -/

section Transactions

variable {ω : Env} {s : Store} {svc : GatewayService} {p : Principal}

/-- The grant and its events. -/
theorem wp_storeGrant {c : Context Store Event (Option RoleBinding)} {input : GrantRequest}
    {ok : Unit → Context Store Event (Option RoleBinding) → Prop}
    {fails : Err → Context Store Event (Option RoleBinding) → Prop} (waiting : Waiting s c)
    (failed : ∀ e c', s.Aside c'.base → fails e c')
    (done : ∀ (c' : Context Store Event (Option RoleBinding)) (b : RoleBinding),
      s.Aside c'.base → b.live = true → b.gatewayID = some input.gatewayID →
      b.roleID = input.roleID → b.userID = input.userID → b.scope = input.scope →
      GrantMove s input.gatewayID (s.directory.gatewayGrants ++ [b]) b.id "Create"
        "rolebinding.created" c'.store → ok () c') :
    Tx.wp ω (storeGrant input) ok fails c := by
  simp only [storeGrant, Tx.wp_bind]
  refine Action.wp_random (fun _ => failed _ _ waiting.base) fun id _ => ?_
  refine Action.wp_update (fun _ => failed _ _ waiting.base) (fun _ _ => failed _ _ waiting.base) ?_
  intro t created
  obtain ⟨bindings, b, rfl, made, rows⟩ := Store.createBinding_ok created
  have live : b.live = true := by
    rw [made]
    rfl
  have gateway : b.gatewayID = some input.gatewayID := by
    rw [made]
    rfl
  have key : b.id = id.val := by
    rw [made]
    rfl
  refine Action.wp_query (fun _ => failed _ _ waiting.base) (fun _ _ => failed _ _ waiting.base) ?_
  intro grant read
  obtain rfl : grant = b := by
    have stored : b ∈ bindings.rows := by
      rw [rows]
      exact List.mem_append_right _ (List.mem_singleton_self b)
    have found := Table.find?_of_mem stored
    rw [key_roleBinding, key] at found
    exact Option.some.inj ((Store.getBinding_ok read).1.symm.trans found)
  rw [Tx.wp_capture]
  refine wp_meanwhile fun n d d' projects projects' => ?_
  have roles : d.roles.rows = s.directory.roles.rows :=
    projects.1.trans waiting.store.projects.1
  have moved : d.gatewayGrants = s.directory.gatewayGrants ++ [grant] := by
    rw [projects.2.1, ← waiting.store.projects.2.1]
    exact Directory.gatewayGrants_append rows (by rw [gateway]; rfl)
  have drawn : Platform.validID grant.id = true := key ▸ id.property
  have grows : s.directory.Grows d :=
    (waiting.store.projects.2.2.trans (Directory.grows_append rows drawn)).trans projects.2.2
  refine wp_notifyGrant_moved gateway (t := c.store) rfl waiting.store
    (waiting.base.trans (Store.aside_of_projects projects')) roles moved grows failed ?_
  intro c' base _ move
  exact done c' grant base live gateway (by rw [made]; rfl) (by rw [made]; rfl) (by rw [made]; rfl)
    move

/-- **`CreateGrant`.** -/
theorem settles_createGrant (input : GrantRequest) :
    Settles (fun s _ t => Granted svc p input s t) (lockedGrant svc p input) := by
  unfold lockedGrant
  split_ifs
  · exact .refused
  · exact .refused
  refine .transaction fun ω s n => ?_
  have start := waiting_start (L := Option RoleBinding) s none
  have idle : ∀ (e : Err) (c : Context Store Event (Option RoleBinding)), Waiting s c →
      s.Aside c.base := fun _ _ waiting => waiting.base
  rw [Tx.wp_bind]
  refine Action.wp_query (fun _ => .refl s) (fun _ _ => .refl s) fun _ _ => ?_
  simp only [createGrantBody, Tx.wp_bind]
  refine wp_meanwhile_waiting ((start n).at _) fun c₁ waiting₁ _ => ?_
  refine wp_mutationTarget_waiting waiting₁ idle fun g c₂ waiting₂ _ _ _ allowed => ?_
  have caller : Changeable svc p s input.gatewayID false :=
    ⟨_, waiting₂.store.projects, allowed⟩
  refine wp_meanwhile_waiting waiting₂ fun c₃ waiting₃ _ => ?_
  rw [Tx.wp_attempt]
  refine Action.wp_query (fun _ => waiting₃.base) (fun _ _ => waiting₃.base) fun role _ => ?_
  simp only [Tx.wp_bind, Tx.wp_require]
  split
  swap
  · exact waiting₃.base
  refine wp_meanwhile_waiting (waiting₃.at _) fun c₄ waiting₄ _ => ?_
  rw [Tx.wp_attempt]
  refine Action.wp_query (fun _ => waiting₄.base) (fun _ _ => waiting₄.base) fun user _ => ?_
  simp only [Tx.wp_bind, Tx.wp_require]
  split
  swap
  · exact waiting₄.base
  refine wp_meanwhile_waiting (waiting₄.at _) fun c₅ waiting₅ _ => ?_
  refine wp_storeGrant waiting₅ (fun _ _ base => base) ?_
  intro c₆ b base live gateway role user scope move
  exact ⟨base, caller, b, live, gateway, role, user, scope, move⟩

/-- **`DeleteGrant`**, once a grant selected the lock. -/
theorem settles_deleteGrant (id gatewayID : String) :
    Settles (fun s _ t => Revoked svc p id gatewayID s t)
      (withLockedGateway () gatewayID fun _ => deleteGrantBody svc p id gatewayID) := by
  refine .transaction fun ω s n => ?_
  have start := waiting_start (L := Unit) s ()
  have idle : ∀ (e : Err) (c : Context Store Event Unit), Waiting s c →
      s.Aside c.base := fun _ _ waiting => waiting.base
  rw [Tx.wp_bind]
  refine Action.wp_query (fun _ => .refl s) (fun _ _ => .refl s) fun _ _ => ?_
  simp only [deleteGrantBody, Tx.wp_bind]
  refine wp_meanwhile_waiting ((start n).at _) fun c₁ waiting₁ _ => ?_
  refine wp_mutationTarget_waiting waiting₁ idle fun g c₂ waiting₂ _ _ _ allowed => ?_
  have caller : Changeable svc p s gatewayID false := ⟨_, waiting₂.store.projects, allowed⟩
  refine wp_meanwhile_waiting waiting₂ fun c₃ waiting₃ _ => ?_
  refine Action.wp_query (fun _ => waiting₃.base) (fun _ _ => waiting₃.base) fun b read => ?_
  obtain ⟨found, live⟩ := Store.getBinding_ok read
  rw [Tx.wp_require]
  split
  swap
  · exact waiting₃.base
  rename_i gateway
  have key : b.id = id := Table.key_of_find? found
  have granted : b ∈ s.directory.gatewayGrants := by
    rw [← waiting₃.store.projects.2.1]
    exact Directory.mem_gatewayGrants found (by rw [gateway]; rfl)
  refine wp_meanwhile_waiting (waiting₃.at _) fun c₄ waiting₄ _ => ?_
  refine wp_findRole (fun _ _ => waiting₄.base) fun owner m named => ?_
  have only : s.directory.rolesNamed "gateway:owner" = [owner] := by
    rw [Directory.rolesNamed, ← waiting₄.store.projects.1]
    exact named
  refine wp_meanwhile_waiting (waiting₄.at _) fun c₅ waiting₅ _ => ?_
  refine wp_keepOwner (fun _ _ => waiting₅.base) fun m several => ?_
  have kept : b.roleID = owner.id → 1 < s.countGrants gatewayID owner.id := by
    intro same
    rw [Store.countGrants_eq, ← waiting₅.store.projects.2.1, ← Store.countGrants_eq]
    exact several same
  refine wp_meanwhile_waiting (waiting₅.at _) fun c₆ waiting₆ _ => ?_
  refine Action.wp_update (fun _ => waiting₆.base) (fun _ _ => waiting₆.base) fun t deleted => ?_
  obtain ⟨bindings, b', rfl, read', rows⟩ := Store.deleteBinding_ok deleted
  have granted' : b ∈ c₆.store.directory.gatewayGrants := by
    rw [waiting₆.store.projects.2.1]
    exact granted
  obtain rfl : b' = b := by
    have still := Directory.find?_of_gatewayGrants granted'
    rw [key] at still
    exact Option.some.inj ((Store.getBinding_ok read').1.symm.trans still)
  have time : c₆.store.time = s.time := by
    obtain ⟨d, same, -⟩ := waiting₆.store
    rw [same]
  refine wp_meanwhile fun m d d' projects projects' => ?_
  have roles : d.roles.rows = s.directory.roles.rows :=
    projects.1.trans waiting₆.store.projects.1
  have moved : d.gatewayGrants =
      Table.overwrite s.directory.gatewayGrants { b' with deletedAt := some s.time } := by
    rw [projects.2.1, ← waiting₆.store.projects.2.1, ← time]
    exact Directory.gatewayGrants_overwrite granted' rows rfl rfl
  have removal : s.directory.Grows d :=
    (waiting₆.store.projects.2.2.trans (Directory.grows_overwrite
      (List.mem_of_mem_filter granted') rows rfl live)).trans projects.2.2
  refine wp_notifyGrant_moved gateway (t := c₆.store) rfl waiting₆.store
    (waiting₆.base.trans (Store.aside_of_projects projects')) roles moved removal
    (fun _ _ base => base) ?_
  intro c₇ base _ move
  subst key
  exact ⟨base, caller, b', owner, granted, live, gateway, rfl, only, kept, move⟩

/-- **`GetGrant`** changes nothing but users. -/
theorem settles_getGrant (id : String) :
    Settles (fun s _ t => s.Aside t) (readGrant svc p id) := by
  unfold readGrant
  split
  · exact .refused
  split
  · exact .refused
  refine .transaction fun ω s n => ?_
  simp only [getGrantBody, Tx.wp_bind]
  refine Action.wp_query (fun _ => .refl s) (fun _ _ => .refl s) fun b _ => ?_
  rw [Tx.wp_capture]
  refine wp_syncUser_known (fun _ _ _ _ => .refl s) fun user m d same _ => ?_
  have idle : s.Aside { s with directory := d } := Store.aside_of_projects same.projects
  rw [Tx.wp_ite]
  split
  · simp only [Tx.wp_bind, Tx.wp_require]
    split
    swap
    · exact .refl s
    split
    · exact ⟨.refl s, idle⟩
    · exact .refl s
  split
  · exact .refl s
  simp only [Tx.wp_bind, Tx.wp_require]
  split
  swap
  · exact .refl s
  refine Action.wp_query (fun _ => .refl s) (fun _ _ => .refl s) fun g _ => ?_
  rw [Tx.wp_ite]
  split
  · exact ⟨.refl s, idle⟩
  simp only [Tx.wp_bind]
  refine wp_mutationTarget_known (fun _ _ _ _ => .refl s) fun g k d' same' _ _ _ => ?_
  exact ⟨.refl s, idle.trans (Store.aside_of_projects same'.projects)⟩

theorem wp_checkReference {c : Context Store Event L} {R : Type} {read : Store → Except Err R}
    {ok : Unit → Context Store Event L → Prop} {fails : Err → Context Store Event L → Prop}
    (failed : ∀ e n, fails e (c.at n))
    (found : ∀ row n, read c.store = .ok row → ok () (c.at n)) :
    Tx.wp ω (checkReference read) ok fails c := by
  simp only [checkReference, Tx.wp_bind, Tx.wp_attempt]
  refine Action.wp_query (fun _ => failed _ _) (fun e absent => ?_) fun row stored => ?_
  · cases e <;> exact failed _ _
  · exact found row _ stored

/-- **`Create`.** -/
theorem settles_createGateway (r : GatewayCreateRequest) :
    Settles (fun s _ t => Placed p (svc.placed r) s t) (placeGateway svc p r) := by
  unfold placeGateway
  split
  · exact .refused
  split_ifs
  · exact .refused
  · exact .refused
  split
  · exact .refused
  generalize svc.placed r = r
  refine .transaction fun ω s n => ?_
  simp only [createGatewayBody, Tx.wp_bind]
  refine wp_syncUser_known (fun _ _ _ _ => .refl s) fun user m d same identified => ?_
  change s.directory.SameGrants d at same
  refine wp_checkReference (fun _ _ => .refl s) fun cluster m placed => ?_
  refine wp_checkReference (fun _ _ => .refl s) fun release m released => ?_
  refine Action.wp_random (fun _ => .refl s) fun id _ => ?_
  refine Action.wp_update (fun _ => .refl s) (fun _ _ => .refl s) fun t created => ?_
  obtain ⟨gateways, g, rfl, inserted, rows, absent⟩ := Store.createGateway_ok created
  have key : g.id = id.val := Gateway.id_of_insert inserted
  refine wp_findRole (fun _ _ => .refl s) fun owner m named => ?_
  have only : s.directory.rolesNamed "gateway:owner" = [owner] := by
    rw [Directory.rolesNamed, ← same.1]
    exact named
  refine Action.wp_random (fun _ => .refl s) fun bindingID _ => ?_
  refine Action.wp_update (fun _ => .refl s) (fun _ _ => .refl s) fun t granted => ?_
  obtain ⟨bindings, b, rfl, made, rows'⟩ := Store.createBinding_ok granted
  have gateway : b.gatewayID = some g.id := by
    rw [made, key]
    rfl
  have drawn : Platform.validID b.id = true := by
    rw [made]
    exact bindingID.property
  have grants : { d with bindings := bindings }.gatewayGrants =
      s.directory.gatewayGrants ++ [b] :=
    (Directory.gatewayGrants_append (d := d) rows' (by rw [gateway]; rfl)).trans
      (congrArg (· ++ [b]) same.projects.2.1)
  refine Action.wp_update (fun _ => .refl s) (fun _ _ => .refl s) fun t published => ?_
  cases published
  refine Action.wp_query (fun _ => .refl s) (fun _ _ => .refl s) fun stored read => ?_
  rw [Tx.wp_capture]
  have stored' : stored.id = g.id :=
    (Store.id_of_gateway? (Store.getGateway_ok read).1).trans key.symm
  refine Action.wp_update (fun _ => .refl s) (fun _ _ => .refl s) fun t published => ?_
  cases published
  refine ⟨.refl s, ⟨_, _, _, rfl⟩, ?_, ⟨cluster, placed⟩, ⟨release, released⟩, ⟨b, owner, g, ?_,
    gateway, ?_, ?_, only, ?_, grants, absent, rows, ?_, ?_⟩, ?_,
    same.projects.2.2.trans (Directory.grows_append (d := d) rows' drawn)⟩
  · show d.roles.rows = _
    rw [same.1]
  · rw [made]
    rfl
  · rw [made]
    rfl
  · rw [made]
    rfl
  · rw [made]
    exact identified
  · rw [key]
    exact inserted
  · rw [stored', made]
    exact (List.append_assoc ..)
  · intro g' member
    rcases List.mem_append.mp (rows ▸ member) with old | new
    · exact .inl old
    · rw [List.mem_singleton.mp new, key]
      exact .inr id.property

/-- What a projection of roles commits. -/
def Projected (s t : Store) : Prop :=
  ∃ d news, t = { s with directory := d, outbox := s.outbox ++ news } ∧ s.directory.Projects d ∧
    ∀ n ∈ news, n.kind = "rolebinding.created" ∨ n.kind = "rolebinding.deleted"

theorem Projected.next {s t : Store} (projected : Projected s t) {d : Directory}
    {n : Notification} (projects : t.directory.Projects d)
    (kind : n.kind = "rolebinding.created" ∨ n.kind = "rolebinding.deleted") :
    Projected s { t with directory := d, outbox := t.outbox ++ [n] } := by
  obtain ⟨d', news, rfl, before, kinds⟩ := projected
  refine ⟨d, news ++ [n], by rw [List.append_assoc], before.trans projects, fun m member => ?_⟩
  rcases List.mem_append.mp member with old | new
  · exact kinds m old
  · rw [List.mem_singleton.mp new]
    exact kind

/-- **One projected role.** -/
theorem wp_projectRole {c : Context Store Event L} {user : User} {rows : List RoleBinding}
    {role : Role} {ok : Unit → Context Store Event L → Prop}
    {fails : Err → Context Store Event L → Prop} (projected : Projected s c.store)
    (global : ∀ row ∈ rows, row ∈ s.directory.bindings.rows ∧ row.gatewayID = none)
    (failed : ∀ e n t, fails e (c.put n t))
    (done : ∀ n t, Projected s t → ok () (c.put n t)) :
    Tx.wp ω (projectRole p user rows role) ok fails c := by
  unfold projectRole
  split
  · rw [Tx.wp_ite]
    split
    · rw [Tx.wp_bind]
      refine Action.wp_random (fun _ => failed _ _ c.store) fun id _ => ?_
      rw [Tx.wp_bind]
      refine Action.wp_update (fun _ => failed _ _ c.store) (fun _ _ => failed _ _ c.store) ?_
      intro t created
      obtain ⟨bindings, b, rfl, made, appended⟩ := Store.createBinding_ok created
      refine Action.wp_update (fun _ => failed _ _ _) (fun _ _ => failed _ _ _) ?_
      intro t published
      cases published
      have drawn : Platform.validID b.id = true := by
        rw [made]
        exact id.property
      exact done _ _ (projected.next (d := { c.store.directory with bindings := bindings })
        (Directory.projects_append appended (by rw [made]; rfl) drawn) (.inl rfl))
    · exact done c.tick c.store projected
  · rename_i row found
    have member : row ∈ rows := List.mem_of_find?_eq_some found
    rw [Tx.wp_ite]
    split
    · exact done c.tick c.store projected
    rw [Tx.wp_bind]
    refine Action.wp_update (fun _ => failed _ _ c.store) (fun _ _ => failed _ _ c.store) ?_
    intro t deleted
    obtain ⟨bindings, b, rfl, read, overwritten⟩ := Store.deleteBinding_ok deleted
    obtain ⟨stored, alive⟩ := Store.getBinding_ok read
    have key : b.id = row.id := Table.key_of_find? stored
    obtain ⟨inTable, notGateway⟩ := global row member
    -- A grant of a Gateway with this ID would have been read as the global one.
    have notGateway' : b.gatewayID = none := by
      by_contra gateway
      have granted := Directory.mem_gatewayGrants stored (Option.isSome_iff_ne_none.mpr gateway)
      obtain ⟨d, news, same, projects, -⟩ := projected
      rw [same] at granted
      rw [show ({ s with directory := d, outbox := s.outbox ++ news } : Store).directory.gatewayGrants =
        s.directory.gatewayGrants from projects.2.1] at granted
      have one : some b = some row := by
        rw [← Directory.find?_of_gatewayGrants granted, key]
        exact Table.find?_of_mem inTable
      cases one
      exact gateway notGateway
    refine Action.wp_update (fun _ => failed _ _ _) (fun _ _ => failed _ _ _) ?_
    intro t published
    cases published
    exact done _ _ (projected.next
      (Directory.projects_overwrite (Table.mem_of_find? stored) overwritten rfl alive notGateway' rfl)
      (.inr rfl))

/-- **`PrepareRequest`.** -/
theorem settles_prepareRequest : Settles (fun s _ t => Projected s t) (prepareRequest p) := by
  unfold prepareRequest
  split
  · exact .refused
  refine .transaction fun ω s n => ?_
  simp only [prepareBody, Tx.wp_bind]
  refine wp_syncUser_known (fun _ _ _ _ => .refl s) fun user m d same _ => ?_
  change s.directory.SameGrants d at same
  refine wp_findRole (fun _ _ => .refl s) fun creator m _ => ?_
  refine wp_findRole (fun _ _ => .refl s) fun admin m _ => ?_
  refine Action.wp_query (fun _ => .refl s) (fun _ _ => .refl s) fun rows read => ?_
  refine Tx.wp_lift (fun _ _ => .refl s) fun _ checked => ?_
  have global : ∀ row ∈ rows, row ∈ s.directory.bindings.rows ∧ row.gatewayID = none := by
    intro row member
    cases read
    obtain ⟨stored, -⟩ := List.mem_filter.mp member
    constructor
    · rw [← same.2]
      exact stored
    · unfold checkGlobal at checked
      split_ifs at checked with many gateway
      rw [List.any_eq_true, not_exists] at gateway
      by_contra some
      exact gateway row ⟨member, Option.isSome_iff_ne_none.mpr some⟩
  refine wp_projectRole ⟨d, [], by rw [List.append_nil]; rfl, same.projects, fun _ never => nomatch never⟩
    global (fun _ _ _ => .refl s) ?_
  intro m t projected
  refine wp_projectRole projected global (fun _ _ _ => .refl s) fun m t projected' => ?_
  exact ⟨.refl s, projected'⟩

end Transactions

end Hypershell
