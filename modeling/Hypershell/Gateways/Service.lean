import Hypershell.Gateways.Principal
import Hypershell.Storage.Gateways

/-!
# The Gateway service

What the Gateway operations share: who is a controller and which writes it was
granted, the serializable transaction, and the Gateway that a caller may change.

## Main definitions

* `GatewayService`, `AuthorizeCleanup`, `AuthorizeControllerWrite`
* `withTransaction`, `withLockedGateway`, `notifyGateway`
* `mutationTarget` — the visible Gateway row of an owner, administrator or controller
* `Commits` — a call of at most one transaction, and the stores it may commit

## Design notes

A grant policy is built from valid grants only, so an exact grant that it holds is
valid.
-/

namespace Hypershell

open Foundation

/-- One exact permission of a machine identity. -/
structure ControllerGrant where
  issuer : String
  subject : String
  resource : String
  operation : String
  target : String
  deriving DecidableEq, Repr

/-- The configuration of the Gateway service that the model reads. -/
structure GatewayService where
  controlPlaneSubjects : String → Bool
  cleanupPolicy : List ControllerGrant
  providerStatePolicy : List ControllerGrant
  controllerWritePolicy : List ControllerGrant
  defaultReleaseID : String
  defaultClusterID : String

namespace GatewayService

/-- `isControlPlane`. -/
def isControlPlane (svc : GatewayService) (p : Principal) : Bool :=
  svc.controlPlaneSubjects p.subject

/-- `GrantPolicy.Allows`, for the identity of a principal. -/
def allows (policy : List ControllerGrant) (p : Principal) (resource operation target : String) :
    Bool :=
  decide (ControllerGrant.mk p.issuer p.subject resource operation target ∈ policy)

/-- `AuthorizeCleanup`: an exact grant for the caller and the target. -/
def authorizeCleanup (svc : GatewayService) (p : Principal) (resource owner target : String) :
    Except Err Unit :=
  match validatePrincipal p with
  | .error e => .error e
  | .ok () =>
    if svc.isControlPlane p = false ∨
        allows svc.cleanupPolicy p resource ("cleanup." ++ owner) target = false then
      .error .forbidden
    else
      .ok ()

/-- `AuthorizeControllerWrite`. -/
def authorizeControllerWrite (svc : GatewayService) (p : Principal)
    (resource operation target : String) : Except Err Unit :=
  match validatePrincipal p with
  | .error e => .error e
  | .ok () =>
    if svc.isControlPlane p = false ∨
        allows svc.controllerWritePolicy p resource operation target = false then
      .error .forbidden
    else
      .ok ()

end GatewayService

variable [Platform] {L : Type}

/-- The result of a pure check, as a step of a transaction. -/
def Tx.lift {α : Type} : Except Err α → Action L α
  | .ok a => pure a
  | .error e => Tx.raise e

theorem Tx.wp_lift {α : Type} {result : Except Err α} {ω : Env}
    {ok : α → Context Store Event L → Prop} {fails : Err → Context Store Event L → Prop}
    {c : Context Store Event L} (failed : ∀ e, result = .error e → fails e c)
    (returned : ∀ a, result = .ok a → ok a c) : Tx.wp ω (Tx.lift result) ok fails c := by
  cases result with
  | error e => exact failed e rfl
  | ok a => exact returned a rfl

/-- A read outside a transaction. -/
def readOnce {α : Type} (f : Store → Except Err α) : Process (Except Err α) :=
  .once fun ω s => ⟨s, [], if ω.fault 0 then .error .storage else f s⟩

/-- `WithTransaction`: a serializable transaction. -/
def withTransaction (init : L) (body : Action L Unit) : Process (L × Option Err) :=
  transact Env.commit .storage init do
    -- The transaction begins and advances the database epoch.
    Action.query fun _ => .ok ()
    body

/-- `WithLockedResource`: a transaction that holds the lock of a live Gateway row. -/
def withLockedGateway (init : L) (id : String) (body : Gateway → Action L Unit) :
    Process (L × Option Err) :=
  withTransaction init do
    let row ← Action.query (Store.getGateway id)
    body row

/-- `notifyGateway`: publish one message about a Gateway. -/
def notifyGateway (id eventType kind : String) : Action L Unit :=
  Action.update (Store.notify id eventType kind)

/-- The single live role of a name. -/
def findRole (name : String) : Action L Role := do
  match ← Action.query fun s => .ok (s.directory.roles.rows.filter fun r =>
      r.live && decide (r.name = name)) with
  | [role] => pure role
  | _ => Tx.raise (.text "required role is absent")

/-- A live grant of a role to a user on a Gateway. -/
def Directory.grants (d : Directory) (gatewayID userID roleID : String) : Bool :=
  d.bindings.rows.any fun b => b.live && decide (b.gatewayID = some gatewayID) &&
    decide (b.userID = userID) && decide (b.roleID = roleID) && decide (b.scope = "gateway")

/-- The row that `List` finds by ID.  Rows being deleted are found until their
deletion is finalized. -/
def Store.listGateway (id : String) (includeDeleting : Bool) (permitted : Directory → Bool)
    (s : Store) : Except Err Gateway :=
  match s.gateway? id with
  | none => .error .notFound
  | some row =>
    let visible := if includeDeleting then row.deletionFinalizedAt.isNone else row.live
    if visible && permitted s.directory then .ok row else .error .notFound

/-- `mutationTargetWithVisibility`: the Gateway that the caller may change. -/
def mutationTarget (svc : GatewayService) (p : Principal) (id : String)
    (allowAdmin includeDeleting : Bool) : Action L Gateway := do
  let user ← syncUser p
  if svc.isControlPlane p = false ∧ ¬ (allowAdmin = true ∧ "platform:admin" ∈ p.roles) then do
    let role ← findRole "gateway:owner"
    Action.query (Store.listGateway id includeDeleting fun d => d.grants id user.id role.id)
  else
    Action.query (Store.listGateway id includeDeleting fun _ => true)

/-! ### Who may change a Gateway -/

/-- A principal's user has a live owner grant on a Gateway. -/
def Directory.OwnsGateway (d : Directory) (p : Principal) (id : String) : Prop :=
  ∃ userID role, d.Identified p userID ∧
    (d.roles.rows.filter fun r => r.live && decide (r.name = "gateway:owner")) = [role] ∧
    d.grants id userID role.id = true

/-- A caller is a controller, an administrator where these are allowed, or an owner. -/
def GatewayService.MayChange (svc : GatewayService) (p : Principal) (d : Directory) (id : String)
    (allowAdmin : Bool) : Prop :=
  svc.isControlPlane p = true ∨ (allowAdmin = true ∧ "platform:admin" ∈ p.roles) ∨
    d.OwnsGateway p id

section Target

variable {ω : Env} {c : Context Store Event L} {id : String}

omit [Platform] in
theorem Store.listGateway_ok {s : Store} {deleting : Bool} {permitted : Directory → Bool}
    {g : Gateway} (listed : s.listGateway id deleting permitted = .ok g) :
    s.gateway? id = some g ∧ permitted s.directory = true ∧
      (if deleting then g.deletionFinalizedAt.isNone else g.live) = true := by
  unfold Store.listGateway at listed
  split at listed
  · cases listed
  · rename_i row stored
    by_cases visible :
        ((if deleting then row.deletionFinalizedAt.isNone else row.live) &&
          permitted s.directory) = true
    · simp only [visible, if_true, Except.ok.injEq] at listed
      subst listed
      rw [Bool.and_eq_true] at visible
      exact ⟨stored, visible.2, visible.1⟩
    · simp only [visible, Bool.false_eq_true, if_false, reduceCtorEq] at listed

theorem wp_findRole {name : String} {ok : Role → Context Store Event L → Prop}
    {fails : Err → Context Store Event L → Prop} (failed : ∀ e n, fails e (c.at n))
    (found : ∀ role n, (c.store.directory.roles.rows.filter fun r =>
      r.live && decide (r.name = name)) = [role] → ok role (c.at n)) :
    Tx.wp ω (findRole name) ok fails c := by
  simp only [findRole, Tx.wp_bind]
  refine Action.wp_query (fun _ => failed _ _) (fun _ _ => failed _ _) fun roles read => ?_
  rw [Except.ok.injEq] at read
  split
  · rename_i role
    exact found role _ read
  · exact failed _ _

/-- **The target of a change** is a visible Gateway that its caller may change.  Only users
differ. -/
theorem wp_mutationTarget_known {svc : GatewayService} {p : Principal} {admin deleting : Bool}
    {ok : Gateway → Context Store Event L → Prop} {fails : Err → Context Store Event L → Prop}
    (failed : ∀ e n d, c.store.directory.SameGrants d →
      fails e (c.put n { c.store with directory := d }))
    (found : ∀ g n d, c.store.directory.SameGrants d → c.store.gateway? id = some g →
      (if deleting then g.deletionFinalizedAt.isNone else g.live) = true →
      svc.MayChange p d id admin → ok g (c.put n { c.store with directory := d })) :
    Tx.wp ω (mutationTarget svc p id admin deleting) ok fails c := by
  simp only [mutationTarget, Tx.wp_bind]
  refine wp_syncUser_known failed fun user n d same identified => ?_
  rw [Tx.wp_ite]
  split
  · rw [Tx.wp_bind]
    refine wp_findRole (fun e n => failed e n d same) fun role n named => ?_
    refine Action.wp_query (fun _ => failed _ _ d same) (fun _ _ => failed _ _ d same) ?_
    intro g listed
    obtain ⟨stored, permitted, visible⟩ := Store.listGateway_ok listed
    exact found g _ d same stored visible (Or.inr (Or.inr ⟨user.id, role, identified, named, permitted⟩))
  · rename_i privileged
    refine Action.wp_query (fun _ => failed _ _ d same) (fun _ _ => failed _ _ d same) ?_
    intro g listed
    obtain ⟨stored, -, visible⟩ := Store.listGateway_ok listed
    refine found g _ d same stored visible ?_
    rw [not_and_or, Bool.not_eq_false, not_not] at privileged
    rcases privileged with controller | administrator
    · exact Or.inl controller
    · exact Or.inr (Or.inl administrator)

end Target

/-! ### Calls of one transaction -/

/-- A call that fails at once, or runs one transaction whose commits relate the store it
starts from to the one it leaves by `ends`. -/
inductive Commits (ends : Store → Store → Prop) : Process (L × Option Err) → Prop
  | refused {vars : L} {e : Err} : Commits ends (.ret (vars, some e))
  | transaction {init : L} {body : Action L Unit}
      (run : ∀ ω s n, Tx.wp ω body (fun _ c => c.base = s ∧ ends s c.store)
        (fun _ c => c.base = s) ((Context.start s init).at n)) :
      Commits ends (withTransaction init body)

section Commits

variable {ends : Store → Store → Prop} {p : Process (L × Option Err)}

theorem Commits.mono {ends' : Store → Store → Prop} (commits : Commits ends p)
    (weaker : ∀ s t, ends s t → ends' s t) : Commits ends' p := by
  cases commits with
  | refused => exact .refused
  | transaction run =>
    refine .transaction fun ω s n => Tx.wp_mono (run ω s n) ?_ fun _ _ same => same
    rintro _ c ⟨same, ended⟩
    exact ⟨same, weaker _ _ ended⟩

/-- The transaction with its first operation. -/
theorem wp_begin {init : L} {body : Action L Unit} {ω : Env} {s : Store}
    (run : ∀ ω s n, Tx.wp ω body (fun _ c => c.base = s ∧ ends s c.store)
      (fun _ c => c.base = s) ((Context.start s init).at n)) :
    Tx.wp ω (do Action.query fun _ => .ok (); body)
      (fun _ c => c.base = s ∧ ends s c.store) (fun _ c => c.base = s)
      (Context.start s init) := by
  rw [Tx.wp_bind]
  exact Action.wp_query (fun _ => rfl) (fun _ _ => rfl) fun _ _ => run ω s _

omit [Platform] in
/-- How a transaction leaves the store, whatever its reply. -/
theorem ends_of_concluded {reply : CommitReply} {s t : Store} {r : L × Option Err}
    {l : List Event}
    (concluded : Concluded reply .storage (fun c => c.base = s ∧ ends s c.store)
      (fun (_ : Err) c => c.base = s) r l t) : t = s ∨ ends s t := by
  cases concluded with
  | committed ended => exact Or.inr ended.2
  | replyLost ended => exact Or.inr ended.2
  | rolledBack ended => exact Or.inl ended.1
  | failed ended => exact Or.inl ended

variable {s t : Store} {steps : List (Env × Store)} {l : List Event}

/-- **Executions.** A call alone leaves the store, or commits. -/
theorem Commits.exec (commits : Commits ends p) {r : L × Option Err}
    (exec : p.Exec Eq s steps r l t) : t = s ∨ ends s t := by
  cases commits with
  | refused => exact Or.inl (Proc.exec_ret exec).2.2.2
  | transaction run =>
    obtain ⟨_, _, -, rfl, -, concluded⟩ :=
      exec_transact exec fun ω s' _ _ => wp_begin (ω := ω) (s := s') run
    exact ends_of_concluded concluded

/-- A call without an error has committed. -/
theorem Commits.exec_ok (commits : Commits ends p) {vars : L}
    (exec : p.Exec Eq s steps (vars, none) l t) : ends s t := by
  cases commits with
  | refused => cases (Proc.exec_ret exec).1
  | transaction run =>
    obtain ⟨_, _, -, rfl, -, concluded⟩ :=
      exec_transact exec fun ω s' _ _ => wp_begin (ω := ω) (s := s') run
    obtain ⟨c, ended, -, -, rfl⟩ := concluded.committed_of_ok
    exact ended.2

/-- **Contracts.** A call meets a contract that its commits keep. -/
theorem Commits.safe {C : Contract Env Store Event} (commits : Commits ends p)
    {h : List Event} {s : Store} (events : ∀ s v, C.event s v)
    (still : ∀ h s, C.change h s s) (change : ∀ h s t, ends s t → C.change h s t) :
    p.Safe C (fun _ _ _ => True) h s := by
  cases commits with
  | refused => exact Proc.safe_ret.mpr trivial
  | transaction run =>
    refine safe_transact (fun ω s' _ _ _ => wp_begin (ω := ω) (s := s') run) ?_
    intro ω s' r l t _ _ _ concluded
    refine ⟨fun v _ => events s' v, ?_, trivial⟩
    rcases ends_of_concluded concluded with rfl | ended
    · exact still _ t
    · exact change _ _ _ ended

end Commits

end Hypershell
