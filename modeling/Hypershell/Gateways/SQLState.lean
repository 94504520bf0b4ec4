import Hypershell.Gateways.DeletionSteps

/-!
# SQL state bindings

A controller binds the digest of a component's SQL state while the Gateway is live.
Once it is deleted the cleanup closes the binding, and for the console registers that
the database is gone.

## Main definitions

* `bindSQLState`, `closeSQLState`, `completeConsoleSQLCleanup`
* `Bound`, `Closed`, `Completed` — what their commits do

## Design notes

* The components are the two values that the code accepts.
-/

namespace Hypershell

open Foundation

variable [Platform]

/-- The Gateway row of an SQL state: it is placed on the cluster, also in its history. -/
def sqlStatePlacement (row : Gateway) (id cluster : String) : Except Err Gateway :=
  if row.id ≠ id then
    .error (.text "SQL state resource does not match")
  else
    match row.cleanupTargets with
    | .error e => .error e
    | .ok history =>
      if cluster ∉ (history .sql).map Prod.fst ∨ row.clusterID ≠ cluster then .error .forbidden
      else .ok row

/-- `authorizeSQLState`. -/
def authorizeSQLState (svc : GatewayService) (p : Principal) (id cluster : String) (close : Bool) :
    Except Err Unit :=
  if ¬ Platform.validID id ∨ ¬ Platform.validID cluster then
    .error .invalid
  else if close = true then
    svc.authorizeCleanup p "Gateway" "sql" cluster
  else
    svc.authorizeControllerWrite p "Gateway" "configure.sql" cluster

/-- The callback of `BindSQLState`. -/
def bindBody (id cluster digest : String) (version : Int) (component : SQLComponent)
    (value : Gateway) : Action EffectBinding Unit := do
  let row ← Tx.lift (sqlStatePlacement value id cluster)
  Tx.require (row.live = true ∧ (row.resourceVersion : Int) = version) .versionConflict
  let result ← bindEffect id (sqlStateScope cluster component) digest
  Tx.capture fun _ => result

/-- `Service.BindSQLState`: it holds the lock of the live Gateway. -/
def bindSQLState (svc : GatewayService) (p : Principal) (id cluster digest : String)
    (version : Int) (component : SQLComponent) : Process (EffectBinding × Option Err) :=
  match authorizeSQLState svc p id cluster false with
  | .error e => .ret (.absent, some e)
  | .ok () =>
    if version < 1 then .ret (.absent, some .observationRequired)
    else withLockedGateway .absent id (bindBody id cluster digest version component)

/-- The deleted Gateway whose SQL state is closed. -/
def closedPlacement (id cluster : String) : Action EffectBinding Unit := do
  let value ← Action.query (Store.getRetained id)
  let row ← Tx.lift (sqlStatePlacement value id cluster)
  Tx.require (row.live = false) .versionConflict

/-- `closeSQLState` without completion. -/
def closeBody (id cluster : String) (component : SQLComponent) : Action EffectBinding Unit := do
  closedPlacement id cluster
  let result ← closeEffectBinding id (sqlStateScope cluster component)
  Tx.capture fun _ => result

/-- The registration of a completion that was not registered before. -/
def registerCompletion (id cluster digest : String) : Action EffectBinding Unit := do
  if digest ≠ "" then do
    let _ ← bindEffect id (consoleSQLCompletionScope cluster) digest
    let _ ← closeEffectBinding id (consoleSQLCompletionScope cluster)
  else do
    let _ ← closeEffectBinding id (consoleSQLCompletionScope cluster)

/-- `closeSQLState` with completion, for the console. -/
def completeBody (id cluster : String) : Action EffectBinding Unit := do
  closedPlacement id cluster
  let result ← Action.query (Store.loadEffectBinding id (sqlStateScope cluster .console))
  Tx.capture fun _ => result
  Tx.require (result.present = true ∧ result.closed = true) .effectBindingConflict
  let prior ← Action.query (Store.loadEffectBinding id (consoleSQLCompletionScope cluster))
  if prior.closed = true then
    Tx.require (prior.digest = result.digest) .effectBindingConflict
  else
    registerCompletion id cluster result.digest

/-- A transaction of an authorized cleanup. -/
def cleanupSQLState (svc : GatewayService) (p : Principal) (id cluster : String)
    (body : Action EffectBinding Unit) : Process (EffectBinding × Option Err) :=
  match authorizeSQLState svc p id cluster true with
  | .error e => .ret (.absent, some e)
  | .ok () => withTransaction .absent body

/-- `Service.CloseSQLState`. -/
def closeSQLState (svc : GatewayService) (p : Principal) (id cluster : String)
    (component : SQLComponent) : Process (EffectBinding × Option Err) :=
  cleanupSQLState svc p id cluster (closeBody id cluster component)

/-- `Service.CompleteConsoleSQLCleanup`: the database was removed.  Closing the
registration alone is no proof of that. -/
def completeConsoleSQLCleanup (svc : GatewayService) (p : Principal) (id cluster : String) :
    Process (EffectBinding × Option Err) :=
  cleanupSQLState svc p id cluster (completeBody id cluster)

/-! ### What they commit -/

section Ends

variable (s : Store) (id cluster : String)

/-- A deleted Gateway row. -/
def Store.GatewayDead (s : Store) (id : String) : Prop :=
  ∃ g, s.gateway? id = some g ∧ g.live = false

/-- A digest was registered for a live Gateway. -/
structure Bound (component : SQLComponent) (t : Store) : Prop where
  live : s.GatewayLive id
  touches : s.Touches id (sqlStateScope cluster component) t

/-- The registration of a deleted Gateway was closed, if it was not before. -/
structure Closed (component : SQLComponent) (t : Store) : Prop where
  dead : s.GatewayDead id
  touches : s.Touches id (sqlStateScope cluster component) t
  closed : ∃ row, t.effect? id (sqlStateScope cluster component) = some row ∧
    row.closed = true ∧
    ((s.effect? id (sqlStateScope cluster component)).isNone = true → row.digest = "")
  before : ∀ row, s.effect? id (sqlStateScope cluster component) = some row →
    row.closed = true → t = s

/-- The removal of the database of a deleted Gateway's closed console was registered, if
it was not before. -/
structure Completed (t : Store) : Prop where
  dead : s.GatewayDead id
  console : ∃ row, s.effect? id (sqlStateScope cluster .console) = some row ∧ row.closed = true
  touches : s.Touches id (consoleSQLCompletionScope cluster) t
  closed : ∃ done, t.effect? id (consoleSQLCompletionScope cluster) = some done ∧
    done.closed = true
  before : ∀ done, s.effect? id (consoleSQLCompletionScope cluster) = some done →
    done.closed = true → t = s

end Ends

section Proofs

variable {svc : GatewayService} {p : Principal} {id cluster digest : String} {version : Int}
  {component : SQLComponent} {ω : Env} {c : Context Store Event EffectBinding}
  {ok : Unit → Context Store Event EffectBinding → Prop}
  {fails : Err → Context Store Event EffectBinding → Prop}

theorem bindSQLState_commits : Commits (fun s t => Bound s id cluster component t)
    (bindSQLState svc p id cluster digest version component) := by
  unfold bindSQLState
  cases authorizeSQLState svc p id cluster false with
  | error e => exact .refused
  | ok _ =>
    dsimp only
    split
    · exact .refused
    · refine .transaction fun ω s n => ?_
      rw [Tx.wp_bind]
      refine Action.wp_query (fun _ => rfl) (fun _ _ => rfl) fun g read => ?_
      have live : s.GatewayLive id := ⟨g, Store.getGateway_ok read⟩
      simp only [bindBody, Tx.wp_bind]
      refine Tx.wp_lift (fun _ _ => rfl) fun row _ => ?_
      rw [Tx.wp_require]
      split_ifs
      · refine wp_bindEffect (fun _ _ _ => rfl) fun m t touches _ => ?_
        exact ⟨rfl, live, touches⟩
      · rfl

theorem wp_closedPlacement (failed : ∀ e n, fails e (c.at n))
    (found : ∀ n, c.store.GatewayDead id → ok () (c.at n)) :
    Tx.wp ω (closedPlacement id cluster) ok fails c := by
  simp only [closedPlacement, Tx.wp_bind]
  refine Action.wp_query (fun _ => failed _ _) (fun _ _ => failed _ _) fun g read => ?_
  refine Tx.wp_lift (fun _ _ => failed _ _) fun row placed => ?_
  have same : row = g := by
    unfold sqlStatePlacement at placed
    split_ifs at placed
    split at placed
    · cases placed
    · split_ifs at placed
      cases placed
      rfl
  rw [Tx.wp_require]
  split_ifs with dead
  · rw [same] at dead
    exact found _ ⟨g, Store.getRetained_ok read, dead⟩
  · exact failed _ _

theorem cleanupSQLState_commits {ends : Store → Store → Prop} {body : Action EffectBinding Unit}
    (run : ∀ ω s n, Tx.wp ω body (fun _ c => c.base = s ∧ ends s c.store)
      (fun _ c => c.base = s) ((Context.start s .absent).at n)) :
    Commits ends (cleanupSQLState svc p id cluster body) := by
  unfold cleanupSQLState
  cases authorizeSQLState svc p id cluster true with
  | error e => exact .refused
  | ok _ => exact .transaction run

theorem closeSQLState_commits : Commits (fun s t => Closed s id cluster component t)
    (closeSQLState svc p id cluster component) := by
  refine cleanupSQLState_commits fun ω s n => ?_
  simp only [closeBody, Tx.wp_bind]
  refine wp_closedPlacement (fun _ _ => rfl) fun m dead => ?_
  refine wp_closeEffectBinding (fun _ _ _ => rfl) fun binding k t updated => ?_
  obtain ⟨touches, closed, before⟩ := Store.closeEffect_ok updated
  exact ⟨rfl, dead, touches, closed, before⟩

/-- The completion of a digest ends closed, with the digest unless it is empty. -/
theorem wp_registerCompletion (failed : ∀ e n t, fails e (c.put n t))
    (completed : ∀ n t, c.store.Touches id (consoleSQLCompletionScope cluster) t →
      (∃ done, t.effect? id (consoleSQLCompletionScope cluster) = some done ∧
        done.closed = true) → ok () (c.put n t)) :
    Tx.wp ω (registerCompletion id cluster digest) ok fails c := by
  unfold registerCompletion
  rw [Tx.wp_ite]
  split_ifs
  · rw [Tx.wp_bind]
    refine wp_bindEffect failed fun n t touches _ => ?_
    rw [Tx.wp_bind]
    refine wp_closeEffectBinding (fun e m u => failed e m u) fun _ m u updated => ?_
    obtain ⟨touches', ⟨done, stored, closed, -⟩, -⟩ := Store.closeEffect_ok updated
    exact completed m u (touches.trans touches') ⟨done, stored, closed⟩
  · rw [Tx.wp_bind]
    refine wp_closeEffectBinding failed fun _ n t updated => ?_
    obtain ⟨touches, ⟨done, stored, closed, -⟩, -⟩ := Store.closeEffect_ok updated
    exact completed n t touches ⟨done, stored, closed⟩

theorem completeConsoleSQLCleanup_commits : Commits (fun s t => Completed s id cluster t)
    (completeConsoleSQLCleanup svc p id cluster) := by
  refine cleanupSQLState_commits fun ω s n => ?_
  simp only [completeBody, Tx.wp_bind]
  refine wp_closedPlacement (fun _ _ => rfl) fun m dead => ?_
  refine Action.wp_query (fun _ => rfl) (fun _ _ => rfl) fun result read => ?_
  rw [Tx.wp_capture, Tx.wp_require]
  by_cases confirmed : result.present = true ∧ result.closed = true
  swap
  · rw [if_neg confirmed]
    rfl
  rw [if_pos confirmed]
  have console : ∃ row, s.effect? id (sqlStateScope cluster .console) = some row ∧
      row.closed = true := by
    rcases Store.loadEffectBinding_ok read with ⟨rfl, -⟩ | ⟨-, found⟩
    · cases confirmed.1
    · exact ⟨_, found, confirmed.2⟩
  refine Action.wp_query (fun _ => rfl) (fun _ _ => rfl) fun prior read' => ?_
  have stored := Store.loadEffectBinding_ok read'
  rw [Tx.wp_ite]
  by_cases already : prior.closed = true
  · rw [if_pos already, Tx.wp_require]
    split_ifs
    · refine ⟨rfl, dead, console, .refl s _ _, ?_, fun _ _ _ => rfl⟩
      rcases stored with ⟨rfl, -⟩ | ⟨-, found⟩
      · cases already
      · exact ⟨_, found, already⟩
    · rfl
  · rw [if_neg already]
    refine wp_registerCompletion (fun _ _ _ => rfl) fun k t touches closed => ?_
    refine ⟨rfl, dead, console, touches, closed, fun done found is => ?_⟩
    rcases stored with ⟨-, missing⟩ | ⟨-, found'⟩
    · cases found.symm.trans missing
    · cases found.symm.trans found'
      exact absurd is already

end Proofs

end Hypershell
