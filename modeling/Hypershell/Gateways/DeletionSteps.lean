import Hypershell.Gateways.Deletion

/-!
# What the transactions of a deletion do

The ends of the transaction that records one observation, and of the one that deletes
a Gateway, as the store they leave.

## Main definitions

* `Recorded` — an observation was the stored one, was stored, or finalized
* `ConsoleGone` — what the SQL gate requires

## Main results

* `wp_recordCleanup`, `wp_deleteBody` — the transactions reach no others
-/

namespace Hypershell

open Foundation

namespace Gateway

/-- The stored observation of an owner, or of one of its targets. -/
def observed (g : Gateway) (owner : CleanupOwner) (target : String) : Option Bool :=
  if target = "" then some (g.cleanupState owner) else g.target? owner target

/-- The row with one observation changed. -/
def observe (g : Gateway) (owner : CleanupOwner) (target : String) (complete : Bool) : Gateway :=
  if target = "" then
    { g with cleanupState := Function.update g.cleanupState owner complete }
  else
    { g with
      cleanupTargetState := Function.update g.cleanupTargetState owner
        (Store.setTarget target complete (g.cleanupTargetState owner)) }

theorem cleanupTargets_ok {g : Gateway} {targets : CleanupOwner → List (String × Bool)}
    (read : g.cleanupTargets = .ok targets) : targets = g.cleanupTargetState := by
  unfold cleanupTargets at read
  split_ifs at read
  cases read
  rfl

theorem cleanupObservations_ok {g : Gateway} {states : CleanupOwner → Bool}
    (read : g.cleanupObservations = .ok states) : states = g.cleanupState := by
  unfold cleanupObservations at read
  split at read
  · cases read
  · split_ifs at read
    cases read
    rfl

/-- An observation differs from the stored one, which there is. -/
theorem differs_ok {g : Gateway} {owner : CleanupOwner} {target : String} {complete changed : Bool}
    (differs : g.differs owner target complete = .ok changed) :
    g.observed owner target = some (if changed then !complete else complete) := by
  unfold Gateway.differs at differs
  split at differs
  · cases differs
  rename_i states read
  cases cleanupObservations_ok read
  unfold observed
  split_ifs at differs with untargeted
  · cases differs
    rw [if_pos untargeted]
    cases g.cleanupState owner <;> cases complete <;> rfl
  · rw [if_neg untargeted]
    split at differs
    · cases differs
    rename_i targets found
    cases cleanupTargets_ok found
    split at differs
    · cases differs
    · rename_i prior stored
      cases differs
      rw [target?, stored]
      cases prior <;> cases complete <;> rfl

/-- Nothing is pending exactly when every owner is complete. -/
theorem pendingCleanup_ok {g : Gateway} {pending : List CleanupOwner} (dead : g.live = false)
    (read : g.pendingCleanup = .ok pending) : pending = [] ↔ g.complete = true := by
  unfold pendingCleanup at read
  split at read
  · cases read
  · rename_i states observed
    cases cleanupObservations_ok observed
    simp only [dead] at read
    cases read
    rw [List.filter_eq_nil_iff, complete, List.all_eq_true]
    simp

end Gateway

/-- The console's database on a cluster was never registered, or its removal was. -/
def ConsoleGone (s : Store) (id target : String) : Prop :=
  ∀ row, s.effect? id (sqlStateScope target .console) = some row →
    row.digest = "" ∨ row.closed = true ∧
      ∃ done, s.effect? id (consoleSQLCompletionScope target) = some done ∧
        done.closed = true ∧ done.digest = row.digest

section Ends

variable (s : Store) (id : String) (version : Int) (owner : CleanupOwner) (target : String)
  (complete : Bool)

/-- The row an observation was made on: deleted and at the given revision. -/
structure Observable (g : Gateway) : Prop where
  stored : s.gateway? id = some g
  dead : g.live = false
  current : (g.resourceVersion : Int) = version
  known : (g.observed owner target).isSome = true
  gate : owner = .sql → complete = true → ConsoleGone s id target

/-- What an observation leaves of the row: nothing changed, or it was stored. -/
inductive Observed (g : Gateway) : Gateway → Prop
  | same (equal : g.observed owner target = some complete) : Observed g g
  | stored {row : Gateway} (differs : g.observed owner target = some (!complete))
      (revised : Revised g { g.observe owner target complete with updatedTime := s.time } row) :
      Observed g row

/-- How the record of an observation ends: the store it leaves. -/
inductive Recorded : Store → Prop
  | same {g : Gateway} (on : Observable s id version owner target complete g)
      (equal : g.observed owner target = some complete)
      (settled : g.complete = false ∨ g.deletionFinalizedAt.isSome = true) : Recorded s
  | stored {g row : Gateway} {gateways : Table Gateway}
      (on : Observable s id version owner target complete g)
      (differs : g.observed owner target = some (!complete))
      (revised : Revised g { g.observe owner target complete with updatedTime := s.time } row)
      (becomes : s.gateways.Becomes gateways g row)
      (settled : row.complete = false ∨ row.deletionFinalizedAt.isSome = true) :
      Recorded { s with
        gateways := gateways
        outbox := s.outbox ++ [⟨id, "Update", "gateway.updated"⟩] }
  | finalized {g mid row : Gateway} {gateways : Table Gateway} {time : Int}
      (on : Observable s id version owner target complete g)
      (observed : Observed s owner target complete g mid) (dead : mid.live = false)
      (unfinalized : mid.deletionFinalizedAt = none) (all : mid.complete = true)
      (revised : Revised mid { mid with deletionFinalizedAt := some time, updatedTime := time } row)
      (becomes : s.gateways.Becomes gateways g row) :
      Recorded { s with
        gateways := gateways
        outbox := s.outbox ++ [⟨id, "Delete", "gateway.deleted"⟩] }

/-- How a deletion ends: the Gateway was deleted before, or it is now.  The caller's
user is brought up to date in either case. -/
inductive Removed : Store → Prop
  | already {g : Gateway} {d : Directory} (stored : s.gateway? id = some g)
      (dead : g.live = false) : Removed { s with directory := d }
  | deleted {g row : Gateway} {gateways : Table Gateway} {d : Directory}
      (stored : s.gateway? id = some g) (live : g.live = true)
      (revised : Revised g { g with deletedAt := some s.time } row)
      (becomes : s.gateways.Becomes gateways g row) :
      Removed { s with
        directory := d
        gateways := gateways
        outbox := s.outbox ++ [⟨id, "Update", "gateway.updated"⟩] }

end Ends

section Proofs

variable [Platform] {L : Type} {ω : Env} {s : Store} {id : String} {version : Int}
  {owner : CleanupOwner} {target : String} {complete : Bool} {c : Context Store Event L}

/-- The read of the deleted row. -/
theorem wp_readDeleted {ok : Gateway → Context Store Event L → Prop}
    {fails : Err → Context Store Event L → Prop} (failed : ∀ e n, fails e (c.at n))
    (found : ∀ g n, c.store.gateway? id = some g → g.live = false → ok g (c.at n)) :
    Tx.wp ω (readDeleted id) ok fails c := by
  simp only [readDeleted, Tx.wp_bind]
  refine Action.wp_query (fun _ => failed _ _) (fun _ _ => failed _ _) fun g read => ?_
  rw [Tx.wp_require]
  split_ifs
  · rw [Tx.wp_require]
    split_ifs with dead
    · exact found g _ (Store.getRetained_ok read) dead
    · exact failed _ _
  · exact failed _ _

/-- The SQL gate passes only if the console's database is gone. -/
theorem wp_checkConsoleSQL {ok : Unit → Context Store Event L → Prop}
    {fails : Err → Context Store Event L → Prop} (failed : ∀ e n, fails e (c.at n))
    (passed : ∀ n, (owner = .sql → complete = true → ConsoleGone c.store id target) →
      ok () (c.at n)) :
    Tx.wp ω (checkConsoleSQL id owner target complete) ok fails c := by
  unfold checkConsoleSQL
  rw [Tx.wp_ite]
  by_cases gated : owner = .sql ∧ complete = true
  swap
  · rw [if_neg gated]
    exact passed c.tick fun sql is => absurd ⟨sql, is⟩ gated
  rw [if_pos gated, Tx.wp_bind]
  refine Action.wp_query (fun _ => failed _ _) (fun _ _ => failed _ _) fun console read => ?_
  have stored := Store.loadEffectBinding_ok read
  rw [Tx.wp_ite]
  by_cases registered : console.present = true ∧ console.digest ≠ ""
  · rw [if_pos registered, Tx.wp_bind]
    refine Action.wp_query (fun _ => failed _ _) (fun _ _ => failed _ _) fun done read' => ?_
    have stored' := Store.loadEffectBinding_ok read'
    rw [Tx.wp_require]
    split_ifs with gone
    · obtain ⟨closed, present, closed', same⟩ := gone
      refine passed _ fun _ _ row found => Or.inr ?_
      rcases stored with ⟨absent, -⟩ | ⟨-, here⟩
      · rw [absent] at registered
        cases registered.1
      rcases stored' with ⟨absent, -⟩ | ⟨-, here'⟩
      · rw [absent] at present
        cases present
      cases here.symm.trans found
      exact ⟨closed, _, here', closed', same⟩
    · exact failed _ _
  · rw [if_neg registered]
    refine passed _ fun _ _ row found => Or.inl ?_
    rcases stored with ⟨-, missing⟩ | ⟨present, here⟩
    · rw [missing] at found
      cases found
    · cases here.symm.trans found
      by_contra digest
      exact registered ⟨present, digest⟩

/-- A differing observation is stored through the trigger and read back. -/
theorem wp_storeObservation {ok : Gateway → Context Store Event L → Prop}
    {fails : Err → Context Store Event L → Prop}
    (failed : ∀ e n t, fails e (c.put n t))
    (stored : ∀ g row gateways n, c.store.gateway? id = some g →
      Revised g { g.observe owner target complete with updatedTime := c.store.time } row →
      c.store.gateways.Becomes gateways g row →
      row.live = false → ok row (c.put n { c.store with gateways := gateways })) :
    Tx.wp ω (storeObservation id version owner target complete) ok fails c := by
  have written : ∀ t, (∃ g gateways row, c.store.gateway? id = some g ∧
      t = { c.store with gateways := gateways } ∧
      Revised g { g.observe owner target complete with updatedTime := c.store.time } row ∧
      c.store.gateways.Becomes gateways g row) → ∀ n,
      Tx.wp ω (readDeleted id) ok fails (c.put n t) := by
    rintro t ⟨g, gateways, row, here, rfl, revised, becomes⟩ n
    have sameID : row.id = id := revised.id.trans (Store.id_of_gateway? here)
    refine wp_readDeleted (fun e m => failed e m _) ?_
    intro g' m found dead
    have reread : (some row : Option Gateway) = some g' := by
      rw [← becomes.find?_new, key_gateway, sameID]
      exact found
    cases reread
    exact stored g row gateways m here revised becomes dead
  unfold storeObservation
  rw [Tx.wp_ite]
  split_ifs with untargeted
  · rw [Tx.wp_bind]
    refine Action.wp_update (fun _ => failed _ _ c.store) (fun _ _ => failed _ _ c.store) ?_
    intro t updated
    unfold Store.observeCleanupIfVersion at updated
    split_ifs at updated
    obtain ⟨g, gateways, row, here, -, -, -, same, revised, becomes⟩ :=
      Store.updateIfVersion_ok updated
    refine written t ⟨g, gateways, row, here, same, ?_, becomes⟩ _
    rw [Gateway.observe, if_pos untargeted]
    exact revised
  · rw [Tx.wp_bind]
    refine Action.wp_update (fun _ => failed _ _ c.store) (fun _ _ => failed _ _ c.store) ?_
    intro t updated
    unfold Store.observeTargetCleanupIfVersion at updated
    split_ifs at updated
    obtain ⟨g, gateways, row, here, -, -, -, same, revised, becomes⟩ :=
      Store.updateIfVersion_ok updated
    refine written t ⟨g, gateways, row, here, same, ?_, becomes⟩ _
    rw [Gateway.observe, if_neg untargeted]
    exact revised

/-- The deletion is finalized when nothing is pending, and what changed is
published. -/
theorem wp_finishCleanup {row : Gateway} {changed : Bool}
    {ok : Unit → Context Store Event L → Prop} {fails : Err → Context Store Event L → Prop}
    (here : c.store.gateway? id = some row) (dead : row.live = false)
    (failed : ∀ e n t, fails e (c.put n t))
    (unchanged : changed = false →
      (row.complete = false ∨ row.deletionFinalizedAt.isSome = true) → ∀ n, ok () (c.at n))
    (updated : changed = true →
      (row.complete = false ∨ row.deletionFinalizedAt.isSome = true) → ∀ n,
      ok () (c.put n { c.store with
        outbox := c.store.outbox ++ [⟨id, "Update", "gateway.updated"⟩] }))
    (finalized : ∀ row' gateways n, row.deletionFinalizedAt = none → row.complete = true →
      Revised row { row with
        deletionFinalizedAt := some c.store.time, updatedTime := c.store.time } row' →
      c.store.gateways.Becomes gateways row row' →
      ok () (c.put n { c.store with
        gateways := gateways
        outbox := c.store.outbox ++ [⟨id, "Delete", "gateway.deleted"⟩] })) :
    Tx.wp ω (finishCleanup id row changed) ok fails c := by
  simp only [finishCleanup, Tx.wp_bind]
  refine Tx.wp_lift (fun _ _ => failed _ c.tick c.store) fun pending read => ?_
  have empty := Gateway.pendingCleanup_ok dead read
  rw [Tx.wp_ite]
  by_cases last : pending = [] ∧ row.deletionFinalizedAt = none
  · rw [if_pos last, Tx.wp_bind]
    refine Action.wp_update (fun _ => failed _ _ c.store) (fun _ _ => failed _ _ c.store) ?_
    intro t wrote
    obtain ⟨old, gateways, row', stored, -, -, -, rfl, revised, becomes⟩ :=
      Store.updateIfVersion_ok wrote
    cases stored.symm.trans here
    refine Action.wp_update (fun _ => failed _ _ _) (fun _ _ => failed _ _ _) ?_
    intro t published
    cases published
    exact finalized row' gateways _ last.2 (empty.mp last.1) revised becomes
  · have settled : row.complete = false ∨ row.deletionFinalizedAt.isSome = true := by
      rw [empty] at last
      cases all : row.complete with
      | false => exact Or.inl rfl
      | true =>
        refine Or.inr (Option.isSome_iff_ne_none.mpr fun unfinalized => ?_)
        exact last ⟨all, unfinalized⟩
    rw [if_neg last, Tx.wp_ite]
    split_ifs with unmoved
    · exact unchanged unmoved settled c.tick
    · refine Action.wp_update (fun _ => failed _ _ c.store) (fun _ _ => failed _ _ c.store) ?_
      intro t published
      cases published
      exact updated (by simpa using unmoved) settled _

/-- **The record of an observation.** -/
theorem wp_recordOwner {ok : Unit → Context Store Event L → Prop}
    {fails : Err → Context Store Event L → Prop}
    (failed : ∀ e n t, fails e (c.put n t))
    (recorded : ∀ n t, Recorded c.store id version owner target complete t →
      ok () (c.put n t)) :
    Tx.wp ω (recordOwner id version owner target complete) ok fails c := by
  simp only [recordOwner, Tx.wp_bind]
  refine wp_readDeleted (fun e n => failed e n c.store) ?_
  intro g n here dead
  rw [Tx.wp_require]
  by_cases current : (g.resourceVersion : Int) = version
  swap
  · rw [if_neg current]
    exact failed _ _ c.store
  rw [if_pos current]
  refine Tx.wp_lift (fun _ _ => failed _ _ c.store) fun changed differs => ?_
  have observed := Gateway.differs_ok differs
  refine wp_checkConsoleSQL (fun e m => failed e m c.store) ?_
  intro m gate
  have on : Observable c.store id version owner target complete g :=
    ⟨here, dead, current, by rw [observed]; rfl, gate⟩
  rw [Tx.wp_ite]
  cases changed with
  | true =>
    rw [if_pos rfl, Tx.wp_bind]
    refine wp_storeObservation failed ?_
    intro old row gateways k found revised becomes dead'
    cases found.symm.trans here
    have sameID : row.id = id := revised.id.trans (Store.id_of_gateway? here)
    refine wp_finishCleanup ?_ dead' (fun e n' t => failed e n' t) ?_ ?_ ?_
    · show gateways.find? id = some row
      rw [← sameID]
      exact becomes.find?_new
    · intro never
      cases never
    · intro _ settled n'
      exact recorded _ _ (.stored on observed revised becomes settled)
    · intro row' gateways' n' unfinalized all revised' becomes'
      refine recorded _ _ (.finalized on (.stored observed revised) dead' unfinalized all revised' ?_)
      exact becomes.trans becomes' revised'.id
  | false =>
    rw [if_neg (by simp)]
    refine wp_finishCleanup here dead (fun e n' t => failed e n' t) ?_ ?_ ?_
    · intro _ settled n'
      exact recorded _ _ (.same on observed settled)
    · intro never
      cases never
    · intro row' gateways' n' unfinalized all revised' becomes'
      exact recorded _ _ (.finalized on (.same observed) dead unfinalized all revised' becomes')

/-- The record of an observation by an owner's name. -/
theorem wp_recordCleanup {name : String} {ok : Unit → Context Store Event L → Prop}
    {fails : Err → Context Store Event L → Prop}
    (failed : ∀ e n t, fails e (c.put n t))
    (recorded : ∀ n t owner, checkCleanupOwner name target = .ok owner →
      Recorded c.store id version owner target complete t → ok () (c.put n t)) :
    Tx.wp ω (recordCleanup id version name target complete) ok fails c := by
  unfold recordCleanup
  rw [Tx.wp_ite]
  split_ifs
  · exact failed _ c.tick c.store
  · cases checked : checkCleanupOwner name target with
    | error e => exact failed _ c.tick c.store
    | ok owner => exact wp_recordOwner failed fun n t ends => recorded n t owner checked ends

/-! ### The deletion -/

/-- **The deletion**, by one who may change the Gateway. -/
theorem wp_deleteBody_known {svc : GatewayService} {p : Principal}
    {ok : Unit → Context Store Event L → Prop} {fails : Err → Context Store Event L → Prop}
    (failed : ∀ e n t, fails e (c.put n t))
    (removed : ∀ n t, Removed c.store id t → c.store.directory.SameGrants t.directory →
      svc.MayChange p t.directory id true → ok () (c.put n t)) :
    Tx.wp ω (deleteBody svc p id) ok fails c := by
  simp only [deleteBody, Tx.wp_bind]
  refine wp_mutationTarget_known (fun e n d _ => failed e n _) ?_
  intro g n d same stored _ allowed
  rw [Tx.wp_ite]
  by_cases dead : g.live = false
  · rw [if_pos dead]
    exact removed n _ (.already stored dead) same allowed
  rw [if_neg dead, Tx.wp_bind]
  refine Action.wp_update (fun _ => failed _ _ _) (fun _ _ => failed _ _ _) ?_
  intro t deleted
  unfold Store.deleteGateway at deleted
  split at deleted
  · cases deleted
  rename_i row read
  obtain ⟨here, live⟩ := Store.getGateway_ok read
  cases here.symm.trans stored
  have key : g.id = id := Store.id_of_gateway? here
  obtain ⟨gateways, row', rfl, revised, becomes⟩ :=
    Store.updateGateway_ok (by rw [key]; exact here) deleted
  refine Action.wp_update (fun _ => failed _ _ _) (fun _ _ => failed _ _ _) ?_
  intro t published
  cases published
  exact removed _ _ (.deleted stored live revised becomes) same allowed

theorem wp_deleteBody {svc : GatewayService} {p : Principal}
    {ok : Unit → Context Store Event L → Prop} {fails : Err → Context Store Event L → Prop}
    (failed : ∀ e n t, fails e (c.put n t))
    (removed : ∀ n t, Removed c.store id t → ok () (c.put n t)) :
    Tx.wp ω (deleteBody svc p id) ok fails c :=
  wp_deleteBody_known failed fun n t ends _ _ => removed n t ends

end Proofs

end Hypershell
