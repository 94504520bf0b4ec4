import Hypershell.Gateways.GrantSteps
import Hypershell.Gateways.MutationSteps

/-!
# Sandbox counts

A count controller changes the number of active sandboxes of the Gateway that owns a
namespace.  A count that the Gateway has already is not written again.

## Main definitions

* `changeCount` and its three callers
* `Counted` — the row and the message of a change

## Main results

* `changeCount_commits` — the call commits one change of the count, or nothing
-/

namespace Hypershell

open Foundation

/-- `math.MaxInt32`. -/
def maxInt32 : Int := 2147483647

namespace Store

/-- The live Gateway of a namespace. -/
def getGatewayIn (nameSpace : String) (s : Store) : Except Err Gateway :=
  match s.gateways.rows.find? fun g => g.live && decide (g.nameSpace = nameSpace) with
  | some g => .ok g
  | none => .error .notFound

theorem getGatewayIn_ok {s : Store} {nameSpace : String} {g : Gateway}
    (found : s.getGatewayIn nameSpace = .ok g) : s.gateway? g.id = some g ∧ g.live = true := by
  unfold getGatewayIn at found
  split at found
  · rename_i row here
    cases found
    have holds := List.find?_some here
    rw [Bool.and_eq_true] at holds
    exact ⟨Table.find?_of_mem (List.mem_of_find?_eq_some here), holds.1⟩
  · cases found

end Store

/-! ### The call -/

/-- What the callback of a change assigns. -/
structure CountChange where
  result : Int
  found : Bool
  deriving DecidableEq, Repr

/-- The count that a change leads to: never less than zero. -/
def nextCount (stored : Option Int) (input : Int) (relative : Bool) : Int :=
  max 0 (if relative then input + stored.getD 0 else input)

section Call

variable [Platform]

/-- The callback of `changeCount`. -/
def changeCountBody (svc : GatewayService) (p : Principal) (input : Int) (relative : Bool)
    (cluster : String) (row : Gateway) : Action CountChange Unit := do
  Tx.capture fun vars => { vars with found := true }
  Tx.lift (svc.authorizeControllerWrite p "Gateway" "observe.sandbox-count" row.clusterID)
  Tx.require (cluster = "" ∨ row.clusterID = cluster) .placementChanged
  let next := nextCount row.activeSandboxCount input relative
  Tx.require (next ≤ maxInt32) .countRange
  Tx.capture fun vars => { vars with result := next }
  if row.activeSandboxCount = some next then
    pure ()
  else do
    Action.update (Store.replaceGateway row.id { row with activeSandboxCount := some next })
    notifyGateway row.id "Update" "gateway.updated"

/-- `WithLockedResource(ctx, "Gateway", "namespace", ·)`. -/
def withLockedNamespace {L : Type} (init : L) (nameSpace : String) (body : Gateway → Action L Unit) :
    Process (L × Option Err) :=
  withTransaction init do
    let row ← Action.query (Store.getGatewayIn nameSpace)
    body row

/-- A namespace that can be looked up. -/
def validNamespace (nameSpace : String) : Bool :=
  decide (trimSpace nameSpace ≠ "") && decide (nameSpace.utf8ByteSize ≤ 253) &&
    decide ('\x00' ∉ nameSpace.toList)

/-- What the caller of a change learns: a namespace without a Gateway has no count. -/
def countReply : CountChange × Option Err → Int × Option Err
  | (vars, none) => (vars.result, none)
  | (vars, some e) =>
    if vars.found = false ∧ Err.is .notFound e = true then (0, none) else (0, some e)

/-- The transaction of `changeCount`. -/
def changeCountRow (svc : GatewayService) (p : Principal) (nameSpace : String) (input : Int)
    (relative : Bool) (cluster : String) : Process (CountChange × Option Err) :=
  match validatePrincipal p with
  | .error e => .ret (⟨0, true⟩, some e)
  | .ok () =>
    if svc.isControlPlane p = false then
      .ret (⟨0, true⟩, some .forbidden)
    else if validNamespace nameSpace = false then
      .ret (⟨0, true⟩, some .invalid)
    else
      withLockedNamespace ⟨0, false⟩ nameSpace (changeCountBody svc p input relative cluster)

/-- `changeCount`. -/
def changeCount (svc : GatewayService) (p : Principal) (nameSpace : String) (input : Int)
    (relative : Bool) (cluster : String) : Process (Int × Option Err) :=
  countReply <$> changeCountRow svc p nameSpace input relative cluster

/-- `Service.AdjustActiveSandboxCount`. -/
def adjustActiveSandboxCount (svc : GatewayService) (p : Principal) (nameSpace : String)
    (delta : Int) : Process (Int × Option Err) :=
  changeCount svc p nameSpace delta true ""

/-- `Service.SetActiveSandboxCount`. -/
def setActiveSandboxCount (svc : GatewayService) (p : Principal) (nameSpace : String)
    (count : Int) : Process (Int × Option Err) :=
  changeCount svc p nameSpace count false ""

/-- `Service.SetObservedSandboxCount`. -/
def setObservedSandboxCount (svc : GatewayService) (p : Principal) (nameSpace cluster : String)
    (count : Int) : Process (Int × Option Err) :=
  if Platform.validID cluster = false ∨ count < 0 then .ret (0, some .invalid)
  else changeCount svc p nameSpace count false cluster

end Call

/-! ### What it commits -/

/-- The count of one Gateway was written, with one message; or the Gateway had it. -/
inductive Counted (s : Store) : Store → Prop
  | same : Counted s s
  | written {g g' : Gateway} {next : Int} {gateways : Table Gateway}
      (stored : s.gateway? g.id = some g) (live : g.live = true)
      (rewrites : g.Rewrites { g with activeSandboxCount := some next } g')
      (becomes : s.gateways.Becomes gateways g g') (changes : g.activeSandboxCount ≠ some next) :
      Counted s { s with
        gateways := gateways
        outbox := s.outbox ++ [⟨g.id, "Update", "gateway.updated"⟩] }

section Steps

variable [Platform] {svc : GatewayService} {p : Principal} {nameSpace cluster : String} {input : Int}
  {relative : Bool}

/-- The write of a count. -/
theorem wp_writeCount {L : Type} {ω : Env} {c : Context Store Event L} {g : Gateway} {next : Int}
    {ok : Unit → Context Store Event L → Prop} {fails : Err → Context Store Event L → Prop}
    (here : c.store.gateway? g.id = some g) (live : g.live = true)
    (changes : g.activeSandboxCount ≠ some next) (failed : ∀ e n t, fails e (c.put n t))
    (written : ∀ n t, Counted c.store t → ok () (c.put n t)) :
    Tx.wp ω (do
      Action.update (Store.replaceGateway g.id { g with activeSandboxCount := some next })
      notifyGateway g.id "Update" "gateway.updated") ok fails c := by
  rw [Tx.wp_bind]
  refine Action.wp_update (fun _ => failed _ _ c.store) (fun _ _ => failed _ _ c.store) ?_
  intro t wrote
  obtain ⟨old, g', rewritten⟩ := Store.replaceGateway_ok wrote
  obtain rfl : old = g := Option.some.inj (rewritten.stored.symm.trans here)
  have cluster : { old with activeSandboxCount := some next }.clusterID = old.clusterID := rfl
  have rewrites := (rewrites_replaced cluster rewritten).rewrites
  have becomes := rewritten.becomes
  obtain ⟨gateways, rfl⟩ := rewritten.same
  refine Action.wp_update (fun _ => failed _ _ _) (fun _ _ => failed _ _ _) fun u published => ?_
  cases published
  exact written _ _ (.written here live rewrites becomes changes)

/-- **A change commits one count, or nothing.** -/
theorem changeCount_commits :
    Commits Counted (changeCountRow svc p nameSpace input relative cluster) := by
  unfold changeCountRow
  split
  · exact .refused
  split_ifs
  · exact .refused
  · exact .refused
  refine .transaction fun ω s n => ?_
  rw [Tx.wp_bind]
  refine Action.wp_query (fun _ => rfl) (fun _ _ => rfl) fun g read => ?_
  obtain ⟨here, live⟩ := Store.getGatewayIn_ok read
  simp only [changeCountBody, Tx.wp_bind, Tx.wp_capture]
  refine Tx.wp_lift (fun _ _ => rfl) fun _ _ => ?_
  rw [Tx.wp_require]
  split
  swap
  · exact rfl
  rw [Tx.wp_require]
  split
  swap
  · exact rfl
  rw [Tx.wp_ite]
  split
  · exact ⟨rfl, .same⟩
  rename_i changes
  exact wp_writeCount here live changes (fun _ _ _ => rfl) fun _ _ counted => ⟨rfl, counted⟩

end Steps

end Hypershell
