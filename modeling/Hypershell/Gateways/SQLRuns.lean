import Hypershell.Gateways.DeletionRuns
import Hypershell.Gateways.SQLGate

/-!
# Runs of SQL state and of deletions

Registrations, closures and completions of SQL state, deletions and cleanup
observations of any Gateways, in any order and repeated, with crashes anywhere and
interleaved with the work of others.

## Main definitions

* `SQLCall` — the calls

## Main results

* `console_gate` — the gate holds in every run, and its writes are idempotent
-/

namespace Hypershell

open Foundation

section Calls

variable [Platform]

/-- A write of SQL state, a deletion or an observation. -/
inductive SQLCall : Process (Option Err) → Prop
  | deletion {call : Process (Unit × Option Err)} (known : DeletionCall call) :
      SQLCall (Prod.snd <$> call)
  | bind (svc : GatewayService) (p : Principal) (id cluster digest : String) (version : Int)
      (component : SQLComponent) :
      SQLCall (Prod.snd <$> bindSQLState svc p id cluster digest version component)
  | close (svc : GatewayService) (p : Principal) (id cluster : String)
      (component : SQLComponent) : SQLCall (Prod.snd <$> closeSQLState svc p id cluster component)
  | complete (svc : GatewayService) (p : Principal) (id cluster : String) :
      SQLCall (Prod.snd <$> completeConsoleSQLCleanup svc p id cluster)

/-- The systems of these calls, from the first Gateway on. -/
abbrev SQLReachable (x : System Env Store Event (Option Err)) : Prop :=
  System.Reachable {p | SQLCall p} SQLWork NoGateways x

/-- Some steps of these systems. -/
abbrev SQLSteps :
    System Env Store Event (Option Err) → System Env Store Event (Option Err) → Prop :=
  Relation.ReflTransGen (System.Moves {p | SQLCall p} SQLWork)

/-- What the calls owe: the gate, and what time keeps. -/
def sqlContract : Contract Env Store Event where
  oracle _ := True
  inv := SQLGate
  rely := SQLLater
  event _ _ := True
  change _ := SQLChange

/-- A call of one transaction meets the contract. -/
theorem Commits.sql_safe {L : Type} {ends : Store → Store → Prop}
    {call : Process (L × Option Err)} (commits : Commits ends call)
    (change : ∀ s t, ends s t → SQLChange s t) (h : List Event) (s : Store) :
    (Prod.snd <$> call).Safe sqlContract (fun _ _ _ => True) h s :=
  Proc.Safe.map (commits.safe (fun _ _ => trivial) (fun _ _ => .still rfl rfl)
    fun _ s t ended => change s t ended)

theorem SQLCall.safe {p : Process (Option Err)} (known : SQLCall p) (h : List Event) (s : Store) :
    p.Safe sqlContract (fun _ _ _ => True) h s := by
  cases known with
  | deletion known =>
    cases known with
    | delete => exact deleteGateway_commits.sql_safe (fun _ _ ends => .removed ends) h s
    | observe =>
      refine observeCleanup_commits.sql_safe (fun _ _ ends => ?_) h s
      obtain ⟨_, -, recorded⟩ := ends
      exact .recorded recorded
    | record =>
      refine recordAlone_commits.sql_safe (fun _ _ ends => ?_) h s
      obtain ⟨_, -, recorded⟩ := ends
      exact .recorded recorded
  | bind => exact bindSQLState_commits.sql_safe (fun _ _ ends => .bound ends) h s
  | close => exact closeSQLState_commits.sql_safe (fun _ _ ends => .closed ends) h s
  | complete => exact completeConsoleSQLCleanup_commits.sql_safe (fun _ _ ends => .completed ends) h s

theorem sql_governed : System.Governed sqlContract (fun _ _ _ => True)
    {p | SQLCall p} SQLWork NoGateways where
  sound := ⟨SQLLater.refl, SQLLater.trans,
    fun gate change => ⟨SQLChange.gate change gate, SQLChange.later change⟩⟩
  oracle _ := trivial
  safe := fun _ known s _ => SQLCall.safe known [] s
  outside gate work := ⟨work.gate gate, work.later⟩
  init _ none := none.gate

/-- What every run keeps. -/
theorem later_of_sqlSteps {x y : System Env Store Event (Option Err)} (reach : SQLReachable x)
    (steps : SQLSteps x y) : SQLLater x.store y.store :=
  (sql_governed.good_later (sql_governed.good_of_reachable reach) steps).2

variable {s t u : Store} {id cluster : String} {steps : List (Env × Store)} {l : List Event}

omit [Platform] in
/-- A closed binding stays closed, and is not written again. -/
theorem Closed.again {component : SQLComponent} (ends : Closed s id cluster component t)
    (later : SQLLater t u) {v : Store} (again : Closed u id cluster component v) : v = u := by
  obtain ⟨row, found, closed, -⟩ := ends.closed
  obtain ⟨row', found', -, still⟩ := later.effects.kept _ _ row found
  exact again.before row' found' (still closed)

omit [Platform] in
theorem Completed.again (ends : Completed s id cluster t) (later : SQLLater t u) {v : Store}
    (again : Completed u id cluster v) : v = u := by
  obtain ⟨done, found, closed⟩ := ends.closed
  obtain ⟨done', found', -, still⟩ := later.effects.kept _ _ done found
  exact again.before done' found' (still closed)

/-- **The gate of SQL cleanup.**  Where the SQL cleanup of a cluster is recorded, the
console's database is gone there, now and later, and a deleted Gateway's console gets no
digest.  A completion succeeds only for a deleted Gateway whose console is closed;
repeated, it changes nothing, and neither does a closure. -/
theorem console_gate {x : System Env Store Event (Option Err)} (reach : SQLReachable x) :
    (∀ id g target, x.store.gateway? id = some g → (target, true) ∈ g.cleanupTargetState .sql →
      ∀ y, SQLSteps x y → ConsoleGone y.store id target) ∧
    (∀ id, x.store.GatewayDead id → ∀ y, SQLSteps x y → ∀ target row,
      y.store.effect? id (sqlStateScope target .console) = some row → row.digest = "" ∨
        ∃ old, x.store.effect? id (sqlStateScope target .console) = some old ∧
          old.digest = row.digest) ∧
    (∀ svc p id cluster steps r l t,
      (completeConsoleSQLCleanup svc p id cluster).Exec Eq x.store steps (r, none) l t →
      x.store.GatewayDead id ∧
      (∃ row, x.store.effect? id (sqlStateScope cluster .console) = some row ∧
        row.closed = true) ∧
      ∀ y z, SQLReachable y → y.store = t → SQLSteps y z → ∀ svc p steps r l u,
        (completeConsoleSQLCleanup svc p id cluster).Exec Eq z.store steps r l u →
        u = z.store) ∧
    (∀ svc p id cluster component steps r l t,
      (closeSQLState svc p id cluster component).Exec Eq x.store steps (r, none) l t →
      ∀ y z, SQLReachable y → y.store = t → SQLSteps y z → ∀ svc p steps r l u,
        (closeSQLState svc p id cluster component).Exec Eq z.store steps r l u →
        u = z.store) := by
  have gate : SQLGate x.store := (sql_governed.good_of_reachable reach).inv
  refine ⟨?_, ?_, ?_, ?_⟩
  · intro id g target stored recorded y later
    obtain ⟨dead, gone⟩ := gate.gone id g target stored recorded
    exact gone.later ⟨g, stored, dead⟩ (later_of_sqlSteps reach later)
  · intro id dead y later
    exact (later_of_sqlSteps reach later).frozen id dead
  · intro svc p id cluster steps r l t exec
    have ends : Completed x.store id cluster t := completeConsoleSQLCleanup_commits.exec_ok exec
    refine ⟨ends.dead, ends.console, fun y z reach' same later svc p steps r l u exec' => ?_⟩
    have kept := later_of_sqlSteps reach' later
    rw [same] at kept
    rcases completeConsoleSQLCleanup_commits.exec exec' with unchanged | again
    · exact unchanged
    · exact ends.again kept again
  · intro svc p id cluster component steps r l t exec y z reach' same later svc p steps r l u exec'
    have ends : Closed x.store id cluster component t := closeSQLState_commits.exec_ok exec
    have kept := later_of_sqlSteps reach' later
    rw [same] at kept
    rcases closeSQLState_commits.exec exec' with unchanged | again
    · exact unchanged
    · exact ends.again kept again

end Calls

/-! ### The sample -/

namespace Sample

def clusterID : String := "0ujsszwN8NRY24YaXiTIE2VWDTS"

/-- A controller of the cluster. -/
def controller : Principal := ⟨"https://issuer.example", "controller", "controller", "", "", []⟩

/-- The Gateway service with the controller's grants. -/
def sqlService : GatewayService where
  controlPlaneSubjects subject := decide (subject = "controller")
  cleanupPolicy := [⟨controller.issuer, "controller", "Gateway", "cleanup.sql", clusterID⟩]
  providerStatePolicy := []
  controllerWritePolicy :=
    [⟨controller.issuer, "controller", "Gateway", "configure.sql", clusterID⟩]
  defaultReleaseID := ""
  defaultClusterID := ""

/-- The console's state is bound, and cleaned up once the Gateway is deleted. -/
def consoleCalls : List (Process (Option Err)) :=
  [Prod.snd <$> bindSQLState sqlService controller gatewayID clusterID
      (String.ofList (List.replicate 64 'a')) 1 .console,
    Prod.snd <$> deleteGateway sqlService principal gatewayID,
    Prod.snd <$> closeSQLState sqlService controller gatewayID clusterID .console,
    Prod.snd <$> completeConsoleSQLCleanup sqlService controller gatewayID clusterID,
    Prod.snd <$> observeCleanup sqlService controller gatewayID 2 "sql" clusterID true]

/-- What calls leave that run alone, one after the other and without an error. -/
def runAll : List (Process (Option Err)) → Store → Option Store
  | [], s => some s
  | p :: rest, s =>
    match p.run [env drawnID] s with
    | some (_, none, _, t) => runAll rest t
    | _ => none

theorem sqlSteps_of_runAll {calls : List (Process (Option Err))} {s t : Store}
    (known : ∀ p ∈ calls, SQLCall p) (ends : runAll calls s = some t) :
    SQLSteps ⟨s, []⟩ ⟨t, []⟩ := by
  induction calls generalizing s with
  | nil =>
    cases ends
    exact .refl
  | cons p rest ih =>
    unfold runAll at ends
    split at ends
    · rename_i steps l u run
      exact (System.moves_of_call (known p List.mem_cons_self) run).trans
        (ih (fun q member => known q (List.mem_cons_of_mem _ member)) ends)
    · cases ends

end Sample

open Sample in
/-- The sample's console had a database, which is gone when its cleanup is recorded. -/
theorem console_gate_sample : ∃ (x : System Env Store Event (Option Err)) (g : Gateway),
    x.store.gateway? Sample.gatewayID = some g ∧
    (Sample.clusterID, true) ∈ g.cleanupTargetState .sql ∧
    (x.store.effect? Sample.gatewayID (sqlStateScope Sample.clusterID .console)).any
      (fun row => decide (row.digest ≠ "")) = true ∧
    ConsoleGone x.store Sample.gatewayID Sample.clusterID := by
  have computed : ((Sample.placed Sample.clusterID).any fun s =>
      (Sample.runAll Sample.consoleCalls s).any fun t =>
        ((t.gateway? Sample.gatewayID).any fun g =>
          decide ((Sample.clusterID, true) ∈ g.cleanupTargetState .sql)) &&
        (t.effect? Sample.gatewayID (sqlStateScope Sample.clusterID .console)).any
          fun row => decide (row.digest ≠ "")) = true := by decide +kernel
  simp only [Option.any_eq_true, Bool.and_eq_true, decide_eq_true_eq] at computed
  obtain ⟨s, created, t, ran, ⟨g, stored, recorded⟩, bound⟩ := computed
  have known : ∀ p ∈ Sample.consoleCalls, SQLCall p := by
    intro p member
    simp only [Sample.consoleCalls, List.mem_cons, List.not_mem_nil, or_false] at member
    rcases member with rfl | rfl | rfl | rfl | rfl
    · exact .bind ..
    · exact .deletion (.delete ..)
    · exact .close ..
    · exact .complete ..
    · exact .deletion (.observe ..)
  obtain ⟨placed, effects⟩ := Sample.work_of_placed created
  have reach : SQLReachable (⟨t, []⟩ : System Env Store Event (Option Err)) :=
    ⟨Sample.bare, ⟨rfl, rfl⟩, .head ⟨none, .outside ⟨placed, effects⟩⟩ (Sample.sqlSteps_of_runAll known ran)⟩
  refine ⟨⟨t, []⟩, g, stored, recorded, ?_, ?_⟩
  · obtain ⟨row, found, digest⟩ := bound
    rw [found]
    simpa using digest
  · exact (console_gate reach).1 _ g _ stored recorded _ .refl

end Hypershell
