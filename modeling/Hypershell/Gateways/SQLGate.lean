import Hypershell.Gateways.Finalization
import Hypershell.Gateways.SQLState

/-!
# The gate of SQL cleanup

A recorded SQL cleanup of a cluster proves that the console's database is gone there.
No registration, closure or completion of SQL state, no deletion, no observation and
nothing that others do takes that back.

## Main definitions

* `SQLChange`, `SQLWork` — the commits of calls, and what others do
* `SQLLater` — what time keeps of Gateways and bindings
* `SQLGate` — the invariant

## Main results

* `ConsoleGone.later` — the gate is stable
* `SQLChange.gate`, `SQLWork.gate` — every step keeps it
-/

namespace Hypershell

open Foundation

/-- A recorded SQL cleanup is that of a deleted Gateway whose console is gone. -/
structure SQLGate (s : Store) : Prop where
  gone : ∀ id g target, s.gateway? id = some g → (target, true) ∈ g.cleanupTargetState .sql →
    g.live = false ∧ ConsoleGone s id target

/-- What time keeps: a deletion, the bindings, and that no digest is registered for the
console of a deleted Gateway. -/
structure SQLLater (s t : Store) : Prop where
  dead : ∀ id, s.GatewayDead id → t.GatewayDead id
  effects : s.EffectsLater t
  frozen : ∀ id, s.GatewayDead id → ∀ target row,
    t.effect? id (sqlStateScope target .console) = some row → row.digest = "" ∨
      ∃ old, s.effect? id (sqlStateScope target .console) = some old ∧ old.digest = row.digest

/-- One committed step of a call. -/
inductive SQLChange (s t : Store) : Prop
  | still (gateways : t.gateways = s.gateways) (effects : t.effects = s.effects)
  | recorded {id : String} {version : Int} {owner : CleanupOwner} {target : String}
      {complete : Bool} (ends : Recorded s id version owner target complete t)
  | removed {id : String} (ends : Removed s id t)
  | bound {id cluster : String} {component : SQLComponent} (ends : Bound s id cluster component t)
  | closed {id cluster : String} {component : SQLComponent}
      (ends : Closed s id cluster component t)
  | completed {id cluster : String} (ends : Completed s id cluster t)

/-- What others do: they write live Gateways and no effect bindings. -/
structure SQLWork (s t : Store) : Prop where
  gateways : GatewayWork s t
  effects : t.effects = s.effects

/-- The scopes of states and of completions differ. -/
theorem sqlStateScope_ne_completion (target cluster : String) (component : SQLComponent) :
    sqlStateScope target component ≠ consoleSQLCompletionScope cluster := by
  intro same
  have letters := congrArg (fun text : String => text.toList.take 5) same
  have state : (sqlStateScope target component).toList.take 5 = "sql-s".toList := by
    cases component
    · show ("sql-state:" ++ target).toList.take 5 = _
      rw [String.toList_append, List.take_append_of_le_length (by decide)]
      decide
    · show ("sql-state:console:" ++ target).toList.take 5 = _
      rw [String.toList_append, List.take_append_of_le_length (by decide)]
      decide
  have completion : (consoleSQLCompletionScope cluster).toList.take 5 = "sql-c".toList := by
    show ("sql-complete:console:" ++ cluster).toList.take 5 = _
    rw [String.toList_append, List.take_append_of_le_length (by decide)]
    decide
  rw [state, completion] at letters
  exact absurd letters (by decide)

/-! ### Time -/

section Time

variable {s t u : Store} {id : String}

theorem Store.EffectsLater.of_eq (same : t.effects = s.effects) : s.EffectsLater t := by
  refine ⟨fun id scope row found => ⟨row, ?_, rfl, fun closed => closed⟩⟩
  rw [Store.effect?, same]
  exact found

theorem Store.GatewayDead.not_live (dead : s.GatewayDead id) : ¬ s.GatewayLive id := by
  obtain ⟨g, stored, gone⟩ := dead
  intro live
  refine live.not_dead fun g' found => ?_
  cases stored.symm.trans found
  exact gone

theorem SQLLater.refl (s : Store) : SQLLater s s :=
  ⟨fun _ dead => dead, .refl s, fun _ _ _ row found => Or.inr ⟨row, found, rfl⟩⟩

theorem SQLLater.trans (first : SQLLater s t) (second : SQLLater t u) : SQLLater s u := by
  refine ⟨fun id dead => second.dead id (first.dead id dead),
    first.effects.trans second.effects, fun id dead target row found => ?_⟩
  rcases second.frozen id (first.dead id dead) target row found with empty | ⟨old, found', same⟩
  · exact Or.inl empty
  · rcases first.frozen id dead target old found' with empty | ⟨older, found'', same'⟩
    · exact Or.inl (same.symm.trans empty)
    · exact Or.inr ⟨older, found'', same'.trans same⟩

/-- **The gate is stable.** -/
theorem ConsoleGone.later {target : String} (gone : ConsoleGone s id target)
    (dead : s.GatewayDead id) (later : SQLLater s t) : ConsoleGone t id target := by
  intro row found
  rcases later.frozen id dead target row found with empty | ⟨old, stored, same⟩
  · exact Or.inl empty
  rcases gone old stored with empty | ⟨closed, done, registered, closed', agrees⟩
  · exact Or.inl (same.symm.trans empty)
  · obtain ⟨row', found', -, still⟩ := later.effects.kept _ _ old stored
    cases found.symm.trans found'
    obtain ⟨done', registered', same', still'⟩ := later.effects.kept _ _ done registered
    refine Or.inr ⟨still closed, done', registered', still' closed', ?_⟩
    rw [same', agrees, same]

/-- Where only Gateways change, bindings stay. -/
theorem SQLLater.of_effects (effects : t.effects = s.effects)
    (dead : ∀ id, s.GatewayDead id → t.GatewayDead id) : SQLLater s t := by
  refine ⟨dead, .of_eq effects, fun id _ target row found => Or.inr ⟨row, ?_, rfl⟩⟩
  rw [Store.effect?, effects] at found
  exact found

theorem dead_of_becomes {g row : Gateway} (becomes : s.gateways.Becomes t.gateways g row)
    (permanent : g.live = false → row.live = false) (dead : s.GatewayDead id) :
    t.GatewayDead id := by
  obtain ⟨g', stored, gone⟩ := dead
  rw [Store.GatewayDead, Store.gateway?, becomes.find?]
  by_cases here : id = row.id
  · rw [here, key_gateway, if_pos rfl]
    have same : g = g' := by
      have found : s.gateway? row.id = some g := becomes.stored
      rw [← here, stored] at found
      exact (Option.some.inj found).symm
    rw [← same] at gone
    exact ⟨row, rfl, permanent gone⟩
  · rw [key_gateway, if_neg here]
    exact ⟨g', stored, gone⟩

theorem Revised.dead {old new row : Gateway} (revised : Revised old new row)
    (dead : old.live = false) : row.live = false := by
  rw [Meta.live, revised.permanent dead]
  exact dead

/-- A write that touches a binding of a live Gateway, or registers no digest for a
console. -/
theorem SQLLater.of_touches {scope : String} (touches : s.Touches id scope t)
    (harmless : s.GatewayDead id → ∀ target row, scope = sqlStateScope target .console →
      s.effect? id scope = none → t.effect? id scope = some row → row.digest = "") :
    SQLLater s t := by
  obtain ⟨effects, only⟩ := touches.only
  refine ⟨fun id' dead => ?_, touches.toEffectsLater, fun id' dead target row found => ?_⟩
  · rw [only]
    exact dead
  · by_cases here : (id', sqlStateScope target .console) = (id, scope)
    · cases here
      cases before : s.effect? id (sqlStateScope target .console) with
      | none => exact Or.inl (harmless dead target row rfl before found)
      | some old =>
        obtain ⟨row', found', same, -⟩ := touches.kept _ _ old before
        cases found.symm.trans found'
        exact Or.inr ⟨old, rfl, same.symm⟩
    · rw [touches.others _ _ here] at found
      exact Or.inr ⟨row, found, rfl⟩

/-- **What one step of a call keeps.** -/
theorem SQLChange.later (change : SQLChange s t) : SQLLater s t := by
  cases change with
  | still gateways effects =>
    refine .of_effects effects fun id dead => ?_
    rw [Store.GatewayDead, Store.gateway?, gateways]
    exact dead
  | recorded ends =>
    cases ends with
    | same => exact .refl s
    | stored on differs revised becomes =>
      exact .of_effects rfl fun _ dead => dead_of_becomes becomes revised.dead dead
    | finalized on observed gone unfinalized all revised becomes =>
      exact .of_effects rfl fun _ dead => dead_of_becomes becomes (fun _ => revised.dead gone) dead
  | removed ends =>
    cases ends with
    | already => exact .of_effects rfl fun _ dead => dead
    | deleted stored live revised becomes =>
      exact .of_effects rfl fun _ dead => dead_of_becomes becomes revised.dead dead
  | bound ends => exact .of_touches ends.touches fun dead => absurd ends.live dead.not_live
  | closed ends =>
    refine .of_touches ends.touches fun _ _ row _ before after => ?_
    obtain ⟨row', found, -, empty⟩ := ends.closed
    cases after.symm.trans found
    exact empty (by rw [before]; rfl)
  | completed ends =>
    refine .of_touches ends.touches fun _ _ _ same => ?_
    exact absurd same.symm (sqlStateScope_ne_completion _ _ _)

/-- What others keep. -/
theorem SQLWork.later (work : SQLWork s t) : SQLLater s t := by
  obtain ⟨gateways, effects⟩ := work
  refine .of_effects effects fun id dead => ?_
  cases gateways with
  | quiet gateways =>
    rw [Store.GatewayDead, Store.gateway?, gateways]
    exact dead
  | @created new row live stored inserted =>
    obtain ⟨g, found, gone⟩ := dead
    have other : id ≠ row.id := by
      rintro rfl
      cases (Table.absent_of_insert? inserted).symm.trans found
    refine ⟨g, ?_, gone⟩
    rw [Store.gateway?, Table.find?_insert? inserted, key_gateway, if_neg other]
    exact found
  | written before after untouched stored becomes =>
    exact dead_of_becomes becomes (Gateway.revised_of_revise stored).dead dead

end Time

/-! ### The invariant -/

section Invariant

variable {s t : Store}

theorem NoGateways.gate (none : NoGateways s) : SQLGate s := by
  refine ⟨fun id g target stored => ?_⟩
  rw [Store.gateway?, Table.find?, none.1] at stored
  cases stored

/-- Where one row takes the place of another, the gate has to hold for its entries. -/
theorem SQLGate.of_becomes {g row : Gateway} (gate : SQLGate s) (later : SQLLater s t)
    (becomes : s.gateways.Becomes t.gateways g row)
    (gone : ∀ target, (target, true) ∈ row.cleanupTargetState .sql →
      row.live = false ∧ ConsoleGone t row.id target) : SQLGate t := by
  refine ⟨fun id g' target found recorded => ?_⟩
  rw [Store.gateway?, becomes.find?] at found
  split at found
  · rename_i here
    cases found
    rw [here]
    exact gone target recorded
  · obtain ⟨dead, still⟩ := gate.gone id g' target found recorded
    exact ⟨dead, still.later ⟨g', found, dead⟩ later⟩

theorem SQLGate.of_gateways (gate : SQLGate s) (later : SQLLater s t)
    (gateways : t.gateways = s.gateways) : SQLGate t := by
  refine ⟨fun id g target found recorded => ?_⟩
  rw [Store.gateway?, gateways] at found
  obtain ⟨dead, still⟩ := gate.gone id g target found recorded
  exact ⟨dead, still.later ⟨g, found, dead⟩ later⟩

/-- A reset row has no recorded cleanup. -/
theorem Revised.not_recorded {old new row : Gateway} (revised : Revised old new row)
    (resets : old.resets new = true) {target : String} :
    (target, true) ∉ row.cleanupTargetState .sql := by
  intro recorded
  cases revised.dropped resets .sql (by decide) _ recorded

/-- What an observation records was recorded before, or is the observation. -/
theorem Gateway.recorded_observe {g : Gateway} {owner : CleanupOwner} {target : String}
    {complete : Bool} {target' : String}
    (recorded : (target', true) ∈ (g.observe owner target complete).cleanupTargetState .sql) :
    (target', true) ∈ g.cleanupTargetState .sql ∨
      owner = .sql ∧ target' = target ∧ complete = true := by
  unfold Gateway.observe at recorded
  split at recorded
  · exact Or.inl recorded
  · by_cases sql : owner = .sql
    · rw [sql] at recorded
      simp only [Function.update_self, Store.setTarget, List.mem_map] at recorded
      obtain ⟨entry, member, same⟩ := recorded
      split_ifs at same with here
      · cases same
        exact Or.inr ⟨sql, here, rfl⟩
      · rw [← same]
        exact Or.inl member
    · simp only [Function.update_of_ne (Ne.symm sql)] at recorded
      exact Or.inl recorded

theorem Observed.recorded {g mid : Gateway} {owner : CleanupOwner} {target : String}
    {complete : Bool} (observed : Observed s owner target complete g mid) (dead : g.live = false)
    {target' : String} (recorded : (target', true) ∈ mid.cleanupTargetState .sql) :
    (target', true) ∈ g.cleanupTargetState .sql ∨
      owner = .sql ∧ target' = target ∧ complete = true := by
  cases observed with
  | same => exact Or.inl recorded
  | stored differs revised =>
    rw [revised.recorded (Gateway.resets_observe dead) .sql (by decide)] at recorded
    exact Gateway.recorded_observe recorded

/-- **The record of an observation passes the gate.** -/
theorem Recorded.gate {id : String} {version : Int} {owner : CleanupOwner} {target : String}
    {complete : Bool} (ends : Recorded s id version owner target complete t) (gate : SQLGate s) :
    SQLGate t := by
  have later : SQLLater s t := SQLChange.later (.recorded ends)
  -- What is recorded after an observation on `g` passed the gate before, or passes it now.
  have passes : ∀ {g mid : Gateway}, Observable s id version owner target complete g →
      Observed s owner target complete g mid → ∀ target', (target', true) ∈
        mid.cleanupTargetState .sql → ConsoleGone t id target' := by
    intro g mid on observed target' recorded
    have dead : s.GatewayDead id := ⟨g, on.stored, on.dead⟩
    rcases observed.recorded on.dead recorded with before | ⟨sql, rfl, true⟩
    · exact (gate.gone id g target' on.stored before).2.later dead later
    · exact (on.gate sql true).later dead later
  cases ends with
  | same => exact gate
  | @stored g row gateways on differs revised becomes settled =>
    have key : row.id = id := revised.id.trans (Store.id_of_gateway? on.stored)
    refine gate.of_becomes later becomes fun target' recorded => ?_
    rw [key]
    exact ⟨revised.dead on.dead, passes on (.stored differs revised) target' recorded⟩
  | @finalized g mid row gateways time on observed dead unfinalized all revised becomes =>
    have key : row.id = id := by
      have same : mid.id = g.id := by
        cases observed with
        | same => rfl
        | stored _ revised' => exact revised'.id
      rw [revised.id, same]
      exact Store.id_of_gateway? on.stored
    refine gate.of_becomes later becomes fun target' recorded => ?_
    rw [key]
    refine ⟨revised.dead dead, passes on observed target' ?_⟩
    have resets : mid.resets { mid with deletionFinalizedAt := some time, updatedTime := time } =
        false := by
      have same : ({ mid with deletionFinalizedAt := some time, updatedTime := time } :
          Gateway).live = false := dead
      simp [Gateway.resets, same, dead, Gateway.sameResource, Gateway.sameSpec,
        Gateway.sameConditions]
    rw [revised.recorded resets .sql (by decide)] at recorded
    exact recorded

/-- **Every step of a call keeps the gate.** -/
theorem SQLChange.gate (change : SQLChange s t) (gate : SQLGate s) : SQLGate t := by
  have later := change.later
  cases change with
  | still gateways => exact gate.of_gateways later gateways
  | recorded ends => exact ends.gate gate
  | removed ends =>
    cases ends with
    | already => exact gate.of_gateways later rfl
    | deleted stored live revised becomes =>
      refine gate.of_becomes later becomes fun target recorded => ?_
      exact absurd recorded (revised.not_recorded (by simp [Gateway.resets, live]))
  | bound ends =>
    obtain ⟨effects, rfl⟩ := ends.touches.only
    exact gate.of_gateways later rfl
  | closed ends =>
    obtain ⟨effects, rfl⟩ := ends.touches.only
    exact gate.of_gateways later rfl
  | completed ends =>
    obtain ⟨effects, rfl⟩ := ends.touches.only
    exact gate.of_gateways later rfl

/-- Others keep the gate. -/
theorem SQLWork.gate (work : SQLWork s t) (gate : SQLGate s) : SQLGate t := by
  have later := work.later
  cases work.gateways with
  | quiet gateways => exact gate.of_gateways later gateways
  | @created new row live stored inserted =>
    refine ⟨fun id g target found recorded => ?_⟩
    rw [Store.gateway?, Table.find?_insert? inserted] at found
    split at found
    · cases found
      unfold Gateway.insert at stored
      split_ifs at stored
      cases stored
      simp [CleanupOwner.targeted] at recorded
    · obtain ⟨dead, still⟩ := gate.gone id g target found recorded
      exact ⟨dead, still.later ⟨g, found, dead⟩ later⟩
  | written before after untouched stored becomes =>
    refine gate.of_becomes later becomes fun target recorded => ?_
    refine absurd recorded ((Gateway.revised_of_revise stored).not_recorded ?_)
    simp [Gateway.resets, before]

end Invariant

end Hypershell
