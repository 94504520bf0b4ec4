import Hypershell.Gateways.DeletionSteps

/-!
# Finalization happens once

Any number of deletions and cleanup observations of any Gateways, interleaved with
the work of others on live Gateways: the message that a deletion is complete is
published with the commit that finalizes it, at most once, and never before every
owner and every retained target is complete.

## Main definitions

* `DeletionChange`, `Finalizes` — the commits of calls, and those that finalize
* `GatewayWork` — what others do to Gateways
* `FinalizationInv` — the invariant

## Main results

* `DeletionChange.inv`, `GatewayWork.inv` — every step keeps it
* `DeletionChange.finalizes` — a finalized deletion is complete
-/

namespace Hypershell

open Foundation

/-- The messages that a Gateway's deletion is complete. -/
def Store.deletions (s : Store) (id : String) : Nat :=
  s.outbox.countP fun n => decide (n.sourceID = id ∧ n.kind = "gateway.deleted")

/-- What a stored row keeps: the state of an owner is that of its targets, a live row
has no observations, and a complete one is finalized. -/
structure Gateway.Kept (g : Gateway) : Prop where
  targeted : ∀ owner ∈ CleanupOwner.targeted,
    g.cleanupState owner = (!g.live && g.targetsComplete owner)
  fresh : g.live = true →
    (∀ owner, g.cleanupState owner = false) ∧ g.deletionFinalizedAt = none
  finalized : g.complete = true → g.deletionFinalizedAt.isSome = true

/-- Every row is kept, and the completion of its deletion was published exactly if it
is finalized. -/
structure FinalizationInv (s : Store) : Prop where
  kept : ∀ id g, s.gateway? id = some g → g.Kept
  published : ∀ id, s.deletions id =
    if (s.gateway? id).any fun g => g.deletionFinalizedAt.isSome then 1 else 0

/-- What others do to Gateways: create them and write live ones, through the trigger,
without touching the finalization. -/
inductive GatewayWork (s t : Store) : Prop
  | quiet (gateways : t.gateways = s.gateways) (outbox : ∀ id, t.deletions id = s.deletions id)
  | created {new row : Gateway} (live : new.live = true) (stored : Gateway.insert new = .ok row)
      (inserted : s.gateways.insert? row = some t.gateways)
      (outbox : ∀ id, t.deletions id = s.deletions id)
  | written {old new row : Gateway} {time : Int} (before : old.live = true)
      (after : new.live = true) (untouched : new.deletionFinalizedAt = old.deletionFinalizedAt)
      (stored : Gateway.revise time old new = .ok row)
      (becomes : s.gateways.Becomes t.gateways old row)
      (outbox : ∀ id, t.deletions id = s.deletions id)

/-- One committed step of a call. -/
inductive DeletionChange (s t : Store) : Prop
  | still (gateways : t.gateways = s.gateways) (outbox : t.outbox = s.outbox)
  | recorded {id : String} {version : Int} {owner : CleanupOwner} {target : String}
      {complete : Bool} (ends : Recorded s id version owner target complete t)
  | removed {id : String} (ends : Removed s id t)

/-- A commit finalizes the deletion of a Gateway. -/
def Finalizes (s t : Store) (id : String) : Prop :=
  (∀ g, s.gateway? id = some g → g.deletionFinalizedAt = none) ∧
    ∃ g, t.gateway? id = some g ∧ g.deletionFinalizedAt.isSome = true

/-- A store before the first Gateway. -/
def NoGateways (s : Store) : Prop := s.gateways.rows = [] ∧ s.outbox = []

section Rows

variable {g old new row : Gateway}

/-- A row that only records observations resets none. -/
theorem Gateway.resets_observe {owner : CleanupOwner} {target : String} {complete : Bool}
    {time : Int} (dead : g.live = false) :
    g.resets { g.observe owner target complete with updatedTime := time } = false := by
  have same : ({ g.observe owner target complete with updatedTime := time } : Gateway).live =
      false := by
    unfold Gateway.observe
    split <;> exact dead
  rw [Gateway.resets, same, dead]
  unfold Gateway.observe
  split <;> simp [Gateway.sameResource, Gateway.sameSpec, Gateway.sameConditions]

theorem Revised.live_eq (revised : Revised old new row) : row.live = new.live := by
  rw [Meta.live, revised.deletedAt]
  rfl

/-- A row that is written while live is kept. -/
theorem Revised.kept_of_live (revised : Revised old new row) (live : new.live = true)
    (before : old.deletionFinalizedAt = none) (after : new.deletionFinalizedAt = none) :
    row.Kept := by
  have alive : row.live = true := revised.live_eq.trans live
  have resets : old.resets new = true := by simp [Gateway.resets, live]
  have clear : ∀ owner, row.cleanupState owner = false := by
    intro owner
    by_cases member : owner ∈ CleanupOwner.targeted
    · rw [revised.targeted owner member, alive]
      rfl
    · rw [revised.untargeted owner member, if_pos resets]
  refine ⟨revised.targeted, fun _ => ⟨clear, revised.unfinalized before after⟩, ?_⟩
  intro complete
  rw [Gateway.complete_iff] at complete
  have flag := complete .accounts
  rw [clear] at flag
  cases flag

/-- A deleted row is kept if it is finalized once it is complete. -/
theorem Revised.kept_of_dead (revised : Revised old new row) (dead : row.live = false)
    (settled : row.complete = false ∨ row.deletionFinalizedAt.isSome = true) : row.Kept := by
  refine ⟨revised.targeted, fun live => ?_, fun complete => ?_⟩
  · rw [dead] at live
    cases live
  · rcases settled with pending | finalized
    · rw [complete] at pending
      cases pending
    · exact finalized

theorem Gateway.kept_of_insert (live : new.live = true) (stored : Gateway.insert new = .ok row) :
    row.Kept ∧ row.deletionFinalizedAt = none := by
  unfold Gateway.insert at stored
  split_ifs at stored with refused
  cases stored
  rw [not_or, Option.not_isSome_iff_eq_none] at refused
  refine ⟨⟨?_, fun _ => ⟨fun _ => rfl, refused.1⟩, ?_⟩, refused.1⟩
  · intro owner member
    show false = (!new.live && _)
    rw [live]
    rfl
  · intro complete
    rw [Gateway.complete_iff] at complete
    cases complete .accounts

end Rows

/-! ### One step keeps the invariant -/

section Steps

variable {s t : Store} {id : String}

theorem NoGateways.inv (none : NoGateways s) : FinalizationInv s := by
  have missing : ∀ id, s.gateway? id = Option.none := by
    intro id
    rw [Store.gateway?, Table.find?, none.1]
    rfl
  refine ⟨fun id g stored => ?_, fun id => ?_⟩
  · rw [missing] at stored
    cases stored
  · rw [missing, Store.deletions, none.2]
    rfl

theorem deletions_updated (id' : String)
    (outbox : t.outbox = s.outbox ++ [⟨id', "Update", "gateway.updated"⟩]) (id : String) :
    t.deletions id = s.deletions id := by
  rw [Store.deletions, outbox, List.countP_append]
  simp [Store.deletions]

theorem deletions_deleted (id' : String)
    (outbox : t.outbox = s.outbox ++ [⟨id', "Delete", "gateway.deleted"⟩]) (id : String) :
    t.deletions id = s.deletions id + if id = id' then 1 else 0 := by
  rw [Store.deletions, outbox, List.countP_append, List.countP_singleton]
  simp [Store.deletions, eq_comm]

/-- One row in the place of another keeps the invariant, if it is kept and is published
exactly when it becomes finalized. -/
theorem FinalizationInv.of_becomes {g row : Gateway} (inv : FinalizationInv s)
    (becomes : s.gateways.Becomes t.gateways g row) (kept : row.Kept)
    (permanent : g.deletionFinalizedAt.isSome = true → row.deletionFinalizedAt.isSome = true)
    (published : ∀ id, t.deletions id = s.deletions id +
      if id = row.id ∧ g.deletionFinalizedAt = none ∧ row.deletionFinalizedAt.isSome = true
      then 1 else 0) : FinalizationInv t := by
  have find : ∀ id, t.gateway? id = if id = row.id then some row else s.gateway? id :=
    becomes.find?
  have stored : s.gateway? row.id = some g := becomes.stored
  refine ⟨fun id g' found => ?_, fun id => ?_⟩
  · rw [find] at found
    split at found
    · cases found
      exact kept
    · exact inv.kept id g' found
  · rw [published, inv.published, find]
    by_cases here : id = row.id
    · rw [here, if_pos rfl, stored]
      cases before : g.deletionFinalizedAt with
      | none => cases after : row.deletionFinalizedAt <;> simp [before, after]
      | some d =>
        have after : row.deletionFinalizedAt.isSome = true := permanent (by rw [before]; rfl)
        simp [before, after]
    · simp [here]

theorem Gateway.observe_live (g : Gateway) (owner : CleanupOwner) (target : String)
    (complete : Bool) : (g.observe owner target complete).toMeta = g.toMeta := by
  unfold Gateway.observe
  split <;> rfl

theorem Gateway.observe_finalized (g : Gateway) (owner : CleanupOwner) (target : String)
    (complete : Bool) :
    (g.observe owner target complete).deletionFinalizedAt = g.deletionFinalizedAt := by
  unfold Gateway.observe
  split <;> rfl

/-- A stored observation leaves the finalization as it was. -/
theorem Revised.finalized_observe {g row : Gateway} {owner : CleanupOwner} {target : String}
    {complete : Bool} {time : Int}
    (revised : Revised g { g.observe owner target complete with updatedTime := time } row) :
    row.deletionFinalizedAt = g.deletionFinalizedAt := by
  cases before : g.deletionFinalizedAt with
  | none => exact revised.unfinalized before ((g.observe_finalized ..).trans before)
  | some d =>
    rw [← before]
    exact revised.finalized (by rw [before]; rfl)

theorem Revised.live_observe {g row : Gateway} {owner : CleanupOwner} {target : String}
    {complete : Bool} {time : Int}
    (revised : Revised g { g.observe owner target complete with updatedTime := time } row) :
    row.live = g.live := by
  rw [revised.live_eq, Meta.live, Meta.live]
  show (g.observe owner target complete).deletedAt.isNone = _
  rw [g.observe_live owner target complete]

/-- **The record of an observation keeps the invariant.** -/
theorem Recorded.inv {version : Int} {owner : CleanupOwner} {target : String} {complete : Bool}
    (ends : Recorded s id version owner target complete t) (inv : FinalizationInv s) :
    FinalizationInv t := by
  cases ends with
  | same => exact inv
  | @stored g row gateways on differs revised becomes settled =>
    have same := revised.finalized_observe
    have dead : row.live = false := revised.live_observe.trans on.dead
    refine inv.of_becomes becomes (revised.kept_of_dead dead settled) ?_ fun id' => ?_
    · rw [same]
      exact fun is => is
    · have never : ¬ (id' = row.id ∧ g.deletionFinalizedAt = none ∧
          g.deletionFinalizedAt.isSome = true) := by
        rintro ⟨-, none, some⟩
        rw [none] at some
        cases some
      rw [deletions_updated id rfl, same, if_neg never]
      rfl
  | @finalized g mid row gateways time on observed dead unfinalized all revised becomes =>
    obtain ⟨some, dead', -⟩ := revised.finalizes unfinalized rfl
    have before : g.deletionFinalizedAt = none := by
      cases observed with
      | same => exact unfinalized
      | stored _ revised' => rw [← revised'.finalized_observe]; exact unfinalized
    have key : row.id = id := by
      have same : mid.id = g.id := by
        cases observed with
        | same => rfl
        | stored _ revised' => exact revised'.id
      rw [revised.id, same]
      exact Store.id_of_gateway? on.stored
    refine inv.of_becomes becomes (revised.kept_of_dead dead' (Or.inr some)) (fun _ => some) ?_
    intro id'
    rw [deletions_deleted id rfl, key]
    simp [before, some]

/-- The deletion keeps the invariant. -/
theorem Removed.inv (ends : Removed s id t) (inv : FinalizationInv s) : FinalizationInv t := by
  cases ends with
  | already => exact ⟨inv.kept, inv.published⟩
  | @deleted g row gateways d stored live revised becomes =>
    have before : g.deletionFinalizedAt = none := ((inv.kept id g stored).fresh live).2
    have after : row.deletionFinalizedAt = none := revised.unfinalized before before
    have resets : g.resets { g with deletedAt := some s.time } = true := by
      simp [Gateway.resets, live]
    -- The deletion drops every observation, so that nothing is complete.
    have pending : row.complete = false := by
      rw [← Bool.not_eq_true, Gateway.complete_iff]
      intro complete
      have flag := complete .accounts
      rw [revised.untargeted _ (by decide), if_pos resets] at flag
      cases flag
    have dead : row.live = false := revised.live_eq
    refine inv.of_becomes becomes (revised.kept_of_dead dead (Or.inl pending)) ?_ fun id' => ?_
    · rw [before]
      exact fun never => nomatch never
    · rw [deletions_updated id rfl, after]
      simp

/-- **One step of a call keeps the invariant.** -/
theorem DeletionChange.inv (change : DeletionChange s t) (inv : FinalizationInv s) :
    FinalizationInv t := by
  cases change with
  | still gateways outbox =>
    refine ⟨fun id g stored => ?_, fun id => ?_⟩
    · rw [Store.gateway?, gateways] at stored
      exact inv.kept id g stored
    · rw [Store.deletions, outbox, Store.gateway?, gateways]
      exact inv.published id
  | recorded ends => exact ends.inv inv
  | removed ends => exact ends.inv inv

/-- **Others keep the invariant.** -/
theorem GatewayWork.inv (work : GatewayWork s t) (inv : FinalizationInv s) :
    FinalizationInv t := by
  cases work with
  | quiet gateways outbox =>
    refine ⟨fun id g stored => ?_, fun id => ?_⟩
    · rw [Store.gateway?, gateways] at stored
      exact inv.kept id g stored
    · rw [outbox, Store.gateway?, gateways]
      exact inv.published id
  | @created new row live stored inserted outbox =>
    obtain ⟨kept, unfinalized⟩ := Gateway.kept_of_insert live stored
    have find : ∀ id, t.gateway? id = if id = row.id then some row else s.gateway? id :=
      Table.find?_insert? inserted
    have absent : s.gateway? row.id = none := Table.absent_of_insert? inserted
    refine ⟨fun id g found => ?_, fun id => ?_⟩
    · rw [find] at found
      split at found
      · cases found
        exact kept
      · exact inv.kept id g found
    · rw [outbox, inv.published, find]
      by_cases here : id = row.id
      · rw [here, if_pos rfl, absent]
        simp [unfinalized]
      · rw [if_neg here]
  | @written old new row time before after untouched stored becomes outbox =>
    have revised := Gateway.revised_of_revise stored
    have here : s.gateway? row.id = some old := becomes.stored
    have fresh : old.deletionFinalizedAt = none := ((inv.kept _ old here).fresh before).2
    have kept := revised.kept_of_live after fresh (untouched.trans fresh)
    have unfinalized := revised.unfinalized fresh (untouched.trans fresh)
    refine inv.of_becomes becomes kept ?_ fun id' => ?_
    · rw [fresh]
      exact fun never => nomatch never
    · rw [outbox, unfinalized]
      simp

/-! ### The commit that finalizes -/

/-- Where one row took the place of another, only that one can be finalized. -/
theorem Finalizes.of_becomes {g row : Gateway} (finalizes : Finalizes s t id)
    (becomes : s.gateways.Becomes t.gateways g row) :
    id = row.id ∧ g.deletionFinalizedAt = none ∧ row.deletionFinalizedAt.isSome = true := by
  obtain ⟨before, after, found, some⟩ := finalizes
  rw [Store.gateway?, becomes.find?] at found
  split at found
  · rename_i here
    cases found
    exact ⟨here, before g (by rw [here]; exact becomes.stored), some⟩
  · rw [before after found] at some
    cases some

theorem Finalizes.elsewhere (finalizes : Finalizes s t id)
    (gateways : t.gateways = s.gateways) : False := by
  obtain ⟨before, after, found, some⟩ := finalizes
  rw [Store.gateway?, gateways] at found
  rw [before after found] at some
  cases some

/-- **A finalized deletion is complete**: every owner, and every target. -/
theorem DeletionChange.finalizes (change : DeletionChange s t)
    (finalizes : Finalizes s t id) :
    ∃ g, t.gateway? id = some g ∧ g.live = false ∧
      (∀ owner, g.cleanupState owner = true) ∧
      ∀ owner ∈ CleanupOwner.targeted, g.targetsComplete owner = true := by
  cases change with
  | still gateways => exact (finalizes.elsewhere gateways).elim
  | recorded ends =>
    cases ends with
    | same => exact (finalizes.elsewhere rfl).elim
    | stored on differs revised becomes settled =>
      obtain ⟨-, before, after⟩ := finalizes.of_becomes becomes
      rw [revised.finalized_observe, before] at after
      cases after
    | @finalized g mid row gateways time on observed dead unfinalized all revised becomes =>
      obtain ⟨rfl, -, -⟩ := finalizes.of_becomes becomes
      obtain ⟨-, dead', complete⟩ := revised.finalizes unfinalized rfl
      have states := Gateway.complete_iff.mp complete
      refine ⟨row, becomes.find?_new, dead', states, fun owner member => ?_⟩
      have state := revised.targeted owner member
      rw [states owner, dead'] at state
      exact state.symm
  | removed ends =>
    cases ends with
    | already => exact (finalizes.elsewhere rfl).elim
    | @deleted g row gateways d stored live revised becomes =>
      obtain ⟨-, before, after⟩ := finalizes.of_becomes becomes
      rw [revised.unfinalized before before] at after
      cases after

/-- What is published stays published. -/
theorem DeletionChange.published (change : DeletionChange s t) :
    s.deletions id ≤ t.deletions id := by
  have grows : ∃ more, t.outbox = s.outbox ++ more := by
    cases change with
    | still gateways outbox => exact ⟨[], by rw [outbox, List.append_nil]⟩
    | recorded ends =>
      cases ends with
      | same => exact ⟨[], (List.append_nil _).symm⟩
      | stored => exact ⟨_, rfl⟩
      | finalized => exact ⟨_, rfl⟩
    | removed ends =>
      cases ends with
      | already => exact ⟨[], (List.append_nil _).symm⟩
      | deleted => exact ⟨_, rfl⟩
  obtain ⟨more, outbox⟩ := grows
  rw [Store.deletions, Store.deletions, outbox, List.countP_append]
  exact Nat.le_add_right _ _

end Steps

end Hypershell
