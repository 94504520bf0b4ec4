import Hypershell.ServiceAccounts.Sample

/-!
# Lifecycle and quotas of a running system

Any number of creations, changes, recoveries and cleanups run over one store, in
any order, with any provider replies and with crashes anywhere.  The lifecycle of
every account is monotone in all of their runs, and quotas, reserved names and slots
hold in every reachable store.

## Main results

* `lifecycle_monotone` — no run takes an account back
* `slots_sound` — quotas, names, and slots that only the provider's confirmation frees
-/

namespace Hypershell

open Foundation

section Lifecycle

variable [Platform]

/-- The systems of account processes and cleanups. -/
abbrev CleanupReachable (limits : Limits) (init : Store → Prop)
    (x : System Env Store Event Reply) : Prop :=
  System.Reachable {p | CleanupProcess limits p} Elsewhere init x

/-- Some steps of a system of account processes and cleanups. -/
abbrev CleanupSteps (limits : Limits) :
    System Env Store Event Reply → System Env Store Event Reply → Prop :=
  Relation.ReflTransGen (System.Moves {p | CleanupProcess limits p} Elsewhere)

/-! ### The lifecycle -/

/-- **Every run follows the lifecycle.** -/
theorem later_of_steps {limits : Limits} {x y : System Env Store Event Reply}
    (reach : CleanupReachable limits (fun _ => True) x) (steps : CleanupSteps limits x y) :
    Later x.store y.store := by
  have governed : System.Governed (accountContract limits (fun _ => True) fun _ _ => True)
      Answered {p | CleanupProcess limits p} Elsewhere fun _ => True :=
    cleanup_governed (fun _ _ => trivial) (fun _ _ _ _ _ => trivial) fun _ _ _ _ => trivial
  exact (governed.good_later (governed.good_of_reachable reach) steps).2

/-- **No run takes an account back.**  A terminal status stays terminal, a deletion
request is not weakened, roles are not raised, slots not taken again and deleted rows
not revived. -/
theorem lifecycle_monotone {limits : Limits} {x y : System Env Store Event Reply}
    (reach : CleanupReachable limits (fun _ => True) x) (steps : CleanupSteps limits x y)
    {id : String} {a : ServiceAccount} (stored : x.store.account? id = some a) :
    ∃ b, y.store.account? id = some b ∧
      ((a.status = .error ∨ a.status = .revoking ∨ a.status = .deleting ∨
          a.status = .revoked ∨ a.status = .expired) →
        b.status ≠ .provisioning ∧ b.status ≠ .ready ∧ b.status ≠ .degraded) ∧
      (a.status = .deleting →
        b.status ≠ .revoking ∧ b.status ≠ .revoked ∧ b.status ≠ .expired) ∧
      (a.role = .user → b.role ≠ .admin) ∧
      (a.active = false → b.active = false) ∧
      (a.live = false → b.live = false) := by
  obtain ⟨b, stored', follows⟩ := (later_of_steps reach steps).accounts id a stored
  refine ⟨b, stored', ?_, ?_, ?_, follows.active, ?_⟩
  · intro ended
    have settled : a.status.terminal = true := by
      rcases ended with is | is | is | is | is <;> rw [is] <;> rfl
    have settled' := follows.terminal settled
    refine ⟨?_, ?_, ?_⟩ <;> intro is <;> rw [is] at settled' <;> cases settled'
  · intro requested
    rw [follows.deleting requested]
    simp
  · intro low
    rw [follows.role low]
    simp
  · intro dead
    rw [follows.frozen dead]
    exact dead

end Lifecycle

open Sample in
/-- A deletion request survives the start of a recovery and of a cleanup. -/
theorem lifecycle_monotone_sample :
    let s := Sample.store (some (Sample.account .deleting .user none)) none
    let jobs : List (Job Env Store Event Reply) :=
      [⟨Reply.recovered <$> recover Sample.service Sample.gatewayID Sample.accountID 2, []⟩]
    ∃ b, (System.mk s jobs).store.account? Sample.accountID = some b ∧
      b.status ≠ .revoking ∧ b.status ≠ .revoked ∧ b.status ≠ .expired := by
  intro s jobs
  have reach : CleanupReachable Sample.service.limits (fun _ => True)
      (⟨s, []⟩ : System Env Store Event Reply) := ⟨s, trivial, .refl⟩
  have steps : CleanupSteps Sample.service.limits ⟨s, []⟩ ⟨s, jobs⟩ :=
    .single ⟨none, .start (.account (.recover Sample.service rfl 2 _ _))⟩
  obtain ⟨b, stored, -, kept, -⟩ := lifecycle_monotone reach steps
    (show s.account? Sample.accountID = some (Sample.account .deleting .user none) by
      decide +kernel)
  exact ⟨b, stored, kept rfl⟩

/-! ### Quotas, names and slots -/

section Slots

variable [Platform]

/-- The live active rows of a Gateway. -/
def Store.activeIn (s : Store) (gatewayID : String) : Nat :=
  s.accounts.rows.countP fun a => a.live && a.active && decide (a.gatewayID = gatewayID)

/-- Those of one creator. -/
def Store.activeOf (s : Store) (gatewayID creator : String) : Nat :=
  s.accounts.rows.countP fun a => a.live && a.active && decide (a.gatewayID = gatewayID) &&
    decide (a.createdByUserID = creator)

omit [Platform] in
/-- The count for the empty creator is the count of the Gateway. -/
theorem activeIn_eq (s : Store) (gatewayID : String) :
    s.activeIn gatewayID = s.countActive gatewayID "" := by
  unfold Store.activeIn Store.countActive
  refine List.countP_congr fun a _ => ?_
  simp only [Store.holdsSlot, decide_true, Bool.true_or, Bool.and_true, Bool.and_eq_true]
  tauto

omit [Platform] in
theorem activeOf_eq (s : Store) (gatewayID : String) {creator : String} (named : creator ≠ "") :
    s.activeOf gatewayID creator = s.countActive gatewayID creator := by
  unfold Store.activeOf Store.countActive
  refine List.countP_congr fun a _ => ?_
  simp only [Store.holdsSlot, decide_eq_false named, Bool.false_or, Bool.and_eq_true]
  tauto

/-- Nobody creates accounts without a name. -/
theorem activeOf_unnamed {s : Store} (rows : RowsInv s) (gatewayID : String) :
    s.activeOf gatewayID "" = 0 := by
  refine List.countP_eq_zero.mpr fun a member => ?_
  have named := (rows a.id a (Table.find?_of_mem member)).creator
  simp [named]

omit [Platform] in
/-- The unique index on reserved names. -/
theorem name_unique {s : Store} {id id' : String} {a b : ServiceAccount} {n : String}
    (first : s.account? id = some a) (second : s.account? id' = some b)
    (gateway : a.gatewayID = b.gatewayID) (reserves : a.activeName = some n)
    (reserves' : b.activeName = some n) : id = id' := by
  by_contra apart
  have separate := Table.clash_of_find? first second apart
  simp [Relation.clash, gateway, reserves, reserves', sameEntry] at separate

/-- **Quotas, names and slots.**  In every reachable store the active accounts fit the
quotas and reserve different names, and a step frees a slot only if its process saw
the provider confirm the deletion or revocation of that account. -/
theorem slots_sound {limits : Limits} (gatewayLimit : 0 < limits.perGateway)
    (creatorLimit : 0 < limits.perCreator) {x : System Env Store Event Reply}
    (reach : CleanupReachable limits NoAccounts x) :
    (∀ gatewayID, (x.store.activeIn gatewayID : Int) ≤ limits.perGateway) ∧
    (∀ gatewayID creator, (x.store.activeOf gatewayID creator : Int) ≤ limits.perCreator) ∧
    (∀ id a, x.store.account? id = some a →
      (a.active = true ↔ a.activeName.isSome = true) ∧
      ∀ n, a.activeName = some n → n = Platform.toLower (trimSpace a.name)) ∧
    (∀ id id' a b n, x.store.account? id = some a → x.store.account? id' = some b →
      a.gatewayID = b.gatewayID → a.activeName = some n → b.activeName = some n → id = id') ∧
    ∀ record y, System.Step {p | CleanupProcess limits p} Elsewhere x record y →
      ∀ id a b, x.store.account? id = some a → y.store.account? id = some b →
        a.active = true → b.active = false →
        ∃ seen, record = some seen ∧ Released (seen.history ++ seen.log) a := by
  have governed : System.Governed (accountContract limits (AccountsInv limits) fun _ _ => True)
      Answered {p | CleanupProcess limits p} Elsewhere NoAccounts :=
    cleanup_governed (fun _ none => none.inv gatewayLimit creatorLimit)
      (fun _ _ _ change inv => change.inv inv) fun _ _ elsewhere inv => elsewhere.inv inv
  have inv : AccountsInv limits x.store := (governed.good_of_reachable reach).inv
  refine ⟨?_, ?_, ?_, ?_, ?_⟩
  · intro gatewayID
    rw [activeIn_eq]
    exact inv.gatewayQuota gatewayID
  · intro gatewayID creator
    by_cases named : creator = ""
    · rw [named, activeOf_unnamed inv.rows]
      exact le_of_lt creatorLimit
    · rw [activeOf_eq _ _ named]
      exact inv.creatorQuota gatewayID creator named
  · intro id a stored
    have row := inv.rows id a stored
    refine ⟨by rw [row.slot], fun n reserves => ?_⟩
    obtain ⟨lowered, trimmed⟩ := row.name n reserves
    rw [trimmed]
    exact lowered
  · intro id id' a b n first second gateway reserves reserves'
    exact name_unique first second gateway reserves reserves'
  · intro record y step id a b stored stored' held free
    have unchanged : y.store.accounts ≠ x.store.accounts := by
      intro same
      rw [Store.account?, same] at stored'
      have row : a = b := Option.some.inj (stored.symm.trans stored')
      rw [row, free] at held
      cases held
    cases record with
    | none =>
      cases step with
      | start known => exact absurd rfl unchanged
      | crash => exact absurd rfl unchanged
      | outside moved => exact absurd moved.accounts unchanged
    | some seen =>
      refine ⟨seen, rfl, ?_⟩
      rcases (governed.change_of_step reach step).2 with change | still
      · cases change.accounts with
        | still accounts => exact absurd accounts unchanged
        | @reserved row checked inserted =>
          have other : id ≠ Relation.key row := by
            rintro rfl
            rw [Store.account?, Table.absent_of_insert? inserted] at stored
            cases stored
          rw [Store.account?, Table.find?_insert? inserted, if_neg other] at stored'
          have row : a = b := Option.some.inj (stored.symm.trans stored')
          rw [row, free] at held
          cases held
        | @moved a' b' live becomes move =>
          rw [Store.account?, becomes.find?] at stored'
          split at stored'
          · rename_i here
            have old : a' = a := by
              have found := becomes.stored
              rw [← here] at found
              exact Option.some.inj (found.symm.trans stored)
            cases stored'
            subst old
            exact move.released held free
          · have row : a = b := Option.some.inj (stored.symm.trans stored')
            rw [row, free] at held
            cases held
      · rw [still] at unchanged
        exact absurd rfl unchanged

end Slots

open Sample in
/-- The quota of the sample holds once a creation has started. -/
theorem slots_sound_sample :
    let s := Sample.store none none
    let jobs : List (Job Env Store Event Reply) :=
      [⟨Reply.created <$> create Sample.service 2 Sample.principal Sample.gatewayID
        ⟨"Robot", none, "", "", none⟩, []⟩]
    ((System.mk s jobs).store.activeIn Sample.gatewayID : Int) ≤ 1 := by
  intro s jobs
  have reach : CleanupReachable Sample.service.limits NoAccounts ⟨s, jobs⟩ :=
    ⟨s, rfl, .single ⟨none, .start (.account (.create Sample.service rfl 2 _ _ _))⟩⟩
  exact (slots_sound (by decide) (by decide) reach).1 Sample.gatewayID

end Hypershell
