import Mathlib.Data.List.Perm.Subperm
import Hypershell.Gateways.Queries

/-!
# The views of grants

A list of grants is shown with the names of its roles and users.  These are looked up in
batches, each ID once, and the result is what one lookup for each grant would give.

## Main definitions

* `Store.roleName`, `Store.username`, `Store.view` — a view by separate lookups
* `Viewable` — a grant that can be shown
* `projectionLookups` — the number of queries that a projection needs

## Main results

* `wp_lookupNames` — a lookup, whose result is the one of separate lookups
* `wp_projectGrants` — a projection succeeds exactly if the rows are not too many, each can
  be shown and no lookup fails, and returns the views of separate lookups
-/

namespace Hypershell

open Foundation

/-! ### Separate lookups -/

/-- The name under an ID, empty if there is none. -/
def nameIn (table : List (String × String)) (id : String) : String :=
  ((table.find? fun entry => decide (entry.1 = id)).map Prod.snd).getD ""

namespace Store

/-- The name of a live role, empty if there is none. -/
def roleName (s : Store) (id : String) : String :=
  match s.getRole id with
  | .ok role => role.name
  | .error _ => ""

/-- The username of a live user, empty if there is none. -/
def username (s : Store) (id : String) : String :=
  match s.getUser id with
  | .ok user => user.username
  | .error _ => ""

/-- The view of a grant by separate lookups. -/
def view (s : Store) (b : RoleBinding) : GrantView :=
  ⟨b, s.roleName b.roleID, s.username b.userID⟩

end Store

/-- A grant that can be shown: its scope agrees with its Gateway, and its role has a name. -/
def Viewable (s : Store) (b : RoleBinding) : Prop :=
  (b.scope = "gateway" ∧ b.gatewayID ≠ none ∨ b.scope = "global" ∧ b.gatewayID = none) ∧
    s.roleName b.roleID ≠ ""

section Tables

variable {table : List (String × String)} {id name : String}

theorem nameIn_of_mem (once : (table.map Prod.fst).Nodup) (member : (id, name) ∈ table) :
    nameIn table id = name := by
  induction table with
  | nil => cases member
  | cons entry rest ih =>
    rw [List.map_cons, List.nodup_cons] at once
    unfold nameIn
    rcases List.mem_cons.mp member with rfl | later
    · rw [List.find?_cons_of_pos (by simp)]
      rfl
    · have other : entry.1 ≠ id := by
        rintro rfl
        exact once.1 (List.mem_map.mpr ⟨_, later, rfl⟩)
      rw [List.find?_cons_of_neg (by simpa using other)]
      exact ih once.2 later

theorem nameIn_of_absent (absent : ∀ name, (id, name) ∉ table) : nameIn table id = "" := by
  have none : table.find? (fun entry => decide (entry.1 = id)) = none := by
    refine List.find?_eq_none.mpr fun entry member same => ?_
    rw [decide_eq_true_eq] at same
    refine absent entry.2 ?_
    rw [← same]
    exact member
  rw [nameIn, none]
  rfl

/-- The keys of a table differ. -/
theorem Foundation.Table.nodup_keys {R K : Type} [Relation R K] (t : Table R) :
    (t.rows.map Relation.key).Nodup :=
  List.pairwise_map.mpr (t.separate.imp fun apart => apart.1)

theorem nodup_roleNames (s : Store) : (s.roleNames.map Prod.fst).Nodup := by
  rw [Store.roleNames, List.map_map]
  exact s.directory.roles.nodup_keys.sublist (List.filter_sublist.map _)

theorem nodup_usernames (s : Store) : (s.usernames.map Prod.fst).Nodup := by
  rw [Store.usernames, List.map_map]
  exact s.directory.users.nodup_keys.sublist (List.filter_sublist.map _)

/-- A live row is read under its ID. -/
theorem Foundation.Table.getLive_of_mem {R : Type} [Relation R String] {t : Table R}
    {live : R → Bool} {row : R} (member : row ∈ t.rows) (alive : live row = true) :
    t.getLive (Relation.key row) live = .ok row := by
  rw [Table.getLive, Table.find?_of_mem member]
  exact if_pos alive

/-- **A name of the list of roles** is the one that a separate lookup gives. -/
theorem nameIn_roleNames (s : Store) (id : String) : nameIn s.roleNames id = s.roleName id := by
  unfold Store.roleName
  cases read : s.getRole id with
  | ok role =>
    obtain ⟨found, live⟩ := Table.getLive_ok read
    refine nameIn_of_mem (nodup_roleNames s) ?_
    rw [← show role.id = id from Table.key_of_find? found]
    exact List.mem_map_of_mem (f := fun r : Role => (r.id, r.name))
      (List.mem_filter.mpr ⟨Table.mem_of_find? found, live⟩)
  | error e =>
    refine nameIn_of_absent fun name member => ?_
    obtain ⟨role, kept, same⟩ := List.mem_map.mp member
    obtain ⟨stored, live⟩ := List.mem_filter.mp kept
    cases same
    exact absurd (read.symm.trans (Table.getLive_of_mem stored live)) (by simp)

/-- **A name of the list of users** is the one that a separate lookup gives. -/
theorem nameIn_usernames (s : Store) (id : String) : nameIn s.usernames id = s.username id := by
  unfold Store.username
  cases read : s.getUser id with
  | ok user =>
    obtain ⟨found, live⟩ := Table.getLive_ok read
    refine nameIn_of_mem (nodup_usernames s) ?_
    rw [← show user.id = id from Table.key_of_find? found]
    exact List.mem_map_of_mem (f := fun u : User => (u.id, u.username))
      (List.mem_filter.mpr ⟨Table.mem_of_find? found, live⟩)
  | error e =>
    refine nameIn_of_absent fun name member => ?_
    obtain ⟨user, kept, same⟩ := List.mem_map.mp member
    obtain ⟨stored, live⟩ := List.mem_filter.mp kept
    cases same
    exact absurd (read.symm.trans (Table.getLive_of_mem stored live)) (by simp)

end Tables

/-! ### Lookups in batches -/

namespace Names

variable {names : Names} {table : List (String × String)} {ids : List String}

/-- Every name that was looked up is the one of the table. -/
def Right (names : Names) (table : List (String × String)) : Prop :=
  ∀ id, (names id).isSome = true → names id = some (nameIn table id)

/-- The IDs that a marking adds. -/
theorem mark_spec (names : Names) (ids : List String) :
    (names.mark ids).1.Nodup ∧ (names.mark ids).1.length ≤ ids.length ∧
      (∀ id, id ∈ (names.mark ids).1 ↔ id ∈ ids ∧ names id = none) ∧
      ∀ id, (names.mark ids).2 id =
        if id ∈ ids ∧ names id = none then some "" else names id := by
  induction ids using List.reverseRecOn with
  | nil => simp [mark]
  | append_singleton ids last ih =>
    obtain ⟨once, short, new, marked⟩ := ih
    have step : names.mark (ids ++ [last]) =
        if ((names.mark ids).2 last).isSome then names.mark ids
        else ((names.mark ids).1 ++ [last],
          Function.update (names.mark ids).2 last (some "")) := by
      rw [mark, List.foldl_append]
      rfl
    rw [step]
    by_cases seen : ((names.mark ids).2 last).isSome = true
    · have same : ∀ id, id ∈ ids ++ [last] ∧ names id = none ↔ id ∈ ids ∧ names id = none := by
        intro id
        rw [List.mem_append, List.mem_singleton]
        refine ⟨fun ⟨inside, unknown⟩ => ⟨inside.elim (fun h => h) fun isLast => ?_, unknown⟩,
          fun ⟨inside, unknown⟩ => ⟨Or.inl inside, unknown⟩⟩
        subst isLast
        by_contra fresh
        rw [marked, if_neg fun old => fresh old.1, unknown] at seen
        cases seen
      rw [if_pos seen]
      simp only [same]
      exact ⟨once, by rw [List.length_append]; omega, new, marked⟩
    · have unknown : names last = none := by
        by_contra known
        rw [marked, if_neg fun old => known old.2] at seen
        exact seen (Option.isSome_iff_ne_none.mpr known)
      have fresh : last ∉ ids := by
        intro inside
        rw [marked, if_pos ⟨inside, unknown⟩] at seen
        exact seen rfl
      rw [if_neg seen]
      refine ⟨?_, by simp only [List.length_append, List.length_singleton]; omega, fun id => ?_,
        fun id => ?_⟩
      · rw [List.nodup_append]
        refine ⟨once, List.nodup_singleton _, fun id inside other isLast same => ?_⟩
        rw [same, List.mem_singleton.mp isLast] at inside
        exact fresh ((new last).mp inside).1
      · rw [List.mem_append, List.mem_append, List.mem_singleton, new]
        constructor
        · rintro (inside | rfl)
          · exact ⟨Or.inl inside.1, inside.2⟩
          · exact ⟨Or.inr rfl, unknown⟩
        · rintro ⟨inside | rfl, missing⟩
          · exact Or.inl ⟨inside, missing⟩
          · exact Or.inr rfl
      · by_cases same : id = last
        · subst same
          simp [unknown]
        · simp [marked, same]

theorem fill_of_absent {found : List (String × String)} {id : String}
    (absent : ∀ entry ∈ found, entry.1 ≠ id) : names.fill found id = names id := by
  induction found using List.reverseRecOn with
  | nil => rfl
  | append_singleton found last ih =>
    rw [fill, List.foldl_append]
    show Function.update (names.fill found) last.1 (some last.2) id = _
    rw [Function.update_of_ne
      (absent last (List.mem_append_right _ (List.mem_singleton_self _))).symm]
    exact ih fun entry member => absent entry (List.mem_append_left _ member)

theorem fill_of_mem {found : List (String × String)} {id name : String}
    (once : (found.map Prod.fst).Nodup) (member : (id, name) ∈ found) :
    names.fill found id = some name := by
  induction found using List.reverseRecOn with
  | nil => cases member
  | append_singleton found last ih =>
    rw [List.map_append, List.nodup_append] at once
    rw [fill, List.foldl_append]
    show Function.update (names.fill found) last.1 (some last.2) id = _
    rcases List.mem_append.mp member with earlier | final
    · have other : id ≠ last.1 :=
        once.2.2 id (List.mem_map_of_mem earlier) last.1 (List.mem_singleton_self _)
      rw [Function.update_of_ne other]
      exact ih once.1 earlier
    · cases List.mem_singleton.mp final
      exact Function.update_self ..

/-- What was looked up, after a marking. -/
theorem isSome_mark (names : Names) (ids : List String) (id : String) :
    ((names.mark ids).2 id).isSome = ((names id).isSome || decide (id ∈ ids)) := by
  rw [(mark_spec names ids).2.2.2]
  cases seen : names id <;> by_cases member : id ∈ ids <;> simp [member]

/-- A marking adds nothing exactly if every ID was looked up. -/
theorem mark_eq_nil_iff (names : Names) (ids : List String) :
    (names.mark ids).1 = [] ↔ ∀ id ∈ ids, (names id).isSome = true := by
  rw [List.eq_nil_iff_forall_not_mem]
  refine forall_congr' fun id => ?_
  rw [(mark_spec names ids).2.2.1, not_and, Option.isSome_iff_ne_none]

/-- The number of queries of one lookup. -/
def count (names : Names) (ids : List String) : Nat :=
  if (names.mark ids).1 = [] then 0 else 1

theorem count_congr {names names' : Names} (same : ∀ id, (names id).isSome = (names' id).isSome)
    (ids : List String) : names.count ids = names'.count ids := by
  unfold count
  simp only [mark_eq_nil_iff, same]

end Names

/-- The number of queries for some batches. -/
def lookups (roles users : Names) : List (List RoleBinding) → Nat
  | [] => 0
  | batch :: rest =>
    roles.count (batch.map fun row => row.roleID) + users.count (batch.map fun row => row.userID) +
      lookups (roles.mark (batch.map fun row => row.roleID)).2
        (users.mark (batch.map fun row => row.userID)).2 rest

theorem lookups_congr {roles roles' users users' : Names} {parts : List (List RoleBinding)}
    (sameRoles : ∀ id, (roles id).isSome = (roles' id).isSome)
    (sameUsers : ∀ id, (users id).isSome = (users' id).isSome) :
    lookups roles users parts = lookups roles' users' parts := by
  induction parts generalizing roles roles' users users' with
  | nil => rfl
  | cons batch rest ih =>
    rw [lookups, lookups, Names.count_congr sameRoles, Names.count_congr sameUsers]
    congr 1
    refine ih (fun id => ?_) fun id => ?_
    · rw [Names.isSome_mark, Names.isSome_mark, sameRoles]
    · rw [Names.isSome_mark, Names.isSome_mark, sameUsers]

section Lookup

variable [Platform] {L : Type} {ω : Env} {c : Context Store Event L}
  {fails : Err → Context Store Event L → Prop} {named : Store → List (String × String)}
  {names : Names} {ids : List String}

/-- **A lookup** gives every ID that is asked for the name that a separate lookup would.  It
fails only if its query does. -/
theorem wp_lookupNames {ok : Names → Context Store Event L → Prop}
    (once : ((named c.store).map Prod.fst).Nodup) (bound : ids.length ≤ 100)
    (right : names.Right (named c.store))
    (fault : 0 < names.count ids → ω.fault c.tick = true → fails .storage (c.at (c.tick + 1)))
    (found : ∀ names', (∀ n < names.count ids, ω.fault (c.tick + n) = false) →
      names'.Right (named c.store) →
      (∀ id, (names' id).isSome = ((names id).isSome || decide (id ∈ ids))) →
      ok names' (c.at (c.tick + names.count ids))) :
    Tx.wp ω (lookupNames named names ids) ok fails c := by
  obtain ⟨distinct, short, isNew, marked⟩ := Names.mark_spec names ids
  have seen := Names.isSome_mark names ids
  unfold Names.count at fault found
  unfold lookupNames
  generalize names.mark ids = m at distinct short isNew marked seen fault found
  obtain ⟨new, names'⟩ := m
  dsimp only at distinct short isNew marked seen fault found
  -- What was found before is kept.
  have kept : ∀ id, id ∉ new → (names' id).isSome = true →
      names' id = some (nameIn (named c.store) id) := by
    intro id old known
    rw [marked, if_neg fun fresh => old ((isNew id).mpr fresh)] at known ⊢
    exact right id known
  cases new with
  | nil =>
    rw [if_pos rfl] at found
    exact found names' (fun _ never => absurd never (by omega))
      (fun id => kept id List.not_mem_nil) seen
  | cons first rest =>
    rw [if_neg (List.cons_ne_nil first rest)] at fault found
    dsimp only
    rw [Tx.wp_bind]
    cases smooth : ω.fault c.tick with
    | true => exact Action.wp_query_fault smooth (fault Nat.one_pos smooth)
    | false =>
      refine Action.wp_query_answer smooth (fun _ never => nomatch never) fun rows read => ?_
      rw [Except.ok.injEq] at read
      subst read
      have keys : (((named c.store).filter fun entry => decide (entry.1 ∈ first :: rest)).map
          Prod.fst).Nodup := once.sublist (List.filter_sublist.map _)
      have whole : ((named c.store).filter fun entry =>
          decide (entry.1 ∈ first :: rest)).length ≤ 100 := by
        have inside : ((named c.store).filter fun entry =>
            decide (entry.1 ∈ first :: rest)).map Prod.fst ⊆ first :: rest := by
          intro id member
          obtain ⟨entry, selected, rfl⟩ := List.mem_map.mp member
          exact of_decide_eq_true (List.mem_filter.mp selected).2
        have fewer := (List.subperm_of_subset keys inside).length_le
        rw [List.length_map] at fewer
        omega
      rw [Tx.wp_pure, List.take_of_length_le whole]
      have selects : ∀ id name, (id, name) ∈ named c.store → id ∈ first :: rest →
          names'.fill ((named c.store).filter fun entry => decide (entry.1 ∈ first :: rest)) id =
            some name := fun id name entry inside =>
        Names.fill_of_mem keys (List.mem_filter.mpr ⟨entry, decide_eq_true inside⟩)
      have absent : ∀ id, (∀ name, (id, name) ∈ named c.store → id ∉ first :: rest) →
          names'.fill ((named c.store).filter fun entry => decide (entry.1 ∈ first :: rest)) id =
            names' id := by
        intro id outside
        refine Names.fill_of_absent fun entry member same => ?_
        obtain ⟨stored, inside⟩ := List.mem_filter.mp member
        subst same
        exact outside entry.2 stored (of_decide_eq_true inside)
      refine found _ (fun n below => ?_) (fun id known => ?_) fun id => ?_
      · rw [Nat.lt_one_iff.mp below]
        exact smooth
      · by_cases inside : id ∈ first :: rest
        · by_cases stored : ∃ name, (id, name) ∈ named c.store
          · obtain ⟨name, entry⟩ := stored
            rw [selects id name entry inside, nameIn_of_mem once entry]
          · rw [absent id fun name entry => (stored ⟨name, entry⟩).elim, marked,
              if_pos ((isNew id).mp inside), nameIn_of_absent fun name entry => stored ⟨name, entry⟩]
        · rw [absent id fun _ _ => inside] at known ⊢
          exact kept id inside known
      · by_cases stored : ∃ name, (id, name) ∈ named c.store ∧ id ∈ first :: rest
        · obtain ⟨name, entry, inside⟩ := stored
          rw [selects id name entry inside, decide_eq_true ((isNew id).mp inside).1, Bool.or_true]
          rfl
        · rw [absent id fun name entry inside => stored ⟨name, entry, inside⟩]
          exact seen id

end Lookup

/-! ### Views -/

section Views

/-- **A view** has the names of separate lookups, and is refused unless it can be shown. -/
theorem viewGrant_eq {s : Store} {roles users : Names} {row : RoleBinding}
    (role : roles row.roleID = some (s.roleName row.roleID))
    (user : users row.userID = some (s.username row.userID)) :
    (Viewable s row → viewGrant roles users row = .ok (s.view row)) ∧
      (¬ Viewable s row → ∃ e, viewGrant roles users row = .error e) := by
  unfold viewGrant
  rw [role, user]
  constructor
  · rintro ⟨scope, named⟩
    have accepted : ¬ (row.scope = "global" ∧ row.gatewayID.isSome ∨
        row.scope = "gateway" ∧ row.gatewayID = none ∨
        row.scope ≠ "global" ∧ row.scope ≠ "gateway") := by
      rcases scope with ⟨scope, some⟩ | ⟨scope, none⟩
      · simp [scope, some]
      · simp [scope, none]
    rw [if_neg accepted, if_neg (by simpa using named)]
    rfl
  · intro not
    split
    · exact ⟨_, rfl⟩
    · rename_i accepted
      split
      · exact ⟨_, rfl⟩
      · rename_i named
        refine absurd ⟨?_, by simpa using named⟩ not
        simp only [not_or, not_and, ne_eq, Option.not_isSome_iff_eq_none] at accepted
        by_cases isGateway : row.scope = "gateway"
        · exact Or.inl ⟨isGateway, accepted.2.1 isGateway⟩
        · by_cases isGlobal : row.scope = "global"
          · exact Or.inr ⟨isGlobal, accepted.1 isGlobal⟩
          · exact absurd isGateway (accepted.2.2 isGlobal)

/-- The views of a batch are those of its rows in their order, or the batch is refused. -/
theorem mapM_viewGrant {s : Store} {roles users : Names} {batch : List RoleBinding}
    (role : ∀ row ∈ batch, roles row.roleID = some (s.roleName row.roleID))
    (user : ∀ row ∈ batch, users row.userID = some (s.username row.userID)) :
    ((∀ row ∈ batch, Viewable s row) →
        batch.mapM (viewGrant roles users) = .ok (batch.map s.view)) ∧
      ((∃ row ∈ batch, ¬ Viewable s row) → ∃ e, batch.mapM (viewGrant roles users) = .error e) := by
  induction batch with
  | nil => exact ⟨fun _ => rfl, fun ⟨_, never, _⟩ => nomatch never⟩
  | cons row rest ih =>
    obtain ⟨made, refused⟩ :=
      viewGrant_eq (role row List.mem_cons_self) (user row List.mem_cons_self)
    obtain ⟨all, some⟩ := ih (fun row' member => role row' (List.mem_cons_of_mem row member))
      fun row' member => user row' (List.mem_cons_of_mem row member)
    rw [List.mapM_cons]
    by_cases first : Viewable s row
    · rw [made first]
      constructor
      · intro each
        rw [all fun row' member => each row' (List.mem_cons_of_mem row member)]
        rfl
      · rintro ⟨row', member, not⟩
        rcases List.mem_cons.mp member with rfl | later
        · exact absurd first not
        · obtain ⟨e, failed⟩ := some ⟨row', later, not⟩
          rw [failed]
          exact ⟨e, rfl⟩
    · obtain ⟨e, failed⟩ := refused first
      rw [failed]
      exact ⟨fun each => absurd (each row List.mem_cons_self) first, fun _ => ⟨e, rfl⟩⟩

variable [Platform] {L : Type} {ω : Env} {c : Context Store Event L}
  {fails : Err → Context Store Event L → Prop}

/-- **A projection** fails if one of its lookups does or some row cannot be shown, and else
returns the views that separate lookups would give. -/
theorem wp_projectBatches {roles users : Names} {parts : List (List RoleBinding)}
    {ok : List GrantView → Context Store Event L → Prop}
    (rightRoles : roles.Right c.store.roleNames) (rightUsers : users.Right c.store.usernames)
    (short : ∀ batch ∈ parts, batch.length ≤ 100)
    (failed : (∃ n < lookups roles users parts, ω.fault (c.tick + n) = true) ∨
      (∃ row ∈ parts.flatten, ¬ Viewable c.store row) → ∀ e n, fails e (c.at n))
    (done : (∀ n < lookups roles users parts, ω.fault (c.tick + n) = false) →
      (∀ row ∈ parts.flatten, Viewable c.store row) →
      ok (parts.flatten.map c.store.view) (c.at (c.tick + lookups roles users parts))) :
    Tx.wp ω (projectBatches roles users parts) ok fails c := by
  induction parts generalizing c roles users ok with
  | nil => exact done (fun _ never => absurd never (Nat.not_lt_zero _)) fun _ never => nomatch never
  | cons batch rest ih =>
    have bound := short batch List.mem_cons_self
    rw [lookups] at failed done
    simp only [projectBatches, Tx.wp_bind]
    generalize isRoles : roles.count (batch.map fun row => row.roleID) = i at failed done
    generalize isUsers : users.count (batch.map fun row => row.userID) = j at failed done
    refine wp_lookupNames (nodup_roleNames _) (by rw [List.length_map]; exact bound) rightRoles
      (fun counted faulty => failed (Or.inl ⟨0, by omega, faulty⟩) _ _)
      fun roles' smooth rightRoles' seenRoles => ?_
    rw [isRoles] at smooth ⊢
    refine wp_lookupNames (nodup_usernames _) (by rw [List.length_map]; exact bound) rightUsers
      (fun counted faulty => failed (Or.inl ⟨i, by omega, faulty⟩) _ _)
      fun users' smooth' rightUsers' seenUsers => ?_
    rw [isUsers] at smooth' ⊢
    have asked : ∀ row ∈ batch, roles' row.roleID = some (c.store.roleName row.roleID) ∧
        users' row.userID = some (c.store.username row.userID) := by
      intro row member
      rw [← nameIn_roleNames, ← nameIn_usernames]
      refine ⟨rightRoles' _ ?_, rightUsers' _ ?_⟩
      · rw [seenRoles, decide_eq_true (List.mem_map_of_mem member), Bool.or_true]
      · rw [seenUsers, decide_eq_true (List.mem_map_of_mem member), Bool.or_true]
    obtain ⟨all, some⟩ := mapM_viewGrant (fun row member => (asked row member).1)
      fun row member => (asked row member).2
    have rest' : lookups roles' users' rest = lookups
        (roles.mark (batch.map fun row => row.roleID)).2
        (users.mark (batch.map fun row => row.userID)).2 rest :=
      lookups_congr (fun id => by rw [seenRoles, Names.isSome_mark])
        fun id => by rw [seenUsers, Names.isSome_mark]
    rw [← rest'] at failed done
    by_cases viewable : ∀ row ∈ batch, Viewable c.store row
    · refine Tx.wp_lift (fun e refused => ?_) fun views returned => ?_
      · rw [all viewable] at refused
        cases refused
      · rw [all viewable] at returned
        cases returned
        refine ih rightRoles' rightUsers' (fun b member => short b (List.mem_cons_of_mem _ member))
          (fun broken => ?_) fun smooth'' viewable' => ?_
        · refine fun e n => failed ?_ e n
          rcases broken with ⟨n, below, faulty⟩ | ⟨row, member, not⟩
          · refine Or.inl ⟨i + j + n, by omega, ?_⟩
            rw [← Nat.add_assoc, ← Nat.add_assoc]
            exact faulty
          · exact Or.inr ⟨row, by rw [List.flatten_cons]; exact List.mem_append_right _ member, not⟩
        · have whole := done (fun n below => ?_) fun row member => ?_
          · rw [List.flatten_cons, List.map_append, ← Nat.add_assoc, ← Nat.add_assoc] at whole
            exact whole
          · by_cases first : n < i
            · exact smooth n first
            · by_cases second : n < i + j
              · have here := smooth' (n - i) (by omega)
                rw [show (c.at (c.tick + i)).tick + (n - i) = c.tick + n by
                  rw [Context.at_tick]; omega] at here
                exact here
              · have here := smooth'' (n - (i + j)) (by omega)
                rw [show ((c.at (c.tick + i)).at ((c.at (c.tick + i)).tick + j)).tick +
                    (n - (i + j)) = c.tick + n by
                  rw [Context.at_tick, Context.at_tick]; omega] at here
                exact here
          · rw [List.flatten_cons] at member
            exact (List.mem_append.mp member).elim (viewable row) (viewable' row)
    · push Not at viewable
      obtain ⟨row, member, not⟩ := viewable
      obtain ⟨e, refused⟩ := some ⟨row, member, not⟩
      rw [refused]
      refine failed (Or.inr ⟨row, ?_, not⟩) e _
      rw [List.flatten_cons]
      exact List.mem_append_left _ member

/-- The number of queries of a projection. -/
def projectionLookups (rows : List RoleBinding) : Nat :=
  lookups (fun _ => none) (fun _ => none) (batches 100 rows.length rows)

/-- **The projection of a list** fails if it has too many rows, one of its lookups fails or
some row cannot be shown, and else returns the views that separate lookups would give. -/
theorem wp_projectGrants {rows : List RoleBinding}
    {ok : List GrantView → Context Store Event L → Prop}
    (failed : 10000 < rows.length ∨ (∃ row ∈ rows, ¬ Viewable c.store row) ∨
      (∃ n < projectionLookups rows, ω.fault (c.tick + n) = true) → ∀ e n, fails e (c.at n))
    (done : rows.length ≤ 10000 → (∀ row ∈ rows, Viewable c.store row) →
      (∀ n < projectionLookups rows, ω.fault (c.tick + n) = false) →
      ok (rows.map c.store.view) (c.at (c.tick + projectionLookups rows))) :
    Tx.wp ω (projectGrants rows) ok fails c := by
  have whole : (batches 100 rows.length rows).flatten = rows :=
    flatten_batches (by decide) (Nat.le_refl _)
  have nothing : ∀ table, Names.Right (fun _ => none) table := fun _ _ never => nomatch never
  rw [projectGrants]
  split
  · rename_i many
    exact failed (Or.inl many) _ c.tick
  · rename_i few
    refine wp_projectBatches (nothing _) (nothing _) (fun _ => length_le_of_mem_batches)
      (fun broken => ?_) fun smooth viewable => ?_
    · rw [whole] at broken
      exact failed (Or.inr broken.symm)
    · rw [whole] at viewable ⊢
      exact done (by omega) viewable smooth

/-- A projection of rows that can be shown, while no operation fails. -/
theorem wp_projectGrants_served {rows : List RoleBinding}
    {ok : List GrantView → Context Store Event L → Prop} (smooth : ∀ n, ω.fault n = false)
    (bound : rows.length ≤ 10000) (viewable : ∀ row ∈ rows, Viewable c.store row)
    (done : ∀ n, ok (rows.map c.store.view) (c.at n)) :
    Tx.wp ω (projectGrants rows) ok fails c := by
  refine wp_projectGrants (fun broken => ?_) fun _ _ _ => done _
  rcases broken with many | ⟨row, member, not⟩ | ⟨n, -, faulty⟩
  · omega
  · exact absurd (viewable row member) not
  · rw [smooth] at faulty
    cases faulty

omit [Platform] in
/-- The views of a list have its grants. -/
theorem map_grant_view (s : Store) (rows : List RoleBinding) :
    (rows.map s.view).map GrantView.grant = rows := by
  rw [List.map_map]
  exact List.map_id rows

end Views

end Hypershell
