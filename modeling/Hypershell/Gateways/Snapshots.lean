import Hypershell.Gateways.Visibility

/-!
# Snapshots of grants

A snapshot has every grant that its caller may see and that the caller's filters keep, each
with the names that separate lookups in the same transaction would give, or it is an error.

## Main definitions

* `Complete` — the views of a complete snapshot

## Main results

* `wp_grantOptions` — the options of a list, in any environment
* `allGrants_complete` — a snapshot is complete or an error
* `batched_projection` — when a projection succeeds, and what it returns
-/

namespace Hypershell

open Foundation

/-- The views of a snapshot: every visible grant that the caller's filters keep, once. -/
def Complete (svc : GatewayService) (p : Principal) (userID gatewayID : String) (s : Store)
    (views : List GrantView) : Prop :=
  ∃ rows : List RoleBinding, views = rows.map s.view ∧ rows.Nodup ∧
    ∀ b, b ∈ rows ↔ b ∈ visibleGrants svc p s ∧
      (userID = "" ∨ b.userID = userID) ∧ (gatewayID = "" ∨ b.gatewayID = some gatewayID)

section Snapshots

variable [Platform] {L : Type} {ω : Env} {c : Context Store Event L} {svc : GatewayService}
  {p : Principal} {q : GrantQuery} {s : Store} {fails : Err → Context Store Event L → Prop}

/-- **The options of a list** select the grants that are visible in the store they are made
for. -/
theorem wp_grantOptions {ok : GrantOptions → Context Store Event L → Prop}
    (failed : ∀ e c', fails e c')
    (done : ∀ opts n t,
      opts.toListOptions = requestOptions q.page q.size q.search q.orderBy →
      opts.includeDeleted = false →
      (opts.implicit = fun b => implicitText q.userID (some b.userID) &&
        implicitText q.gatewayID b.gatewayID) →
      (∀ b ∈ t.directory.bindings.rows, opts.filter t b = true ↔ GrantVisible svc p t b) →
      ok opts (c.put n t)) :
    Tx.wp ω (grantOptions svc p q) ok fails c := by
  simp only [grantOptions, Tx.wp_bind]
  refine wp_syncUser_known (fun _ _ _ _ => failed _ _) fun user n d _ known => ?_
  -- The grants of the user are those that name the identity of the caller.
  have own : ∀ b ∈ d.bindings.rows, b.userID = user.id ↔ d.Identified p b.userID := by
    intro b _
    constructor
    · intro same
      rw [same]
      exact known
    · exact fun identified => identified.unique known
  rw [Tx.wp_ite]
  split
  · rename_i ordinary
    rw [Tx.wp_bind]
    refine wp_findRole (fun _ _ => failed _ _) fun owner m catalog => ?_
    exact done _ m { c.store with directory := d } rfl rfl rfl fun b member =>
      grantFilter_iff (s := { c.store with directory := d })
        (.ordinary ordinary catalog) own rfl (.refl _) member
  · rename_i controller
    rw [Bool.not_eq_false] at controller
    exact done _ n { c.store with directory := d } rfl rfl rfl fun b member =>
      grantFilter_iff (s := { c.store with directory := d })
        (.controller controller) own rfl (.refl _) member

variable [Database RoleBinding]

/-- **The callback of a snapshot** assigns a complete one or fails. -/
theorem wp_allGrantsBody_complete {c : Context Store Event (Option (List GrantView))}
    {userID gatewayID : String} (valid : validatePrincipal p = .ok ()) :
    Tx.wp ω (allGrantsBody svc p ⟨1, 100, "", [], userID, gatewayID⟩)
      (fun _ c' => ∃ views, c'.locals = some views ∧
        Complete svc p userID gatewayID c'.store views) (fun _ _ => True) c := by
  simp only [allGrantsBody, Tx.wp_bind]
  refine wp_grantOptions (fun _ _ => trivial) fun opts n t options live implicit selects => ?_
  refine Action.wp_query (fun _ => trivial) (fun _ _ => trivial) fun result read => ?_
  have listed : Store.listBindings { opts with size := 10000 } t =
      .ok ⟨page 1 10000 (sorted (orderOf (withID [])) (opts.selected t)),
        (opts.selected t).length⟩ := by
    obtain ⟨opts', filter, imp, deleted⟩ := opts
    dsimp only at options
    subst options
    have plain : AcceptedOrder [] := fun _ never => absurd never List.not_mem_nil
    exact listBindings_eq rfl plain.withID rfl
  obtain rfl := Except.ok.inj (read.symm.trans listed)
  rw [Tx.wp_require]
  split
  swap
  · trivial
  rename_i bound
  rw [Tx.wp_require]
  split
  swap
  · trivial
  have whole : page 1 10000 (sorted (orderOf (withID [])) (opts.selected t)) =
      sorted (orderOf (withID [])) (opts.selected t) := by
    refine page_one_of_length_le ?_
    rw [length_sorted]
    exact Int.ofNat_le.mpr bound
  refine wp_projectGrants (fun _ _ _ => trivial) fun _ _ _ => ?_
  rw [whole]
  refine ⟨_, rfl, _, rfl, sorted_perm.nodup_iff.mpr nodup_selected, fun b => ?_⟩
  rw [mem_sorted]
  show b ∈ opts.selected { t with directory := t.directory } ↔ _
  rw [mem_selected valid (.refl _) live selects, implicit]
  simp [implicitText]

/-- **A snapshot is complete or an error**, in every environment. -/
theorem allGrants_complete {between : Store → Store → Prop} {userID gatewayID : String}
    {steps : List (Env × Store)} {r : Option (List GrantView) × Option Err} {l : List Event}
    {t : Store} (exec : (allGrants svc p userID gatewayID).Exec between s steps r l t) :
    (∃ e, r = (none, some e)) ∨
      ∃ views, r = (some views, none) ∧ Complete svc p userID gatewayID t views := by
  unfold allGrants at exec
  split at exec
  · rename_i e _
    exact Or.inl ⟨e, (Proc.exec_ret exec).1⟩
  · rename_i valid
    dsimp only at exec
    split at exec
    · exact Or.inl ⟨_, (Proc.exec_ret exec).1⟩
    · obtain ⟨⟨vars, failure⟩, rfl, inner⟩ := Proc.exec_map exec
      have run : ∀ ω s', Tx.wp ω
          (do Action.query fun _ => .ok ()
              allGrantsBody svc p ⟨1, 100, "", [], userID, gatewayID⟩)
          (fun _ c' => ∃ views, c'.locals = some views ∧
            Complete svc p userID gatewayID c'.store views)
          (fun _ _ => True) (Context.start s' none) := by
        intro ω s'
        rw [Tx.wp_bind]
        exact Action.wp_query (fun _ => trivial) (fun _ _ => trivial)
          fun _ _ => wp_allGrantsBody_complete valid
      obtain ⟨ω, s', rfl, -, -, concluded⟩ := exec_transact inner fun ω s' _ _ => run ω s'
      cases failure with
      | some e => exact Or.inl ⟨e, rfl⟩
      | none =>
        obtain ⟨c, ⟨views, assigned, complete⟩, rfl, -, rfl⟩ := concluded.committed_of_ok
        exact Or.inr ⟨views, by rw [assigned]; rfl, complete⟩

/-- The conditions under which a projection succeeds. -/
def Projectable (ω : Env) (c : Context Store Event L) (rows : List RoleBinding) : Prop :=
  rows.length ≤ 10000 ∧ (∀ row ∈ rows, Viewable c.store row) ∧
    ∀ n < projectionLookups rows, ω.fault (c.tick + n) = false

omit [Database RoleBinding] in
/-- A projection returns the views of separate lookups, or fails. -/
theorem projectGrants_cases (ω : Env) (c : Context Store Event L) (rows : List RoleBinding) :
    (Projectable ω c rows ∧ projectGrants rows ω c =
        (.ok (rows.map c.store.view), c.at (c.tick + projectionLookups rows))) ∨
      (¬ Projectable ω c rows ∧ ∃ e c', projectGrants rows ω c = (.error e, c')) := by
  have run : Tx.wp ω (projectGrants rows)
      (fun views c' => Projectable ω c rows ∧ views = rows.map c.store.view ∧
        c' = c.at (c.tick + projectionLookups rows))
      (fun _ _ => ¬ Projectable ω c rows) c := by
    refine wp_projectGrants (fun broken _ _ projectable => ?_) fun few viewable smooth =>
      ⟨⟨few, viewable, smooth⟩, rfl, rfl⟩
    obtain ⟨few, viewable, smooth⟩ := projectable
    rcases broken with many | ⟨row, member, not⟩ | ⟨n, below, faulty⟩
    · omega
    · exact not (viewable row member)
    · rw [smooth n below] at faulty
      cases faulty
  unfold Tx.wp at run
  generalize projectGrants rows ω c = ended at run ⊢
  obtain ⟨result, c'⟩ := ended
  cases result with
  | ok views =>
    obtain ⟨projectable, rfl, rfl⟩ := run
    exact Or.inl ⟨projectable, rfl⟩
  | error e => exact Or.inr ⟨run, e, c', rfl⟩

omit [Platform] [Database RoleBinding] in
/-- A role has a name exactly if a separate lookup finds one that has. -/
theorem roleName_ne_empty_iff {id : String} :
    s.roleName id ≠ "" ↔ ∃ role, s.getRole id = .ok role ∧ role.name ≠ "" := by
  unfold Store.roleName
  cases read : s.getRole id with
  | ok role =>
    constructor
    · exact fun named => ⟨role, rfl, named⟩
    · rintro ⟨role', same, named⟩
      cases same
      exact named
  | error e =>
    constructor
    · exact fun never => absurd rfl never
    · rintro ⟨_, never, _⟩
      cases never

/-- **Batched projection.**  `projectGrants` succeeds exactly if there are at most 10000
rows, the scope of each agrees with the presence of its Gateway's ID, its role is live and has
a name, and no lookup fails.  It then returns one view for each row, in their order, with the
names that separate lookups for that row would give.  A snapshot is complete or an error. -/
theorem batched_projection :
    (∀ (L : Type) (ω : Env) (c : Context Store Event L) (rows : List RoleBinding),
      ((∃ views c', projectGrants rows ω c = (.ok views, c')) ↔
        rows.length ≤ 10000 ∧
        (∀ row ∈ rows, row.scope = "gateway" ∧ row.gatewayID ≠ none ∨
          row.scope = "global" ∧ row.gatewayID = none) ∧
        (∀ row ∈ rows, ∃ role, c.store.getRole row.roleID = .ok role ∧ role.name ≠ "") ∧
        ∀ n < projectionLookups rows, ω.fault (c.tick + n) = false) ∧
      ∀ views c', projectGrants rows ω c = (.ok views, c') →
        c' = c.at (c.tick + projectionLookups rows) ∧ views.length = rows.length ∧
        ∀ (i : Nat) (row : RoleBinding), rows[i]? = some row →
          ∃ view, views[i]? = some view ∧ view.grant = row ∧
            (∃ role, c.store.getRole row.roleID = .ok role ∧ view.roleName = role.name) ∧
            ((∃ user, c.store.getUser row.userID = .ok user ∧ view.username = user.username) ∨
              (∃ e, c.store.getUser row.userID = .error e) ∧ view.username = "")) ∧
    ∀ (svc : GatewayService) (p : Principal) (userID gatewayID : String)
      (between : Store → Store → Prop) (s : Store) (steps : List (Env × Store))
      (r : Option (List GrantView) × Option Err) (l : List Event) (t : Store),
      (allGrants svc p userID gatewayID).Exec between s steps r l t →
      (∃ e, r = (none, some e)) ∨
        ∃ views, r = (some views, none) ∧ Complete svc p userID gatewayID t views := by
  refine ⟨fun L ω c rows => ⟨?_, fun views c' returned => ?_⟩,
    fun svc p userID gatewayID between s steps r l t exec => allGrants_complete exec⟩
  · have conditions : Projectable ω c rows ↔ rows.length ≤ 10000 ∧
        (∀ row ∈ rows, row.scope = "gateway" ∧ row.gatewayID ≠ none ∨
          row.scope = "global" ∧ row.gatewayID = none) ∧
        (∀ row ∈ rows, ∃ role, c.store.getRole row.roleID = .ok role ∧ role.name ≠ "") ∧
        ∀ n < projectionLookups rows, ω.fault (c.tick + n) = false := by
      simp only [Projectable, Viewable, roleName_ne_empty_iff, forall₂_and, and_assoc]
    rw [← conditions]
    rcases projectGrants_cases ω c rows with ⟨projectable, run⟩ | ⟨not, e, c', run⟩
    · exact ⟨fun _ => projectable, fun _ => ⟨_, _, run⟩⟩
    · constructor
      · rintro ⟨views, c'', returned⟩
        rw [run] at returned
        cases returned
      · exact fun projectable => absurd projectable not
  · rcases projectGrants_cases ω c rows with ⟨⟨-, viewable, -⟩, run⟩ | ⟨-, e, c'', run⟩
    · rw [run] at returned
      cases returned
      refine ⟨rfl, List.length_map _, fun i row here => ⟨c.store.view row, ?_, rfl, ?_, ?_⟩⟩
      · rw [List.getElem?_map, here]
        rfl
      · obtain ⟨role, read, -⟩ :=
          roleName_ne_empty_iff.mp (viewable row (List.mem_of_getElem? here)).2
        refine ⟨role, read, ?_⟩
        rw [Store.view, Store.roleName, read]
      · rw [Store.view, Store.username]
        cases read : c.store.getUser row.userID with
        | ok user => exact Or.inl ⟨user, rfl, rfl⟩
        | error e => exact Or.inr ⟨⟨e, rfl⟩, rfl⟩
    · rw [run] at returned
      cases returned

end Snapshots

open Sample in
/-- A grant that is listed twice has two views, from one lookup of its role and user. -/
theorem batched_projection_sample : ∃ views c', projectGrants
      [Sample.ownerGrant, Sample.ownerGrant] (Sample.env ⟨Sample.auditID, by decide⟩)
      (Context.start Sample.granted ()) = (.ok views, c') ∧ views.length = 2 := by
  obtain ⟨succeeds, returns⟩ := batched_projection.1 Unit
    (Sample.env ⟨Sample.auditID, by decide⟩) (Context.start Sample.granted ())
    [Sample.ownerGrant, Sample.ownerGrant]
  have each : ∀ row ∈ [Sample.ownerGrant, Sample.ownerGrant], row = Sample.ownerGrant :=
    fun row member => List.eq_of_mem_replicate (n := 2) member
  have scopes : ∀ row ∈ [Sample.ownerGrant, Sample.ownerGrant],
      row.scope = "gateway" ∧ row.gatewayID ≠ none ∨
        row.scope = "global" ∧ row.gatewayID = none := by
    intro row member
    rw [each row member]
    exact Or.inl ⟨rfl, by decide⟩
  have roles : ∀ row ∈ [Sample.ownerGrant, Sample.ownerGrant], ∃ role,
      Sample.granted.getRole row.roleID = .ok role ∧ role.name ≠ "" := by
    intro row member
    rw [each row member]
    exact ⟨_, rfl, by decide⟩
  obtain ⟨views, c', run⟩ := succeeds.mpr ⟨by decide, scopes, roles, fun _ _ => rfl⟩
  exact ⟨views, c', run, (returns views c' run).2.1⟩

end Hypershell
