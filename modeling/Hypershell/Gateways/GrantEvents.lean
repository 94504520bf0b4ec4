import Hypershell.Gateways.Presentation
import Hypershell.Gateways.Snapshots

/-!
# The grant of an event

An event names a grant by its ID and says whether it was deleted.  What a watch shows of it is
read when the event is handled, through the same filter as every list, in any environment:
storage may fail at every operation.

## Main definitions

* `Store.shows` — a grant of a deletion state that a principal may see under an ID

## Main results

* `wp_grantOptions_kept` — the options of a list, which are those of the store before
* `exec_eventGrant` — the grant of an event, and when there is none
-/

namespace Hypershell

open Foundation

/-- The stored grants under an ID that a principal may see, live or deleted. -/
def Store.shows (svc : GatewayService) (p : Principal) (id : String) (deleted : Bool) (s : Store)
    (b : RoleBinding) : Prop :=
  b ∈ s.directory.bindings.rows ∧ b.id = id ∧ b.live = (!deleted) ∧ GrantVisible svc p s b

/-- What is visible stays so when the user of a principal is found. -/
theorem GrantVisible.kept {svc : GatewayService} {p : Principal} {s : Store} {d : Directory}
    {b : RoleBinding} (visible : GrantVisible svc p s b) (same : s.directory.SameGrants d)
    (named : ∀ id, s.directory.Identified p id → d.Identified p id) :
    GrantVisible svc p { s with directory := d } b := by
  cases visible with
  | own scope here stored live known => exact .own scope here stored live (named _ known)
  | owned scope here stored live owns =>
    refine .owned scope here stored live (owns.imp_right ?_)
    rintro ⟨userID, role, known, catalog, granted⟩
    refine ⟨userID, role, named _ known, ?_, ?_⟩
    · show d.rolesNamed "gateway:owner" = [role]
      rw [Directory.rolesNamed, same.1]
      exact catalog
    · show d.grants _ userID role.id = true
      rw [Directory.grants, same.2]
      exact granted
  | global scope known => exact .global scope (named _ known)

section Environments

variable [Platform] {L : Type} {ω : Env} {c : Context Store Event L} {svc : GatewayService}
  {p : Principal} {q : GrantQuery} {s : Store} {fails : Err → Context Store Event L → Prop}

/-- The user of a principal that has one. -/
theorem wp_syncUser_same : Tx.wp ω (syncUser p)
    (fun user _ => ∀ id, c.store.directory.Identified p id → user.id = id) (fun _ _ => True) c := by
  simp only [syncUser, Tx.wp_bind]
  refine Action.wp_query (fun _ => trivial) (fun _ _ => trivial) fun rows listed => ?_
  rw [Except.ok.injEq] at listed
  have only : ∀ id, c.store.directory.Identified p id → ∃ user rest, rows = user :: rest ∧
      user.id = id := by
    intro id known
    obtain ⟨user, rest, found, isID⟩ := Directory.listUsers_of_identified known
    exact ⟨user, rest, listed.symm.trans found, isID⟩
  cases rows with
  | nil =>
    simp only [Tx.wp_bind]
    refine Action.wp_random (fun _ => trivial) fun id _ => ?_
    refine Action.wp_update (fun _ => trivial) (fun _ _ => trivial) fun _ _ id known => ?_
    obtain ⟨_, _, never, -⟩ := only id known
    cases never
  | cons user rest =>
    have isUser : ∀ id, c.store.directory.Identified p id → user.id = id := by
      intro id known
      obtain ⟨_, _, same, isID⟩ := only id known
      cases same
      exact isID
    dsimp only
    split
    · exact trivial
    split
    · simp only [Tx.wp_bind]
      exact Action.wp_update (fun _ => trivial) (fun _ _ => trivial) fun _ _ => isUser
    · exact isUser

/-- **The options of a list** select what is visible in the store they leave, and so all that
was visible before.  A principal is never missing. -/
theorem wp_grantOptions_kept {ok : GrantOptions → Context Store Event L → Prop}
    (failed : ∀ e n d, e ≠ .notFound → c.store.directory.SameGrants d →
      fails e (c.put n { c.store with directory := d }))
    (done : ∀ opts n d, c.store.directory.SameGrants d →
      opts.toListOptions = requestOptions q.page q.size q.search q.orderBy →
      (opts.implicit = fun b => implicitText q.userID (some b.userID) &&
        implicitText q.gatewayID b.gatewayID) →
      (∀ b ∈ d.bindings.rows, opts.filter { c.store with directory := d } b = true ↔
        GrantVisible svc p { c.store with directory := d } b) →
      (∀ b, GrantVisible svc p c.store b → GrantVisible svc p { c.store with directory := d } b) →
      ok opts (c.put n { c.store with directory := d })) :
    Tx.wp ω (grantOptions svc p q) ok fails c := by
  simp only [grantOptions, Tx.wp_bind]
  have found : Tx.wp ω (syncUser p) (fun user c' => ∃ n d, c' = c.put n { c.store with directory := d } ∧
      c.store.directory.SameGrants d ∧ d.Identified p user.id)
      (fun _ c' => ∃ n d, c' = c.put n { c.store with directory := d } ∧
        c.store.directory.SameGrants d) c :=
    wp_syncUser_known (fun _ n d same => ⟨n, d, rfl, same⟩)
      fun user n d same known => ⟨n, d, rfl, same, known⟩
  refine Tx.wp_mono (Tx.wp_and (Tx.wp_and wp_syncUser_present wp_syncUser_same) found) ?_ ?_
  swap
  · rintro e _ ⟨⟨present, -⟩, n, d, rfl, same⟩
    exact failed e n d present same
  rintro user _ ⟨⟨-, unique⟩, n, d, rfl, same, known⟩
  have own : ∀ b ∈ d.bindings.rows, b.userID = user.id ↔ d.Identified p b.userID := by
    intro b _
    constructor
    · intro is
      rw [is]
      exact known
    · exact fun identified => identified.unique known
  have kept : ∀ b, GrantVisible svc p c.store b →
      GrantVisible svc p { c.store with directory := d } b := by
    refine fun b visible => visible.kept same fun id earlier => ?_
    rw [← unique id earlier]
    exact known
  rw [Tx.wp_ite]
  split
  · rename_i ordinary
    rw [Tx.wp_bind]
    unfold findRole
    rw [Tx.wp_bind]
    refine Action.wp_query (fun _ => failed _ _ d (by simp) same) (by rintro _ ⟨⟩) ?_
    intro roles read
    rw [Except.ok.injEq] at read
    split
    · rename_i owner
      exact done _ _ d same rfl rfl (fun b member =>
        grantFilter_iff (s := { c.store with directory := d }) (.ordinary ordinary read) own rfl
          (.refl _) member) kept
    · exact failed _ _ d (by simp) same
  · rename_i controller
    rw [Bool.not_eq_false] at controller
    exact done _ n d same rfl rfl (fun b member =>
      grantFilter_iff (s := { c.store with directory := d }) (.controller controller) own rfl
        (.refl _) member) kept

/-! ### Projections -/

omit [Platform] in
/-- A grant that cannot be shown is not reported as missing. -/
theorem mapM_viewGrant_present {roles users : Names} {batch : List RoleBinding} {e : Err}
    (refused : batch.mapM (viewGrant roles users) = .error e) : e ≠ .notFound := by
  induction batch with
  | nil => cases refused
  | cons b rest ih =>
    rw [List.mapM_cons] at refused
    cases first : viewGrant roles users b with
    | error e' =>
      rw [first] at refused
      cases refused
      unfold viewGrant at first
      split_ifs at first <;> cases first <;> simp
    | ok view =>
      rw [first] at refused
      cases others : rest.mapM (viewGrant roles users) with
      | error e' =>
        rw [others] at refused
        cases refused
        exact ih others
      | ok views =>
        rw [others] at refused
        cases refused

theorem wp_lookupNames_present {named : Store → List (String × String)} {names : Names}
    {ids : List String} : Tx.wp ω (lookupNames named names ids) (fun _ _ => True)
      (fun e _ => e ≠ .notFound) c := by
  unfold lookupNames
  split
  · exact trivial
  · simp only [Tx.wp_bind]
    exact Action.wp_query (fun _ => by simp) (by rintro _ ⟨⟩) fun _ _ => trivial

theorem wp_projectBatches_present {roles users : Names} {parts : List (List RoleBinding)} :
    Tx.wp ω (projectBatches roles users parts) (fun _ _ => True) (fun e _ => e ≠ .notFound) c := by
  induction parts generalizing c roles users with
  | nil => exact trivial
  | cons batch rest ih =>
    simp only [projectBatches, Tx.wp_bind]
    refine Tx.wp_mono wp_lookupNames_present (fun roles' _ _ => ?_) fun _ _ => id
    refine Tx.wp_mono wp_lookupNames_present (fun users' _ _ => ?_) fun _ _ => id
    refine Tx.wp_lift (fun e refused => mapM_viewGrant_present refused) fun views _ => ?_
    exact Tx.wp_mono ih (fun _ _ _ => trivial) fun _ _ => id

/-- **A projection** in any environment. -/
theorem wp_projectGrants_kept {rows : List RoleBinding}
    {ok : List GrantView → Context Store Event L → Prop}
    (failed : ∀ e n, e ≠ .notFound → fails e (c.at n))
    (done : ∀ n, ok (rows.map c.store.view) (c.at n)) :
    Tx.wp ω (projectGrants rows) ok fails c := by
  have present : Tx.wp ω (projectGrants rows) (fun _ _ => True) (fun e _ => e ≠ .notFound) c := by
    unfold projectGrants
    split
    · exact fun never => nomatch never
    · exact wp_projectBatches_present
  have ends : Tx.wp ω (projectGrants rows) (fun views c' => ∃ n, c' = c.at n ∧
      views = rows.map c.store.view) (fun _ c' => ∃ n, c' = c.at n) c :=
    wp_projectGrants (fun _ _ n => ⟨n, rfl⟩) fun _ _ _ => ⟨_, rfl, rfl⟩
  refine Tx.wp_mono (Tx.wp_and present ends) ?_ ?_
  · rintro _ _ ⟨-, n, rfl, rfl⟩
    exact done n
  · rintro e _ ⟨missing, n, rfl⟩
    exact failed e n missing

/-! ### One grant -/

variable {id : String} {deleted : Bool}

omit [Platform] in
/-- What a list for one grant selects. -/
theorem mem_selected_only {opts : GrantOptions}
    (implicit : opts.implicit = fun b => implicitText "" (some b.userID) &&
      implicitText "" b.gatewayID)
    (selects : ∀ b ∈ s.directory.bindings.rows, opts.filter s b = true ↔ GrantVisible svc p s b)
    (b : RoleBinding) :
    b ∈ (opts.only id deleted).selected s ↔ b ∈ s.directory.bindings.rows ∧ b.id = id ∧
      (deleted = true ∨ b.live = true) ∧ GrantVisible svc p s b := by
  have all : opts.implicit b = true := implicit_empty implicit rfl rfl b
  rw [GrantOptions.selected, List.mem_filter]
  refine and_congr_right fun member => ?_
  have chosen := selects b member
  simp only [GrantOptions.only, all, Bool.true_and, Bool.and_eq_true, Bool.or_eq_true,
    decide_eq_true_eq]
  rw [chosen]
  constructor
  · rintro ⟨⟨shown, visible⟩, here⟩
    exact ⟨here, shown, visible⟩
  · rintro ⟨here, shown, visible⟩
    exact ⟨⟨shown, visible⟩, here⟩

omit [Platform] in
/-- Under one ID there is one grant at most. -/
theorem length_selected_only {opts : GrantOptions} :
    ((opts.only id deleted).selected s).length ≤ 1 := by
  refine length_le_one nodup_selected fun a memberA b memberB => ?_
  obtain ⟨storedA, keptA⟩ := List.mem_filter.mp memberA
  obtain ⟨storedB, keptB⟩ := List.mem_filter.mp memberB
  simp only [GrantOptions.only, Bool.and_eq_true, decide_eq_true_eq] at keptA keptB
  exact s.directory.bindings.eq_of_key storedA storedB (keptA.2.2.trans keptB.2.2.symm)

variable [Database RoleBinding]

/-- **The callback of `EventGrant`** finds the grant that is shown, or there is none. -/
theorem wp_eventGrantBody_kept {c : Context Store Event (Option GrantView)} :
    Tx.wp ω (eventGrantBody svc p id deleted)
      (fun _ c' => c'.base = c.base ∧ ∃ d view, c.store.directory.SameGrants d ∧
        c'.store = { c.store with directory := d } ∧ c'.locals = some view ∧
        c'.store.shows svc p id deleted view.grant ∧ view = c'.store.view view.grant)
      (fun e c' => c'.base = c.base ∧ (e = .notFound → ∀ b, ¬ c.store.shows svc p id deleted b)) c := by
  simp only [eventGrantBody, Tx.wp_bind]
  refine wp_grantOptions_kept (fun e n d present _ => ⟨rfl, fun missing => absurd missing present⟩) ?_
  intro opts n d same options implicit selects kept
  have mem := @mem_selected_only svc p { c.store with directory := d } id deleted opts implicit
    selects
  have short := @length_selected_only { c.store with directory := d } id deleted opts
  have fields : (opts.only id deleted).toListOptions = requestOptions 1 1 "" [] := options
  have plain : AcceptedOrder [] := fun _ never => absurd never List.not_mem_nil
  generalize opts.only id deleted = narrow at mem fields short
  have listed : Store.listBindings narrow { c.store with directory := d } =
      .ok ⟨narrow.selected { c.store with directory := d },
        (narrow.selected { c.store with directory := d }).length⟩ := by
    obtain ⟨options', filter, imp, included⟩ := narrow
    dsimp only at fields
    subst fields
    rw [listBindings_eq rfl plain.withID rfl]
    refine congrArg (fun items => Except.ok (ListResult.mk items _)) ?_
    exact (page_one_one (length_sorted.trans_le short)).trans (sorted_short short)
  simp only [readGrantPage, Tx.wp_bind]
  refine Action.wp_query (fun _ => ⟨rfl, (by rintro ⟨⟩)⟩) (fun e declined => ?_) ?_
  · rw [Context.put_store, listed] at declined
    cases declined
  intro result read
  rw [Context.put_store, listed] at read
  obtain rfl := (Except.ok.inj read).symm
  refine wp_projectGrants_kept (fun e m present => ⟨rfl, fun missing => absurd missing present⟩) ?_
  intro m
  -- A grant that was shown is among the selected ones.
  have absent : ∀ b, b ∉ narrow.selected { c.store with directory := d } →
      ¬ c.store.shows svc p id deleted b := by
    rintro b missing ⟨stored, here, live, visible⟩
    refine missing ((mem b).mpr ⟨?_, here, ?_, kept b visible⟩)
    · show b ∈ d.bindings.rows
      rw [same.2]
      exact stored
    · cases deleted with
      | true => exact .inl rfl
      | false => exact .inr live
  cases chosen : narrow.selected { c.store with directory := d } with
  | nil =>
    refine ⟨rfl, fun _ b => absent b ?_⟩
    rw [chosen]
    exact List.not_mem_nil
  | cons b rest =>
    have single : rest = [] := by
      rw [chosen, List.length_cons] at short
      exact List.eq_nil_of_length_eq_zero (by omega)
    subst single
    obtain ⟨stored, here, -, visible⟩ := (mem b).mp (chosen ▸ List.mem_singleton_self b)
    show Tx.wp ω (Tx.require _ _ >>= _) _ _ _
    rw [Tx.wp_bind, Tx.wp_require]
    split
    · rename_i live
      exact ⟨rfl, d, _, same, rfl, rfl, ⟨stored, here, live, visible⟩, rfl⟩
    · rename_i differs
      refine ⟨rfl, fun _ a => ?_⟩
      rintro ⟨stored', here', live, visible'⟩
      refine absent a ?_ ⟨stored', here', live, visible'⟩
      rw [chosen, List.mem_singleton]
      rintro rfl
      exact differs live

variable {t : Store} {steps : List (Env × Store)} {l : List Event}

/-- **The grant of an event** is the one that is shown, with its names.  It is missing if none
was shown. -/
theorem exec_eventGrant {r : Option GrantView × Option Err}
    (exec : (eventGrant svc p id deleted).Exec Eq s steps r l t) :
    (∃ d, s.directory.SameGrants d ∧ t = { s with directory := d }) ∧
    (∀ view, r = (some view, none) → t.shows svc p id deleted view.grant ∧
      view = t.view view.grant) ∧
    (r.2 = none → r.1.isSome = true) ∧
    (r.2 = some .notFound → Platform.validID id = true → ∀ b, ¬ s.shows svc p id deleted b) := by
  have still : ∃ d, s.directory.SameGrants d ∧ s = { s with directory := d } :=
    ⟨s.directory, .refl _, rfl⟩
  unfold eventGrant at exec
  cases valid : validatePrincipal p with
  | error e =>
    rw [valid] at exec
    obtain ⟨rfl, rfl, rfl, rfl⟩ := Proc.exec_ret exec
    refine ⟨still, fun _ never => (by cases never), fun never => (by cases never), fun missing => ?_⟩
    rw [Option.some.inj missing] at valid
    unfold validatePrincipal at valid
    split_ifs at valid
    cases valid
  | ok _ =>
    rw [valid] at exec
    dsimp only at exec
    split_ifs at exec with isValid
    swap
    · obtain ⟨rfl, rfl, rfl, rfl⟩ := Proc.exec_ret exec
      exact ⟨still, fun _ never => (by cases never), fun never => (by cases never),
        fun _ accepted => absurd accepted isValid⟩
    obtain ⟨⟨vars, error⟩, rfl, inner⟩ := Proc.exec_map exec
    have run : ∀ ω s', Tx.wp ω (do
        Action.query fun _ => .ok ()
        eventGrantBody svc p id deleted)
        (fun _ c' => c'.base = s' ∧ ∃ d view, s'.directory.SameGrants d ∧
          c'.store = { s' with directory := d } ∧ c'.locals = some view ∧
          c'.store.shows svc p id deleted view.grant ∧ view = c'.store.view view.grant)
        (fun e c' => c'.base = s' ∧ (e = .notFound → ∀ b, ¬ s'.shows svc p id deleted b))
        (Context.start s' none) := by
      intro ω s'
      rw [Tx.wp_bind]
      refine Action.wp_query (fun _ => ⟨rfl, (by rintro ⟨⟩)⟩)
        (by rintro _ ⟨⟩) fun _ _ => ?_
      exact wp_eventGrantBody_kept
    obtain ⟨ω, s', rfl, rfl, -, ended⟩ := exec_transact inner fun ω s' _ _ => run ω s'
    cases ended with
    | committed ended =>
      obtain ⟨-, d, view, same, store, assigned, shown, names⟩ := ended
      refine ⟨⟨d, same, store⟩, fun view' found => ?_, fun _ => ?_, fun never => nomatch never⟩
      · rw [assigned] at found
        cases found
        exact ⟨shown, names⟩
      · rw [assigned]
        rfl
    | replyLost ended =>
      obtain ⟨-, d, view, same, store, -⟩ := ended
      exact ⟨⟨d, same, store⟩, fun _ never => (by cases never), fun never => (by cases never),
        fun never => by cases never⟩
    | rolledBack ended =>
      rw [ended.1]
      exact ⟨still, fun _ never => (by cases never), fun never => (by cases never),
        fun never => by cases never⟩
    | failed ended =>
      rw [ended.1]
      exact ⟨still, fun _ never => (by cases never), fun never => (by cases never),
        fun missing _ => ended.2 (Option.some.inj missing)⟩

end Environments

end Hypershell
