import Mathlib.Data.Set.Card
import Hypershell.Gateways.Projection
import Hypershell.Gateways.Resolution
import Hypershell.ServiceAccounts.Sample

/-!
# Which grants a caller sees

A grant is read alone, in a list, in a snapshot and with an event.  The first decides by
single reads and a check for an owner, the others by one nested filter.  All of them show
the same grants.

## Main definitions

* `GrantVisible`, `visibleGrants` — the grants that a principal may see

## Main results

* `grantFilter_iff` — the nested filter selects the visible grants
* `grant_visibility` — the four ways of reading a grant agree
-/

namespace Hypershell

open Foundation

/-- A principal may see a grant: its own one on a live Gateway, one of a live Gateway that it
owns or, as a controller, of any, or its own global one. -/
inductive GrantVisible (svc : GatewayService) (p : Principal) (s : Store) (b : RoleBinding) : Prop
  | own {g : Gateway} (scope : b.scope = "gateway") (here : b.gatewayID = some g.id)
      (stored : s.gateway? g.id = some g) (live : g.live = true)
      (named : s.directory.Identified p b.userID)
  | owned {g : Gateway} (scope : b.scope = "gateway") (here : b.gatewayID = some g.id)
      (stored : s.gateway? g.id = some g) (live : g.live = true)
      (owns : svc.isControlPlane p = true ∨ s.directory.OwnsGateway p g.id)
  | global (scope : b.scope = "global") (named : s.directory.Identified p b.userID)

/-- The live grants that a valid principal may see. -/
def visibleGrants (svc : GatewayService) (p : Principal) (s : Store) : Set RoleBinding :=
  { b | validatePrincipal p = .ok () ∧ b ∈ s.directory.bindings.rows ∧ b.live = true ∧
    GrantVisible svc p s b }

/-! ### The filter -/

section Filter

variable {svc : GatewayService} {p : Principal} {s t : Store} {b : RoleBinding}

theorem grantsLive_iff : s.grantsLive b = true ↔
    ∃ g, b.gatewayID = some g.id ∧ s.gateway? g.id = some g ∧ g.live = true := by
  unfold Store.grantsLive
  rw [List.any_eq_true]
  constructor
  · rintro ⟨g, member, related⟩
    rw [Bool.and_eq_true, decide_eq_true_eq] at related
    exact ⟨g, related.2, Table.find?_of_mem member, related.1⟩
  · rintro ⟨g, here, stored, live⟩
    refine ⟨g, Table.mem_of_find? stored, ?_⟩
    rw [Bool.and_eq_true, decide_eq_true_eq]
    exact ⟨live, here⟩

/-- A grant of a role to a user is a row that names the user. -/
theorem exists_of_grants {d : Directory} {gatewayID userID roleID : String}
    (granted : d.grants gatewayID userID roleID = true) :
    ∃ b ∈ d.bindings.rows, b.userID = userID := by
  obtain ⟨b, member, holds⟩ := List.any_eq_true.mp granted
  simp only [Bool.and_eq_true, decide_eq_true_eq] at holds
  exact ⟨b, member, holds.1.1.2⟩

/-- **Ownership** is a grant of the owner role to the user that the grants name. -/
theorem ownsGateway_iff {userID gatewayID : String} {owner : Role}
    (catalog : s.directory.rolesNamed "gateway:owner" = [owner])
    (own : ∀ b ∈ s.directory.bindings.rows, b.userID = userID ↔ s.directory.Identified p b.userID) :
    s.directory.grants gatewayID userID owner.id = true ↔
      s.directory.OwnsGateway p gatewayID := by
  constructor
  · intro granted
    obtain ⟨b, member, names⟩ := exists_of_grants granted
    have known := (own b member).mp names
    rw [names] at known
    exact ⟨userID, owner, known, catalog, granted⟩
  · rintro ⟨userID', role, known, named, granted⟩
    obtain ⟨b, member, names⟩ := exists_of_grants granted
    rw [← names] at known
    have same := (own b member).mpr known
    rw [Directory.rolesNamed, named] at catalog
    cases catalog
    rw [← same, names]
    exact granted

/-- The owner role is asked for unless the caller is a controller. -/
inductive OwnerAsked (svc : GatewayService) (p : Principal) (d : Directory) :
    Option String → Prop
  | controller (is : svc.isControlPlane p = true) : OwnerAsked svc p d none
  | ordinary {owner : Role} (is : svc.isControlPlane p = false)
      (catalog : d.rolesNamed "gateway:owner" = [owner]) : OwnerAsked svc p d (some owner.id)

/-- **The nested filter selects the visible grants.** -/
theorem grantFilter_iff {userID : String} {owner : Option String}
    (asked : OwnerAsked svc p s.directory owner)
    (own : ∀ b ∈ s.directory.bindings.rows, b.userID = userID ↔ s.directory.Identified p b.userID)
    (gateways : t.gateways = s.gateways) (same : s.directory.SameGrants t.directory)
    (member : b ∈ s.directory.bindings.rows) :
    grantFilter userID owner t b = true ↔ GrantVisible svc p s b := by
  have live : t.grantsLive b = s.grantsLive b := by
    rw [Store.grantsLive, gateways, Store.grantsLive]
  have related : ∀ roleID, t.directory.relatedTo userID roleID b =
      s.directory.relatedTo userID roleID b := by
    intro roleID
    rw [Directory.relatedTo, Directory.relatedTo]
    cases b.gatewayID with
    | none => rfl
    | some gatewayID => dsimp only; rw [Directory.grants, same.2, Directory.grants]
  simp only [grantFilter, live, related, Bool.or_eq_true, Bool.and_eq_true, decide_eq_true_eq,
    grantsLive_iff, own b member]
  cases asked with
  | controller is =>
    dsimp only
    constructor
    · rintro (⟨⟨scope, g, here, stored, alive⟩, -⟩ | ⟨scope, known⟩)
      · exact .owned scope here stored alive (Or.inl is)
      · exact .global scope known
    · intro visible
      cases visible with
      | own scope here stored alive _ => exact Or.inl ⟨⟨scope, _, here, stored, alive⟩, rfl⟩
      | owned scope here stored alive _ => exact Or.inl ⟨⟨scope, _, here, stored, alive⟩, rfl⟩
      | global scope known => exact Or.inr ⟨scope, known⟩
  | @ordinary owner is catalog =>
    have owned : ∀ {g : Gateway}, b.gatewayID = some g.id →
        (s.directory.relatedTo userID owner.id b = true ↔ s.directory.OwnsGateway p g.id) := by
      intro g here
      rw [← ownsGateway_iff catalog own, Directory.relatedTo, here]
    simp only [Bool.or_eq_true, decide_eq_true_eq, own b member]
    constructor
    · rintro (⟨⟨scope, g, here, stored, alive⟩, known | owns⟩ | ⟨scope, known⟩)
      · exact .own scope here stored alive known
      · exact .owned scope here stored alive (Or.inr ((owned here).mp owns))
      · exact .global scope known
    · intro visible
      cases visible with
      | own scope here stored alive known =>
        exact Or.inl ⟨⟨scope, _, here, stored, alive⟩, Or.inl known⟩
      | owned scope here stored alive owns =>
        refine Or.inl ⟨⟨scope, _, here, stored, alive⟩, Or.inr ((owned here).mpr ?_)⟩
        refine owns.resolve_left fun controller => ?_
        rw [is] at controller
        cases controller
      | global scope known => exact Or.inr ⟨scope, known⟩

end Filter

/-! ### The four ways of reading a grant -/

/-- The rows that a list of grants selects. -/
def GrantOptions.selected (opts : GrantOptions) (t : Store) : List RoleBinding :=
  t.directory.bindings.rows.filter fun b =>
    (opts.includeDeleted || b.live) && opts.filter t b && opts.implicit b

/-- An order that a list of grants accepts. -/
def AcceptedOrder (order : List OrderByField) : Prop :=
  ∀ o ∈ order, o.valid RoleBinding = true

theorem AcceptedOrder.withID {order : List OrderByField} (accepted : AcceptedOrder order) :
    AcceptedOrder (withID order) := by
  unfold Hypershell.withID
  split
  · exact accepted
  · intro o member
    rcases List.mem_append.mp member with given | added
    · exact accepted o given
    · rw [List.mem_singleton.mp added]
      decide

section Reading

variable [Platform] {L : Type} {ω : Env} {c : Context Store Event L} {svc : GatewayService}
  {p : Principal} {q : GrantQuery} {s : Store} {fails : Err → Context Store Event L → Prop}

/-- **The options of a list** select the visible grants. -/
theorem wp_grantOptions_served {ok : GrantOptions → Context Store Event L → Prop}
    (catalogued : Catalogued c.store.directory) (serves : Serves ω c.store.directory)
    (done : ∀ opts n d, c.store.directory.SameGrants d →
      opts.toListOptions = requestOptions q.page q.size q.search q.orderBy →
      opts.includeDeleted = false →
      (opts.implicit = fun b => implicitText q.userID (some b.userID) &&
        implicitText q.gatewayID b.gatewayID) →
      (∀ b ∈ c.store.directory.bindings.rows,
        opts.filter { c.store with directory := d } b = true ↔ GrantVisible svc p c.store b) →
      ok opts (c.put n { c.store with directory := d })) :
    Tx.wp ω (grantOptions svc p q) ok fails c := by
  obtain ⟨owner, named⟩ := catalogued.owner
  simp only [grantOptions, Tx.wp_bind]
  refine wp_syncUser_served catalogued.users serves fun user n d same _ own => ?_
  rw [Tx.wp_ite]
  split
  · rename_i ordinary
    rw [Tx.wp_bind]
    have still : d.rolesNamed "gateway:owner" = [owner] := by
      rw [Directory.rolesNamed, same.1]
      exact named
    exact wp_findRole_served serves.fault still fun m => done _ m d same rfl rfl rfl
      fun b member => grantFilter_iff (t := { c.store with directory := d })
        (.ordinary ordinary named) own rfl same member
  · rename_i controller
    rw [Bool.not_eq_false] at controller
    exact done _ n d same rfl rfl rfl
      fun b member => grantFilter_iff (t := { c.store with directory := d })
        (.controller controller) own rfl same member

omit [Platform] in
/-- Without filters of its caller, a list selects the visible grants. -/
theorem mem_selected {opts : GrantOptions} {d : Directory} {b : RoleBinding}
    (valid : validatePrincipal p = .ok ()) (same : s.directory.SameGrants d)
    (live : opts.includeDeleted = false)
    (selects : ∀ b ∈ s.directory.bindings.rows,
      opts.filter { s with directory := d } b = true ↔ GrantVisible svc p s b) :
    b ∈ opts.selected { s with directory := d } ↔
      b ∈ visibleGrants svc p s ∧ opts.implicit b = true := by
  rw [GrantOptions.selected, List.mem_filter]
  show b ∈ d.bindings.rows ∧ _ ↔ _
  rw [same.2, live, Bool.false_or, Bool.and_eq_true, Bool.and_eq_true]
  constructor
  · rintro ⟨member, ⟨alive, reaches⟩, implicit⟩
    exact ⟨⟨valid, member, alive, (selects b member).mp reaches⟩, implicit⟩
  · rintro ⟨⟨-, member, alive, visible⟩, implicit⟩
    exact ⟨member, ⟨alive, (selects b member).mpr visible⟩, implicit⟩

omit [Platform] in
theorem nodup_selected {opts : GrantOptions} {t : Store} : (opts.selected t).Nodup :=
  t.directory.bindings.nodup.filter _

variable [Database RoleBinding]

omit [Platform] in
/-- A list of grants without a search. -/
theorem listBindings_eq {opts : GrantOptions} {t : Store} (search : opts.search = "")
    (accepted : AcceptedOrder opts.orderBy) (all : opts.countOnly = false) :
    t.listBindings opts = .ok
      ⟨page opts.page opts.size (sorted (orderOf opts.orderBy) (opts.selected t)),
        (opts.selected t).length⟩ := by
  rw [Store.listBindings, listRows_eq search accepted, all]
  rfl

/-- **One page of grants.** -/
theorem wp_readGrantPage {opts : GrantOptions} {ok : GrantPage → Context Store Event L → Prop}
    (smooth : ∀ n, ω.fault n = false) (search : opts.search = "")
    (accepted : AcceptedOrder opts.orderBy) (size : 0 < opts.size ∧ opts.size ≤ 100)
    (all : opts.countOnly = false)
    (viewable : ∀ b ∈ opts.selected c.store, Viewable c.store b)
    (done : ∀ views n, views.map GrantView.grant =
        page opts.page opts.size (sorted (orderOf opts.orderBy) (opts.selected c.store)) →
      ok ⟨views, (opts.selected c.store).length⟩ (c.at n)) :
    Tx.wp ω (readGrantPage opts) ok fails c := by
  have listed := listBindings_eq (t := c.store) search accepted all
  simp only [readGrantPage, Tx.wp_bind]
  refine Action.wp_query_answer (smooth _) (fun e failed => ?_) fun result read => ?_
  · rw [listed] at failed
    cases failed
  · rw [listed] at read
    cases read
    refine wp_projectGrants_served smooth ?_ (fun row inside => ?_) fun n => ?_
    · have short : ((page opts.page opts.size
          (sorted (orderOf opts.orderBy) (opts.selected c.store))).length : Int) ≤ opts.size :=
        length_page_le size.1
      show (page opts.page opts.size _).length ≤ 10000
      omega
    · exact viewable row (mem_sorted.mp (mem_of_mem_window inside))
    · exact done _ _ (map_grant_view _ _)

/-- The visible grants in a list without repetition. -/
structure Lists (svc : GatewayService) (p : Principal) (s : Store) (rows : List RoleBinding) :
    Prop where
  once : rows.Nodup
  mem : ∀ b, b ∈ rows ↔ b ∈ visibleGrants svc p s

omit [Platform] [Database RoleBinding] in
theorem exists_lists (svc : GatewayService) (p : Principal) (s : Store) :
    ∃ rows, Lists svc p s rows := by
  classical
  refine ⟨s.directory.bindings.rows.filter fun b => decide (b ∈ visibleGrants svc p s),
    s.directory.bindings.nodup.filter _, fun b => ?_⟩
  rw [List.mem_filter, decide_eq_true_eq]
  exact ⟨fun both => both.2, fun visible => ⟨visible.2.1, visible⟩⟩

omit [Platform] [Database RoleBinding] in
theorem Lists.length {rows : List RoleBinding} (lists : Lists svc p s rows) :
    rows.length = (visibleGrants svc p s).ncard := by
  have whole : visibleGrants svc p s = rows.toFinset := by
    ext b
    rw [List.coe_toFinset]
    exact (lists.mem b).symm
  rw [whole, Set.ncard_coe_finset, List.toFinset_card_of_nodup lists.once]

omit [Platform] in
/-- The order of a list ends in the ID, so the list is the only one of its rows. -/
theorem Lists.sorted_eq {rows rows' : List RoleBinding} {order : List OrderByField}
    (lists : Lists svc p s rows) (once : rows'.Nodup)
    (mem : ∀ b, b ∈ rows' ↔ b ∈ visibleGrants svc p s) :
    sorted (orderOf (withID order)) rows' = sorted (orderOf (withID order)) rows := by
  refine sorted_eq_of_mem_iff once lists.once (fun b => (mem b).trans (lists.mem b).symm) ?_
  intro a memberA b memberB alike
  refine s.directory.bindings.eq_of_key ((mem a).mp memberA).2.1 ((mem b).mp memberB).2.1 ?_
  exact id_eq_of_orderOf (exists_id_withID order) alike

omit [Platform] [Database RoleBinding] in
theorem implicitText_empty (column : Option String) : implicitText "" column = true := by
  simp [implicitText]

omit [Platform] [Database RoleBinding] in
/-- Both filters of a request are absent. -/
theorem implicit_empty {opts : GrantOptions} {userID gatewayID : String}
    (implicit : opts.implicit = fun b => implicitText userID (some b.userID) &&
      implicitText gatewayID b.gatewayID) (user : userID = "") (gateway : gatewayID = "")
    (b : RoleBinding) : opts.implicit b = true := by
  rw [implicit, user, gateway]
  dsimp only
  rw [implicitText_empty, implicitText_empty]
  rfl

omit [Database RoleBinding] in
/-- A live grant can be shown. -/
theorem Catalogued.viewable {d : Directory} (catalogued : Catalogued s.directory)
    (same : s.directory.SameGrants d) {b : RoleBinding} (member : b ∈ s.directory.bindings.rows)
    (live : b.live = true) : Viewable { s with directory := d } b := by
  refine ⟨catalogued.scopes b member, ?_⟩
  obtain ⟨role, stored, isRole, alive, named⟩ := catalogued.role b member live
  have read : Store.getRole b.roleID { s with directory := d } = .ok role := by
    rw [← isRole]
    refine Table.getLive_of_mem (t := d.roles) ?_ alive
    rw [same.1]
    exact stored
  rw [Store.roleName, read]
  exact named

omit [Database RoleBinding] in
/-- A view can be made of every selected grant. -/
theorem viewable_selected {opts : GrantOptions} {d : Directory} (catalogued : Catalogued s.directory)
    (same : s.directory.SameGrants d) (live : opts.includeDeleted = false) :
    ∀ b ∈ opts.selected { s with directory := d }, Viewable { s with directory := d } b := by
  intro b member
  rw [GrantOptions.selected, List.mem_filter] at member
  obtain ⟨stored, kept⟩ := member
  rw [live, Bool.false_or, Bool.and_eq_true, Bool.and_eq_true] at kept
  have stored' : b ∈ s.directory.bindings.rows := by
    rw [← same.2]
    exact stored
  exact catalogued.viewable same stored' kept.1.1

omit [Database RoleBinding] in
/-- What a served transaction of a reader answers. -/
theorem answer_of_read {R : Type} {body : Action (Option R) Unit} {shows : R → Prop}
    (serves : Serves ω s.directory)
    (run : Tx.wp ω body (fun _ c => ∃ result, c.locals = some result ∧ shows result)
      (fun _ _ => False) ((Context.start s none).at 1)) :
    ∃ result, (dropOnError <$> withTransaction none body).answer [ω] s = some (some result, none) ∧
      shows result := by
  have ends : (∃ r, (withTransaction none body).answer [ω] s = some (r, none) ∧
        ∃ result, r = some result ∧ shows result) ∨
      ∃ r e, (withTransaction none body).answer [ω] s = some (r, some e) ∧ False :=
    answer_withTransaction (serves.fault 0) serves.commit run
  rw [Proc.answer_map]
  rcases ends with ⟨r, answer, result, rfl, shown⟩ | ⟨_, _, -, never⟩
  · rw [answer]
    exact ⟨result, rfl, shown⟩
  · exact never.elim

/-- **A page of `ListGrants`** is a page of the visible grants. -/
theorem wp_listGrantsBody {c : Context Store Event (Option GrantPage)}
    (valid : validatePrincipal p = .ok ()) (catalogued : Catalogued c.store.directory)
    (serves : Serves ω c.store.directory) (accepted : AcceptedOrder q.orderBy)
    (size : 0 < q.size ∧ q.size ≤ 100) (search : q.search = "") (user : q.userID = "")
    (gateway : q.gatewayID = "") {rows : List RoleBinding} (lists : Lists svc p c.store rows) :
    Tx.wp ω (listGrantsBody svc p q) (fun _ c' => ∃ result, c'.locals = some result ∧
      result.total = rows.length ∧ result.items.map GrantView.grant =
        page q.page q.size (sorted (orderOf (withID q.orderBy)) rows)) (fun _ _ => False) c := by
  simp only [listGrantsBody, Tx.wp_bind]
  refine wp_grantOptions_served catalogued serves fun opts n d same options live implicit selects => ?_
  have mem : ∀ b, b ∈ opts.selected { c.store with directory := d } ↔
      b ∈ visibleGrants svc p c.store :=
    fun b => (mem_selected valid same live selects).trans
      (and_iff_left (implicit_empty implicit user gateway b))
  have viewable := viewable_selected catalogued same live
  obtain ⟨opts', filter, imp, deleted⟩ := opts
  dsimp only at options
  subst options
  have all : decide (q.size = 0) = false := decide_eq_false (by omega)
  refine wp_readGrantPage serves.fault search accepted.withID size all viewable
    fun views m grants => ⟨_, rfl, ?_, ?_⟩
  · exact ((List.perm_ext_iff_of_nodup nodup_selected lists.once).mpr
      fun b => (mem b).trans (lists.mem b).symm).length_eq
  · exact grants.trans (congrArg _ (lists.sorted_eq nodup_selected mem))

/-- **The snapshot of `AllGrants`** has the visible grants, if these are at most 10000. -/
theorem wp_allGrantsBody {c : Context Store Event (Option (List GrantView))}
    (valid : validatePrincipal p = .ok ()) (catalogued : Catalogued c.store.directory)
    (serves : Serves ω c.store.directory) {rows : List RoleBinding}
    (lists : Lists svc p c.store rows) (bound : rows.length ≤ 10000) :
    Tx.wp ω (allGrantsBody svc p ⟨1, 100, "", [], "", ""⟩) (fun _ c' => ∃ views,
      c'.locals = some views ∧ views.map GrantView.grant = sorted (orderOf (withID [])) rows)
      (fun _ _ => False) c := by
  simp only [allGrantsBody, Tx.wp_bind]
  refine wp_grantOptions_served catalogued serves fun opts n d same options live implicit selects => ?_
  have mem : ∀ b, b ∈ opts.selected { c.store with directory := d } ↔
      b ∈ visibleGrants svc p c.store :=
    fun b => (mem_selected valid same live selects).trans
      (and_iff_left (implicit_empty implicit rfl rfl b))
  have viewable := viewable_selected catalogued same live
  have count : (opts.selected { c.store with directory := d }).length = rows.length :=
    ((List.perm_ext_iff_of_nodup nodup_selected lists.once).mpr
      fun b => (mem b).trans (lists.mem b).symm).length_eq
  have same' : sorted (orderOf (withID [])) (opts.selected { c.store with directory := d }) =
      sorted (orderOf (withID [])) rows := lists.sorted_eq nodup_selected mem
  have listed : Store.listBindings { opts with size := 10000 } { c.store with directory := d } =
      .ok ⟨sorted (orderOf (withID [])) rows, rows.length⟩ := by
    obtain ⟨opts', filter, imp, deleted⟩ := opts
    dsimp only at options
    subst options
    have plain : AcceptedOrder [] := fun _ never => absurd never List.not_mem_nil
    rw [listBindings_eq rfl plain.withID rfl, ← same', ← count]
    refine congrArg (fun items => Except.ok (ListResult.mk items _)) (page_one_of_length_le ?_)
    rw [length_sorted]
    exact Int.ofNat_le.mpr (count.trans_le bound)
  refine Action.wp_query_answer (serves.fault _) (fun e failed => ?_) fun result read => ?_
  · exact absurd (failed.symm.trans listed) (by simp)
  obtain rfl := Except.ok.inj (read.symm.trans listed)
  rw [Tx.wp_require, if_pos bound, Tx.wp_require, if_pos length_sorted]
  refine wp_projectGrants_served serves.fault ?_ (fun row inside => ?_) fun m => ?_
  · exact length_sorted.trans_le bound
  · exact viewable row ((mem row).mpr ((lists.mem row).mp (mem_sorted.mp inside)))
  · exact ⟨_, rfl, map_grant_view _ _⟩

omit [Database RoleBinding] in
/-- What a served transaction of a reader answers that may find nothing. -/
theorem answer_of_find {R : Type} {body : Action (Option R) Unit} {shows : R → Prop}
    {absent : Prop} (serves : Serves ω s.directory)
    (run : Tx.wp ω body (fun _ c => ∃ result, c.locals = some result ∧ shows result)
      (fun _ _ => absent) ((Context.start s none).at 1)) :
    (∃ result, (dropOnError <$> withTransaction none body).answer [ω] s =
        some (some result, none) ∧ shows result) ∨
      ∃ e, (dropOnError <$> withTransaction none body).answer [ω] s = some (none, some e) ∧
        absent := by
  have ends : (∃ r, (withTransaction none body).answer [ω] s = some (r, none) ∧
        ∃ result, r = some result ∧ shows result) ∨
      ∃ r e, (withTransaction none body).answer [ω] s = some (r, some e) ∧ absent :=
    answer_withTransaction (serves.fault 0) serves.commit run
  rw [Proc.answer_map]
  rcases ends with ⟨r, answer, result, rfl, shown⟩ | ⟨r, e, answer, missing⟩
  · rw [answer]
    exact Or.inl ⟨result, rfl, shown⟩
  · rw [answer]
    exact Or.inr ⟨e, rfl, missing⟩

/-- **`EventGrant`** finds a visible grant, or there is none. -/
theorem wp_eventGrantBody {c : Context Store Event (Option GrantView)} {id : String}
    (valid : validatePrincipal p = .ok ()) (catalogued : Catalogued c.store.directory)
    (serves : Serves ω c.store.directory) :
    Tx.wp ω (eventGrantBody svc p id false) (fun _ c' => ∃ view, c'.locals = some view ∧
      view.grant ∈ visibleGrants svc p c.store ∧ view.grant.id = id)
      (fun _ _ => ∀ b ∈ visibleGrants svc p c.store, b.id ≠ id) c := by
  simp only [eventGrantBody, Tx.wp_bind]
  refine wp_grantOptions_served catalogued serves fun opts n d same options live implicit selects => ?_
  have mem : ∀ b, b ∈ (opts.only id false).selected { c.store with directory := d } ↔
      b ∈ visibleGrants svc p c.store ∧ b.id = id := by
    intro b
    have chosen := @mem_selected svc p c.store (opts.only id false) d b valid same rfl selects
    rw [chosen]
    show _ ∧ (opts.implicit b && decide (b.id = id)) = true ↔ _
    rw [implicit_empty implicit rfl rfl b, Bool.true_and, decide_eq_true_eq]
  have viewable := @viewable_selected _ c.store (opts.only id false) d catalogued same rfl
  have fields : (opts.only id false).toListOptions = requestOptions 1 1 "" [] := options
  have plain : AcceptedOrder [] := fun _ never => absurd never List.not_mem_nil
  generalize opts.only id false = narrow at mem viewable fields
  obtain ⟨options', filter, imp, deleted⟩ := narrow
  dsimp only at fields
  subst fields
  have one : (0 : Int) < 1 ∧ (1 : Int) ≤ 100 := by decide
  refine wp_readGrantPage serves.fault rfl plain.withID one rfl viewable fun views m grants => ?_
  rw [Context.put_store] at grants
  have single : (GrantOptions.selected ⟨requestOptions 1 1 "" [], filter, imp, deleted⟩
      { c.store with directory := d }).length ≤ 1 := by
    refine length_le_one nodup_selected fun a memberA b memberB => ?_
    obtain ⟨⟨-, storedA, -⟩, idA⟩ := (mem a).mp memberA
    obtain ⟨⟨-, storedB, -⟩, idB⟩ := (mem b).mp memberB
    exact c.store.directory.bindings.eq_of_key storedA storedB (idA.trans idB.symm)
  generalize GrantOptions.selected _ _ = selected at mem grants single
  have all : views.map GrantView.grant = sorted (orderOf (withID [])) selected := by
    rw [grants]
    exact page_one_of_length_le (by rw [length_sorted]; exact Int.ofNat_le.mpr single)
  have inside : ∀ view ∈ views, view.grant ∈ visibleGrants svc p c.store ∧ view.grant.id = id := by
    intro view member
    have listed : view.grant ∈ sorted (orderOf (withID [])) selected := by
      rw [← all]
      exact List.mem_map_of_mem member
    exact (mem _).mp (mem_sorted.mp listed)
  have count : views.length = selected.length := by
    rw [← List.length_map GrantView.grant, all, length_sorted]
  rcases views with _ | ⟨view, _ | ⟨_, _⟩⟩
  · intro b visible isID
    have member := (mem b).mpr ⟨visible, isID⟩
    rw [List.eq_nil_of_length_eq_zero count.symm] at member
    cases member
  · obtain ⟨visible, isID⟩ := inside view List.mem_cons_self
    have live : view.grant.live = !false := visible.2.2.1
    rw [Tx.wp_bind, Tx.wp_require, if_pos live]
    exact ⟨view, rfl, visible, isID⟩
  · rw [List.length_cons, List.length_cons] at count
    omega

omit [Database RoleBinding] in
/-- **The check for an owner**, for a caller whose user is known. -/
theorem wp_mutationTarget_served {id gatewayID : String} {owner : Role} {g : Gateway}
    {ok : Gateway → Context Store Event L → Prop} (smooth : ∀ n, ω.fault n = false)
    (known : c.store.directory.Identified p id)
    (named : c.store.directory.rolesNamed "gateway:owner" = [owner])
    (stored : c.store.gateway? gatewayID = some g) (live : g.live = true)
    (denied : svc.isControlPlane p = false → c.store.directory.grants gatewayID id owner.id = false →
      ∀ n d, fails .notFound (c.put n { c.store with directory := d }))
    (found : (svc.isControlPlane p = true ∨ c.store.directory.grants gatewayID id owner.id = true) →
      ∀ n d, ok g (c.put n { c.store with directory := d })) :
    Tx.wp ω (mutationTarget svc p gatewayID false false) ok fails c := by
  simp only [mutationTarget, Tx.wp_bind]
  refine wp_syncUser_identified smooth known fun user n d isUser same _ => ?_
  subst isUser
  have listed : ∀ permitted : Directory → Bool,
      Store.listGateway gatewayID false permitted { c.store with directory := d } =
        if permitted d then .ok g else .error .notFound := by
    intro permitted
    have here : Store.gateway? { c.store with directory := d } gatewayID = some g := stored
    rw [Store.listGateway, here]
    simp [live]
  rw [Tx.wp_ite]
  split
  · rename_i ordinary
    have still : d.rolesNamed "gateway:owner" = [owner] := by
      rw [Directory.rolesNamed, same.1]
      exact named
    have grants : d.grants gatewayID user.id owner.id =
        c.store.directory.grants gatewayID user.id owner.id := by
      rw [Directory.grants, same.2, Directory.grants]
    rw [Tx.wp_bind]
    refine wp_findRole_served smooth still fun m => ?_
    refine Action.wp_query_answer (smooth _) (fun e failed => ?_) fun row read => ?_
    · rw [Context.at_store, Context.put_store, listed, grants] at failed
      split at failed
      · cases failed
      · rename_i absent
        cases failed
        exact denied ordinary.1 (Bool.eq_false_iff.mpr absent) _ d
    · rw [Context.at_store, Context.put_store, listed, grants] at read
      split at read
      · rename_i owns
        cases read
        exact found (Or.inr owns) _ d
      · cases read
  · rename_i privileged
    have controller : svc.isControlPlane p = true := by
      by_contra ordinary
      exact privileged ⟨Bool.eq_false_iff.mpr ordinary, by simp⟩
    refine Action.wp_query_answer (smooth _) (fun e failed => ?_) fun row read => ?_
    · rw [Context.put_store, listed] at failed
      cases failed
    · rw [Context.put_store, listed] at read
      cases read
      exact found (Or.inl controller) _ d

omit [Database RoleBinding] in
/-- **`GetGrant`** finds a visible grant, or there is none. -/
theorem wp_getGrantBody {c : Context Store Event (Option RoleBinding)} {id : String}
    (valid : validatePrincipal p = .ok ()) (catalogued : Catalogued c.store.directory)
    (serves : Serves ω c.store.directory) :
    Tx.wp ω (getGrantBody svc p id) (fun _ c' => ∃ b, c'.locals = some b ∧
      b ∈ visibleGrants svc p c.store ∧ b.id = id)
      (fun _ _ => ∀ b ∈ visibleGrants svc p c.store, b.id ≠ id) c := by
  obtain ⟨owner, named⟩ := catalogued.owner
  simp only [getGrantBody, Tx.wp_bind]
  refine Action.wp_query_answer (serves.fault _) (fun e absent => ?_) fun b read => ?_
  · rintro b ⟨-, stored, live, -⟩ rfl
    have found : c.store.getBinding b.id = .ok b := by
      have here : c.store.directory.bindings.find? b.id = some b := Table.find?_of_mem stored
      rw [Store.getBinding, Table.getLive, here]
      exact if_pos live
    exact absurd (absent.symm.trans found) (by simp)
  obtain ⟨found, live⟩ := Store.getBinding_ok read
  have stored := Table.mem_of_find? found
  have isID : b.id = id := Table.key_of_find? found
  have only : ∀ b' ∈ visibleGrants svc p c.store, b'.id = id → b' = b := fun b' visible same =>
    c.store.directory.bindings.eq_of_key visible.2.1 stored (same.trans isID.symm)
  rw [Tx.wp_capture]
  refine wp_syncUser_served catalogued.users serves fun user n d same known own => ?_
  have mine : b.userID = user.id ↔ c.store.directory.Identified p b.userID := own b stored
  rw [Tx.wp_ite]
  split
  · rename_i scope
    have unscoped : b.gatewayID = none := by
      rcases catalogued.scopes b stored with ⟨gateway, -⟩ | ⟨-, none⟩
      · rw [scope] at gateway
        exact absurd gateway (by decide)
      · exact none
    rw [Tx.wp_bind, Tx.wp_require, if_pos unscoped, Tx.wp_require]
    split
    · rename_i isMine
      exact ⟨b, rfl, ⟨valid, stored, live, .global scope (mine.mp isMine)⟩, isID⟩
    · rename_i notMine
      intro b' visible same'
      obtain rfl := only b' visible same'
      obtain ⟨-, -, -, visible⟩ := visible
      cases visible with
      | own gateway => rw [scope] at gateway; exact absurd gateway (by decide)
      | owned gateway => rw [scope] at gateway; exact absurd gateway (by decide)
      | global _ known => exact notMine (mine.mpr known)
  · rename_i notGlobal
    obtain ⟨scope, some⟩ : b.scope = "gateway" ∧ b.gatewayID ≠ none :=
      (catalogued.scopes b stored).resolve_right fun global => notGlobal global.1
    cases gateway : b.gatewayID with
    | none => exact absurd gateway some
    | some gatewayID =>
      dsimp only
      rw [Tx.wp_bind, Tx.wp_require, if_pos scope, Tx.wp_bind]
      -- Every way of seeing the grant needs its live Gateway.
      have needs : ∀ b' ∈ visibleGrants svc p c.store, b'.id = id →
          ∃ g, c.store.gateway? gatewayID = Option.some g ∧ g.live = true ∧
            (c.store.directory.Identified p b.userID ∨ svc.isControlPlane p = true ∨
              c.store.directory.OwnsGateway p gatewayID) := by
        intro b' visible same'
        obtain rfl := only b' visible same'
        obtain ⟨-, -, -, visible⟩ := visible
        cases visible with
        | own _ here found' alive known =>
          obtain rfl := Option.some.inj (gateway.symm.trans here)
          exact ⟨_, found', alive, Or.inl known⟩
        | owned _ here found' alive owns =>
          obtain rfl := Option.some.inj (gateway.symm.trans here)
          exact ⟨_, found', alive, Or.inr owns⟩
        | global global => exact absurd global notGlobal
      refine Action.wp_query_answer (serves.fault _) (fun e absent => ?_) fun g readGateway => ?_
      · intro b' visible same'
        obtain ⟨g, found', alive, -⟩ := needs b' visible same'
        have dead := (Store.getGateway_error absent).2 g found'
        rw [alive] at dead
        cases dead
      obtain ⟨found', alive⟩ := Store.getGateway_ok readGateway
      have isGateway : g.id = gatewayID := Store.id_of_gateway? found'
      have here : b.gatewayID = Option.some g.id := by rw [gateway, isGateway]
      have storedGateway : c.store.gateway? g.id = Option.some g := by
        rw [isGateway]
        exact found'
      rw [Tx.wp_ite]
      split
      · rename_i isMine
        exact ⟨b, rfl, ⟨valid, stored, live,
          .own scope here storedGateway alive (mine.mp isMine)⟩, isID⟩
      · rename_i notMine
        rw [Tx.wp_bind]
        have still : d.rolesNamed "gateway:owner" = [owner] := by
          rw [Directory.rolesNamed, same.1]
          exact named
        have grants : d.grants gatewayID user.id owner.id =
            c.store.directory.grants gatewayID user.id owner.id := by
          rw [Directory.grants, same.2, Directory.grants]
          rfl
        have owns := @ownsGateway_iff p c.store user.id gatewayID owner named own
        refine wp_mutationTarget_served (g := g) serves.fault known still found' alive
          (fun ordinary lacks _ _ => ?_) fun may _ _ => ?_
        · intro b' visible same'
          obtain ⟨_, -, -, reach⟩ := needs b' visible same'
          rw [Context.at_store, Context.put_store, grants] at lacks
          rcases reach with known' | controller | isOwner
          · exact notMine (mine.mpr known')
          · rw [ordinary] at controller
            cases controller
          · rw [← owns, lacks] at isOwner
            cases isOwner
        · rw [Context.at_store, Context.put_store, grants, owns] at may
          refine ⟨b, rfl, ⟨valid, stored, live, ?_⟩, isID⟩
          refine .owned scope here storedGateway alive ?_
          rw [isGateway]
          exact may

/-- What `GetGrant` and `EventGrant` answer: a visible grant, or an error as there is none. -/
def Finds {R : Type} (grant : R → RoleBinding) (visible : Set RoleBinding) (id : String)
    (answer : Option (Option R × Option Err)) : Prop :=
  (∃ r, answer = some (some r, none) ∧ grant r ∈ visible ∧ (grant r).id = id) ∨
    ∃ e, answer = some (none, some e) ∧ ∀ b ∈ visible, b.id ≠ id

omit [Platform] [Database RoleBinding] in
theorem Finds.iff {R : Type} {grant : R → RoleBinding} {visible : Set RoleBinding} {b : RoleBinding}
    {answer : Option (Option R × Option Err)} (finds : Finds grant visible b.id answer)
    (unique : ∀ a ∈ visible, ∀ b ∈ visible, a.id = b.id → a = b) :
    (∃ r, answer = some (some r, none) ∧ grant r = b) ↔ b ∈ visible := by
  constructor
  · rintro ⟨r, returned, rfl⟩
    rcases finds with ⟨r', returned', member, -⟩ | ⟨e, failed, -⟩
    · rw [returned] at returned'
      cases returned'
      exact member
    · rw [returned] at failed
      cases failed
  · intro member
    rcases finds with ⟨r, returned, member', same⟩ | ⟨e, -, absent⟩
    · exact ⟨r, returned, unique _ member' b member same⟩
    · exact absurd rfl (absent b member)

omit [Database RoleBinding] in
theorem finds_getGrant (catalogued : Catalogued s.directory) (serves : Serves ω s.directory)
    (id : String) :
    Finds (fun b => b) (visibleGrants svc p s) id ((getGrant svc p id).answer [ω] s) := by
  unfold getGrant readGrant
  split
  · rename_i e invalid
    refine Or.inr ⟨e, by rw [Proc.answer_map]; rfl, fun b visible => ?_⟩
    exact absurd (visible.1.symm.trans invalid) (by simp)
  · rename_i valid
    split
    · rename_i malformed
      refine Or.inr ⟨.notFound, by rw [Proc.answer_map]; rfl, fun b visible same => ?_⟩
      rw [← same] at malformed
      exact malformed (catalogued.canonical b visible.2.1)
    · exact answer_of_find serves (wp_getGrantBody valid catalogued serves)

theorem finds_eventGrant (catalogued : Catalogued s.directory) (serves : Serves ω s.directory)
    (id : String) : Finds GrantView.grant (visibleGrants svc p s) id
      ((eventGrant svc p id false).answer [ω] s) := by
  unfold eventGrant
  split
  · rename_i e invalid
    refine Or.inr ⟨e, rfl, fun b visible => ?_⟩
    exact absurd (visible.1.symm.trans invalid) (by simp)
  · rename_i valid
    split
    · rename_i malformed
      refine Or.inr ⟨.notFound, rfl, fun b visible same => ?_⟩
      rw [← same] at malformed
      exact malformed (catalogued.canonical b visible.2.1)
    · exact answer_of_find serves (wp_eventGrantBody valid catalogued serves)

omit [Platform] [Database RoleBinding] in
theorem visibleGrants_unique : ∀ a ∈ visibleGrants svc p s, ∀ b ∈ visibleGrants svc p s,
    a.id = b.id → a = b :=
  fun _ visibleA _ visibleB same =>
    s.directory.bindings.eq_of_key visibleA.2.1 visibleB.2.1 same

/-- **The pages of `ListGrants`** have the visible grants, as far as pages are counted. -/
theorem mem_pages_iff (catalogued : Catalogued s.directory) (serves : Serves ω s.directory)
    {size : Int} {order : List OrderByField} (positive : 0 < size) (bound : size ≤ 100)
    (accepted : AcceptedOrder order)
    (pages : ((visibleGrants svc p s).ncard : Int) ≤ 1000000 * size) (b : RoleBinding) :
    (∃ number, 1 ≤ number ∧ number ≤ 1000000 ∧ ∃ result,
        (listGrants svc p ⟨number, size, "", order, "", ""⟩).answer [ω] s =
          some (some result, none) ∧ b ∈ result.items.map GrantView.grant) ↔
      b ∈ visibleGrants svc p s := by
  cases valid : validatePrincipal p with
  | error e =>
    constructor
    · rintro ⟨number, -, -, result, answer, -⟩
      simp [listGrants, valid] at answer
    · intro visible
      exact absurd (visible.1.symm.trans valid) (by simp)
  | ok _ =>
    obtain ⟨rows, lists⟩ := exists_lists svc p s
    rw [← lists.length] at pages
    have answers : ∀ number, 1 ≤ number → number ≤ 1000000 → ∃ result,
        (listGrants svc p ⟨number, size, "", order, "", ""⟩).answer [ω] s =
            some (some result, none) ∧
          result.items.map GrantView.grant =
            page number size (sorted (orderOf (withID order)) rows) := by
      intro number first last
      have request : (GrantQuery.mk number size "" order "" "").valid = true := by
        refine decide_eq_true ⟨first, last, positive.le, bound, Or.inl rfl, Or.inl rfl⟩
      have body := @wp_listGrantsBody _ ω svc p ⟨number, size, "", order, "", ""⟩ _
        ((Context.start s none).at 1) valid catalogued serves accepted ⟨positive, bound⟩ rfl rfl rfl
        rows lists
      obtain ⟨result, answer, -, items⟩ := answer_of_read serves body
      refine ⟨result, ?_, items⟩
      rw [listGrants, valid]
      dsimp only
      rw [request, if_neg (by simp)]
      exact answer
    have all : b ∈ visibleGrants svc p s ↔ b ∈ sorted (orderOf (withID order)) rows :=
      (lists.mem b).symm.trans mem_sorted.symm
    have few : ((sorted (orderOf (withID order)) rows).length : Int) ≤ 1000000 * size := by
      rw [length_sorted]
      exact pages
    rw [all, mem_iff_exists_page positive few]
    refine exists_congr fun number => and_congr_right fun first => and_congr_right fun last => ?_
    obtain ⟨result, answer, items⟩ := answers number first last
    rw [← items]
    constructor
    · rintro ⟨result', answer', member⟩
      rw [answer] at answer'
      cases answer'
      exact member
    · exact fun member => ⟨result, answer, member⟩

/-- **The snapshot of `AllGrants`** has the visible grants, unless there are too many. -/
theorem mem_snapshot_iff (catalogued : Catalogued s.directory) (serves : Serves ω s.directory)
    (bound : (visibleGrants svc p s).ncard ≤ 10000) (b : RoleBinding) :
    (∃ views, (allGrants svc p "" "").answer [ω] s = some (some views, none) ∧
        b ∈ views.map GrantView.grant) ↔ b ∈ visibleGrants svc p s := by
  cases valid : validatePrincipal p with
  | error e =>
    constructor
    · rintro ⟨views, answer, -⟩
      simp [allGrants, valid] at answer
    · intro visible
      exact absurd (visible.1.symm.trans valid) (by simp)
  | ok _ =>
    obtain ⟨rows, lists⟩ := exists_lists svc p s
    rw [← lists.length] at bound
    have body := @wp_allGrantsBody _ ω svc p _ ((Context.start s none).at 1) valid catalogued serves
      rows lists bound
    obtain ⟨views, answer, grants⟩ := answer_of_read serves body
    have answered : (allGrants svc p "" "").answer [ω] s = some (some views, none) := by
      have request : (GrantQuery.mk 1 100 "" [] "" "").valid = true := by
        simp [GrantQuery.valid]
      rw [allGrants, valid]
      dsimp only
      rw [request, if_neg (by simp)]
      exact answer
    rw [answered, ← lists.mem, ← mem_sorted, ← grants]
    constructor
    · rintro ⟨views', answer', member⟩
      cases answer'
      exact member
    · exact fun member => ⟨views, rfl, member⟩

/-- **Grant visibility.** At every store that the schema allows and while no operation fails,
the visible grants are the ones that `GetGrant` returns, that the pages of `ListGrants` have,
whatever their order and size, that the snapshot of `AllGrants` has unless there are too many
of them, and that `EventGrant` returns. -/
theorem grant_visibility (catalogued : Catalogued s.directory) (serves : Serves ω s.directory)
    (b : RoleBinding) :
    ((getGrant svc p b.id).answer [ω] s = some (some b, none) ↔ b ∈ visibleGrants svc p s) ∧
    (∀ id r, (getGrant svc p id).answer [ω] s = some (r, none) →
      ∃ b' ∈ visibleGrants svc p s, b'.id = id ∧ r = some b') ∧
    (∀ size order, 0 < size → size ≤ 100 → AcceptedOrder order →
      ((visibleGrants svc p s).ncard : Int) ≤ 1000000 * size →
      ((∃ number, 1 ≤ number ∧ number ≤ 1000000 ∧ ∃ result,
          (listGrants svc p ⟨number, size, "", order, "", ""⟩).answer [ω] s =
            some (some result, none) ∧ b ∈ result.items.map GrantView.grant) ↔
        b ∈ visibleGrants svc p s)) ∧
    ((visibleGrants svc p s).ncard ≤ 10000 →
      ((∃ views, (allGrants svc p "" "").answer [ω] s = some (some views, none) ∧
          b ∈ views.map GrantView.grant) ↔ b ∈ visibleGrants svc p s)) ∧
    ((∃ view, (eventGrant svc p b.id false).answer [ω] s = some (some view, none) ∧
        view.grant = b) ↔ b ∈ visibleGrants svc p s) := by
  refine ⟨?_, ?_, ?_, ?_, ?_⟩
  · have finds : Finds _ (visibleGrants svc p s) _ _ := finds_getGrant catalogued serves b.id
    rw [← finds.iff visibleGrants_unique]
    constructor
    · exact fun answer => ⟨b, answer, rfl⟩
    · rintro ⟨r, answer, rfl⟩
      exact answer
  · intro id r answer
    have finds : Finds _ (visibleGrants svc p s) _ _ := finds_getGrant catalogued serves id
    rcases finds with ⟨b', answer', visible, isID⟩ | ⟨e, answer', -⟩
    · rw [answer] at answer'
      cases answer'
      exact ⟨b', visible, isID, rfl⟩
    · rw [answer] at answer'
      cases answer'
  · intro size order positive bound accepted pages
    exact mem_pages_iff catalogued serves positive bound accepted pages b
  · exact fun bound => mem_snapshot_iff catalogued serves bound b
  · exact (finds_eventGrant catalogued serves b.id).iff visibleGrants_unique

end Reading

namespace Sample

/-- The columns of a grant, all ordered by ID, and no search. -/
scoped instance sampleBindings : Database RoleBinding where
  compare _ := compareOn fun b : RoleBinding => b.id
  ordered _ := inferInstance
  distinct a b alike := Std.LawfulEqCmp.eq_of_compare (show compare a.id b.id = .eq from alike)
  parse _ := none
  examines _ _ _ := true

/-- A service without controllers. -/
def grantService : GatewayService := ⟨fun _ => false, [], [], [], "", ""⟩

/-- The owner's grant, under a drawn ID. -/
def ownerGrant : RoleBinding :=
  ⟨sampleMeta accountID none, ownerID, "role-owner", some gatewayID, "gateway"⟩

def granted : Store :=
  { store none none with
    directory := { directory with bindings := ⟨[ownerGrant], List.pairwise_singleton _ _⟩ } }

theorem granted_catalogued : Catalogued granted.directory where
  scopes b member := by
    rw [List.mem_singleton.mp member]
    exact Or.inl ⟨rfl, by decide⟩
  role b member _ := by
    rw [List.mem_singleton.mp member]
    exact ⟨_, List.mem_cons_self, rfl, rfl, by decide⟩
  owner := ⟨_, rfl⟩
  viewer := ⟨_, rfl⟩
  canonical b member := by
    rw [List.mem_singleton.mp member]
    decide
  users u member := by
    rw [List.mem_singleton.mp member]
    rfl

theorem granted_served : Serves (env drawnID) granted.directory where
  fault _ := rfl
  entropy _ := by
    refine ⟨_, rfl, by decide, fun b member => ?_⟩
    rw [List.mem_singleton.mp member]
    decide
  commit := rfl

theorem ownerGrant_visible : ownerGrant ∈ visibleGrants grantService principal granted := by
  have named : granted.directory.Identified principal ownerID := ⟨owner, rfl, rfl, rfl, rfl⟩
  have stored : granted.gateway? gatewayID = some (gateway none) := rfl
  exact ⟨by decide, List.mem_singleton_self _, rfl, .own (g := gateway none) rfl rfl stored rfl named⟩

end Sample

open Sample in
/-- The owner's grant is found, and it is in the snapshot. -/
theorem grant_visibility_sample :
    (getGrant Sample.grantService Sample.principal Sample.accountID).answer
        [Sample.env ⟨Sample.auditID, by decide⟩] Sample.granted =
      some (some Sample.ownerGrant, none) ∧
    ∃ view, (eventGrant Sample.grantService Sample.principal Sample.accountID false).answer
        [Sample.env ⟨Sample.auditID, by decide⟩] Sample.granted = some (some view, none) ∧
      view.grant = Sample.ownerGrant := by
  constructor
  · obtain ⟨alone, -⟩ :=
      grant_visibility Sample.granted_catalogued Sample.granted_served Sample.ownerGrant
    exact alone.mpr Sample.ownerGrant_visible
  · obtain ⟨-, -, -, -, event⟩ :=
      grant_visibility Sample.granted_catalogued Sample.granted_served Sample.ownerGrant
    exact event.mpr Sample.ownerGrant_visible

end Hypershell
