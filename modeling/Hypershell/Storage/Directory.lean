import Hypershell.Storage.Store

/-!
# Grants, roles and the catalog

What the generated store does for `Role`, `RoleBinding`, `ManagedCluster` and
`GatewayRelease`.  A read or write addresses live rows only, and every change goes
through the unique indexes.

## Main definitions

* `Store.getRole`, `Store.getBinding`, `Store.createBinding`, `Store.deleteBinding`
* `Directory.grantsOf` — the grants of a Gateway, deleted ones included
* `Directory.Projects` — what others do to the directory without a Gateway's lock

## Main results

* `Store.createBinding_ok`, `Store.deleteBinding_ok` — what becomes of every Gateway's grants
-/

namespace Hypershell

open Foundation

/-- The live row with an ID. -/
def Foundation.Table.getLive {R : Type} [Relation R String] (table : Table R) (id : String)
    (live : R → Bool) : Except Err R :=
  match table.find? id with
  | some row => if live row then .ok row else .error .notFound
  | none => .error .notFound

theorem Foundation.Table.getLive_ok {R : Type} [Relation R String] {table : Table R} {id : String}
    {live : R → Bool} {row : R} (found : table.getLive id live = .ok row) :
    table.find? id = some row ∧ live row = true := by
  unfold Table.getLive at found
  split at found
  · rename_i row' stored
    split_ifs at found with alive
    cases found
    exact ⟨stored, alive⟩
  · cases found

theorem Foundation.Table.getLive_error {R : Type} [Relation R String] {table : Table R}
    {id : String} {live : R → Bool} {e : Err} (absent : table.getLive id live = .error e) :
    e = .notFound := by
  unfold Table.getLive at absent
  split at absent
  · split_ifs at absent
    cases absent
    rfl
  · cases absent
    rfl

namespace Directory

/-- The grants of a Gateway, deleted ones included. -/
def grantsOf (d : Directory) (gatewayID : String) : List RoleBinding :=
  d.bindings.rows.filter fun b => decide (b.gatewayID = some gatewayID)

/-- The grants of all Gateways. -/
def gatewayGrants (d : Directory) : List RoleBinding :=
  d.bindings.rows.filter fun b => b.gatewayID.isSome

section Grants

variable [Platform]

/-- Deleted grants stay, and the IDs of new ones are drawn. -/
structure Grows (d d' : Directory) : Prop where
  deleted : ∀ b ∈ d.bindings.rows, b.live = false → b ∈ d'.bindings.rows
  drawn : ∀ b ∈ d'.bindings.rows,
    (∃ b₀ ∈ d.bindings.rows, b₀.id = b.id) ∨ Platform.validID b.id = true

instance (d d' : Directory) : Decidable (d.Grows d') :=
  decidable_of_iff (_ ∧ _) ⟨fun both => ⟨both.1, both.2⟩, fun grows => ⟨grows.1, grows.2⟩⟩

theorem Grows.of_same {d d' : Directory} (same : d'.bindings = d.bindings) : d.Grows d' :=
  ⟨fun _ member _ => same ▸ member, fun b member => .inl ⟨b, same ▸ member, rfl⟩⟩

theorem Grows.trans {d d' d'' : Directory} (first : d.Grows d') (second : d'.Grows d'') :
    d.Grows d'' := by
  refine ⟨fun b member dead => second.deleted b (first.deleted b member dead) dead, ?_⟩
  intro b member
  rcases second.drawn b member with ⟨b₀, earlier, same⟩ | valid
  · rcases first.drawn b₀ earlier with ⟨b₁, earliest, same'⟩ | valid
    · exact .inl ⟨b₁, earliest, same'.trans same⟩
    · exact .inr (same ▸ valid)
  · exact .inr valid

/-- What others do to the directory without the lock of a Gateway: they change users, and they
create and delete global grants. -/
def Projects (d d' : Directory) : Prop :=
  d'.roles.rows = d.roles.rows ∧ d'.gatewayGrants = d.gatewayGrants ∧ d.Grows d'

instance (d d' : Directory) : Decidable (d.Projects d') :=
  inferInstanceAs (Decidable (_ ∧ _ ∧ _))

end Grants

theorem grantsOf_eq (d : Directory) (gatewayID : String) :
    d.grantsOf gatewayID = d.gatewayGrants.filter fun b => decide (b.gatewayID = some gatewayID) := by
  rw [grantsOf, gatewayGrants, List.filter_filter]
  congr 1
  funext b
  cases b.gatewayID <;> simp

/-- **A projection leaves the grants of every Gateway alone.** -/
theorem Projects.grantsOf [Platform] {d d' : Directory} (projects : d.Projects d') (gatewayID : String) :
    d'.grantsOf gatewayID = d.grantsOf gatewayID := by
  rw [grantsOf_eq, grantsOf_eq, projects.2.1]

theorem Projects.refl [Platform] (d : Directory) : d.Projects d := ⟨rfl, rfl, .of_same rfl⟩

theorem Projects.trans [Platform] {d d' d'' : Directory} (first : d.Projects d') (second : d'.Projects d'') :
    d.Projects d'' :=
  ⟨second.1.trans first.1, second.2.1.trans first.2.1,
    first.2.2.trans second.2.2⟩

/-- Other users are a projection. -/
theorem projects_users [Platform] (d : Directory) (users : Table User)
    (named : users.find? "" = none) : d.Projects { d with users := users, named := named } :=
  ⟨rfl, rfl, .of_same rfl⟩

/-- The live roles of a name. -/
def rolesNamed (d : Directory) (name : String) : List Role :=
  d.roles.rows.filter fun r => r.live && decide (r.name = name)

end Directory

namespace Store

/-- `Get(ctx, "Role", id)`. -/
def getRole (id : String) (s : Store) : Except Err Role :=
  s.directory.roles.getLive id fun r => r.live

/-- `Get(ctx, "User", id)`. -/
def getUser (id : String) (s : Store) : Except Err User :=
  s.directory.users.getLive id fun u => u.live

/-- `Get(ctx, "RoleBinding", id)`. -/
def getBinding (id : String) (s : Store) : Except Err RoleBinding :=
  s.directory.bindings.getLive id fun b => b.live

/-- `Get(ctx, "ManagedCluster", id)`. -/
def getCluster (id : String) (s : Store) : Except Err ManagedCluster :=
  s.clusters.getLive id fun c => c.live

/-- `Get(ctx, "GatewayRelease", id)`. -/
def getRelease (id : String) (s : Store) : Except Err GatewayRelease :=
  s.releases.getLive id fun r => r.live

/-- The store with other grants. -/
def putBindings (bindings : Table RoleBinding) (s : Store) : Store :=
  { s with directory := { s.directory with bindings := bindings } }

/-- `Create(ctx, "RoleBinding", row)`. -/
def createBinding (row : RoleBinding) (s : Store) : Except Err Store :=
  match s.directory.bindings.insert?
      { row with createdTime := s.time, updatedTime := s.time, deletedAt := none } with
  | some bindings => .ok (s.putBindings bindings)
  | none => .error .conflict

/-- `Delete(ctx, "RoleBinding", id)`. -/
def deleteBinding (id : String) (s : Store) : Except Err Store :=
  match s.getBinding id with
  | .error e => .error e
  | .ok row =>
    match s.directory.bindings.replace? { row with deletedAt := some s.time } with
    | some bindings => .ok (s.putBindings bindings)
    | none => .error .conflict

/-- The total of the counting `List` over a Gateway's live grants of a role. -/
def countGrants (gatewayID roleID : String) (s : Store) : Nat :=
  s.directory.bindings.rows.countP fun b => b.live && decide (b.gatewayID = some gatewayID) &&
    decide (b.roleID = roleID) && decide (b.scope = "gateway")

/-! ### What the writes do -/

section Writes

variable {s t : Store} {row : RoleBinding} {id : String}

/-- **A new grant** is the last one of its Gateway. -/
theorem createBinding_ok (created : s.createBinding row = .ok t) :
    ∃ bindings b, t = s.putBindings bindings ∧
      b = { row with createdTime := s.time, updatedTime := s.time, deletedAt := none } ∧
      bindings.rows = s.directory.bindings.rows ++ [b] := by
  unfold createBinding at created
  split at created
  · rename_i bindings inserted
    cases created
    exact ⟨bindings, _, rfl, rfl, Table.rows_of_insert? inserted⟩
  · cases created

/-- **A deleted grant** stays in its place. -/
theorem deleteBinding_ok (deleted : s.deleteBinding id = .ok t) :
    ∃ bindings b, t = s.putBindings bindings ∧ s.getBinding id = .ok b ∧
      bindings.rows = Table.overwrite s.directory.bindings.rows
        { b with deletedAt := some s.time } := by
  unfold deleteBinding at deleted
  split at deleted
  · cases deleted
  · rename_i b found
    split at deleted
    · rename_i bindings replaced
      cases deleted
      exact ⟨bindings, b, rfl, found, Table.rows_of_replace? replaced⟩
    · cases deleted

theorem getBinding_ok {b : RoleBinding} (found : s.getBinding id = .ok b) :
    s.directory.bindings.find? id = some b ∧ b.live = true :=
  Table.getLive_ok found

/-- The rows of a table that are kept by a predicate, after one row became another that it
treats alike. -/
theorem filter_overwrite {R : Type} [Relation R String] {rows : List R} {old new : R}
    {p : R → Bool} (separate : rows.Pairwise Separate) (member : old ∈ rows)
    (key : Relation.key new = Relation.key old) (alike : p new = p old) :
    (Table.overwrite rows new).filter p = Table.overwrite (rows.filter p) new := by
  have only : ∀ a ∈ rows, Relation.key a = Relation.key new → a = old := by
    intro a inside same
    by_contra other
    exact (separate.forall inside member other).1 (same.trans key)
  rw [Table.overwrite, Table.overwrite, List.filter_map]
  congr 1
  refine List.filter_congr fun a inside => ?_
  simp only [Function.comp]
  split
  · rename_i same
    rw [alike, only a inside same]
  · rfl

theorem overwrite_eq_self {R : Type} [Relation R String] {rows : List R} {new : R}
    (absent : ∀ a ∈ rows, Relation.key a ≠ Relation.key new) : Table.overwrite rows new = rows := by
  rw [Table.overwrite]
  conv_rhs => rw [← List.map_id rows]
  exact List.map_congr_left fun a inside => if_neg (absent a inside)

end Writes

end Store

end Hypershell
