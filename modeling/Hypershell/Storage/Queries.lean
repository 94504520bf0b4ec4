import Hypershell.Foundation.Listing
import Hypershell.Storage.Store

/-!
# Lists of rows

`List` selects the rows of an entity by the filters of its caller and by a search text,
counts them, orders them and returns one page.  All conditions are parts of one SQL
condition, and the order of the rows is the database's.

## Main definitions

* `Entity`, `Database` — the columns of an entity, and what PostgreSQL does with them
* `ListOptions`, `ListResult`, `listRows` — a listing
* `Evaluable` — a search that fails on none of the stored rows

## Main results

* `listRows_congr` — a listing is a function of the set of rows its filters select, if its
  search is evaluable and its order ends in the ID
* `listRows_eq` — what a listing without a search returns

## Design notes

* `Database.compare` is the ascending order of a column.  Nothing is assumed of it but that
  it is an order, and that the order by ID tells IDs apart.
* A search is arithmetic and comparisons over one row; it can fail on a row, as in a
  division by a column that is zero there.  PostgreSQL leaves open in which order the parts
  of a condition are evaluated, so `Database.examines` says on which of the other rows it
  evaluates a search before it drops them.
-/

namespace Hypershell

open Foundation

/-- The columns of an entity that an order or a filter may name. -/
class Entity (R : Type) where
  columns : List String
  id : R → String

/-- What PostgreSQL does with an entity's columns. -/
class Database (R : Type) [Entity R] where
  /-- The ascending order of a column. -/
  compare : String → R → R → Ordering
  /-- It is an order. -/
  ordered : ∀ column, Std.TransCmp (compare column)
  /-- The order by ID tells IDs apart. -/
  distinct : ∀ a b, compare "id" a b = .eq → Entity.id a = Entity.id b
  /-- `ParseSearch`: `none` for an invalid text, `some none` for a blank one.  A condition
  is `none` on a row on which its evaluation fails. -/
  parse : String → Option (Option (R → Option Bool))
  /-- A row on which a search is evaluated although the other conditions drop it. -/
  examines : List R → (R → Bool) → R → Bool

/-- One field of an order. -/
structure OrderByField where
  field : String
  direction : String
  deriving DecidableEq, Repr

/-- The part of `ListOptions` that does not select rows by their columns. -/
structure ListOptions where
  page : Int
  size : Int
  countOnly : Bool
  search : String
  orderBy : List OrderByField
  deriving DecidableEq, Repr

/-- One page and the number of all rows. -/
structure ListResult (R : Type) where
  items : List R
  total : Nat

namespace OrderByField

variable {R : Type} [Entity R]

/-- A column and a direction that a listing accepts. -/
def valid (R : Type) [Entity R] (o : OrderByField) : Bool :=
  decide (o.field ∈ Entity.columns R) && decide (o.direction = "asc" ∨ o.direction = "desc")

variable [Database R]

/-- The comparison of one field. -/
def compare (o : OrderByField) : R → R → Ordering :=
  if o.direction = "desc" then fun a b => Database.compare o.field b a
  else Database.compare o.field

theorem transCmp_compare (o : OrderByField) : Std.TransCmp (o.compare : R → R → Ordering) := by
  have column : Std.TransCmp (Database.compare o.field : R → R → Ordering) :=
    Database.ordered o.field
  unfold compare
  split
  · exact Std.TransCmp.opposite
  · exact column

/-- An order by ID tells IDs apart in each direction. -/
theorem id_eq_of_compare {o : OrderByField} (field : o.field = "id") {a b : R}
    (alike : o.compare a b = .eq) : Entity.id a = Entity.id b := by
  unfold compare at alike
  rw [field] at alike
  split at alike
  · exact (Database.distinct b a alike).symm
  · exact Database.distinct a b alike

end OrderByField

/-- The caller's order, and the ID where it does not name it. -/
def withID (order : List OrderByField) : List OrderByField :=
  if order.any fun o => decide (o.field = "id") then order else order ++ [⟨"id", "asc"⟩]

theorem exists_id_withID (order : List OrderByField) :
    ∃ o ∈ withID order, o.field = "id" := by
  unfold withID
  split
  · rename_i named
    obtain ⟨o, member, field⟩ := List.any_eq_true.mp named
    exact ⟨o, member, of_decide_eq_true field⟩
  · exact ⟨_, List.mem_append_right order (List.mem_singleton_self _), rfl⟩

section Listing

variable {R : Type} [Entity R] [Database R]

/-- The comparison of a whole order. -/
def orderOf (order : List OrderByField) : R → R → Ordering :=
  lexicographic (order.map OrderByField.compare)

instance (order : List OrderByField) : Std.TransCmp (orderOf order : R → R → Ordering) := by
  refine transCmp_lexicographic fun key member => ?_
  obtain ⟨o, -, rfl⟩ := List.mem_map.mp member
  exact o.transCmp_compare

theorem id_eq_of_orderOf {order : List OrderByField} (named : ∃ o ∈ order, o.field = "id")
    {a b : R} (alike : orderOf order a b = .eq) : Entity.id a = Entity.id b := by
  obtain ⟨o, member, field⟩ := named
  exact OrderByField.id_eq_of_compare field
    (eq_of_lexicographic alike _ (List.mem_map_of_mem member))

/-- The condition of a search text.  An empty text is none. -/
def searchCondition (R : Type) [Entity R] [Database R] (text : String) :
    Except Err (R → Option Bool) :=
  if text = "" then
    .ok fun _ => some true
  else
    match Database.parse text with
    | none => .error (.text "search error")
    | some none => .ok fun _ => some true
    | some (some condition) => .ok condition

/-- `List`: count the rows that `keep` and the search select, and return one page of them. -/
def listRows (rows : List R) (keep : R → Bool) (opts : ListOptions) :
    Except Err (ListResult R) :=
  match searchCondition R opts.search with
  | .error e => .error e
  | .ok condition =>
    if (opts.orderBy.all (OrderByField.valid R)) = false then
      .error (.text "invalid ordering")
    else if rows.any fun r => (keep r || Database.examines rows keep r) && (condition r).isNone then
      .error (.text "search error")
    else
      let found := rows.filter fun r => keep r && decide (condition r = some true)
      .ok
        { items := if opts.countOnly then [] else
            page opts.page opts.size (sorted (orderOf opts.orderBy) found)
          total := found.length }

/-- A search that can be evaluated on every stored row. -/
def Evaluable (rows : List R) (text : String) : Prop :=
  ∀ condition, searchCondition R text = .ok condition → ∀ r ∈ rows, condition r ≠ none

/-- No search fails on no row. -/
theorem evaluable_empty (rows : List R) : Evaluable rows "" := by
  intro condition parsed r _
  rw [searchCondition, if_pos rfl] at parsed
  cases parsed
  exact Option.some_ne_none true

theorem not_examined_of_evaluable {rows : List R} {text : String} {keep : R → Bool}
    {condition : R → Option Bool} (evaluable : Evaluable rows text)
    (parsed : searchCondition R text = .ok condition) :
    (rows.any fun r => (keep r || Database.examines rows keep r) && (condition r).isNone) =
      false := by
  rw [Bool.eq_false_iff]
  intro failed
  obtain ⟨r, member, fails⟩ := List.any_eq_true.mp failed
  rw [Bool.and_eq_true, Option.isNone_iff_eq_none] at fails
  exact evaluable condition parsed r member fails.2

/-- **A listing depends on the set of rows that its filters select**, if its search fails on
no stored row and no two rows share an ID. -/
theorem listRows_congr {rows rows' : List R} {keep keep' : R → Bool} {opts : ListOptions}
    (once : rows.Nodup) (once' : rows'.Nodup)
    (ids : ∀ a ∈ rows, ∀ b ∈ rows, Entity.id a = Entity.id b → a = b)
    (evaluable : Evaluable rows opts.search) (evaluable' : Evaluable rows' opts.search)
    (named : ∃ o ∈ opts.orderBy, o.field = "id")
    (same : ∀ r, r ∈ rows ∧ keep r = true ↔ r ∈ rows' ∧ keep' r = true) :
    listRows rows keep opts = listRows rows' keep' opts := by
  unfold listRows
  cases parsed : searchCondition R opts.search with
  | error e => rfl
  | ok condition =>
    dsimp only
    rw [not_examined_of_evaluable evaluable parsed, not_examined_of_evaluable evaluable' parsed]
    have members : ∀ r, r ∈ rows.filter (fun r => keep r && decide (condition r = some true)) ↔
        r ∈ rows'.filter fun r => keep' r && decide (condition r = some true) := by
      intro r
      simp only [List.mem_filter, Bool.and_eq_true, ← and_assoc, same r]
    have perm := (List.perm_ext_iff_of_nodup (once.filter _) (once'.filter _)).mpr members
    have ordered := @sorted_eq_of_perm R (orderOf opts.orderBy) _ _ inferInstance perm
      fun a memberA b memberB alike => ids a (List.mem_of_mem_filter memberA) b
        (List.mem_of_mem_filter memberB) (id_eq_of_orderOf named alike)
    rw [ordered, perm.length_eq]

/-- **A listing without a search** has the rows that its filters select. -/
theorem listRows_eq {rows : List R} {keep : R → Bool} {opts : ListOptions}
    (search : opts.search = "") (valid : ∀ o ∈ opts.orderBy, o.valid R = true) :
    listRows rows keep opts = .ok
      { items := if opts.countOnly then [] else
          page opts.page opts.size (sorted (orderOf opts.orderBy) (rows.filter keep))
        total := (rows.filter keep).length } := by
  have parsed : searchCondition R opts.search = .ok fun _ => some true := by
    rw [search, searchCondition, if_pos rfl]
  have accepted : opts.orderBy.all (OrderByField.valid R) = true := List.all_eq_true.mpr valid
  have whole : Evaluable rows opts.search := by
    rw [search]
    exact evaluable_empty rows
  unfold listRows
  rw [parsed]
  dsimp only
  rw [not_examined_of_evaluable whole parsed]
  simp [accepted]

/-- The rows of a listing are selected by its filters. -/
theorem mem_of_listRows {rows : List R} {keep : R → Bool} {opts : ListOptions}
    {result : ListResult R} (listed : listRows rows keep opts = .ok result) :
    ∀ r ∈ result.items, r ∈ rows ∧ keep r = true := by
  unfold listRows at listed
  split at listed
  · cases listed
  · split_ifs at listed
    all_goals cases listed
    · exact fun _ never => nomatch never
    · intro r inside
      have selected := mem_sorted.mp (mem_of_mem_window inside)
      rw [List.mem_filter, Bool.and_eq_true] at selected
      exact ⟨selected.1, selected.2.1⟩

end Listing

end Hypershell
