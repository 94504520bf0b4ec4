import Mathlib.Data.List.Pairwise
import Mathlib.Data.List.Basic
import Mathlib.Order.Basic

/-!
# Tables with a primary key and unique indexes

A table is a list of rows that are pairwise separate: no two rows share the
primary key and no unique index holds two of them.  The proof of separation is a
field, so a table that violates a database constraint cannot be built; `insert?`
and `replace?` decline instead, as a unique index does.

## Main definitions

* `Relation` — the primary key of a row type and the rows its unique indexes
  keep apart
* `Table` — rows with the proof that they are pairwise separate
* `Table.find?`, `Table.insert?`, `Table.replace?` — the row operations
-/

namespace Hypershell.Foundation

/-- The key and the unique indexes of a row type.  `clash a b` says that some
unique index would hold both rows under one entry. -/
class Relation (R : Type) (K : outParam Type) where
  /-- The primary key. -/
  key : R → K
  /-- Two rows that one unique index cannot hold together. -/
  clash : R → R → Bool
  /-- An index does not depend on the order of its rows. -/
  clash_comm : ∀ a b, clash a b = clash b a

variable {R K : Type} [Relation R K] [DecidableEq K]

/-- Two rows that every constraint of the relation allows side by side. -/
def Separate (a b : R) : Prop :=
  Relation.key a ≠ Relation.key b ∧ Relation.clash a b = false

omit [DecidableEq K] in
theorem Separate.symm {a b : R} (h : Separate a b) : Separate b a :=
  ⟨h.1.symm, by rw [Relation.clash_comm]; exact h.2⟩

omit [DecidableEq K] in
instance : Std.Symm (Separate : R → R → Prop) := ⟨fun _ _ => Separate.symm⟩

instance (a b : R) : Decidable (Separate a b) :=
  inferInstanceAs (Decidable (_ ∧ _))

/-- The rows of a relation.  Every two of them are separate. -/
structure Table (R : Type) {K : Type} [Relation R K] where
  /-- The stored rows, deleted ones included. -/
  rows : List R
  /-- The constraints hold. -/
  separate : rows.Pairwise Separate

namespace Table

/-- The table without rows. -/
def empty : Table R := ⟨[], List.Pairwise.nil⟩

/-- The row with a primary key. -/
def find? (t : Table R) (k : K) : Option R :=
  t.rows.find? fun r => decide (Relation.key r = k)

/-- Add a row.  A duplicate key or unique entry declines the insertion. -/
def insert? (t : Table R) (r : R) : Option (Table R) :=
  if fresh : ∀ a ∈ t.rows, Separate a r then
    some ⟨t.rows ++ [r], by
      rw [List.pairwise_append]
      refine ⟨t.separate, List.pairwise_singleton _ _, ?_⟩
      intro a member b last
      rw [List.mem_singleton.mp last]
      exact fresh a member⟩
  else
    none

/-- The rows after the row with `r`'s key became `r`. -/
def overwrite (rows : List R) (r : R) : List R :=
  rows.map fun a => if Relation.key a = Relation.key r then r else a

theorem mem_overwrite {rows : List R} {r a : R} : a ∈ overwrite rows r ↔
    (a = r ∧ ∃ old ∈ rows, Relation.key old = Relation.key r) ∨
      (a ∈ rows ∧ Relation.key a ≠ Relation.key r) := by
  rw [overwrite, List.mem_map]
  constructor
  · rintro ⟨old, member, rfl⟩
    split
    · exact .inl ⟨rfl, old, member, ‹_›⟩
    · exact .inr ⟨member, ‹_›⟩
  · rintro (⟨rfl, old, member, same⟩ | ⟨member, other⟩)
    · exact ⟨old, member, if_pos same⟩
    · exact ⟨a, member, if_neg other⟩

theorem overwrite_separate {rows : List R} {r : R} (separate : rows.Pairwise Separate)
    (allowed : ∀ a ∈ rows, Relation.key a ≠ Relation.key r →
      Relation.clash a r = false) :
    (overwrite rows r).Pairwise Separate := by
  rw [overwrite, List.pairwise_map]
  refine List.Pairwise.imp_of_mem ?_ separate
  intro a b memberA memberB apart
  by_cases isA : Relation.key a = Relation.key r
  · have notB : Relation.key b ≠ Relation.key r := fun isB => apart.1 (isA.trans isB.symm)
    rw [if_pos isA, if_neg notB]
    exact Separate.symm ⟨notB, allowed b memberB notB⟩
  · by_cases isB : Relation.key b = Relation.key r
    · rw [if_neg isA, if_pos isB]
      exact ⟨isA, allowed a memberA isA⟩
    · rw [if_neg isA, if_neg isB]
      exact apart

/-- Replace the row that has `r`'s key.  A unique entry of another row declines
the replacement. -/
def replace? (t : Table R) (r : R) : Option (Table R) :=
  if allowed : ∀ a ∈ t.rows, Relation.key a ≠ Relation.key r →
      Relation.clash a r = false then
    some ⟨overwrite t.rows r, overwrite_separate t.separate allowed⟩
  else
    none

@[simp] theorem find?_empty (k : K) : (empty : Table R).find? k = none := rfl

omit [DecidableEq K] in
@[simp] theorem rows_empty : (empty : Table R).rows = [] := rfl

theorem key_of_find? {t : Table R} {k : K} {r : R} (found : t.find? k = some r) :
    Relation.key r = k := by
  simpa using List.find?_some found

theorem mem_of_find? {t : Table R} {k : K} {r : R} (found : t.find? k = some r) :
    r ∈ t.rows :=
  List.mem_of_find?_eq_some found

/-- A stored row is the one its key finds. -/
theorem find?_of_mem {t : Table R} {r : R} (member : r ∈ t.rows) :
    t.find? (Relation.key r) = some r := by
  cases found : t.find? (Relation.key r) with
  | none =>
    have absent := List.find?_eq_none.mp found r member
    simp at absent
  | some a =>
    have sameKey : Relation.key a = Relation.key r := key_of_find? found
    by_contra different
    have other : a ≠ r := fun same => different (by rw [same])
    have apart := t.separate.forall (mem_of_find? found) member other
    exact apart.1 sameKey

/-- Rows under one key are one row. -/
theorem eq_of_key (t : Table R) {a b : R} (memberA : a ∈ t.rows) (memberB : b ∈ t.rows)
    (same : Relation.key a = Relation.key b) : a = b := by
  have foundA := find?_of_mem memberA
  rw [same, find?_of_mem memberB] at foundA
  exact (Option.some.inj foundA).symm

omit [DecidableEq K] in
/-- No row is stored twice. -/
theorem nodup (t : Table R) : t.rows.Nodup :=
  t.separate.imp fun apart same => apart.1 (congrArg Relation.key same)

theorem mem_rows_iff {t : Table R} {r : R} :
    r ∈ t.rows ↔ t.find? (Relation.key r) = some r :=
  ⟨find?_of_mem, mem_of_find?⟩

/-- Two rows under different keys never share a unique entry. -/
theorem clash_of_find? {t : Table R} {k l : K} {a b : R} (foundA : t.find? k = some a)
    (foundB : t.find? l = some b) (apart : k ≠ l) : Relation.clash a b = false := by
  have different : a ≠ b := by
    rintro rfl
    exact apart ((key_of_find? foundA).symm.trans (key_of_find? foundB))
  exact (t.separate.forall (mem_of_find? foundA) (mem_of_find? foundB) different).2

/-! ### Insertion -/

section Insert

variable {t t' : Table R} {r : R}

theorem rows_of_insert? (inserted : t.insert? r = some t') : t'.rows = t.rows ++ [r] := by
  unfold insert? at inserted
  split at inserted
  · cases inserted; rfl
  · cases inserted

theorem fresh_of_insert? (inserted : t.insert? r = some t') :
    ∀ a ∈ t.rows, Separate a r := by
  unfold insert? at inserted
  split at inserted
  · assumption
  · cases inserted

theorem absent_of_insert? (inserted : t.insert? r = some t') :
    t.find? (Relation.key r) = none := by
  refine List.find?_eq_none.mpr fun a member => ?_
  simpa using (fresh_of_insert? inserted a member).1

theorem find?_insert? (inserted : t.insert? r = some t') (k : K) :
    t'.find? k = if k = Relation.key r then some r else t.find? k := by
  rw [find?, rows_of_insert? inserted, List.find?_append, ← find?]
  split
  · rename_i same
    rw [same, absent_of_insert? inserted]
    simp
  · rename_i other
    have miss : ([r] : List R).find? (fun a => decide (Relation.key a = k)) = none := by
      simpa using fun same => other same.symm
    rw [miss, Option.or_none]

end Insert

/-! ### Replacement -/

section Replace

variable {t t' : Table R} {r old : R}

theorem rows_of_replace? (replaced : t.replace? r = some t') :
    t'.rows = overwrite t.rows r := by
  unfold replace? at replaced
  split at replaced
  · cases replaced; rfl
  · cases replaced

/-- A row whose unique entries were the old row's can take its place. -/
theorem replace?_of_clash (present : t.find? (Relation.key r) = some old)
    (entries : ∀ a, Relation.clash a r = true → Relation.clash a old = true) :
    ∃ t', t.replace? r = some t' := by
  refine ⟨_, dif_pos fun a member other => ?_⟩
  by_contra clashes
  have found := find?_of_mem member
  have apart := clash_of_find? found present other
  rw [entries a (by simpa using clashes)] at apart
  cases apart

theorem insert?_of_separate (fresh : ∀ a ∈ t.rows, Separate a r) :
    ∃ t', t.insert? r = some t' :=
  ⟨_, dif_pos fresh⟩

theorem find?_overwrite (rows : List R) (r : R) (k : K) :
    (overwrite rows r).find? (fun a => decide (Relation.key a = k)) =
      (rows.find? fun a => decide (Relation.key a = k)).map
        fun a => if Relation.key a = Relation.key r then r else a := by
  have keep : ∀ a : R, Relation.key (if Relation.key a = Relation.key r then r else a) =
      Relation.key a := by
    intro a
    split
    · rename_i same; exact same.symm
    · rfl
  rw [overwrite, List.find?_map]
  congr 2
  funext a
  simp only [Function.comp, keep]

end Replace

/-! ### One row in the place of another -/

/-- The table `t'` is `t` with `new` in the place of the stored row `old`. -/
structure Becomes (t t' : Table R) (old new : R) : Prop where
  stored : t.find? (Relation.key new) = some old
  rows : t'.rows = overwrite t.rows new

section Becomes

variable {t t' t'' : Table R} {a b c : R}

theorem becomes_of_replace? (replaced : t.replace? b = some t')
    (present : t.find? (Relation.key b) = some a) : t.Becomes t' a b :=
  ⟨present, rows_of_replace? replaced⟩

theorem Becomes.find? (becomes : t.Becomes t' a b) (k : K) :
    t'.find? k = if k = Relation.key b then some b else t.find? k := by
  rw [Table.find?, becomes.rows, find?_overwrite, ← Table.find?]
  split
  · rename_i same
    rw [same, becomes.stored]
    simp [key_of_find? becomes.stored]
  · rename_i other
    cases found : t.find? k with
    | none => rfl
    | some r =>
      have notKey : Relation.key r ≠ Relation.key b := by
        rw [key_of_find? found]; exact other
      simp [notKey]

theorem Becomes.find?_new (becomes : t.Becomes t' a b) :
    t'.find? (Relation.key b) = some b := by
  rw [becomes.find?, if_pos rfl]

/-- Two replacements of one row are one. -/
theorem Becomes.trans (first : t.Becomes t' a b) (second : t'.Becomes t'' b c)
    (same : Relation.key c = Relation.key b) : t.Becomes t'' a c := by
  refine ⟨by rw [same]; exact first.stored, ?_⟩
  rw [second.rows, first.rows, overwrite, overwrite, overwrite, List.map_map]
  refine List.map_congr_left fun r _ => ?_
  by_cases here : Relation.key r = Relation.key b
  · simp [here, same]
  · simp [here, same]

/-- A row that moves no row into `p` does not raise the number of rows in `p`. -/
theorem Becomes.countP_le (becomes : t.Becomes t' a b) (p : R → Bool)
    (moved : p b = true → p a = true) : t'.rows.countP p ≤ t.rows.countP p := by
  rw [becomes.rows, overwrite, List.countP_map]
  refine List.countP_mono_left fun r member counted => ?_
  simp only [Function.comp] at counted
  split at counted
  · rename_i same
    have isOld : r = a := by
      have found := find?_of_mem member
      rw [same, becomes.stored] at found
      exact (Option.some.inj found).symm
    rw [isOld]
    exact moved counted
  · exact counted

end Becomes

end Table

end Hypershell.Foundation
