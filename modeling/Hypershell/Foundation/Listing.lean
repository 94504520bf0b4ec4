import Mathlib.Data.List.Basic
import Mathlib.Data.List.Dedup
import Mathlib.Tactic.Ring
import Mathlib.Tactic.Linarith

/-!
# Ordered and paged listings

A listing sorts the rows it selects by one key after another and returns a window of
them.  Storage promises no order of its own, so what a listing returns must be a function
of the set of its rows; that holds as soon as some key tells any two of them apart.

## Main definitions

* `lexicographic` — comparison by one key after another
* `sorted` — the rows in the order of a comparison
* `window` — an offset and a limit, and `page`, the window of a page
* `batches` — the rows in parts of a bounded size

## Main results

* `sorted_eq_of_mem_iff` — the sorted rows depend on their set only
* `mem_iff_exists_page` — the pages of a listing have its rows and no others
-/

namespace Hypershell.Foundation

variable {R : Type}

/-! ### Orders -/

/-- A list without repetition of rows that are all the same has at most one. -/
theorem length_le_one {rows : List R} (once : rows.Nodup)
    (alike : ∀ a ∈ rows, ∀ b ∈ rows, a = b) : rows.length ≤ 1 := by
  match rows with
  | [] => exact Nat.zero_le 1
  | [_] => exact Nat.le_refl 1
  | a :: b :: _ =>
    refine absurd (alike a List.mem_cons_self b (List.mem_cons_of_mem a List.mem_cons_self)) ?_
    intro same
    exact (List.nodup_cons.mp once).1 (by rw [same]; exact List.mem_cons_self)

/-- Compare by one key after another. -/
def lexicographic : List (R → R → Ordering) → R → R → Ordering
  | [] => fun _ _ => .eq
  | key :: rest => compareLex key (lexicographic rest)

/-- **A lexicographic order** is one if each key is. -/
theorem transCmp_lexicographic {keys : List (R → R → Ordering)}
    (each : ∀ key ∈ keys, Std.TransCmp key) : Std.TransCmp (lexicographic keys) := by
  induction keys with
  | nil => exact { eq_swap := rfl, isLE_trans := fun _ _ => rfl }
  | cons key rest ih =>
    have first := each key List.mem_cons_self
    have others := ih fun key' member => each key' (List.mem_cons_of_mem key member)
    show Std.TransCmp (compareLex key (lexicographic rest))
    infer_instance

/-- Rows that no key tells apart are alike under each. -/
theorem eq_of_lexicographic {keys : List (R → R → Ordering)} {a b : R}
    (alike : lexicographic keys a b = .eq) : ∀ key ∈ keys, key a b = .eq := by
  induction keys with
  | nil => exact fun _ never => nomatch never
  | cons key rest ih =>
    rw [lexicographic, compareLex_eq_eq] at alike
    intro key' member
    rcases List.mem_cons.mp member with rfl | later
    · exact alike.1
    · exact ih alike.2 key' later

/-- The rows in the order of a comparison. -/
def sorted (cmp : R → R → Ordering) (rows : List R) : List R :=
  rows.mergeSort fun a b => (cmp a b).isLE

section Sorted

variable {cmp : R → R → Ordering} {rows rows' : List R}

@[simp] theorem mem_sorted {r : R} : r ∈ sorted cmp rows ↔ r ∈ rows := List.mem_mergeSort

@[simp] theorem length_sorted : (sorted cmp rows).length = rows.length := List.length_mergeSort rows

theorem sorted_perm : (sorted cmp rows).Perm rows := List.mergeSort_perm rows _

/-- A row alone is in order. -/
theorem sorted_short (short : rows.length ≤ 1) : sorted cmp rows = rows := by
  match rows with
  | [] => exact List.perm_nil.mp sorted_perm
  | [row] => exact List.perm_singleton.mp sorted_perm

theorem pairwise_sorted [Std.TransCmp cmp] :
    (sorted cmp rows).Pairwise fun a b => (cmp a b).isLE = true := by
  refine List.pairwise_mergeSort (fun a b c => Std.TransCmp.isLE_trans) (fun a b => ?_) rows
  have swap : cmp b a = (cmp a b).swap := Std.OrientedCmp.eq_swap
  rw [swap]
  cases cmp a b <;> rfl

/-- **The sorted rows depend on their multiset only**, if the order tells them apart. -/
theorem sorted_eq_of_perm [Std.TransCmp cmp] (perm : rows.Perm rows')
    (apart : ∀ a ∈ rows, ∀ b ∈ rows, cmp a b = .eq → a = b) :
    sorted cmp rows = sorted cmp rows' := by
  refine List.Perm.eq_of_pairwise ?_ pairwise_sorted pairwise_sorted
    (sorted_perm.trans (perm.trans sorted_perm.symm))
  intro a b memberA memberB below above
  refine apart a (mem_sorted.mp memberA) b (perm.mem_iff.mpr (mem_sorted.mp memberB)) ?_
  exact Std.OrientedCmp.isLE_antisymm below above

/-- **Lists without repetition are sorted alike if they have the same rows.** -/
theorem sorted_eq_of_mem_iff [Std.TransCmp cmp] (once : rows.Nodup) (once' : rows'.Nodup)
    (same : ∀ r, r ∈ rows ↔ r ∈ rows')
    (apart : ∀ a ∈ rows, ∀ b ∈ rows, cmp a b = .eq → a = b) :
    sorted cmp rows = sorted cmp rows' :=
  sorted_eq_of_perm ((List.perm_ext_iff_of_nodup once once').mpr same) apart

end Sorted

/-! ### Windows -/

/-- `OFFSET` and `LIMIT`.  A limit that is not positive is none. -/
def window (offset limit : Int) (rows : List R) : List R :=
  if limit > 0 then (rows.drop offset.toNat).take limit.toNat else rows.drop offset.toNat

/-- The window of a page.  The first one is page one. -/
def page (number size : Int) (rows : List R) : List R :=
  window ((number - 1) * size) size rows

section Window

variable {rows : List R} {offset limit number size : Int} {r : R}

theorem mem_of_mem_window (inside : r ∈ window offset limit rows) : r ∈ rows := by
  unfold window at inside
  split at inside
  · exact List.mem_of_mem_drop (List.mem_of_mem_take inside)
  · exact List.mem_of_mem_drop inside

/-- A page has no more rows than its size. -/
theorem length_page_le (positive : size > 0) : ((page number size rows).length : Int) ≤ size := by
  rw [page, window, if_pos positive, List.length_take]
  omega

/-- How many rows of so many are on a page. -/
def pageLength (number size total : Int) : Int := max 0 (min size (total - (number - 1) * size))

/-- A page has the rows that are left for it. -/
theorem length_page (first : 1 ≤ number) (positive : 0 < size) :
    ((page number size rows).length : Int) = pageLength number size rows.length := by
  have before : 0 ≤ (number - 1) * size := Int.mul_nonneg (by omega) positive.le
  rw [page, window, if_pos positive, List.length_take, List.length_drop, pageLength]
  omega

/-- A limit that no row exceeds shows all of them. -/
theorem page_one_of_length_le (bound : (rows.length : Int) ≤ size) :
    page 1 size rows = rows := by
  rw [page, Int.sub_self, Int.zero_mul, window, Int.toNat_zero, List.drop_zero]
  split
  · exact List.take_of_length_le (by omega)
  · rfl

/-- At most one row makes the first page. -/
theorem page_one_one (single : rows.length ≤ 1) : page 1 1 rows = rows :=
  page_one_of_length_le (by omega)

/-- **Pages.** The rows of a listing are those of its pages, as far as pages are counted. -/
theorem mem_iff_exists_page {last : Int} (positive : size > 0)
    (bound : (rows.length : Int) ≤ last * size) :
    r ∈ rows ↔ ∃ number, 1 ≤ number ∧ number ≤ last ∧ r ∈ page number size rows := by
  constructor
  · intro member
    obtain ⟨i, inside, rfl⟩ := List.getElem_of_mem member
    -- Row number `i` is on page `i / size + 1`.
    have split := Int.mul_ediv_add_emod i size
    have below := Int.emod_lt_of_pos i positive
    have above := Int.emod_nonneg i (Int.ne_of_gt positive)
    have quotient : 0 ≤ (i : Int) / size := Int.ediv_nonneg (Int.natCast_nonneg i) positive.le
    have before : 0 ≤ size * ((i : Int) / size) := Int.mul_nonneg positive.le quotient
    refine ⟨(i : Int) / size + 1, by omega, ?_, ?_⟩
    · have small : (i : Int) / size < last := by
        refine Int.ediv_lt_of_lt_mul positive ?_
        omega
      omega
    · have offset : ((i : Int) / size + 1 - 1) * size = i - i % size := by
        rw [Int.add_sub_cancel, Int.mul_comm]
        omega
      rw [page, offset, window, if_pos positive]
      refine List.mem_iff_getElem.mpr ⟨(i % size).toNat, ?_, ?_⟩
      · rw [List.length_take, List.length_drop]
        omega
      · rw [List.getElem_take, List.getElem_drop]
        congr 1
        omega
  · rintro ⟨number, -, -, inside⟩
    exact mem_of_mem_window inside

end Window

/-! ### Batches -/

/-- At most `n` batches of `size` rows, one after another. -/
def batches (size : Nat) : Nat → List R → List (List R)
  | 0, _ => []
  | n + 1, rows => if rows.isEmpty then [] else rows.take size :: batches size n (rows.drop size)

theorem length_le_of_mem_batches {size n : Nat} {rows batch : List R}
    (member : batch ∈ batches size n rows) : batch.length ≤ size := by
  induction n generalizing rows with
  | zero => cases member
  | succ n ih =>
    unfold batches at member
    split at member
    · cases member
    · rcases List.mem_cons.mp member with rfl | later
      · exact List.length_take_le size rows
      · exact ih later

/-- **The batches of a list** are the list. -/
theorem flatten_batches {size n : Nat} {rows : List R} (positive : 0 < size)
    (enough : rows.length ≤ n) : (batches size n rows).flatten = rows := by
  induction n generalizing rows with
  | zero =>
    rw [List.eq_nil_of_length_eq_zero (Nat.le_zero.mp enough)]
    rfl
  | succ n ih =>
    unfold batches
    split
    · rename_i none
      rw [List.isEmpty_iff.mp none]
      rfl
    · rename_i some
      rw [Bool.not_eq_true, List.isEmpty_eq_false_iff] at some
      have shorter : (rows.drop size).length ≤ n := by
        have left := List.length_pos_of_ne_nil some
        rw [List.length_drop]
        omega
      rw [List.flatten_cons, ih shorter, List.take_append_drop]

/-! ### Conversions -/

/-- The results of conversions that all succeed. -/
theorem mem_of_mapM {α β ε : Type} {f : α → Except ε β} {rows : List α} {results : List β}
    (mapped : rows.mapM f = .ok results) :
    (∀ a ∈ rows, ∃ b ∈ results, f a = .ok b) ∧ ∀ b ∈ results, ∃ a ∈ rows, f a = .ok b := by
  induction rows generalizing results with
  | nil =>
    cases mapped
    simp
  | cons a rest ih =>
    rw [List.mapM_cons] at mapped
    cases first : f a with
    | error e =>
      rw [first] at mapped
      cases mapped
    | ok b =>
      cases others : rest.mapM f with
      | error e =>
        rw [first, others] at mapped
        cases mapped
      | ok bs =>
        rw [first, others] at mapped
        cases mapped
        obtain ⟨forth, back⟩ := ih others
        constructor
        · intro a' member
          rcases List.mem_cons.mp member with rfl | later
          · exact ⟨b, List.mem_cons_self, first⟩
          · obtain ⟨b', inside, made⟩ := forth a' later
            exact ⟨b', List.mem_cons_of_mem _ inside, made⟩
        · intro b' member
          rcases List.mem_cons.mp member with rfl | later
          · exact ⟨a, List.mem_cons_self, first⟩
          · obtain ⟨a', inside, made⟩ := back b' later
            exact ⟨a', List.mem_cons_of_mem _ inside, made⟩

/-- Conversions that all succeed. -/
theorem length_of_mapM {α β ε : Type} {f : α → Except ε β} {rows : List α} {results : List β}
    (mapped : rows.mapM f = .ok results) : results.length = rows.length := by
  induction rows generalizing results with
  | nil =>
    cases mapped
    rfl
  | cons a rest ih =>
    rw [List.mapM_cons] at mapped
    cases first : f a with
    | error e =>
      rw [first] at mapped
      cases mapped
    | ok b =>
      cases others : rest.mapM f with
      | error e =>
        rw [first, others] at mapped
        cases mapped
      | ok bs =>
        rw [first, others] at mapped
        cases mapped
        rw [List.length_cons, List.length_cons, ih others]

end Hypershell.Foundation
