import Hypershell.Foundation.Listing
import Mathlib.Data.List.Perm.Subperm
import Mathlib.Data.List.Sort

/-!
# Pages of a list that changes

A reader takes one page of an ordered list after the other, while others put elements into the
list and take elements out of it.  What is put in only moves the others back.  What is taken out
moves those behind it one place up, and one of them may come to stand on a page that has already
been read.

## Main definitions

* `Ahead` — an element that the first pages do not have

## Main results

* `Ahead.grow`, `Ahead.remove` — what keeps an element ahead of the reader
* `Ahead.page` — it is on the next page or ahead of it
-/

namespace Hypershell.Foundation

variable {α : Type} [DecidableEq α] {l l' : List α} {a b f : α} {n : Nat}

/-! ### Places -/

/-- Elements that are put in move the others back. -/
theorem idxOf_le_of_sublist (sub : l.Sublist l') (once : l'.Nodup) (member : a ∈ l) :
    l.idxOf a ≤ l'.idxOf a := by
  induction sub with
  | slnil => exact absurd member List.not_mem_nil
  | cons b sub ih =>
    rw [List.nodup_cons] at once
    have other : b ≠ a := fun same => once.1 (same ▸ sub.subset member)
    rw [List.idxOf_cons_ne _ other]
    exact Nat.le_succ_of_le (ih once.2 member)
  | cons_cons b sub ih =>
    rw [List.nodup_cons] at once
    by_cases same : b = a
    · rw [List.idxOf_cons_eq _ same, List.idxOf_cons_eq _ same]
    · rw [List.idxOf_cons_ne _ same, List.idxOf_cons_ne _ same]
      exact Nat.succ_le_succ (ih once.2 (List.mem_of_ne_of_mem (Ne.symm same) member))

/-- An element that is taken out moves those behind it one place up. -/
theorem idxOf_erase (other : f ≠ a) (member : a ∈ l) :
    (l.erase f).idxOf a = if l.idxOf f < l.idxOf a then l.idxOf a - 1 else l.idxOf a := by
  induction l with
  | nil => exact absurd member List.not_mem_nil
  | cons b l ih =>
    by_cases first : b = f
    · subst first
      have later : (b :: l).idxOf b = 0 := List.idxOf_cons_eq _ rfl
      rw [List.erase_cons_head, later, List.idxOf_cons_ne _ other, if_pos (Nat.succ_pos _)]
      rfl
    · rw [List.erase_cons_tail (by simpa using first)]
      by_cases same : b = a
      · rw [List.idxOf_cons_eq _ same, List.idxOf_cons_eq _ same, if_neg (Nat.not_lt_zero _)]
      · have rest : a ∈ l := List.mem_of_ne_of_mem (Ne.symm same) member
        rw [List.idxOf_cons_ne _ same, List.idxOf_cons_ne _ same, List.idxOf_cons_ne _ first,
          ih rest]
        by_cases before : l.idxOf f < l.idxOf a
        · rw [if_pos before, if_pos (Nat.succ_lt_succ before)]
          omega
        · rw [if_neg before, if_neg (fun more => before (Nat.lt_of_succ_lt_succ more))]

/-- What is left of a list behind some places. -/
theorem mem_drop_of_le_idxOf (member : a ∈ l) (behind : n ≤ l.idxOf a) : a ∈ l.drop n := by
  rw [← List.take_append_drop n l, List.mem_append] at member
  refine member.resolve_left fun early => ?_
  have whole : a ∈ l := List.mem_of_mem_take early
  rw [List.mem_take_iff_idxOf_lt whole] at early
  omega

omit [DecidableEq α] in
/-- **The elements of one list in another one that is ordered alike.** -/
theorem sublist_of_subset {lt : α → α → Prop} [Std.Antisymm lt] (sorted : l.Pairwise lt)
    (sorted' : l'.Pairwise lt) (once : l.Nodup) (subset : l ⊆ l') : l.Sublist l' :=
  List.sublist_of_subperm_of_pairwise (List.subperm_of_subset once subset) sorted sorted'

/-! ### The reader -/

/-- An element behind the first places. -/
structure Ahead (n : Nat) (l : List α) (a : α) : Prop where
  member : a ∈ l
  behind : n ≤ l.idxOf a

/-- Elements that are put in keep an element ahead. -/
theorem Ahead.grow (ahead : Ahead n l a) (sub : l.Sublist l') (once : l'.Nodup) : Ahead n l' a :=
  ⟨sub.subset ahead.member, ahead.behind.trans (idxOf_le_of_sublist sub once ahead.member)⟩

/-- **An element that is taken out** keeps another one ahead, unless it stands on the first
places and the other one is the next. -/
theorem Ahead.remove (ahead : Ahead n l a) (other : f ≠ a)
    (apart : l.idxOf f < n → l.idxOf a ≠ n) : Ahead n (l.erase f) a := by
  refine ⟨(List.mem_erase_of_ne other.symm).mpr ahead.member, ?_⟩
  rw [idxOf_erase other ahead.member]
  have behind := ahead.behind
  split
  · rename_i before
    by_cases early : l.idxOf f < n
    · have := apart early
      omega
    · omega
  · exact behind

/-- **The next page** has an element that is ahead, or the element is ahead of it. -/
theorem Ahead.page {number size : Nat} (ahead : Ahead (number * size) l a) (positive : 0 < size) :
    a ∈ page (number + 1 : Nat) size l ∨ Ahead ((number + 1) * size) l a := by
  have offset : (((number + 1 : Nat) : Int) - 1) * size = (number * size : Nat) := by
    push_cast
    rw [Int.add_sub_cancel]
  by_cases far : (number + 1) * size ≤ l.idxOf a
  · exact .inr ⟨ahead.member, far⟩
  · refine .inl ?_
    rw [Foundation.page, window, if_pos (by omega), offset, Int.toNat_natCast, Int.toNat_natCast,
      List.take_drop]
    have early : a ∈ l.take (number * size + size) := by
      rw [List.mem_take_iff_idxOf_lt ahead.member]
      rw [Nat.add_one_mul] at far
      omega
    refine mem_drop_of_le_idxOf early ?_
    rw [(List.take_prefix _ l).idxOf_eq_of_mem early]
    exact ahead.behind

end Hypershell.Foundation
