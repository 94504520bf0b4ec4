import Mathlib.Data.Finset.Card
import Mathlib.Data.List.AList

/-!
# Counting in finite maps

How many values of a finite map have a property, and how that number changes when one entry
is replaced or erased.

## Main definitions

* `tally` — the number of values with a property

## Main results

* `tally_insert`, `tally_erase` — what one entry contributes
* `tally_congr` — the number depends on the map's lookups only
* `tally_le_of_lookup` — the number in a map that has such values wherever another has
-/

namespace Hypershell.Foundation

variable {K V : Type} [DecidableEq K]

/-- The number of values with a property. -/
def tally (p : V → Bool) (m : AList fun _ : K => V) : Nat :=
  m.entries.countP fun entry => p entry.2

/-- The number of entries. -/
def size (m : AList fun _ : K => V) : Nat := m.entries.length

/-- What an entry contributes. -/
def share (p : V → Bool) : Option V → Nat
  | some v => if p v then 1 else 0
  | none => 0

section Tally

variable {p : V → Bool} {m m' : AList fun _ : K => V} {key : K} {value : V}

omit [DecidableEq K] in
theorem tally_empty : tally p (∅ : AList fun _ : K => V) = 0 := rfl

omit [DecidableEq K] in
theorem tally_le_size : tally p m ≤ size m := List.countP_le_length

/-- Erasing an entry takes its share away. -/
theorem tally_erase : tally p (m.erase key) + share p (m.lookup key) = tally p m := by
  show (List.kerase key m.entries).countP _ + _ = m.entries.countP _
  cases found : m.lookup key with
  | none =>
    rw [AList.lookup_eq_none] at found
    rw [List.kerase_of_notMem_keys found]
    rfl
  | some value =>
    have member : key ∈ m.entries.keys := by
      rw [← AList.keys, ← AList.mem_keys, ← AList.lookup_isSome, found]
      rfl
    obtain ⟨stored, before, after, absent, split, erased⟩ := List.exists_of_kerase member
    have same : stored = value := by
      have here : (⟨key, stored⟩ : Sigma fun _ : K => V) ∈ m.entries := by
        rw [split]
        exact List.mem_append_right _ List.mem_cons_self
      exact Option.some.inj (((AList.mem_lookup_iff (s := m)).mpr here).symm.trans found)
    subst same
    rw [erased, split, List.countP_append, List.countP_append, List.countP_cons]
    simp only [share]
    omega

/-- Setting an entry takes the share of the old value away and adds that of the new one. -/
theorem tally_insert : tally p (m.insert key value) + share p (m.lookup key) =
    tally p m + share p (some value) := by
  have erased : tally p (m.erase key) + share p (m.lookup key) = tally p m := tally_erase
  change (List.kerase key m.entries).countP _ + _ = _ at erased
  unfold tally at erased ⊢
  rw [AList.entries_insert, List.countP_cons]
  simp only [share] at erased ⊢
  omega

/-- **The number depends on the lookups only.** -/
theorem tally_congr (same : ∀ key, m.lookup key = m'.lookup key) : tally p m = tally p m' := by
  refine List.Perm.countP_eq _ (List.lookup_ext m.nodupKeys m'.nodupKeys fun key value => ?_)
  have found := same key
  unfold AList.lookup at found
  rw [found]

/-- A value with the property counts. -/
theorem tally_pos (found : m.lookup key = some value) (has : p value = true) : 0 < tally p m := by
  have erased : tally p (m.erase key) + share p (m.lookup key) = tally p m := tally_erase
  rw [found] at erased
  simp only [share, has, if_true] at erased
  omega

/-- A map without a value that has the property. -/
theorem exists_of_tally_pos (positive : 0 < tally p m) :
    ∃ key value, m.lookup key = some value ∧ p value = true := by
  obtain ⟨⟨key, value⟩, member, has⟩ := List.countP_pos_iff.mp positive
  exact ⟨key, value, AList.mem_lookup_iff.mpr member, has⟩

/-- The size of a map after an entry is erased. -/
theorem size_erase_le : size (m.erase key) ≤ size m := by
  have erased : tally (fun _ => true) (m.erase key) + _ = _ := tally_erase
  simp only [tally, List.countP_true] at erased
  unfold size
  omega

/-- The size of a map after an entry is set. -/
theorem size_insert : size (m.insert key value) =
    if (m.lookup key).isSome then size m else size m + 1 := by
  have inserted : tally (fun _ => true) (m.insert key value) + _ = _ := tally_insert
  simp only [tally, List.countP_true, share, if_true] at inserted
  unfold size
  cases found : m.lookup key with
  | none => rw [found] at inserted; simpa using inserted
  | some old => rw [found] at inserted; simpa using inserted

/-- A map with fewer keys is no larger. -/
theorem size_le_of_lookup (fewer : ∀ key, (m.lookup key).isSome → (m'.lookup key).isSome) :
    size m ≤ size m' := by
  have keys : m.keys ⊆ m'.keys := by
    intro key stored
    rw [← AList.mem_keys, ← AList.lookup_isSome] at stored ⊢
    exact fewer key stored
  have shorter := (List.subperm_of_subset m.keys_nodup keys).length_le
  unfold size
  simpa [AList.keys, List.keys] using shorter

/-- A map has no more values with a property than another, if wherever the one has such a value the
other has one too. -/
theorem tally_le_of_lookup (within : ∀ {key value}, m.lookup key = some value → p value = true →
    ∃ value', m'.lookup key = some value' ∧ p value' = true) : tally p m ≤ tally p m' := by
  have keys : ∀ m : AList fun _ : K => V,
      ((m.entries.filter fun entry => p entry.2).map Sigma.fst).Nodup := fun m =>
    m.nodupKeys.sublist List.filter_sublist
  have subset : (m.entries.filter fun entry => p entry.2).map Sigma.fst ⊆
      (m'.entries.filter fun entry => p entry.2).map Sigma.fst := by
    intro key member
    obtain ⟨⟨k, value⟩, kept, rfl⟩ := List.mem_map.mp member
    obtain ⟨stored, has⟩ := List.mem_filter.mp kept
    obtain ⟨value', found, has'⟩ := within (AList.mem_lookup_iff.mpr stored) has
    exact List.mem_map.mpr ⟨⟨k, value'⟩,
      List.mem_filter.mpr ⟨AList.mem_lookup_iff.mp found, has'⟩, rfl⟩
  have shorter := (List.subperm_of_subset (keys m) subset).length_le
  rw [List.length_map, List.length_map, ← List.countP_eq_length_filter,
    ← List.countP_eq_length_filter] at shorter
  exact shorter

end Tally

/-- As many different texts as a map's values are given at most. -/
theorem card_le_size {W : Type} [DecidableEq W] {m : AList fun _ : K => V} {names : Finset W}
    (name : V → W) (named : ∀ w ∈ names, ∃ key v, m.lookup key = some v ∧ name v = w) :
    names.card ≤ size m := by
  have within : names ⊆ (m.entries.map fun entry => name entry.2).toFinset := by
    intro w member
    obtain ⟨key, v, found, rfl⟩ := named w member
    rw [List.mem_toFinset, List.mem_map]
    exact ⟨⟨key, v⟩, AList.mem_lookup_iff.mp found, rfl⟩
  calc names.card ≤ _ := Finset.card_le_card within
    _ ≤ _ := List.toFinset_card_le _
    _ = size m := List.length_map _

end Hypershell.Foundation
