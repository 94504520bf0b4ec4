import Mathlib.Data.Fintype.Card
import Mathlib.Data.Finset.Max
import Mathlib.Order.WithBot

/-!
# Locks in one order

Parties take locks one after another and keep what they have.  If each of them asks only
for a lock that is above all it holds, they never wait for one another in a circle.

## Main definitions

* `Ascending` — nobody asks for a lock below one that it holds
* `Waits` — a party asks for a lock that another holds

## Main results

* `exists_not_waiting` — somebody among those who hold or want locks does not wait
-/

namespace Hypershell.Foundation.OrderedLocks

variable {P L : Type} [LinearOrder L] (holds : P → L → Prop) (wants : P → Option L)

/-- Nobody asks for a lock below one that it holds. -/
def Ascending : Prop := ∀ p wanted, wants p = some wanted → ∀ held, holds p held → held < wanted

/-- A party asks for a lock that another holds. -/
def Waits (p : P) : Prop := ∃ wanted, wants p = some wanted ∧ ∃ other, other ≠ p ∧ holds other wanted

variable {holds wants}

/-- **Somebody does not wait.**  Among finitely many parties some of whom are at work, where only
those at work hold locks, one of them does not wait for a lock. -/
theorem exists_not_waiting [Fintype P] (ascending : Ascending holds wants) {atWork : P → Prop}
    (some' : ∃ p, atWork p) (holders : ∀ p l, holds p l → atWork p) :
    ∃ p, atWork p ∧ ¬Waits holds wants p := by
  classical
  by_contra never
  have waits : ∀ p, atWork p → ∃ wanted, wants p = some wanted ∧
      ∃ other, other ≠ p ∧ holds other wanted := by
    intro p working
    by_contra free
    exact never ⟨p, working, free⟩
  let above : P → WithBot L := wants
  -- Whoever asks for the highest lock waits for one that asks for a still higher one.
  obtain ⟨top, working, highest⟩ := (Finset.univ.filter atWork).exists_max_image above
    (some'.imp fun p working => Finset.mem_filter.mpr ⟨Finset.mem_univ p, working⟩)
  obtain ⟨wanted, asks, other, -, held⟩ := waits top (Finset.mem_filter.mp working).2
  have busy := holders other wanted held
  obtain ⟨more, asks', -⟩ := waits other busy
  have below := highest other (Finset.mem_filter.mpr ⟨Finset.mem_univ other, busy⟩)
  rw [show above other = (more : WithBot L) from asks', show above top = (wanted : WithBot L) from asks,
    WithBot.coe_le_coe] at below
  exact absurd (ascending other more asks' wanted held) (not_lt.mpr below)

end Hypershell.Foundation.OrderedLocks
