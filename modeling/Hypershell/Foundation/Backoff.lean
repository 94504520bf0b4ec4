import Mathlib.Algebra.Order.Group.Nat
import Mathlib.Data.Nat.Basic
import Mathlib.Logic.Function.Iterate
import Mathlib.Tactic.Common

/-!
# Capped exponential delays

A delay that doubles with every failure until it reaches a maximum.  The last step
before the maximum may be longer than a doubling: half of the maximum is enough.

## Main definitions

* `nextDelay` — the delay after one more failure
* `backoff` — the delay after a number of failures in a row

## Main results

* `backoff_bounds` — a delay after a failure lies between the limits
* `backoff_mono` — and does not shrink
* `backoff_eq_maximum` — it reaches the maximum when the doublings do
-/

namespace Hypershell.Foundation

/-- The delay that follows one. -/
def nextDelay (minimum maximum current : Nat) : Nat :=
  if current < minimum then minimum
  else if maximum / 2 ≤ current then maximum
  else current * 2

/-- The delay after `n` failures in a row. -/
def backoff (minimum maximum : Nat) : Nat → Nat
  | 0 => 0
  | n + 1 => nextDelay minimum maximum (backoff minimum maximum n)

section

variable {minimum maximum : Nat}

@[simp] theorem backoff_zero : backoff minimum maximum 0 = 0 := rfl

theorem backoff_succ (n : Nat) :
    backoff minimum maximum (n + 1) = nextDelay minimum maximum (backoff minimum maximum n) := rfl

theorem nextDelay_bounds (ordered : minimum ≤ maximum) (current : Nat) :
    minimum ≤ nextDelay minimum maximum current ∧ nextDelay minimum maximum current ≤ maximum := by
  unfold nextDelay
  split_ifs <;> omega

/-- **Every delay after a failure lies between the limits.** -/
theorem backoff_bounds (ordered : minimum ≤ maximum) (n : Nat) :
    minimum ≤ backoff minimum maximum (n + 1) ∧ backoff minimum maximum (n + 1) ≤ maximum :=
  nextDelay_bounds ordered _

theorem backoff_pos (positive : 0 < minimum) (ordered : minimum ≤ maximum) (n : Nat) :
    0 < backoff minimum maximum (n + 1) :=
  positive.trans_le (backoff_bounds ordered n).1

theorem le_nextDelay {current : Nat} (bound : current ≤ maximum) :
    current ≤ nextDelay minimum maximum current := by
  unfold nextDelay
  split_ifs <;> omega

theorem backoff_le_succ (ordered : minimum ≤ maximum) (n : Nat) :
    backoff minimum maximum n ≤ backoff minimum maximum (n + 1) := by
  cases n with
  | zero => exact Nat.zero_le _
  | succ n => exact le_nextDelay (backoff_bounds ordered n).2

/-- **A delay does not shrink with another failure.** -/
theorem backoff_mono (ordered : minimum ≤ maximum) : Monotone (backoff minimum maximum) :=
  monotone_nat_of_le_succ (backoff_le_succ ordered)

/-- It grows at least like the doublings, as far as the maximum. -/
theorem min_le_backoff (ordered : minimum ≤ maximum) (n : Nat) :
    min maximum (minimum * 2 ^ n) ≤ backoff minimum maximum (n + 1) := by
  induction n with
  | zero => rw [pow_zero, mul_one]; exact (min_le_right _ _).trans (backoff_bounds ordered 0).1
  | succ n ih =>
    have least := (backoff_bounds ordered n).1
    rw [backoff_succ (n + 1), nextDelay, if_neg (Nat.not_lt.mpr least), pow_succ]
    split_ifs with enough
    · exact min_le_left _ _
    · have double : minimum * (2 ^ n * 2) = minimum * 2 ^ n * 2 := (mul_assoc _ _ _).symm
      rw [double]
      omega

/-- **The maximum is reached** when the doublings reach it. -/
theorem backoff_eq_maximum (ordered : minimum ≤ maximum) {n : Nat}
    (enough : maximum ≤ minimum * 2 ^ n) : backoff minimum maximum (n + 1) = maximum := by
  refine le_antisymm (backoff_bounds ordered n).2 ?_
  have grown := min_le_backoff ordered n
  rwa [min_eq_left enough] at grown

end

end Hypershell.Foundation
