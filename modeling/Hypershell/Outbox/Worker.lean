import Mathlib.Algebra.Order.Group.Nat
import Mathlib.Tactic.Common
import Mathlib.Tactic.SplitIfs

/-!
# The delays of the outbox

A worker returns a message whose handler failed with a delay that doubles with every
attempt, and of which at least half is waited for.

## Main definitions

* `jitterBackoff` — the delay after a number of attempts

## Main results

* `jitterBackoff_bounds` — between half of the doubled minimum and all of it, up to the maximum
-/

namespace Hypershell.Outbox

/-- The loop of `jitterBackoff`, for so many turns. -/
def backoffTurns (maximum : Nat) : Nat → Nat → Nat
  | 0, delay => delay
  | turns + 1, delay =>
    if delay < maximum then
      if maximum / 2 < delay then maximum else backoffTurns maximum turns (delay * 2)
    else delay

/-- `jitterBackoff`.  The draw is what `rand.Int64N` returns. -/
def jitterBackoff (minimum maximum attempts draw : Nat) : Nat :=
  let delay := min (backoffTurns maximum (attempts - 1) minimum) maximum
  delay / 2 + draw % (delay - delay / 2 + 1)

theorem backoffTurns_eq (maximum turns : Nat) {delay : Nat} (below : delay ≤ maximum) :
    backoffTurns maximum turns delay = min maximum (delay * 2 ^ turns) := by
  induction turns generalizing delay with
  | zero =>
    rw [backoffTurns, Nat.pow_zero, Nat.mul_one, Nat.min_eq_right below]
  | succ turns ih =>
    have grows : delay * 2 ≤ delay * 2 ^ (turns + 1) := by
      rw [Nat.pow_succ']
      exact Nat.mul_le_mul_left _ (Nat.le_mul_of_pos_right 2 (Nat.two_pow_pos turns))
    have same : delay * 2 * 2 ^ turns = delay * 2 ^ (turns + 1) := by
      rw [Nat.pow_succ', Nat.mul_assoc]
    rw [backoffTurns]
    split_ifs with small large
    · omega
    · rw [ih (by omega), same]
    · omega

/-- **The delay after a failure** doubles with every attempt up to its maximum, and at least half of
it is waited for. -/
theorem jitterBackoff_bounds {minimum maximum : Nat} (ordered : minimum ≤ maximum)
    (attempts draw : Nat) :
    min maximum (minimum * 2 ^ (attempts - 1)) / 2 ≤ jitterBackoff minimum maximum attempts draw ∧
      jitterBackoff minimum maximum attempts draw ≤ min maximum (minimum * 2 ^ (attempts - 1)) := by
  rw [jitterBackoff, backoffTurns_eq _ _ ordered, Nat.min_eq_left (Nat.min_le_left _ _)]
  generalize min maximum (minimum * 2 ^ (attempts - 1)) = delay
  have draws : draw % (delay - delay / 2 + 1) < delay - delay / 2 + 1 := Nat.mod_lt _ (Nat.succ_pos _)
  omega

end Hypershell.Outbox
