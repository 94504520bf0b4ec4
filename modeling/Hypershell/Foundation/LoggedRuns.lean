import Mathlib.Data.List.Basic
import Mathlib.Tactic.Common

/-!
# Runs with a log

A system that takes step after step, where each step says what happened in it.  The log
of a run is all that happened, in order.

## Main definitions

* `Logged.Run` — a run and its log

## Main results

* `Run.invariant` — what every step keeps
* `Run.split` — the step of a run in which one entry of its log was written
-/

namespace Hypershell.Foundation.Logged

variable {S V : Type}

/-- A run from a state, its log, and where it ends. -/
inductive Run (step : S → List V → S → Prop) (start : S) : List V → S → Prop
  | refl : Run step start [] start
  | tail {log news : List V} {s t : S} (run : Run step start log s) (last : step s news t) :
      Run step start (log ++ news) t

section

variable {step : S → List V → S → Prop} {s t u : S} {log log' news : List V}

theorem Run.single (only : step s news t) : Run step s news t := by
  have run : Run step s ([] ++ news) t := Run.refl.tail only
  rwa [List.nil_append] at run

theorem Run.trans (first : Run step s log t) (second : Run step t log' u) :
    Run step s (log ++ log') u := by
  induction second with
  | refl => rwa [List.append_nil]
  | tail run last ih =>
    rw [← List.append_assoc]
    exact ih.tail last

theorem Run.head (first : step s news t) (rest : Run step t log u) : Run step s (news ++ log) u :=
  (Run.single first).trans rest

/-- **What every step keeps, every run keeps.** -/
theorem Run.invariant {P : S → Prop} (kept : ∀ {s news t}, P s → step s news t → P t) (holds : P s)
    (run : Run step s log t) : P t := by
  induction run with
  | refl => exact holds
  | tail run last ih => exact kept ih last

/-- **The step that wrote an entry of the log.** -/
theorem Run.split {before after : List V} {x : V} (run : Run step s log t)
    (written : log = before ++ x :: after) :
    ∃ log₁ u front back v log₂, Run step s log₁ u ∧ step u (front ++ x :: back) v ∧
      Run step v log₂ t ∧ before = log₁ ++ front ∧ after = back ++ log₂ := by
  induction run generalizing after with
  | refl => exact absurd written.symm (List.append_ne_nil_of_right_ne_nil _ (List.cons_ne_nil _ _))
  | @tail log news u t run last ih =>
    obtain ⟨front, rfl, later⟩ | ⟨back, earlier, later⟩ := List.append_eq_append_iff.mp written
    · exact ⟨log, u, front, after, t, [], run, later ▸ last, .refl, rfl, (List.append_nil _).symm⟩
    · cases back with
      | nil =>
        rw [List.append_nil] at earlier
        exact ⟨log, u, [], after, t, [], run, by rwa [List.nil_append, later], .refl,
          by rw [earlier, List.append_nil], (List.append_nil _).symm⟩
      | cons y rest =>
        obtain ⟨rfl, rfl⟩ := List.cons_eq_cons.mp later
        obtain ⟨log₁, w, front, back, v, log₂, first, here, then', rfl, rfl⟩ := ih earlier
        exact ⟨log₁, w, front, back, v, log₂ ++ news, first, here, then'.tail last, rfl,
          List.append_assoc _ _ _⟩

end

end Hypershell.Foundation.Logged
