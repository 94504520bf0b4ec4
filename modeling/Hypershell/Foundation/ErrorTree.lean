import Mathlib.Data.List.Basic

/-!
# Trees of errors

An error wraps another one or joins several.  A search visits the whole tree, an error before
those it holds, and these in order.

## Main definitions

* `ErrorTree` — errors over some causes
* `ErrorTree.is`, `ErrorTree.first?` — does the tree hold a cause, and the first one of a kind
* `ErrorTree.causes` — the leaves, in the order of a search

## Main results

* `ErrorTree.is_iff`, `ErrorTree.first?_eq` — a search sees the leaves and nothing else
-/

namespace Hypershell.Foundation

/-- An error that is one of some causes, wraps an error or joins several. -/
inductive ErrorTree (κ : Type) where
  | leaf (cause : κ)
  | wrap (inner : ErrorTree κ)
  | join (errors : List (ErrorTree κ))

namespace ErrorTree

variable {κ α : Type}

mutual

/-- The leaves, in the order of a search. -/
def causes : ErrorTree κ → List κ
  | .leaf cause => [cause]
  | .wrap inner => inner.causes
  | .join errors => causesAll errors

/-- The leaves of several trees. -/
def causesAll : List (ErrorTree κ) → List κ
  | [] => []
  | e :: rest => e.causes ++ causesAll rest

end

mutual

/-- Is a cause in the tree? -/
def is [DecidableEq κ] (target : κ) : ErrorTree κ → Bool
  | .leaf cause => decide (cause = target)
  | .wrap inner => inner.is target
  | .join errors => isAny target errors

/-- Is a cause in one of several trees? -/
def isAny [DecidableEq κ] (target : κ) : List (ErrorTree κ) → Bool
  | [] => false
  | e :: rest => e.is target || isAny target rest

end

mutual

/-- The first cause of a kind. -/
def first? (kind : κ → Option α) : ErrorTree κ → Option α
  | .leaf cause => kind cause
  | .wrap inner => inner.first? kind
  | .join errors => firstOf? kind errors

/-- The first cause of a kind in several trees. -/
def firstOf? (kind : κ → Option α) : List (ErrorTree κ) → Option α
  | [] => none
  | e :: rest => (e.first? kind).or (firstOf? kind rest)

end

mutual

/-- **A search** finds what is a leaf. -/
theorem is_iff [DecidableEq κ] (target : κ) :
    (e : ErrorTree κ) → (e.is target = true ↔ target ∈ e.causes)
  | .leaf cause => by simp [is, causes, eq_comm]
  | .wrap inner => by
    rw [is, causes]
    exact is_iff target inner
  | .join errors => by
    rw [is, causes]
    exact isAny_iff target errors

theorem isAny_iff [DecidableEq κ] (target : κ) :
    (errors : List (ErrorTree κ)) → (isAny target errors = true ↔ target ∈ causesAll errors)
  | [] => by simp [isAny, causesAll]
  | e :: rest => by
    rw [isAny, causesAll, Bool.or_eq_true, List.mem_append]
    exact or_congr (is_iff target e) (isAny_iff target rest)

end

mutual

/-- The first cause of a kind is the first leaf of it. -/
theorem first?_eq (kind : κ → Option α) :
    (e : ErrorTree κ) → e.first? kind = e.causes.findSome? kind
  | .leaf cause => by
    rw [first?, causes, List.findSome?_cons]
    cases kind cause <;> rfl
  | .wrap inner => by
    rw [first?, causes]
    exact first?_eq kind inner
  | .join errors => by
    rw [first?, causes]
    exact firstOf?_eq kind errors

theorem firstOf?_eq (kind : κ → Option α) :
    (errors : List (ErrorTree κ)) → firstOf? kind errors = (causesAll errors).findSome? kind
  | [] => rfl
  | e :: rest => by
    rw [firstOf?, causesAll, List.findSome?_append, first?_eq kind e, firstOf?_eq kind rest]

end

/-- Every list of causes is that of a tree. -/
theorem causes_join_leaves (causes' : List κ) :
    (join (causes'.map leaf)).causes = causes' := by
  rw [causes]
  induction causes' with
  | nil => rfl
  | cons cause rest ih => rw [List.map_cons, causesAll, causes, ih, List.singleton_append]

end ErrorTree

end Hypershell.Foundation
