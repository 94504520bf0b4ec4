import Mathlib.Logic.Relation
import Mathlib.Data.List.Basic
import Mathlib.Data.List.Count
import Mathlib.Logic.Function.Basic

/-!
# Replicas that are fed by notices

An origin holds a value under each key.  A change of it queues a notice, which has the key and
whether the value was removed, but not the value.  When a notice is handled, the origin is read
again: a message with what is found is sent if that agrees with the notice, else the notice is
skipped.  A client reads each key once by itself and applies all messages after that.

Whatever the order of changes, handled notices and reads, the client ends with the values of
the origin, and if removed keys do not come back, the message of a removal is the last one of
its key.

## Main definitions

* `Notice`, `Replica`, `Replica.Step` — the queue, the messages, the client's reads
* `Replica.copy` — what the client holds
* `Replica.Sound`, `Replica.Lasting` — the invariants

## Main results

* `Replica.Sound.step`, `Replica.Lasting.step` — every step keeps them
* `Replica.Sound.converged` — the client holds what the origin holds
-/

namespace Hypershell.Foundation

variable {K V : Type}

/-- Something happened to the value under a key. -/
structure Notice (K : Type) where
  key : K
  removed : Bool
  deriving DecidableEq, Repr

theorem Notice.eq_removal (n : Notice K) (removed : n.removed = true) : n = ⟨n.key, true⟩ := by
  rw [← removed]

/-- The notices not handled yet, the messages sent, and what the client read by itself. -/
structure Replica (K V : Type) where
  pending : List (Notice K)
  sent : List (K × Option V)
  seen : K → Option (Option V)

/-- The origin before any key was removed for good, and after: each removal has one notice. -/
def Removals [DecidableEq K] (gone gone' : K → Bool) (news : List (Notice K)) : Prop :=
  ∀ k, news.count ⟨k, true⟩ + (gone k).toNat = (gone' k).toNat

namespace Replica

/-- A replica without notices and messages, before any read. -/
def start : Replica K V := ⟨[], [], fun _ => none⟩

/-- One step, from and to what the origin holds and which keys are gone for good. -/
inductive Step [DecidableEq K] :
    (K → Option V) × (K → Bool) → Replica K V → (K → Option V) × (K → Bool) → Replica K V → Prop
  | change {r : Replica K V} {held held' : K → Option V} {gone gone' : K → Bool}
      {news : List (Notice K)} (told : ∀ k, held' k ≠ held k → ⟨k, (held' k).isNone⟩ ∈ news)
      (removals : Removals gone gone' news) :
      Step (held, gone) r (held', gone') { r with pending := r.pending ++ news }
  | send {r : Replica K V} {held : K → Option V} {gone : K → Bool} {n : Notice K}
      {rest : List (Notice K)} (first : r.pending = n :: rest)
      (agrees : (held n.key).isNone = n.removed) :
      Step (held, gone) r (held, gone)
        { r with pending := rest, sent := r.sent ++ [(n.key, held n.key)] }
  | skip {r : Replica K V} {held : K → Option V} {gone : K → Bool} {n : Notice K}
      {rest : List (Notice K)} (first : r.pending = n :: rest)
      (differs : (held n.key).isNone ≠ n.removed) :
      Step (held, gone) r (held, gone) { r with pending := rest }
  | read {r : Replica K V} {held : K → Option V} {gone : K → Bool} (keys : K → Bool) :
      Step (held, gone) r (held, gone)
        { r with seen := fun k => if keys k then some (held k) else r.seen k }

section Copy

variable [DecidableEq K] {r : Replica K V} {k : K}

/-- The last message of a key. -/
def last (k : K) (sent : List (K × Option V)) : Option (Option V) :=
  sent.foldl (fun found m => if m.1 = k then some m.2 else found) none

/-- What the client knows of a key: the messages are applied after what it read. -/
def known (r : Replica K V) (k : K) : Option (Option V) :=
  (last k r.sent).or (r.seen k)

/-- What the client holds under a key. -/
def copy (r : Replica K V) (k : K) : Option V :=
  (r.known k).join

@[simp] theorem last_nil : last k ([] : List (K × Option V)) = none := rfl

theorem last_concat (sent : List (K × Option V)) (m : K × Option V) :
    last k (sent ++ [m]) = if m.1 = k then some m.2 else last k sent := by
  rw [last, List.foldl_append]
  rfl

@[simp] theorem known_start : (start : Replica K V).known k = none := rfl

/-- What is known of a key is a value. -/
def Fresh (r : Replica K V) (k : K) (v : Option V) : Prop :=
  ∀ w, r.known k = some w → w = v

end Copy

/-! ### The client's copy -/

section Sound

variable [DecidableEq K] {r r' : Replica K V} {held held' : K → Option V} {gone gone' : K → Bool}
  {k : K}

/-- A value of the origin that the client may not know has its notice in the queue. -/
def Sound (held : K → Option V) (r : Replica K V) : Prop :=
  ∀ k, (⟨k, (held k).isNone⟩ : Notice K) ∈ r.pending ∨ r.Fresh k (held k)

theorem sound_start (held : K → Option V) : Sound held start := by
  intro k
  right
  intro w never
  cases never

/-- **Step lemma.** -/
theorem Sound.step (sound : Sound held r) (step : Step (held, gone) r (held', gone') r') :
    Sound held' r' := by
  intro k
  cases step with
  | change told removals =>
    by_cases same : held' k = held k
    · rcases sound k with waits | fresh
      · exact .inl (List.mem_append_left _ (same ▸ waits))
      · exact .inr (same ▸ fresh)
    · exact .inl (List.mem_append_right _ (told k same))
  | @send _ _ _ n rest first agrees =>
    by_cases here : n.key = k
    · right
      intro w known
      rw [Replica.known, last_concat, if_pos here, here] at known
      exact (Option.some.inj known).symm
    · have waits := sound k
      rw [first] at waits
      rcases waits with waits | fresh
      · rcases List.mem_cons.mp waits with same | later
        · exact absurd (congrArg Notice.key same).symm here
        · exact .inl later
      · right
        intro w known
        rw [Replica.known, last_concat, if_neg here] at known
        exact fresh w known
  | skip first differs =>
    have waits := sound k
    rw [first] at waits
    rcases waits with waits | fresh
    · rcases List.mem_cons.mp waits with same | later
      -- The first notice does not tell what the origin holds, so it is another one.
      · rw [← same] at differs
        exact absurd rfl differs
      · exact .inl later
    · exact .inr fresh
  | read keys =>
    rcases sound k with waits | fresh
    · exact .inl waits
    · right
      intro w known
      rw [Replica.known] at known
      cases sent : last k r.sent with
      | some v =>
        rw [sent] at known
        refine fresh w ?_
        rw [Replica.known, sent]
        exact known
      | none =>
        rw [sent, Option.none_or] at known
        dsimp only at known
        split at known
        · exact (Option.some.inj known).symm
        · refine fresh w ?_
          rw [Replica.known, sent]
          exact known

/-- **Convergence.** Once every notice is handled, the client holds what the origin holds
under each key that it read. -/
theorem Sound.converged (sound : Sound held r) (handled : r.pending = [])
    (read : (r.seen k).isSome = true) : r.copy k = held k := by
  have fresh : r.Fresh k (held k) := by
    refine (sound k).resolve_left fun waits => ?_
    rw [handled] at waits
    cases waits
  obtain ⟨v, seen⟩ := Option.isSome_iff_exists.mp read
  rw [copy]
  cases known : r.known k with
  | none =>
    rw [Replica.known, seen, Option.or_eq_none_iff] at known
    cases known.2
  | some w =>
    rw [fresh w known]
    rfl

end Sound

/-! ### Removals are final -/

section Lasting

variable [DecidableEq K] {r r' : Replica K V} {held held' : K → Option V} {gone gone' : K → Bool}

/-- The messages that a key was removed. -/
def farewells (k : K) (sent : List (K × Option V)) : Nat :=
  sent.countP fun m => decide (m.1 = k) && m.2.isNone

/-- A removal is announced at most once, and only of a key that is gone for good; it is the
last message of its key. -/
structure Lasting (gone : K → Bool) (r : Replica K V) : Prop where
  once : ∀ k, r.pending.count ⟨k, true⟩ + farewells k r.sent ≤ (gone k).toNat
  last : r.sent.Pairwise fun m m' => m.2 = none → m'.1 ≠ m.1

theorem lasting_start : Lasting gone (start : Replica K V) :=
  ⟨fun _ => Nat.zero_le _, .nil⟩

theorem farewells_concat (k : K) (sent : List (K × Option V)) (m : K × Option V) :
    farewells k (sent ++ [m]) = farewells k sent + if m.1 = k ∧ m.2 = none then 1 else 0 := by
  rw [farewells, List.countP_append, ← farewells]
  congr 1
  by_cases here : m.1 = k ∧ m.2 = none
  · simp [here]
  · rw [if_neg here, List.countP_eq_zero]
    intro m' member
    rw [List.mem_singleton.mp member]
    simpa using here

/-- A message that follows a farewell of its key would be a second one. -/
theorem Lasting.farewells_eq_zero {n : Notice K} {rest : List (Notice K)} (lasting : Lasting gone r)
    (absent : ∀ k, gone k = true → held k = none) (first : r.pending = n :: rest)
    (agrees : (held n.key).isNone = n.removed) : farewells n.key r.sent = 0 := by
  by_contra some
  have bound := lasting.once n.key
  have below : (gone n.key).toNat ≤ 1 := Bool.toNat_le _
  have isGone : gone n.key = true := by
    cases alive : gone n.key with
    | true => rfl
    | false =>
      rw [alive, Bool.toNat_false] at bound
      omega
  have removed := n.eq_removal (agrees.symm.trans (by rw [absent _ isGone]; rfl))
  have waits : 0 < r.pending.count ⟨n.key, true⟩ := by
    rw [List.count_pos_iff, first, ← removed]
    exact List.mem_cons_self
  omega

/-- **Step lemma.** -/
theorem Lasting.step (lasting : Lasting gone r) (absent : ∀ k, gone k = true → held k = none)
    (step : Step (held, gone) r (held', gone') r') : Lasting gone' r' := by
  cases step with
  | change told removals =>
    refine ⟨fun k => ?_, lasting.last⟩
    have bound := lasting.once k
    have more := removals k
    show List.count _ (r.pending ++ _) + farewells k r.sent ≤ _
    rw [List.count_append]
    omega
  | @send _ _ _ n rest first agrees =>
    refine ⟨fun k => ?_, ?_⟩
    · have bound := lasting.once k
      rw [first, List.count_cons] at bound
      show rest.count _ + farewells k (r.sent ++ [_]) ≤ _
      rw [farewells_concat]
      by_cases here : n.key = k ∧ held n.key = none
      · obtain ⟨rfl, none⟩ := here
        have removed := n.eq_removal (agrees.symm.trans (by rw [none]; rfl))
        rw [if_pos (beq_iff_eq.mpr removed)] at bound
        rw [if_pos ⟨rfl, none⟩]
        omega
      · rw [if_neg here]
        omega
    · refine List.pairwise_append.mpr ⟨lasting.last, List.pairwise_singleton _ _, ?_⟩
      intro m earlier m' new none
      rw [List.mem_singleton.mp new]
      intro same
      have zero := lasting.farewells_eq_zero absent first agrees
      rw [farewells, List.countP_eq_zero] at zero
      exact zero m earlier (by simp [none, ← same])
  | @skip _ _ _ n rest first differs =>
    refine ⟨fun k => ?_, lasting.last⟩
    have bound := lasting.once k
    rw [first, List.count_cons] at bound
    show rest.count _ + farewells k r.sent ≤ _
    omega
  | read keys => exact ⟨lasting.once, lasting.last⟩

end Lasting

end Replica

end Hypershell.Foundation
