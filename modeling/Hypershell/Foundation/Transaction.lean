import Hypershell.Foundation.Process

/-!
# Transactions

A transaction reads and writes a working copy of the store, may fail at any
point, and keeps the events it caused and the local variables it assigned even
when its writes are rolled back.  `transact` makes one atomic step of a process
from it: a failure leaves the base store, a success commits the working copy, and
a commit whose reply is lost may have gone either way.

The calculus is weakest preconditions with two exits: `wp ω m ok raise c` says
that `m`, started in the context `c`, ends in `ok` when it returns and in `raise`
when it fails.

## Main definitions

* `Context`, `Tx` — the state of a transaction and the monad of its body
* `wp` — weakest preconditions, with one rule per construct
* `CommitReply`, `transact`, `Concluded` — a transaction as a step and how it ends
-/

namespace Hypershell.Foundation

/-- What a transaction works on. -/
structure Context (S V L : Type) where
  /-- The store with the transaction's own writes. -/
  store : S
  /-- The store without them: what a rollback leaves. -/
  base : S
  /-- Counts the operations, so that each consults the oracle afresh. -/
  tick : Nat
  /-- The events so far.  A rollback does not undo them. -/
  log : List V
  /-- Variables of the caller that the body assigns.  A rollback keeps them. -/
  locals : L

/-- The context a transaction starts in. -/
def Context.start {S V L : Type} (s : S) (init : L) : Context S V L :=
  ⟨s, s, 0, [], init⟩

section Start

variable {S V L : Type} (s : S) (init : L)

@[simp] theorem Context.start_store : (Context.start s init : Context S V L).store = s := rfl

@[simp] theorem Context.start_base : (Context.start s init : Context S V L).base = s := rfl

@[simp] theorem Context.start_log : (Context.start s init : Context S V L).log = [] := rfl

@[simp] theorem Context.start_tick : (Context.start s init : Context S V L).tick = 0 := rfl

@[simp] theorem Context.start_locals :
    (Context.start s init : Context S V L).locals = init := rfl

end Start

/-- The context some operations later. -/
def Context.at {S V L : Type} (c : Context S V L) (tick : Nat) : Context S V L :=
  { c with tick := tick }

section At

variable {S V L : Type} (c : Context S V L) (n : Nat)

@[simp] theorem Context.at_store : (c.at n).store = c.store := rfl

@[simp] theorem Context.at_base : (c.at n).base = c.base := rfl

@[simp] theorem Context.at_log : (c.at n).log = c.log := rfl

@[simp] theorem Context.at_locals : (c.at n).locals = c.locals := rfl

@[simp] theorem Context.at_tick : (c.at n).tick = n := rfl

@[simp] theorem Context.at_at (m : Nat) : (c.at n).at m = c.at m := rfl

end At

/-- The context some operations later, with another working copy. -/
def Context.put {S V L : Type} (c : Context S V L) (tick : Nat) (s : S) : Context S V L :=
  { c with tick := tick, store := s }

section Put

variable {S V L : Type} (c : Context S V L) (n m : Nat) (s t : S)

@[simp] theorem Context.put_store : (c.put n s).store = s := rfl

@[simp] theorem Context.put_base : (c.put n s).base = c.base := rfl

@[simp] theorem Context.put_log : (c.put n s).log = c.log := rfl

@[simp] theorem Context.put_locals : (c.put n s).locals = c.locals := rfl

@[simp] theorem Context.put_tick : (c.put n s).tick = n := rfl

@[simp] theorem Context.put_put : (c.put n s).put m t = c.put m t := rfl

@[simp] theorem Context.put_at : (c.put n s).at m = c.put m s := rfl

@[simp] theorem Context.at_put : (c.at n).put m s = c.put m s := rfl

end Put

/-- The body of a transaction: it fails with an `E` or returns an `α`. -/
def Tx (Ω S V L E α : Type) : Type :=
  Ω → Context S V L → Except E α × Context S V L

namespace Tx

variable {Ω S V L E α β : Type}

instance : Monad (Tx Ω S V L E) where
  pure a := fun _ c => (.ok a, c)
  bind m rest := fun ω c =>
    match m ω c with
    | (.ok a, c') => rest a ω c'
    | (.error e, c') => (.error e, c')

/-- Fail. -/
def raise (e : E) : Tx Ω S V L E α := fun _ c => (.error e, c)

/-- Fail with `e` unless `p` holds. -/
def require (p : Prop) [Decidable p] (e : E) : Tx Ω S V L E Unit :=
  if p then pure () else raise e

/-- Run `m` and look at its failure.  What `m` wrote before it failed stays in the
transaction. -/
def attempt (m : Tx Ω S V L E α) : Tx Ω S V L E (Except E α) := fun ω c =>
  let (result, c') := m ω c
  (.ok result, c')

/-- Assign variables of the caller. -/
def capture (assign : L → L) : Tx Ω S V L E Unit := fun _ c =>
  (.ok (), { c with locals := assign c.locals })

/-- Read the variables of the caller. -/
def captured : Tx Ω S V L E L := fun _ c => (.ok c.locals, c)

/-- `wp ω m ok raise c`: started in `c`, `m` returns in `ok` or fails in `raise`. -/
def wp (ω : Ω) (m : Tx Ω S V L E α) (ok : α → Context S V L → Prop)
    (raise : E → Context S V L → Prop) (c : Context S V L) : Prop :=
  match m ω c with
  | (.ok a, c') => ok a c'
  | (.error e, c') => raise e c'

variable {ω : Ω} {ok ok' : α → Context S V L → Prop} {raise' raise'' : E → Context S V L → Prop}
  {c : Context S V L}

@[simp] theorem wp_pure (a : α) :
    wp ω (pure a : Tx Ω S V L E α) ok raise' = ok a := rfl

@[simp] theorem wp_raise (e : E) :
    wp ω (raise e : Tx Ω S V L E α) ok raise' = raise' e := rfl

/-- **Sequencing.** -/
@[simp] theorem wp_bind (m : Tx Ω S V L E α) (rest : α → Tx Ω S V L E β)
    {ok : β → Context S V L → Prop} :
    wp ω (m >>= rest) ok raise' = wp ω m (fun a => wp ω (rest a) ok raise') raise' := by
  funext c
  simp only [wp, Bind.bind]
  cases m ω c with
  | mk result c' => cases result <;> rfl

@[simp] theorem wp_map (m : Tx Ω S V L E α) (f : α → β)
    {ok : β → Context S V L → Prop} :
    wp ω (f <$> m) ok raise' = wp ω m (fun a => ok (f a)) raise' := by
  change wp ω (m >>= fun a => pure (f a)) ok raise' = _
  simp

@[simp] theorem wp_attempt (m : Tx Ω S V L E α)
    {ok : Except E α → Context S V L → Prop} :
    wp ω (attempt m) ok raise' =
      wp ω m (fun a => ok (.ok a)) (fun e => ok (.error e)) := by
  funext c
  simp only [wp, attempt]
  cases m ω c with
  | mk result c' => cases result <;> rfl

@[simp] theorem wp_capture (assign : L → L) {ok : Unit → Context S V L → Prop} :
    wp ω (capture assign : Tx Ω S V L E Unit) ok raise' =
      fun c => ok () { c with locals := assign c.locals } := rfl

@[simp] theorem wp_captured {ok : L → Context S V L → Prop} :
    wp ω (captured : Tx Ω S V L E L) ok raise' = fun c => ok c.locals c := rfl

@[simp] theorem wp_ite (p : Prop) [Decidable p] (m m' : Tx Ω S V L E α) :
    wp ω (if p then m else m') ok raise' =
      if p then wp ω m ok raise' else wp ω m' ok raise' := by
  split <;> rfl

@[simp] theorem wp_require (p : Prop) [Decidable p] (e : E)
    {ok : Unit → Context S V L → Prop} :
    wp ω (require p e : Tx Ω S V L E Unit) ok raise' =
      if p then ok () else raise' e := by
  unfold require
  split <;> rfl

/-- **Consequence.** -/
theorem wp_mono {m : Tx Ω S V L E α} (run : wp ω m ok raise' c)
    (returns : ∀ a c', ok a c' → ok' a c') (fails : ∀ e c', raise' e c' → raise'' e c') :
    wp ω m ok' raise'' c := by
  revert run
  simp only [wp]
  cases m ω c with
  | mk result c' =>
    cases result with
    | ok a => exact returns a c'
    | error e => exact fails e c'

/-- A transaction ends. -/
theorem wp_true (m : Tx Ω S V L E α) (c : Context S V L) :
    wp ω m (fun _ _ => True) (fun _ _ => True) c := by
  unfold wp
  split <;> trivial

/-- Two facts about one transaction hold together. -/
theorem wp_and {m : Tx Ω S V L E α} (first : wp ω m ok raise' c)
    (second : wp ω m ok' raise'' c) :
    wp ω m (fun a c' => ok a c' ∧ ok' a c') (fun e c' => raise' e c' ∧ raise'' e c') c := by
  revert first second
  simp only [wp]
  cases m ω c with
  | mk result c' => cases result <;> exact And.intro

end Tx

/-! ### The end of a transaction -/

/-- How the commit of a transaction ends. -/
inductive CommitReply
  | committed
  /-- The commit failed and nothing was stored. -/
  | rolledBack
  /-- The commit took effect but its reply was lost. -/
  | replyLost
  deriving DecidableEq, Repr

variable {Ω S V L E : Type}

/-- The outcome of a transaction's step.  A caller that does not learn of the commit
gets the error `lost`. -/
def conclude (reply : CommitReply) (lost : E) :
    Except E Unit × Context S V L → Outcome S V (L × Option E)
  | (.error e, c) => ⟨c.base, c.log, (c.locals, some e)⟩
  | (.ok _, c) =>
    match reply with
    | .committed => ⟨c.store, c.log, (c.locals, none)⟩
    | .rolledBack => ⟨c.base, c.log, (c.locals, some lost)⟩
    | .replyLost => ⟨c.store, c.log, (c.locals, some lost)⟩

/-- A transaction as one step.  The body runs once; its caller gets the assigned
variables and the error, if any. -/
def transact (reply : Ω → CommitReply) (lost : E) (init : L) (body : Tx Ω S V L E Unit) :
    Proc Ω S V (L × Option E) :=
  .once fun ω s => conclude (reply ω) lost (body ω (Context.start s init))

/-- How the step of a transaction ends whose body ends in `done` when it returns and in
`broken` when it fails: what the caller gets, the events and the store. -/
inductive Concluded (reply : CommitReply) (lost : E) (done : Context S V L → Prop)
    (broken : E → Context S V L → Prop) : L × Option E → List V → S → Prop
  | committed {c : Context S V L} (ended : done c) (took : reply = .committed) :
      Concluded reply lost done broken (c.locals, none) c.log c.store
  | replyLost {c : Context S V L} (ended : done c) (took : reply = .replyLost) :
      Concluded reply lost done broken (c.locals, some lost) c.log c.store
  | rolledBack {c : Context S V L} (ended : done c) (failed : reply = .rolledBack) :
      Concluded reply lost done broken (c.locals, some lost) c.log c.base
  | failed {e : E} {c : Context S V L} (ended : broken e c) :
      Concluded reply lost done broken (c.locals, some e) c.log c.base

/-- A transaction without an error has committed. -/
theorem Concluded.committed_of_ok {reply : CommitReply} {lost : E} {done : Context S V L → Prop}
    {broken : E → Context S V L → Prop} {x : L} {l : List V} {t : S}
    (concluded : Concluded reply lost done broken (x, none) l t) :
    ∃ c, done c ∧ c.locals = x ∧ c.log = l ∧ c.store = t := by
  generalize result : (x, (none : Option E)) = r at concluded
  cases concluded with
  | committed ended =>
    cases result
    exact ⟨_, ended, rfl, rfl, rfl⟩
  | replyLost => cases result
  | rolledBack => cases result
  | failed => cases result

/-- A transaction leaves its working copy, with the variables its body assigned, or its base. -/
theorem Concluded.leaves {reply : CommitReply} {lost : E} {done : Context S V L → Prop}
    {broken : E → Context S V L → Prop} {r : L × Option E} {l : List V} {t : S}
    (concluded : Concluded reply lost done broken r l t) :
    (∃ c, done c ∧ c.locals = r.1 ∧ c.store = t) ∨
      ∃ c, (done c ∨ ∃ e, broken e c) ∧ c.base = t := by
  cases concluded with
  | committed ended => exact Or.inl ⟨_, ended, rfl, rfl⟩
  | replyLost ended => exact Or.inl ⟨_, ended, rfl, rfl⟩
  | rolledBack ended => exact Or.inr ⟨_, Or.inl ended, rfl⟩
  | failed ended => exact Or.inr ⟨_, Or.inr ⟨_, ended⟩, rfl⟩

/-- **The rule of transactions.** -/
theorem concluded_of_wp {reply : CommitReply} {lost : E} {ω : Ω} {init : L}
    {body : Tx Ω S V L E Unit} {s : S} {done : Context S V L → Prop}
    {broken : E → Context S V L → Prop}
    (run : Tx.wp ω body (fun _ => done) broken (Context.start s init)) :
    let o := conclude reply lost (body ω (Context.start s init))
    Concluded reply lost done broken o.result o.log o.store := by
  revert run
  simp only [Tx.wp]
  cases body ω (Context.start s init) with
  | mk result c =>
    cases result with
    | error e => exact fun ended => .failed ended
    | ok _ =>
      intro ended
      cases took : reply with
      | committed => exact .committed ended rfl
      | rolledBack => exact .rolledBack ended rfl
      | replyLost => exact .replyLost ended rfl

/-- A transaction meets a contract if each of its ends does. -/
theorem safe_transact {C : Contract Ω S V} {post : L × Option E → List V → S → Prop}
    {reply : Ω → CommitReply} {lost : E} {init : L} {body : Tx Ω S V L E Unit} {h : List V}
    {s : S} {done : Ω → S → Context S V L → Prop} {broken : Ω → S → E → Context S V L → Prop}
    (run : ∀ ω s', C.oracle ω → C.inv s' → C.rely s s' →
      Tx.wp ω body (fun _ => done ω s') (broken ω s') (Context.start s' init))
    (ends : ∀ ω s' r l t, C.oracle ω → C.inv s' → C.rely s s' →
      Concluded (reply ω) lost (done ω s') (broken ω s') r l t →
      (∀ v ∈ l, C.event s' v) ∧ C.change (h ++ l) s' t ∧ post r (h ++ l) t) :
    (transact reply lost init body).Safe C post h s := by
  intro s' moved holds ω considered
  exact ends ω s' _ _ _ considered holds moved
    (concluded_of_wp (run ω s' considered holds moved))

/-- The outcome of a transaction's step. -/
def outcome (reply : Ω → CommitReply) (lost : E) (init : L) (body : Tx Ω S V L E Unit)
    (ω : Ω) (s : S) : Outcome S V (L × Option E) :=
  conclude (reply ω) lost (body ω (Context.start s init))

/-- An execution of a transaction is one step, which ends as its body does. -/
theorem exec_transact {between : S → S → Prop} {reply : Ω → CommitReply} {lost : E} {init : L}
    {body : Tx Ω S V L E Unit} {s t : S} {steps : List (Ω × S)} {r : L × Option E}
    {l : List V} {done : Ω → S → Context S V L → Prop} {broken : Ω → S → E → Context S V L → Prop}
    (exec : (transact reply lost init body).Exec between s steps r l t)
    (run : ∀ ω s', steps = [(ω, s')] → between s s' →
      Tx.wp ω body (fun _ => done ω s') (broken ω s') (Context.start s' init)) :
    ∃ ω s', steps = [(ω, s')] ∧ between s s' ∧
      (outcome reply lost init body ω s').result = r ∧
      Concluded (reply ω) lost (done ω s') (broken ω s') r l t := by
  obtain ⟨ω, s', steps', l', rfl, moved, rfl, rest⟩ := Proc.exec_act exec
  obtain ⟨rfl, rfl, rfl, rfl⟩ := Proc.exec_ret rest
  rw [List.append_nil]
  exact ⟨ω, s', rfl, moved, rfl, concluded_of_wp (run ω s' rfl moved)⟩

end Hypershell.Foundation
