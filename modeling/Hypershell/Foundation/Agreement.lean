import Hypershell.Foundation.Transaction

/-!
# Two runs of one process

What a caller may see of a store is a statement about two runs: from two stores that agree
on what the caller may see, and with the same oracle, a process answers the same.

`Tx.Alike ω m ok c c'` is the judgement for the body of a transaction, with one rule per
construct; `answer_transact` concludes from it that the whole transaction answers alike.

## Main definitions

* `Proc.answer` — what a process returns when it runs alone
* `Context.Coupled` — contexts of two runs that differ in their stores only
* `Tx.Alike` — two runs of one body
-/

namespace Hypershell.Foundation

namespace Proc

variable {Ω S V α β : Type}

/-- What a process returns when it runs alone with the oracles `ωs`. -/
def answer (p : Proc Ω S V α) (ωs : List Ω) (s : S) : Option α :=
  (p.run ωs s).map fun (_, a, _, _) => a

@[simp] theorem answer_ret (a : α) (ωs : List Ω) (s : S) :
    (.ret a : Proc Ω S V α).answer ωs s = some a := rfl

@[simp] theorem answer_once_nil (step : Ω → S → Outcome S V α) (s : S) :
    (once step).answer [] s = none := rfl

@[simp] theorem answer_once_cons (step : Ω → S → Outcome S V α) (ω : Ω) (ωs : List Ω) (s : S) :
    (once step).answer (ω :: ωs) s = some (step ω s).result := rfl

/-- A function of what a process returns. -/
theorem answer_map (f : α → β) (p : Proc Ω S V α) (ωs : List Ω) (s : S) :
    (f <$> p).answer ωs s = (p.answer ωs s).map f := by
  induction p generalizing ωs s with
  | ret a => rfl
  | act step next ih =>
    cases ωs with
    | nil => rfl
    | cons ω ωs =>
      have rest := ih (step ω s).result ωs (step ω s).store
      rw [answer, answer, Option.map_map] at rest
      have mapped : f <$> (.act step next : Proc Ω S V α) = .act step fun c => f <$> next c := rfl
      rw [mapped, answer, answer, run, run, Option.map_map, Option.map_map, Option.map_map]
      exact rest

end Proc

/-- The contexts of two runs: as many operations later, with the same variables of the
caller, and with stores that are related. -/
structure Context.Coupled {S V L : Type} (R : S → S → Prop) (c c' : Context S V L) : Prop where
  tick : c.tick = c'.tick
  locals : c.locals = c'.locals
  store : R c.store c'.store

namespace Context.Coupled

variable {S V L : Type} {R R' : S → S → Prop} {c c' : Context S V L}

theorem mono (coupled : Coupled R c c') (weaker : R c.store c'.store → R' c.store c'.store) :
    Coupled R' c c' :=
  ⟨coupled.tick, coupled.locals, weaker coupled.store⟩

/-- One operation later. -/
theorem next (coupled : Coupled R c c') :
    Coupled R (c.at (c.tick + 1)) (c'.at (c'.tick + 1)) :=
  ⟨congrArg (· + 1) coupled.tick, coupled.locals, coupled.store⟩

/-- One write later. -/
theorem put (coupled : Coupled R c c') {s s' : S} (related : R' s s') :
    Coupled R' (c.put (c.tick + 1) s) (c'.put (c'.tick + 1) s') :=
  ⟨congrArg (· + 1) coupled.tick, coupled.locals, related⟩

end Context.Coupled

namespace Tx

variable {Ω S V L E α β : Type} {ω : Ω} {c c' : Context S V L}

/-- With the oracle `ω`, `m` ends alike from `c` and from `c'`: it fails with one error, or
returns one value in contexts that `ok` relates. -/
def Alike (ω : Ω) (m : Tx Ω S V L E α) (ok : α → Context S V L → Context S V L → Prop)
    (c c' : Context S V L) : Prop :=
  match m ω c, m ω c' with
  | (.ok a, d), (.ok a', d') => a = a' ∧ ok a d d'
  | (.error e, d), (.error e', d') => e = e' ∧ d.locals = d'.locals
  | _, _ => False

variable {ok ok' : α → Context S V L → Context S V L → Prop}

theorem alike_pure {a : α} (returns : ok a c c') :
    Alike ω (pure a : Tx Ω S V L E α) ok c c' :=
  ⟨rfl, returns⟩

theorem alike_raise {e : E} (locals : c.locals = c'.locals) :
    Alike ω (raise e : Tx Ω S V L E α) ok c c' :=
  ⟨rfl, locals⟩

/-- **Sequencing.** -/
theorem alike_bind {m : Tx Ω S V L E α} {rest : α → Tx Ω S V L E β}
    {ok : β → Context S V L → Context S V L → Prop}
    (first : Alike ω m (fun a => Alike ω (rest a) ok) c c') :
    Alike ω (m >>= rest) ok c c' := by
  revert first
  simp only [Alike, Bind.bind]
  cases m ω c with
  | mk result d =>
    cases m ω c' with
    | mk result' d' =>
      cases result <;> cases result' <;> dsimp only
      · exact fun failed => failed
      · exact fun never => never.elim
      · exact fun never => never.elim
      · rintro ⟨rfl, rest⟩
        exact rest

/-- **Consequence.** -/
theorem Alike.mono {m : Tx Ω S V L E α} (alike : Alike ω m ok c c')
    (returns : ∀ a d d', ok a d d' → ok' a d d') : Alike ω m ok' c c' := by
  revert alike
  simp only [Alike]
  cases m ω c with
  | mk result d =>
    cases m ω c' with
    | mk result' d' =>
      cases result <;> cases result' <;> dsimp only
      · exact fun failed => failed
      · exact fun never => never
      · exact fun never => never
      · exact fun ends => ⟨ends.1, returns _ _ _ ends.2⟩

theorem alike_capture {assign : L → L} {ok : Unit → Context S V L → Context S V L → Prop}
    (returns : ok () { c with locals := assign c.locals } { c' with locals := assign c'.locals }) :
    Alike ω (capture assign : Tx Ω S V L E Unit) ok c c' :=
  ⟨rfl, returns⟩

theorem alike_require {p : Prop} [Decidable p] {e : E}
    {ok : Unit → Context S V L → Context S V L → Prop} (locals : c.locals = c'.locals)
    (returns : p → ok () c c') : Alike ω (require p e : Tx Ω S V L E Unit) ok c c' := by
  unfold require
  split
  · exact alike_pure (returns ‹_›)
  · exact alike_raise locals

end Tx

/-- **Transactions answer alike** if their bodies end alike. -/
theorem answer_transact {Ω S V L E : Type} {reply : Ω → CommitReply} {lost : E} {init : L}
    {body : Tx Ω S V L E Unit} {s s' : S} {ωs : List Ω}
    (alike : ∀ ω ∈ ωs, Tx.Alike ω body (fun _ d d' => d.locals = d'.locals)
      (Context.start s init) (Context.start s' init)) :
    (transact reply lost init body).answer ωs s = (transact reply lost init body).answer ωs s' := by
  cases ωs with
  | nil => rfl
  | cons ω ωs =>
    have ends := alike ω List.mem_cons_self
    revert ends
    rw [transact, Proc.answer_once_cons, Proc.answer_once_cons]
    simp only [Tx.Alike, conclude]
    cases body ω (Context.start s init) with
    | mk result d =>
      cases body ω (Context.start s' init) with
      | mk result' d' =>
        cases result <;> cases result' <;> dsimp only
        · rintro ⟨rfl, locals⟩
          rw [locals]
        · exact fun never => never.elim
        · exact fun never => never.elim
        · rintro ⟨-, locals⟩
          cases reply ω <;> dsimp only <;> rw [locals]

end Hypershell.Foundation
