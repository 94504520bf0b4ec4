import Hypershell.Foundation.Process

/-!
# Processes that only read

A process that leaves the store as it is at every step sees the work of the others and adds
nothing to it.  Each of its moments then lies between its start and its end in the history of
the store, so what two of its reads agree on can be compared with everything in between.

Processes that stop at their first failure are sequences in `ExceptT`.  A sequence that returns
is an execution of its first part that returns and one of the rest.

## Main definitions

* `Proc.ReadOnly` — every step leaves the store
* `Proc.within` — a process on a part of a store
* `Proc.Trial` — a process that may fail
* `Proc.Trial.Returns`, `Proc.Trial.Fails`, `Proc.Trial.FailsIn` — its results

## Main results

* `Proc.ReadOnly.reaches` — the moments of a read-only execution are in order
* `Proc.exec_within` — what a process does on a part
* `Proc.Trial.returns_bind` — the parts of a sequence that returns
-/

namespace Hypershell.Foundation.Proc

variable {Ω Ω' S W V α β ε : Type}

/-- Every step leaves the store as it is. -/
inductive ReadOnly : Proc Ω S V α → Prop
  | ret (a : α) : ReadOnly (.ret a)
  | act {γ : Type} {step : Ω → S → Outcome S V γ} {next : γ → Proc Ω S V α}
      (quiet : ∀ ω s, (step ω s).store = s) (rest : ∀ c, ReadOnly (next c)) :
      ReadOnly (.act step next)

theorem ReadOnly.bind {p : Proc Ω S V α} {rest : α → Proc Ω S V β} (first : p.ReadOnly)
    (second : ∀ a, (rest a).ReadOnly) : (p >>= rest).ReadOnly := by
  induction first with
  | ret a => exact second a
  | act quiet _ ih => exact .act quiet ih

/-- **The moments of a reader.**  The others move the store through every store that a step
starts from, and to the last one. -/
theorem ReadOnly.reaches {between : S → S → Prop} (refl : ∀ s, between s s)
    (trans : ∀ {s t u}, between s t → between t u → between s u) {p : Proc Ω S V α} {s t : S}
    {steps : List (Ω × S)} {a : α} {l : List V} (quiet : p.ReadOnly)
    (exec : p.Exec between s steps a l t) :
    between s t ∧ ∀ x ∈ steps, between s x.2 ∧ between x.2 t := by
  induction exec with
  | ret => exact ⟨refl _, fun _ never => nomatch never⟩
  | act moved rest ih =>
    cases quiet with
    | act still tail =>
    rw [still] at ih rest
    obtain ⟨reached, moments⟩ := ih (tail _)
    refine ⟨trans moved reached, fun x member => ?_⟩
    rcases List.mem_cons.mp member with rfl | later
    · exact ⟨moved, reached⟩
    · exact ⟨trans moved (moments x later).1, (moments x later).2⟩

/-- Executions of the parts of a sequence are one of the sequence. -/
theorem Exec.bind {between : S → S → Prop} {p : Proc Ω S V α} {rest : α → Proc Ω S V β}
    {s t u : S} {steps₁ steps₂ : List (Ω × S)} {a : α} {b : β} {l₁ l₂ : List V}
    (first : p.Exec between s steps₁ a l₁ t) (second : (rest a).Exec between t steps₂ b l₂ u) :
    (p >>= rest).Exec between s (steps₁ ++ steps₂) b (l₁ ++ l₂) u := by
  induction first with
  | ret => exact second
  | act moved _ ih =>
    rw [List.cons_append, List.append_assoc]
    exact .act moved (ih second)

/-- What holds at every step holds of every store to which the others move. -/
theorem Exec.moments {between : S → S → Prop} {holds : S → Prop} {p : Proc Ω S V α} {s t : S}
    {steps : List (Ω × S)} {a : α} {l : List V} (exec : p.Exec between s steps a l t)
    (each : ∀ x ∈ steps, holds x.2) :
    p.Exec (fun s s' => between s s' ∧ holds s') s steps a l t := by
  induction exec with
  | ret => exact .ret
  | act moved rest ih =>
    exact .act ⟨moved, each _ List.mem_cons_self⟩
      (ih fun x member => each x (List.mem_cons_of_mem _ member))

/-- A process on a part of a store, for a part of each oracle. -/
def within (oracle : Ω' → Ω) (part : W → S) (put : S → W → W) : Proc Ω S V α → Proc Ω' W V α
  | .ret a => .ret a
  | .act step next => .act
      (fun ω w =>
        let outcome := step (oracle ω) (part w)
        ⟨put outcome.store w, outcome.log, outcome.result⟩)
      fun b => (next b).within oracle part put

section Within

variable {oracle : Ω' → Ω} {part : W → S} {put : S → W → W}

theorem ReadOnly.within {p : Proc Ω S V α} (quiet : p.ReadOnly)
    (same : ∀ w, put (part w) w = w) : (p.within oracle part put).ReadOnly := by
  induction quiet with
  | ret a => exact .ret a
  | @act γ step next still _ ih =>
    refine .act (fun ω w => ?_) ih
    show put (step (oracle ω) (part w)).store w = w
    rw [still]
    exact same w

end Within

/-! ### Sequences that stop at a failure -/

/-- A process that may fail. -/
abbrev Trial (Ω S V ε α : Type) : Type 1 := ExceptT ε (Proc Ω S V) α

namespace Trial

/-- Go on if something holds, else fail. -/
def demand (p : Prop) [Decidable p] (e : ε) : Trial Ω S V ε Unit :=
  if p then pure () else throw e

/-- A value that was computed, or its error. -/
def lift (result : Except ε α) : Trial Ω S V ε α := ExceptT.mk (.ret result)

/-- What an attempt ended in, as a value. -/
def observe {ε' : Type} (m : Trial Ω S V ε α) : Trial Ω S V ε' (Except ε α) :=
  ExceptT.mk (m.run >>= fun result => .ret (.ok result))

/-- A reading of the oracle. -/
def look (read : Ω → β) : Trial Ω S V ε β :=
  ExceptT.mk (.act (fun ω s => ⟨s, [], read ω⟩) fun b => .ret (.ok b))

/-- An attempt that only reads. -/
def ReadOnly (m : Trial Ω S V ε α) : Prop := Proc.ReadOnly m.run

theorem readOnly_pure (a : α) : ReadOnly (pure a : Trial Ω S V ε α) := .ret _

theorem ReadOnly.observe {ε' : Type} {m : Trial Ω S V ε α} (quiet : ReadOnly m) :
    ReadOnly (observe m : Trial Ω S V ε' (Except ε α)) :=
  Proc.ReadOnly.bind quiet fun _ => .ret _

theorem ReadOnly.bind {m : Trial Ω S V ε α} {rest : α → Trial Ω S V ε β} (first : ReadOnly m)
    (second : ∀ a, ReadOnly (rest a)) : ReadOnly (m >>= rest) := by
  refine Proc.ReadOnly.bind first fun result => ?_
  cases result with
  | error e => exact .ret _
  | ok a => exact second a

variable {between : S → S → Prop} {s t : S} {l : List V}

/-- `Returns m s a t`: alone or in company, from the store `s` the attempt returns `a` and
leaves `t`. -/
def Returns (between : S → S → Prop) (m : Trial Ω S V ε α) (s : S) (a : α) (t : S) : Prop :=
  ∃ steps l, m.run.Exec between s steps (.ok a) l t

theorem returns_pure {a b : α} (returned : Returns between (pure a : Trial Ω S V ε α) s b t) :
    b = a ∧ t = s := by
  obtain ⟨steps, l, exec⟩ := returned
  obtain ⟨same, -, -, rfl⟩ := exec_ret exec
  exact ⟨Except.ok.inj same, rfl⟩

theorem returns_throw {e : ε} {b : α}
    (returned : Returns between (throw e : Trial Ω S V ε α) s b t) : False := by
  obtain ⟨steps, l, exec⟩ := returned
  exact nomatch (exec_ret exec).1

theorem returns_demand {p : Prop} [Decidable p] {e : ε} {u : Unit}
    (returned : Returns between (demand p e : Trial Ω S V ε Unit) s u t) : p ∧ t = s := by
  unfold demand at returned
  split_ifs at returned with holds
  · exact ⟨holds, (returns_pure returned).2⟩
  · exact (returns_throw returned).elim

theorem returns_look {read : Ω → β} {b : β}
    (returned : Returns between (look read : Trial Ω S V ε β) s b t) : between s t := by
  obtain ⟨steps, l, exec⟩ := returned
  obtain ⟨ω, s', steps', l', -, moved, -, rest⟩ := exec_act exec
  obtain ⟨-, -, -, rfl⟩ := exec_ret rest
  exact moved

theorem Returns.mono {between' : S → S → Prop} {m : Trial Ω S V ε α} {a : α}
    (returned : Returns between m s a t) (weaker : ∀ s t, between s t → between' s t) :
    Returns between' m s a t := by
  obtain ⟨steps, l, exec⟩ := returned
  exact ⟨steps, l, exec.mono weaker⟩

/-- A sequence returns if its parts do. -/
theorem Returns.bind {m : Trial Ω S V ε α} {rest : α → Trial Ω S V ε β} {a : α} {b : β} {u : S}
    (first : Returns between m s a u) (second : Returns between (rest a) u b t) :
    Returns between (m >>= rest) s b t := by
  obtain ⟨steps₁, l₁, exec₁⟩ := first
  obtain ⟨steps₂, l₂, exec₂⟩ := second
  exact ⟨_, _, exec₁.bind exec₂⟩

theorem Returns.pure (a : α) : Returns between (pure a : Trial Ω S V ε α) s a s :=
  ⟨[], [], .ret⟩

theorem Returns.demand {p : Prop} [Decidable p] {e : ε} (holds : p) :
    Returns between (demand p e : Trial Ω S V ε Unit) s () s := by
  rw [Trial.demand, if_pos holds]
  exact .pure ()

theorem Returns.lift {result : Except ε α} {a : α} (computed : result = .ok a) :
    Returns between (lift result : Trial Ω S V ε α) s a s := by
  subst computed
  exact ⟨[], [], .ret⟩

/-- A step that returns, after a move of the others. -/
theorem Returns.once {step : Ω → S → Outcome S V (Except ε α)} {a : α} {ω : Ω} {s' : S}
    (moved : between s s') (result : (step ω s').result = .ok a) :
    Returns between (ExceptT.mk (Proc.once step)) s a (step ω s').store := by
  have rest : (Proc.ret (step ω s').result : Proc Ω S V (Except ε α)).Exec between
      (step ω s').store [] (.ok a) [] (step ω s').store := by
    rw [result]
    exact .ret
  exact ⟨_, _, .act moved rest⟩

/-- **The parts of a sequence that returns.** -/
theorem returns_bind {m : Trial Ω S V ε α} {rest : α → Trial Ω S V ε β} {b : β}
    (returned : Returns between (m >>= rest) s b t) :
    ∃ a u, Returns between m s a u ∧ Returns between (rest a) u b t := by
  obtain ⟨steps, l, exec⟩ := returned
  obtain ⟨steps₁, steps₂, result, l₁, l₂, u, -, -, first, second⟩ := exec_bind exec
  cases result with
  | error e => exact nomatch (exec_ret second).1
  | ok a => exact ⟨a, u, ⟨_, _, first⟩, ⟨_, _, second⟩⟩

/-- `Fails m s e t`: alone or in company, from the store `s` the attempt fails with `e` and leaves
`t`. -/
def Fails (between : S → S → Prop) (m : Trial Ω S V ε α) (s : S) (e : ε) (t : S) : Prop :=
  ∃ steps l, m.run.Exec between s steps (.error e) l t

theorem fails_pure {a : α} {e : ε} (failed : Fails between (pure a : Trial Ω S V ε α) s e t) :
    False := by
  obtain ⟨steps, l, exec⟩ := failed
  exact nomatch (exec_ret exec).1

theorem fails_throw {e e' : ε} (failed : Fails between (throw e : Trial Ω S V ε α) s e' t) :
    e' = e := by
  obtain ⟨steps, l, exec⟩ := failed
  exact Except.error.inj (exec_ret exec).1

theorem fails_lift {result : Except ε α} {e : ε}
    (failed : Fails between (lift result : Trial Ω S V ε α) s e t) : result = .error e := by
  obtain ⟨steps, l, exec⟩ := failed
  exact (exec_ret exec).1.symm

theorem fails_demand {p : Prop} [Decidable p] {e e' : ε}
    (failed : Fails between (demand p e : Trial Ω S V ε Unit) s e' t) : e' = e := by
  unfold demand at failed
  split_ifs at failed
  · exact (fails_pure failed).elim
  · exact fails_throw failed

/-- One step that fails. -/
theorem fails_once {step : Ω → S → Outcome S V (Except ε α)} {e : ε}
    (failed : Fails between (ExceptT.mk (once step)) s e t) :
    ∃ ω s', (step ω s').result = .error e := by
  obtain ⟨steps, l, exec⟩ := failed
  obtain ⟨ω, s', steps', l', -, -, -, rest⟩ := exec_act exec
  exact ⟨ω, s', (exec_ret rest).1.symm⟩

/-- **The parts of a sequence that fails.** -/
theorem fails_bind {m : Trial Ω S V ε α} {rest : α → Trial Ω S V ε β} {e : ε}
    (failed : Fails between (m >>= rest) s e t) :
    (∃ u, Fails between m s e u) ∨
      ∃ a u, Returns between m s a u ∧ Fails between (rest a) u e t := by
  obtain ⟨steps, l, exec⟩ := failed
  obtain ⟨steps₁, steps₂, result, l₁, l₂, u, -, -, first, second⟩ := exec_bind exec
  cases result with
  | error e' =>
    obtain ⟨same, -, -, rfl⟩ := exec_ret second
    cases same
    exact .inl ⟨_, _, _, first⟩
  | ok a => exact .inr ⟨a, u, ⟨_, _, first⟩, ⟨_, _, second⟩⟩

theorem ReadOnly.returns (refl : ∀ s, between s s)
    (trans : ∀ {s t u}, between s t → between t u → between s u) {m : Trial Ω S V ε α} {a : α}
    (quiet : ReadOnly m) (returned : Returns between m s a t) : between s t := by
  obtain ⟨steps, l, exec⟩ := returned
  exact (Proc.ReadOnly.reaches refl trans quiet exec).1

end Trial

/-! ### Failures -/

/-- Whatever the steps of a process find, it returns one of some results. -/
inductive Ends (post : α → Prop) : Proc Ω S V α → Prop
  | ret {a : α} (holds : post a) : Ends post (.ret a)
  | act {γ : Type} {step : Ω → S → Outcome S V γ} {next : γ → Proc Ω S V α}
      (rest : ∀ c, Ends post (next c)) : Ends post (.act step next)

theorem Ends.bind {post : β → Prop} {p : Proc Ω S V α} {rest : α → Proc Ω S V β} {mid : α → Prop}
    (first : p.Ends mid) (second : ∀ a, mid a → (rest a).Ends post) : (p >>= rest).Ends post := by
  induction first with
  | ret holds => exact second _ holds
  | act _ ih => exact .act ih

theorem Ends.exec {post : α → Prop} {between : S → S → Prop} {p : Proc Ω S V α} {s t : S}
    {steps : List (Ω × S)} {a : α} {l : List V} (ends : p.Ends post)
    (exec : p.Exec between s steps a l t) : post a := by
  induction exec with
  | ret =>
    cases ends with
    | ret holds => exact holds
  | act _ _ ih =>
    cases ends with
    | act rest => exact ih (rest _)

namespace Trial

/-- The errors with which an attempt may fail. -/
def FailsIn (errors : List ε) (m : Trial Ω S V ε α) : Prop :=
  Proc.Ends (fun result => ∀ e, result = .error e → e ∈ errors) m.run

variable {errors : List ε}

theorem FailsIn.bind {m : Trial Ω S V ε α} {rest : α → Trial Ω S V ε β}
    (first : FailsIn errors m) (second : ∀ a, FailsIn errors (rest a)) :
    FailsIn errors (m >>= rest) := by
  refine Proc.Ends.bind first fun result failed => ?_
  cases result with
  | error e =>
    refine .ret fun e' same => ?_
    cases same
    exact failed e rfl
  | ok a => exact second a

end Trial

end Hypershell.Foundation.Proc
