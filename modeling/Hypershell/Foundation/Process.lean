import Mathlib.Logic.Relation
import Mathlib.Data.Set.Basic
import Mathlib.Data.List.Infix

/-!
# Processes over one shared store

A process is a sequence of atomic steps on a store that other processes use
between its steps.  Each step consults an oracle `Ω` (failures, replies, clock
readings), commits a store, emits events and returns a value that selects the
rest of the process.

Claims about a process in company are made with a contract: an invariant of the
store, a relation that bounds what the others do between two steps, and the two
things every step owes in return — its events and its change of the store.
`Proc.Safe` is the judgement, `System.Governed` its soundness for every
interleaving of any number of processes, with crashes before, during and after a
step.

## Main definitions

* `Outcome`, `Proc` — one step's result, and a process
* `Proc.Exec` — executions of one process, others moving only by `between`
* `Contract`, `Proc.Safe` — what a process is checked against
* `System`, `System.Step` — interleaved processes with crashes
-/

namespace Hypershell.Foundation

/-- What one atomic step leaves: the committed store, the events it emitted and
the value it returned to its process. -/
structure Outcome (S V β : Type) where
  store : S
  log : List V
  result : β

/-- A process that returns an `α`: finished, or one atomic step and the rest. -/
inductive Proc (Ω S V α : Type) : Type 1
  | ret (a : α)
  | act {β : Type} (step : Ω → S → Outcome S V β) (next : β → Proc Ω S V α)

namespace Proc

variable {Ω S V α β : Type}

/-- Run one process and then the process its result selects. -/
def bind : Proc Ω S V α → (α → Proc Ω S V β) → Proc Ω S V β
  | .ret a, rest => rest a
  | .act step next, rest => .act step fun b => (next b).bind rest

instance : Monad (Proc Ω S V) where
  pure := .ret
  bind := bind

/-- A single atomic step. -/
def once (step : Ω → S → Outcome S V β) : Proc Ω S V β :=
  .act step .ret

@[simp] theorem pure_eq_ret (a : α) : (pure a : Proc Ω S V α) = .ret a := rfl

@[simp] theorem ret_bind (a : α) (rest : α → Proc Ω S V β) :
    (.ret a : Proc Ω S V α) >>= rest = rest a := rfl

@[simp] theorem act_bind {γ : Type} (step : Ω → S → Outcome S V γ)
    (next : γ → Proc Ω S V α) (rest : α → Proc Ω S V β) :
    (.act step next : Proc Ω S V α) >>= rest = .act step fun c => next c >>= rest := rfl

@[simp] theorem once_bind {γ : Type} (step : Ω → S → Outcome S V γ)
    (rest : γ → Proc Ω S V β) :
    once step >>= rest = .act step rest := rfl

/-! ### Executions of one process -/

/-- `Exec between p s steps a l t`: from the store `s` the process `p` returns `a`,
having emitted `l` and left the store `t`.  Each of its steps is listed with its oracle
and the store it started from, to which the rest of the world moved by `between`. -/
inductive Exec (between : S → S → Prop) :
    Proc Ω S V α → S → List (Ω × S) → α → List V → S → Prop
  | ret {a : α} {s : S} : Exec between (.ret a) s [] a [] s
  | act {γ : Type} {step : Ω → S → Outcome S V γ} {next : γ → Proc Ω S V α}
      {s s' t : S} {ω : Ω} {steps : List (Ω × S)} {a : α} {l : List V}
      (moved : between s s')
      (rest : Exec between (next (step ω s').result) (step ω s').store steps a l t) :
      Exec between (.act step next) s ((ω, s') :: steps) a ((step ω s').log ++ l) t

/-- The run of a process alone, for the oracles `ωs`: its steps and what it leaves;
`none` when they run out. -/
def run : Proc Ω S V α → List Ω → S → Option (List (Ω × S) × α × List V × S)
  | .ret a, _, s => some ([], a, [], s)
  | .act _ _, [], _ => none
  | .act step next, ω :: ωs, s =>
    ((next (step ω s).result).run ωs (step ω s).store).map
      fun (steps, a, l, t) => ((ω, s) :: steps, a, (step ω s).log ++ l, t)

section Exec

variable {between : S → S → Prop} {a b : α} {s t : S} {steps : List (Ω × S)} {l : List V}

theorem exec_ret (exec : (.ret a : Proc Ω S V α).Exec between s steps b l t) :
    b = a ∧ steps = [] ∧ l = [] ∧ t = s := by
  cases exec
  exact ⟨rfl, rfl, rfl, rfl⟩

theorem exec_act {γ : Type} {step : Ω → S → Outcome S V γ} {next : γ → Proc Ω S V α}
    (exec : (Proc.act step next).Exec between s steps a l t) :
    ∃ ω s' steps' l', steps = (ω, s') :: steps' ∧ between s s' ∧
      l = (step ω s').log ++ l' ∧
      (next (step ω s').result).Exec between (step ω s').store steps' a l' t := by
  cases exec with
  | act moved rest => exact ⟨_, _, _, _, rfl, moved, rfl, rest⟩

theorem Exec.mono {between' : S → S → Prop} {p : Proc Ω S V α}
    (exec : p.Exec between s steps a l t) (weaker : ∀ s t, between s t → between' s t) :
    p.Exec between' s steps a l t := by
  induction exec with
  | ret => exact .ret
  | act moved _ ih => exact .act (weaker _ _ moved) ih

/-- An execution of a sequence is one of its first part and one of the rest. -/
theorem exec_bind {p : Proc Ω S V β} {rest : β → Proc Ω S V α}
    (exec : (p >>= rest).Exec between s steps a l t) :
    ∃ steps₁ steps₂ c l₁ l₂ u, steps = steps₁ ++ steps₂ ∧ l = l₁ ++ l₂ ∧
      p.Exec between s steps₁ c l₁ u ∧ (rest c).Exec between u steps₂ a l₂ t := by
  induction p generalizing s steps l with
  | ret c => exact ⟨[], steps, c, [], l, s, rfl, rfl, .ret, exec⟩
  | act step next ih =>
    obtain ⟨ω, s', steps', l', rfl, moved, rfl, tail⟩ := exec_act exec
    obtain ⟨steps₁, steps₂, c, l₁, l₂, u, rfl, rfl, first, second⟩ := ih _ tail
    exact ⟨(ω, s') :: steps₁, steps₂, c, _, l₂, u, rfl, (List.append_assoc ..).symm,
      .act moved first, second⟩

/-- An execution of a process with a mapped result. -/
theorem exec_map {p : Proc Ω S V β} {f : β → α} (exec : (f <$> p).Exec between s steps a l t) :
    ∃ b, a = f b ∧ p.Exec between s steps b l t := by
  have sequence : (p >>= fun b => .ret (f b)).Exec between s steps a l t := exec
  obtain ⟨steps₁, steps₂, b, l₁, l₂, u, rfl, rfl, first, rest⟩ := exec_bind sequence
  obtain ⟨rfl, rfl, rfl, rfl⟩ := exec_ret rest
  rw [List.append_nil, List.append_nil]
  exact ⟨b, rfl, first⟩

end Exec

/-- A run consults its oracles in order. -/
theorem oracles_of_run {p : Proc Ω S V α} {ωs : List Ω} {s t : S} {steps : List (Ω × S)}
    {a : α} {l : List V} (ends : p.run ωs s = some (steps, a, l, t)) :
    steps.map Prod.fst <+: ωs := by
  induction p generalizing ωs s steps t a l with
  | ret b =>
    simp only [run, Option.some.injEq, Prod.mk.injEq] at ends
    rw [← ends.1]
    exact List.nil_prefix
  | act step next ih =>
    cases ωs with
    | nil => simp [run] at ends
    | cons ω ωs =>
      simp only [run, Option.map_eq_some_iff] at ends
      obtain ⟨⟨steps', b, m, u⟩, rest, same⟩ := ends
      simp only [Prod.mk.injEq] at same
      obtain ⟨rfl, -⟩ := same
      exact List.prefix_cons_inj ω |>.mpr (ih _ rest)

/-- A run that ends is an execution in which nothing else moves the store. -/
theorem exec_of_run {between : S → S → Prop} (still : ∀ s, between s s)
    {p : Proc Ω S V α} {ωs : List Ω} {s t : S} {steps : List (Ω × S)} {a : α} {l : List V}
    (ends : p.run ωs s = some (steps, a, l, t)) : p.Exec between s steps a l t := by
  induction p generalizing ωs s steps t a l with
  | ret b =>
    simp only [run, Option.some.injEq, Prod.mk.injEq] at ends
    obtain ⟨rfl, rfl, rfl, rfl⟩ := ends
    exact .ret
  | act step next ih =>
    cases ωs with
    | nil => simp [run] at ends
    | cons ω ωs =>
      simp only [run, Option.map_eq_some_iff] at ends
      obtain ⟨⟨steps', b, m, u⟩, rest, same⟩ := ends
      simp only [Prod.mk.injEq] at same
      obtain ⟨rfl, rfl, rfl, rfl⟩ := same
      exact .act (still s) (ih _ rest)

end Proc

/-! ### Contracts -/

/-- What the processes of one system may assume and what they owe. -/
structure Contract (Ω S V : Type) where
  /-- The oracles that are considered. -/
  oracle : Ω → Prop
  /-- Holds of every committed store. -/
  inv : S → Prop
  /-- Bounds what happens to the store between two steps of one process. -/
  rely : S → S → Prop
  /-- Each event of a step, at the store the step started from. -/
  event : S → V → Prop
  /-- One step's change of the store, given all events of its process so far. -/
  change : List V → S → S → Prop

/-- A contract whose guarantees are strong enough for its assumptions. -/
structure Contract.Sound {Ω S V : Type} (C : Contract Ω S V) : Prop where
  refl : ∀ s, C.rely s s
  trans : ∀ {s t u}, C.rely s t → C.rely t u → C.rely s u
  keeps : ∀ {h s t}, C.inv s → C.change h s t → C.inv t ∧ C.rely s t

namespace Proc

variable {Ω S V α β : Type} {C : Contract Ω S V}

/-- From the store `s`, after the events `h`, every step of the process meets the
contract and its result satisfies `post`, whatever the others do in between. -/
def Safe (C : Contract Ω S V) (post : α → List V → S → Prop) :
    Proc Ω S V α → List V → S → Prop
  | .ret a, h, s => post a h s
  | .act step next, h, s => ∀ s', C.rely s s' → C.inv s' → ∀ ω, C.oracle ω →
      (∀ v ∈ (step ω s').log, C.event s' v) ∧
      C.change (h ++ (step ω s').log) s' (step ω s').store ∧
      Safe C post (next (step ω s').result) (h ++ (step ω s').log) (step ω s').store

@[simp] theorem safe_ret {post : α → List V → S → Prop} {a : α} {h : List V} {s : S} :
    Safe C post (.ret a : Proc Ω S V α) h s ↔ post a h s := Iff.rfl

theorem Safe.mono {post post' : α → List V → S → Prop} {p : Proc Ω S V α} {h : List V}
    {s : S} (safe : p.Safe C post h s) (weaker : ∀ a h s, post a h s → post' a h s) :
    p.Safe C post' h s := by
  induction p generalizing h s with
  | ret a => exact weaker a h s safe
  | act step next ih =>
    intro s' moved holds ω considered
    obtain ⟨events, change, rest⟩ := safe s' moved holds ω considered
    exact ⟨events, change, ih _ rest⟩

/-- **The rule of sequence**: the rest of the process starts where the first part
ends. -/
theorem Safe.bind {mid : α → List V → S → Prop} {post : β → List V → S → Prop}
    {p : Proc Ω S V α} {rest : α → Proc Ω S V β} {h : List V} {s : S}
    (first : p.Safe C mid h s)
    (second : ∀ a h s, mid a h s → (rest a).Safe C post h s) :
    (p >>= rest).Safe C post h s := by
  induction p generalizing h s with
  | ret a => exact second a h s first
  | act step next ih =>
    intro s' moved holds ω considered
    obtain ⟨events, change, tail⟩ := first s' moved holds ω considered
    exact ⟨events, change, ih _ tail⟩

theorem Safe.map {post : β → List V → S → Prop} {p : Proc Ω S V α} {f : α → β} {h : List V}
    {s : S} (safe : p.Safe C (fun a => post (f a)) h s) : (f <$> p).Safe C post h s :=
  Safe.bind safe fun _ _ _ done => done

/-- **The rule of consequence**: a contract that assumes more and asks for less. -/
theorem Safe.weaken {C' : Contract Ω S V} {post : α → List V → S → Prop} {p : Proc Ω S V α}
    {h : List V} {s : S} (safe : p.Safe C post h s) (oracle : ∀ ω, C'.oracle ω → C.oracle ω)
    (inv : ∀ s, C'.inv s → C.inv s) (rely : ∀ s t, C'.rely s t → C.rely s t)
    (event : ∀ s v, C.event s v → C'.event s v)
    (change : ∀ h s t, C.change h s t → C'.change h s t) : p.Safe C' post h s := by
  induction p generalizing h s with
  | ret a => exact safe
  | act step next ih =>
    intro s' moved holds ω considered
    obtain ⟨events, changed, rest⟩ := safe s' (rely s s' moved) (inv s' holds) ω (oracle ω considered)
    exact ⟨fun v member => event s' v (events v member), change _ _ _ changed, ih _ rest⟩

/-- A process that is still to take a step meets from a store what it met from an
earlier one. -/
theorem Safe.later {γ : Type} {step : Ω → S → Outcome S V γ} {next : γ → Proc Ω S V α}
    {post : α → List V → S → Prop} {h : List V} {s t : S} (sound : C.Sound)
    (safe : (Proc.act step next).Safe C post h s) (moved : C.rely s t) :
    (Proc.act step next).Safe C post h t := by
  intro s' further holds ω considered
  exact safe s' (sound.trans moved further) holds ω considered

/-- A result may recall that its store is a later one. -/
theorem Safe.remember {post : α → List V → S → Prop} {p : Proc Ω S V α} {h : List V}
    {s₀ s : S} (sound : C.Sound) (safe : p.Safe C post h s) (prior : C.rely s₀ s) :
    p.Safe C (fun a h t => post a h t ∧ C.rely s₀ t) h s := by
  induction p generalizing h s with
  | ret a => exact ⟨safe, prior⟩
  | act step next ih =>
    intro s' moved holds ω considered
    obtain ⟨events, change, rest⟩ := safe s' moved holds ω considered
    have later := (sound.keeps holds change).2
    exact ⟨events, change, ih _ rest (sound.trans prior (sound.trans moved later))⟩

/-- **Executions.**  A safe process satisfies its postcondition when it returns, if
the others keep to the assumptions. -/
theorem Safe.exec {post : α → List V → S → Prop}
    (keeps : ∀ {h s t}, C.inv s → C.change h s t → C.inv t)
    {p : Proc Ω S V α} {h : List V} {s t : S} {steps : List (Ω × S)} {a : α} {l : List V}
    (safe : p.Safe C post h s) (considered : ∀ x ∈ steps, C.oracle x.1)
    (exec : p.Exec (fun s s' => C.inv s → C.rely s s' ∧ C.inv s') s steps a l t)
    (holds : C.inv s) : post a (h ++ l) t := by
  induction exec generalizing h with
  | ret => simpa using safe
  | act moved rest ih =>
    obtain ⟨rely, inv⟩ := moved holds
    obtain ⟨-, change, tail⟩ := safe _ rely inv _ (considered _ List.mem_cons_self)
    have done := ih tail (fun ω member => considered ω (List.mem_cons_of_mem _ member))
      (keeps inv change)
    simpa [List.append_assoc] using done

/-- What a process that has finished returned. -/
def result? : Proc Ω S V α → Option α
  | .ret a => some a
  | .act _ _ => none

theorem eq_ret_of_result? {p : Proc Ω S V α} {a : α} (finished : p.result? = some a) :
    p = .ret a := by
  cases p with
  | ret b => simpa [result?] using finished
  | act step next => cases finished

end Proc

/-! ### Interleaved processes -/

/-- A started process: what is left of it and the events it emitted so far. -/
structure Job (Ω S V ρ : Type) where
  code : Proc Ω S V ρ
  log : List V

/-- The committed store and the processes that share it. -/
structure System (Ω S V ρ : Type) where
  store : S
  jobs : List (Job Ω S V ρ)

/-- What an observer sees of one step: the earlier events of its process, the
store before, the events, the store after, what the process returned if the step was
its last, and whether a crash cut the step short. -/
structure Record (S V ρ : Type) where
  history : List V
  before : S
  log : List V
  after : S
  returned : Option ρ
  cut : Bool

namespace System

variable {Ω S V ρ : Type}

/-- One step of a system.  A process is started; it takes one atomic step; it
stops for good between two steps or inside one, whose transaction is then rolled
back after a prefix of its events; or something else moves the store. -/
inductive Step (programs : Set (Proc Ω S V ρ)) (outside : S → S → Prop) :
    System Ω S V ρ → Option (Record S V ρ) → System Ω S V ρ → Prop
  | start {s : S} {jobs : List (Job Ω S V ρ)} {p : Proc Ω S V ρ} (known : p ∈ programs) :
      Step programs outside ⟨s, jobs⟩ none ⟨s, jobs ++ [⟨p, []⟩]⟩
  | act {s : S} {before after : List (Job Ω S V ρ)} {β : Type}
      {step : Ω → S → Outcome S V β} {next : β → Proc Ω S V ρ} {h : List V} (ω : Ω) :
      Step programs outside ⟨s, before ++ ⟨.act step next, h⟩ :: after⟩
        (some ⟨h, s, (step ω s).log, (step ω s).store, (next (step ω s).result).result?,
          false⟩)
        ⟨(step ω s).store,
          before ++ ⟨next (step ω s).result, h ++ (step ω s).log⟩ :: after⟩
  | crash {s : S} {before after : List (Job Ω S V ρ)} {job : Job Ω S V ρ} :
      Step programs outside ⟨s, before ++ job :: after⟩ none ⟨s, before ++ after⟩
  | interrupt {s : S} {before after : List (Job Ω S V ρ)} {β : Type}
      {step : Ω → S → Outcome S V β} {next : β → Proc Ω S V ρ} {h log : List V} (ω : Ω)
      (started : log <+: (step ω s).log) :
      Step programs outside ⟨s, before ++ ⟨.act step next, h⟩ :: after⟩
        (some ⟨h, s, log, s, none, true⟩) ⟨s, before ++ after⟩
  | outside {s t : S} {jobs : List (Job Ω S V ρ)} (moved : outside s t) :
      Step programs outside ⟨s, jobs⟩ none ⟨t, jobs⟩

/-- Some step, whatever is seen of it. -/
def Moves (programs : Set (Proc Ω S V ρ)) (outside : S → S → Prop)
    (x y : System Ω S V ρ) : Prop :=
  ∃ record, Step programs outside x record y

/-- The systems that steps lead to from a store without running processes. -/
def Reachable (programs : Set (Proc Ω S V ρ)) (outside : S → S → Prop) (init : S → Prop)
    (x : System Ω S V ρ) : Prop :=
  ∃ s, init s ∧ Relation.ReflTransGen (Moves programs outside) ⟨s, []⟩ x

variable {C : Contract Ω S V} {post : ρ → List V → S → Prop}
  {programs : Set (Proc Ω S V ρ)} {outside : S → S → Prop} {init : S → Prop}

/-- A run of a process alone is a run of the system. -/
theorem moves_of_run {p : Proc Ω S V ρ} {ωs : List Ω} {s t : S} {steps : List (Ω × S)} {a : ρ}
    {h l : List V} (ends : p.run ωs s = some (steps, a, l, t)) :
    Relation.ReflTransGen (Moves programs outside) ⟨s, [⟨p, h⟩]⟩ ⟨t, [⟨.ret a, h ++ l⟩]⟩ := by
  induction p generalizing ωs s steps t a h l with
  | ret b =>
    simp only [Proc.run, Option.some.injEq, Prod.mk.injEq] at ends
    obtain ⟨-, rfl, rfl, rfl⟩ := ends
    rw [List.append_nil]
  | act step next ih =>
    cases ωs with
    | nil => simp [Proc.run] at ends
    | cons ω ωs =>
      simp only [Proc.run, Option.map_eq_some_iff] at ends
      obtain ⟨⟨steps', b, m, u⟩, rest, same⟩ := ends
      simp only [Prod.mk.injEq] at same
      obtain ⟨-, rfl, rfl, rfl⟩ := same
      rw [← List.append_assoc]
      have first : Step programs outside ⟨s, [⟨.act step next, h⟩]⟩
          (some ⟨h, s, (step ω s).log, (step ω s).store, (next (step ω s).result).result?, false⟩)
          ⟨(step ω s).store, [⟨next (step ω s).result, h ++ (step ω s).log⟩]⟩ :=
        @Step.act Ω S V ρ programs outside s [] [] _ step next h ω
      exact .head ⟨_, first⟩ (ih _ rest)

/-- A call that runs alone leads from its store to the one it leaves. -/
theorem moves_of_call {p : Proc Ω S V ρ} {ωs : List Ω} {s t : S} {steps : List (Ω × S)} {a : ρ}
    {l : List V} (known : p ∈ programs) (ends : p.run ωs s = some (steps, a, l, t)) :
    Relation.ReflTransGen (Moves programs outside) ⟨s, []⟩ ⟨t, []⟩ := by
  have gone : Step programs outside ⟨t, [⟨.ret a, [] ++ l⟩]⟩ none ⟨t, []⟩ :=
    @Step.crash Ω S V ρ programs outside t [] [] ⟨.ret a, [] ++ l⟩
  exact (Relation.ReflTransGen.head ⟨none, .start known⟩ (moves_of_run ends)).tail ⟨none, gone⟩

/-- The store meets the invariant.  Every process meets its contract from some
earlier store: the one its last step left, or the one it started from. -/
structure Good (C : Contract Ω S V) (post : ρ → List V → S → Prop)
    (x : System Ω S V ρ) : Prop where
  inv : C.inv x.store
  jobs : ∀ job ∈ x.jobs, ∃ s, C.rely s x.store ∧ job.code.Safe C post job.log s

/-- What a soundness argument needs of a system: its contract is sound for every
oracle, programs meet it and the outside keeps to the assumptions. -/
structure Governed (C : Contract Ω S V) (post : ρ → List V → S → Prop)
    (programs : Set (Proc Ω S V ρ)) (outside : S → S → Prop) (init : S → Prop) : Prop where
  sound : C.Sound
  oracle : ∀ ω, C.oracle ω
  safe : ∀ p ∈ programs, ∀ s, C.inv s → p.Safe C post [] s
  outside : ∀ {s t}, C.inv s → outside s t → C.inv t ∧ C.rely s t
  init : ∀ s, init s → C.inv s

/-- What the running process of a good system owes for its next step. -/
theorem Governed.step_safe (governed : Governed C post programs outside init)
    {s : S} {before after : List (Job Ω S V ρ)} {β : Type} {step : Ω → S → Outcome S V β}
    {next : β → Proc Ω S V ρ} {h : List V}
    (good : Good C post ⟨s, before ++ ⟨.act step next, h⟩ :: after⟩) (ω : Ω) :
    (∀ v ∈ (step ω s).log, C.event s v) ∧
      C.change (h ++ (step ω s).log) s (step ω s).store ∧
      (next (step ω s).result).Safe C post (h ++ (step ω s).log) (step ω s).store := by
  obtain ⟨_, earlier, safe⟩ := good.jobs _ (List.mem_append_right _ List.mem_cons_self)
  exact safe.later governed.sound earlier _ (governed.sound.refl _) good.inv ω
    (governed.oracle ω)

/-- What one step of a good system does to its store. -/
theorem Governed.step_rely (governed : Governed C post programs outside init)
    {x y : System Ω S V ρ} {record : Option (Record S V ρ)} (good : Good C post x)
    (step : Step programs outside x record y) :
    C.inv y.store ∧ C.rely x.store y.store := by
  cases step with
  | start known => exact ⟨good.inv, governed.sound.refl _⟩
  | crash => exact ⟨good.inv, governed.sound.refl _⟩
  | interrupt ω started => exact ⟨good.inv, governed.sound.refl _⟩
  | outside moved => exact governed.outside good.inv moved
  | act ω => exact governed.sound.keeps good.inv (governed.step_safe good ω).2.1

/-- **Step lemma.** Every step of a good system leaves a good system. -/
theorem Governed.step_good (governed : Governed C post programs outside init)
    {x y : System Ω S V ρ} {record : Option (Record S V ρ)} (good : Good C post x)
    (step : Step programs outside x record y) : Good C post y := by
  obtain ⟨inv, rely⟩ := governed.step_rely good step
  refine ⟨inv, ?_⟩
  have others : ∀ job ∈ x.jobs, ∃ s, C.rely s y.store ∧ job.code.Safe C post job.log s := by
    intro job member
    obtain ⟨s, earlier, safe⟩ := good.jobs job member
    exact ⟨s, governed.sound.trans earlier rely, safe⟩
  intro job member
  cases step with
  | @start _ _ p known =>
    rcases List.mem_append.mp member with old | new
    · exact others job old
    · rw [List.mem_singleton.mp new]
      exact ⟨_, governed.sound.refl _, governed.safe p known _ inv⟩
  | crash =>
    refine others job ?_
    rcases List.mem_append.mp member with left | right
    · exact List.mem_append_left _ left
    · exact List.mem_append_right _ (List.mem_cons_of_mem _ right)
  | interrupt ω started =>
    refine others job ?_
    rcases List.mem_append.mp member with left | right
    · exact List.mem_append_left _ left
    · exact List.mem_append_right _ (List.mem_cons_of_mem _ right)
  | outside moved => exact others job member
  | act ω =>
    rcases List.mem_append.mp member with left | right
    · exact others job (List.mem_append_left _ left)
    rcases List.mem_cons.mp right with rfl | right
    · exact ⟨_, governed.sound.refl _, (governed.step_safe good ω).2.2⟩
    · exact others job (List.mem_append_right _ (List.mem_cons_of_mem _ right))

/-- Every system a good one leads to is good, and its store is a later one. -/
theorem Governed.good_later (governed : Governed C post programs outside init)
    {x y : System Ω S V ρ} (good : Good C post x)
    (later : Relation.ReflTransGen (Moves programs outside) x y) :
    Good C post y ∧ C.rely x.store y.store := by
  induction later with
  | refl => exact ⟨good, governed.sound.refl _⟩
  | tail _ move ih =>
    obtain ⟨record, step⟩ := move
    exact ⟨governed.step_good ih.1 step,
      governed.sound.trans ih.2 (governed.step_rely ih.1 step).2⟩

/-- **Soundness.** In every reachable system the invariant holds and every process
meets its contract. -/
theorem Governed.good_of_reachable (governed : Governed C post programs outside init)
    {x : System Ω S V ρ} (reach : Reachable programs outside init x) : Good C post x := by
  obtain ⟨s, start, later⟩ := reach
  have first : Good C post (⟨s, []⟩ : System Ω S V ρ) :=
    ⟨governed.init s start, by simp⟩
  exact (governed.good_later first later).1

section Observed

variable {x y : System Ω S V ρ} {record : Record S V ρ}

/-- **Events.** Whatever a process emits, also in a step that a crash cuts short,
is an event its contract allows at the committed store. -/
theorem Governed.event_of_step (governed : Governed C post programs outside init)
    (reach : Reachable programs outside init x)
    (step : Step programs outside x (some record) y) :
    record.before = x.store ∧ ∀ v ∈ record.log, C.event x.store v := by
  have good := governed.good_of_reachable reach
  cases step with
  | act ω => exact ⟨rfl, (governed.step_safe good ω).1⟩
  | interrupt ω started =>
    exact ⟨rfl, fun v member => (governed.step_safe good ω).1 v (started.subset member)⟩

/-- **Changes.** A step that commits changes the store as its contract says, in
view of all events of its process; a step cut short changes nothing. -/
theorem Governed.change_of_step (governed : Governed C post programs outside init)
    (reach : Reachable programs outside init x)
    (step : Step programs outside x (some record) y) :
    record.after = y.store ∧
      (C.change (record.history ++ record.log) x.store y.store ∨ y.store = x.store) := by
  have good := governed.good_of_reachable reach
  cases step with
  | act ω => exact ⟨rfl, Or.inl (governed.step_safe good ω).2.1⟩
  | interrupt ω started => exact ⟨rfl, Or.inr rfl⟩

/-- **Crashes.** A step that is cut short leaves the store and returns nothing. -/
theorem crash_of_step (step : Step programs outside x (some record) y)
    (cut : record.cut = true) : y.store = x.store ∧ record.returned = none := by
  cases step with
  | act ω => cases cut
  | interrupt ω started => exact ⟨rfl, rfl⟩

/-- **Results.** What a process returns satisfies its postcondition in the store that
its last step leaves. -/
theorem Governed.result_of_step (governed : Governed C post programs outside init)
    (reach : Reachable programs outside init x)
    (step : Step programs outside x (some record) y) {a : ρ}
    (returned : record.returned = some a) :
    post a (record.history ++ record.log) y.store := by
  have good := governed.good_of_reachable reach
  cases step with
  | act ω =>
    have safe := (governed.step_safe good ω).2.2
    rw [Proc.eq_ret_of_result? returned] at safe
    exact safe
  | interrupt ω started => cases returned

end Observed

end System

end Hypershell.Foundation
