import Mathlib.Data.Fintype.Card
import Hypershell.Controller.KeyQueue
import Hypershell.Foundation.LoggedRuns

/-!
# Runs of a keyed controller

The workers of a keyed controller share one queue with everything that adds keys to it.
A run is any interleaving of their steps, over any number of sessions: a session ends
when its context is cancelled and all workers have returned, possibly out of an action,
and the next one goes on with the queue of the last.

## Main definitions

* `KeyedRun` — the queue, what each worker does, and an emitter that waits for room
* `KeyedRun.Step`, `KeyedRun.Steps` — one step and a run, with what happened in it
* `KeyedRun.Sound` — the keys that actions work on are those that workers hold

## Main results

* `Sound.step` — by cases over the steps
* `keyed_exclusion` — one action for a key at a time, and exact counters

## Design notes

* A worker that returns out of an action, because the context has ended or the error is terminal,
  leaves its key as it is.
* Times do not go back.
-/

namespace Hypershell

open Foundation

/-- What a worker does. -/
inductive KeyWorker
  | idle
  /-- It waits for the channel that it saw, and for a timer if there is one. -/
  | waiting (seen : Nat) (until? : Option Nat)
  | working (key : String)
  /-- It has returned, out of the action on a key or not. -/
  | gone (held : Option String)
  deriving DecidableEq

namespace KeyWorker

/-- The key that a worker took and did not finish. -/
def held? : KeyWorker → Option String
  | working key => some key
  | gone held => held
  | _ => none

def returned : KeyWorker → Bool
  | gone _ => true
  | _ => false

end KeyWorker

/-- What happens to a key. -/
inductive KeyedNotice (n : Nat)
  | accepted (key : String)
  | refused (key : String) (e : KeyError)
  | started (worker : Fin n) (key : String)
  | succeeded (worker : Fin n) (key : String)
  | deferred (worker : Fin n) (key : String) (recheck : Nat)
  | failed (worker : Fin n) (key : String)
  /-- A session has ended during the action. -/
  | interrupted (key : String)
  deriving DecidableEq

/-- How an action ended. -/
def KeyedNotice.outcome {n : Nat} (worker : Fin n) (key : String) (failed : Bool) (recheck : Nat) :
    KeyedNotice n :=
  if failed = true then .failed worker key
  else if 0 < recheck then .deferred worker key recheck
  else .succeeded worker key

/-- The queue and those who use it. -/
structure KeyedRun (n : Nat) where
  clock : Nat
  queue : KeyQueue
  workers : Fin n → KeyWorker
  /-- The emitter in `addWait` that found no room: its key, and the channel that it waits for. -/
  emitter : Option (String × Nat)
  cancelled : Bool

namespace KeyedRun

variable {n : Nat}

/-- The start of a controller. -/
def new (capacity now : Nat) : KeyedRun n :=
  ⟨now, .new capacity, fun _ => .idle, none, false⟩

/-- A worker may take its next turn. -/
def Awake (r : KeyedRun n) (now : Nat) : KeyWorker → Prop
  | .idle => True
  | .waiting seen until? => seen ≠ r.queue.changed ∨ ∃ d, until? = some d ∧ d ≤ now
  | _ => False

/-- An attempt of `AddWait` for a key: its emitter holds the admission, and if it waits it was
woken. -/
def Admits (r : KeyedRun n) (key : String) : Prop :=
  r.emitter = none ∨ ∃ seen, r.emitter = some (key, seen) ∧ seen ≠ r.queue.changed

/-- The worker after its turn, action or wait. -/
def become (r : KeyedRun n) (i : Fin n) (w : KeyWorker) : KeyedRun n :=
  { r with workers := Function.update r.workers i w }

/-- The keys that are cut off. -/
def interruptions (r : KeyedRun n) : List (KeyedNotice n) :=
  (r.queue.entries.keys.filter fun key => (r.queue.find? key).any KeyEntry.active).map .interrupted

/-- **One step**, at a time that is not before the last one. -/
inductive Step (limits : RetryLimits) :
    KeyedRun n → List (Nat × KeyedNotice n) → KeyedRun n → Prop
  /-- `KeySink.Add`. -/
  | accept {r : KeyedRun n} {now : Nat} {key : String} {q : KeyQueue} (later : r.clock ≤ now)
      (added : r.queue.add key now = .ok q) :
      Step limits r [(now, .accepted key)] { r with clock := now, queue := q }
  /-- An attempt of `AddWait` that finds room. -/
  | enter {r : KeyedRun n} {now : Nat} {key : String} {q : KeyQueue} (later : r.clock ≤ now)
      (turn : r.Admits key) (added : r.queue.add key now = .ok q) :
      Step limits r [(now, .accepted key)] { r with clock := now, queue := q, emitter := none }
  | refuse {r : KeyedRun n} {now : Nat} {key : String} {e : KeyError} (later : r.clock ≤ now)
      (added : r.queue.add key now = .error e) :
      Step limits r [(now, .refused key e)] { r with clock := now }
  /-- An attempt of `AddWait` that finds no room. -/
  | full {r : KeyedRun n} {now : Nat} {key : String} (later : r.clock ≤ now) (turn : r.Admits key)
      (added : r.queue.add key now = .error .overflow) :
      Step limits r [] { r with clock := now, emitter := some (key, r.queue.changed) }
  /-- The context of the emitter ends. -/
  | withdraw {r : KeyedRun n} {now : Nat} (later : r.clock ≤ now) :
      Step limits r [] { r with clock := now, emitter := none }
  | ready {r : KeyedRun n} {now : Nat} (later : r.clock ≤ now) (ready : Bool) :
      Step limits r [] { r with clock := now, queue := r.queue.setReady ready }
  | take {r : KeyedRun n} {now : Nat} {i : Fin n} {e : KeyEntry} {q : KeyQueue}
      (later : r.clock ≤ now) (awake : r.Awake now (r.workers i))
      (turn : r.queue.takeTurn now = .took e q) :
      Step limits r [(now, .started i e.key)]
        ({ r with clock := now, queue := q }.become i (.working e.key))
  | wait {r : KeyedRun n} {now : Nat} {i : Fin n} {until? : Option Nat}
      (later : r.clock ≤ now) (awake : r.Awake now (r.workers i))
      (turn : r.queue.takeTurn now = .waits until?) :
      Step limits r [] ({ r with clock := now }.become i (.waiting r.queue.changed until?))
  | finish {r : KeyedRun n} {now : Nat} {i : Fin n} {key : String} {failed : Bool} {recheck : Nat}
      {q : KeyQueue} (later : r.clock ≤ now) (working : r.workers i = .working key)
      (finished : r.queue.finishResult limits key failed recheck now = some q) :
      Step limits r [(now, .outcome i key failed recheck)]
        ({ r with clock := now, queue := q }.become i .idle)
  /-- The context ends. -/
  | cancel {r : KeyedRun n} {now : Nat} (later : r.clock ≤ now) :
      Step limits r [] { r with clock := now, cancelled := true }
  /-- A worker returns: the context has ended, or its action's error is terminal and ends it. -/
  | leave {r : KeyedRun n} {now : Nat} {i : Fin n} (later : r.clock ≤ now)
      (here : (r.workers i).returned = false)
      (ended : r.cancelled = true ∨ (r.workers i).held?.isSome = true) :
      Step limits r []
        ({ r with clock := now, cancelled := true }.become i (.gone (r.workers i).held?))
  /-- All have returned, and the next session begins. -/
  | restart {r : KeyedRun n} {now : Nat} (later : r.clock ≤ now) (ended : r.cancelled = true)
      (returned : ∀ i, (r.workers i).returned = true) :
      Step limits r (r.interruptions.map fun notice => (now, notice))
        ⟨now, r.queue.restart limits now, fun _ => .idle, none, false⟩

/-- **A run**, and what happened in it. -/
abbrev Steps (limits : RetryLimits) : KeyedRun n → List (Nat × KeyedNotice n) → KeyedRun n → Prop :=
  Logged.Run (Step limits)

/-! ### One action for a key -/

/-- **The keys that actions work on are those that workers hold**, each one alone. -/
structure Sound (r : KeyedRun n) : Prop where
  queue : r.queue.Sound
  held : ∀ key, (∃ e, r.queue.find? key = some e ∧ e.active = true) ↔
    ∃ i, (r.workers i).held? = some key
  alone : ∀ {i j key}, (r.workers i).held? = some key → (r.workers j).held? = some key → i = j

section

variable {limits : RetryLimits} {r r' : KeyedRun n} {log news : List (Nat × KeyedNotice n)}
  {i j : Fin n} {key : String} {now : Nat}

theorem become_self (w : KeyWorker) : (r.become i w).workers i = w := Function.update_self ..

theorem become_other (w : KeyWorker) (other : j ≠ i) : (r.become i w).workers j = r.workers j :=
  Function.update_of_ne other ..

theorem sound_new (capacity now : Nat) : (new capacity now : KeyedRun n).Sound where
  queue := KeyQueue.sound_new capacity
  held key := by
    constructor
    · rintro ⟨e, found, -⟩
      cases found
    · rintro ⟨i, held⟩
      cases held
  alone held := by cases held

/-- A queue in which the same actions work. -/
theorem Sound.same (sound : r.Sound) {q : KeyQueue} (queue : q.Sound)
    (active : ∀ key, (∃ e, q.find? key = some e ∧ e.active = true) ↔
      ∃ e, r.queue.find? key = some e ∧ e.active = true)
    {workers : Fin n → KeyWorker} (held : ∀ i, (workers i).held? = (r.workers i).held?)
    {clock : Nat} {emitter : Option (String × Nat)} {cancelled : Bool} :
    (⟨clock, q, workers, emitter, cancelled⟩ : KeyedRun n).Sound where
  queue := queue
  held key := by
    rw [active, sound.held]
    simp only [held]
  alone {i j key} first second := by
    simp only [held] at first second
    exact sound.alone first second

/-- The actions after a key is added. -/
theorem active_addLocked {q q' : KeyQueue} (sound : q.Sound) (added : q.addLocked key now = .ok q')
    (k : String) : (∃ e, q'.find? k = some e ∧ e.active = true) ↔
      ∃ e, q.find? k = some e ∧ e.active = true := by
  obtain ⟨e, found, rfl⟩ | ⟨missing, -, rfl⟩ := KeyQueue.addLocked_cases added
  · have name : e.key = key := sound.named found
    subst name
    rw [KeyQueue.find?_store]
    split_ifs with same
    · rw [show k = e.key from same, found]
      constructor
      · rintro ⟨x, eq, active⟩
        cases eq
        exact ⟨e, rfl, active⟩
      · rintro ⟨x, eq, active⟩
        cases eq
        exact ⟨_, rfl, active⟩
    · exact Iff.rfl
  · rw [KeyQueue.find?_push]
    split_ifs with same
    · rw [show k = key from same, missing]
      constructor
      · rintro ⟨x, eq, active⟩
        cases eq
        cases active
      · rintro ⟨x, eq, -⟩
        cases eq
    · exact Iff.rfl

theorem add_ok {q q' : KeyQueue} (added : q.add key now = .ok q') : q.addLocked key now = .ok q' := by
  unfold KeyQueue.add at added
  split_ifs at added
  exact added

/-- The actions after one has ended. -/
theorem active_finishResult {q q' : KeyQueue} (sound : q.Sound) {failed : Bool} {recheck : Nat}
    (finished : q.finishResult limits key failed recheck now = some q') (k : String) :
    (∃ e, q'.find? k = some e ∧ e.active = true) ↔
      k ≠ key ∧ ∃ e, q.find? k = some e ∧ e.active = true := by
  obtain ⟨e, found, -, shape⟩ := KeyQueue.finishResult_cases finished
  have name : e.key = key := sound.named found
  subst name
  obtain ⟨-, rfl⟩ | ⟨-, -, rfl⟩ | ⟨-, -, -, rfl⟩ := shape
  · rw [KeyQueue.find?_push]
    split_ifs with same
    · constructor
      · rintro ⟨x, eq, active⟩
        cases eq
        cases active
      · exact fun both => absurd same both.1
    · exact (and_iff_right same).symm
  · rw [KeyQueue.find?_push]
    split_ifs with same
    · constructor
      · rintro ⟨x, eq, active⟩
        cases eq
        cases active
      · exact fun both => absurd same both.1
    · exact (and_iff_right same).symm
  · rw [KeyQueue.find?_notify, KeyQueue.find?_erase]
    split_ifs with same
    · constructor
      · rintro ⟨x, eq, -⟩
        cases eq
      · exact fun both => absurd same both.1
    · exact (and_iff_right same).symm

/-- A worker that may take a turn holds no key. -/
theorem held?_of_awake {w : KeyWorker} (awake : r.Awake now w) : w.held? = none := by
  cases w with
  | idle => rfl
  | waiting seen until? => rfl
  | working key => cases awake
  | gone held => cases awake

/-- **Every step keeps one action for a key.** -/
theorem Sound.step (sound : r.Sound) (valid : limits.Valid) (step : Step limits r news r') :
    r'.Sound := by
  cases step with
  | accept later added =>
    exact sound.same (sound.queue.addLocked (add_ok added))
      (active_addLocked sound.queue (add_ok added)) fun _ => rfl
  | enter later turn added =>
    exact sound.same (sound.queue.addLocked (add_ok added))
      (active_addLocked sound.queue (add_ok added)) fun _ => rfl
  | refuse later added => exact sound.same sound.queue (fun _ => Iff.rfl) fun _ => rfl
  | full later turn added => exact sound.same sound.queue (fun _ => Iff.rfl) fun _ => rfl
  | withdraw later => exact sound.same sound.queue (fun _ => Iff.rfl) fun _ => rfl
  | ready later ready =>
    refine sound.same (sound.queue.setReady ready) (fun k => ?_) fun _ => rfl
    rw [KeyQueue.find?_setReady]
  | @take now i e q later awake turn =>
    obtain ⟨-, first, -, rfl⟩ := KeyQueue.takeTurn_took turn
    obtain ⟨found, idle, -⟩ := KeyQueue.first?_spec sound.queue first
    have unheld : ∀ j, (r.workers j).held? ≠ some e.key := by
      intro j held
      obtain ⟨x, found', active⟩ := (sound.held e.key).mpr ⟨j, held⟩
      rw [found] at found'
      cases found'
      rw [idle] at active
      cases active
    refine ⟨sound.queue.pop first, fun k => ?_, fun {j j' k} held held' => ?_⟩
    · show (∃ x, (r.queue.pop e).find? k = some x ∧ x.active = true) ↔ _
      rw [KeyQueue.find?_pop]
      split_ifs with same
      · exact ⟨fun _ => ⟨i, by rw [become_self, same]; rfl⟩, fun _ => ⟨_, rfl, rfl⟩⟩
      · rw [sound.held]
        constructor
        · rintro ⟨j, held⟩
          refine ⟨j, ?_⟩
          have other : j ≠ i := by
            rintro rfl
            rw [held?_of_awake awake] at held
            cases held
          rw [become_other _ other]
          exact held
        · rintro ⟨j, held⟩
          by_cases here : j = i
          · rw [here, become_self] at held
            exact absurd (Option.some.inj held).symm same
          · rw [become_other _ here] at held
            exact ⟨j, held⟩
    · by_cases here : j = i <;> by_cases here' : j' = i
      · rw [here, here']
      · rw [here, become_self] at held
        rw [become_other _ here'] at held'
        rw [← held] at held'
        exact absurd held' (unheld j')
      · rw [here', become_self] at held'
        rw [become_other _ here] at held
        rw [← held'] at held
        exact absurd held (unheld j)
      · rw [become_other _ here] at held
        rw [become_other _ here'] at held'
        exact sound.alone held held'
  | @wait now i until? later awake turn =>
    refine sound.same sound.queue (fun _ => Iff.rfl) fun j => ?_
    by_cases here : j = i
    · rw [here, Function.update_self, held?_of_awake awake]
      rfl
    · rw [Function.update_of_ne here]
  | @finish now i key failed recheck q later working finished =>
    have mine : (r.workers i).held? = some key := by rw [working]; rfl
    refine ⟨sound.queue.finishResult valid finished, fun k => ?_, fun {j j' k} held held' => ?_⟩
    · show (∃ x, q.find? k = some x ∧ x.active = true) ↔ _
      rw [active_finishResult sound.queue finished, sound.held]
      constructor
      · rintro ⟨other, j, held⟩
        refine ⟨j, ?_⟩
        have apart : j ≠ i := by
          rintro rfl
          rw [mine] at held
          exact other (Option.some.inj held).symm
        rw [become_other _ apart]
        exact held
      · rintro ⟨j, held⟩
        by_cases here : j = i
        · rw [here, become_self] at held
          cases held
        · rw [become_other _ here] at held
          refine ⟨fun same => here (sound.alone held ?_), j, held⟩
          rw [mine, same]
    · by_cases here : j = i
      · rw [here, become_self] at held
        cases held
      · by_cases here' : j' = i
        · rw [here', become_self] at held'
          cases held'
        · rw [become_other _ here] at held
          rw [become_other _ here'] at held'
          exact sound.alone held held'
  | cancel later => exact sound.same sound.queue (fun _ => Iff.rfl) fun _ => rfl
  | @leave now i later here ended =>
    refine sound.same sound.queue (fun _ => Iff.rfl) fun j => ?_
    by_cases here : j = i
    · rw [here, Function.update_self]
      rfl
    · rw [Function.update_of_ne here]
  | @restart now later ended returned =>
    obtain ⟨queue, -, -, finds⟩ := @KeyQueue.restart_spec _ now _ sound.queue valid
    refine ⟨queue, fun k => ?_, fun held => by cases held⟩
    show (∃ x, (r.queue.restart limits now).find? k = some x ∧ x.active = true) ↔ _
    rw [finds]
    constructor
    · rintro ⟨x, found, active⟩
      obtain ⟨e, -, rfl⟩ := Option.map_eq_some_iff.mp found
      rw [KeyQueue.resumed_active] at active
      cases active
    · rintro ⟨j, held⟩
      cases held

/-- **Every run.** -/
theorem Sound.steps (sound : r.Sound) (valid : limits.Valid) (steps : Steps limits r log r') :
    r'.Sound :=
  Logged.Run.invariant (fun sound step => sound.step valid step) sound steps

/-! ### The counters -/

/-- The keys that actions work on. -/
def activeKeys (q : KeyQueue) : List String :=
  q.entries.keys.filter fun key => (q.find? key).any KeyEntry.active

theorem mem_activeKeys {q : KeyQueue} :
    key ∈ activeKeys q ↔ ∃ e, q.find? key = some e ∧ e.active = true := by
  rw [activeKeys, List.mem_filter, Option.any_eq_true]
  constructor
  · exact And.right
  · intro found
    refine ⟨?_, found⟩
    obtain ⟨e, stored, -⟩ := found
    rw [← AList.mem_keys, ← AList.lookup_isSome]
    exact Option.isSome_iff_exists.mpr ⟨e, stored⟩

theorem nodup_activeKeys (q : KeyQueue) : (activeKeys q).Nodup := q.entries.keys_nodup.filter _

/-- The entries are those of the heap and those that actions work on. -/
theorem length_activeKeys (sound : r.queue.Sound) :
    r.queue.pending.length + (activeKeys r.queue).length = size r.queue.entries := by
  have perm : (r.queue.pending ++ activeKeys r.queue).Perm r.queue.entries.keys := by
    refine (List.perm_ext_iff_of_nodup ?_ r.queue.entries.keys_nodup).mpr fun k => ?_
    · refine List.nodup_append.mpr ⟨sound.once, nodup_activeKeys _, fun k idle k' active same => ?_⟩
      rw [same] at idle
      obtain ⟨e, found, active⟩ := mem_activeKeys.mp active
      rw [sound.idle_of_pending idle found] at active
      cases active
    · rw [List.mem_append, sound.heap, mem_activeKeys, ← AList.mem_keys, ← AList.lookup_isSome,
        Option.isSome_iff_exists]
      constructor
      · rintro (⟨e, found, -⟩ | ⟨e, found, -⟩) <;> exact ⟨e, found⟩
      · rintro ⟨e, found⟩
        cases active : e.active with
        | false => exact .inl ⟨e, found, active⟩
        | true => exact .inr ⟨e, found, active⟩
  have lengths := perm.length_eq
  rw [List.length_append] at lengths
  rw [lengths]
  exact List.length_map Sigma.fst

/-- As many actions as workers that hold a key. -/
theorem Sound.card_holders (sound : r.Sound) : (activeKeys r.queue).length =
    (Finset.univ.filter fun i => (r.workers i).held?.isSome = true).card := by
  rw [← List.toFinset_card_of_nodup (nodup_activeKeys r.queue)]
  refine (Finset.card_bij (fun i _ => ((r.workers i).held?).getD "") ?_ ?_ ?_).symm
  · intro i member
    obtain ⟨key, held⟩ := Option.isSome_iff_exists.mp (Finset.mem_filter.mp member).2
    rw [held, List.mem_toFinset, mem_activeKeys]
    exact (sound.held key).mpr ⟨i, held⟩
  · intro i member j member' same
    obtain ⟨key, held⟩ := Option.isSome_iff_exists.mp (Finset.mem_filter.mp member).2
    obtain ⟨key', held'⟩ := Option.isSome_iff_exists.mp (Finset.mem_filter.mp member').2
    rw [held, held'] at same
    refine sound.alone held ?_
    rw [held']
    exact congrArg some same.symm
  · intro key member
    obtain ⟨i, held⟩ := (sound.held key).mp (mem_activeKeys.mp (List.mem_toFinset.mp member))
    refine ⟨i, Finset.mem_filter.mpr ⟨Finset.mem_univ i, by rw [held]; rfl⟩, ?_⟩
    rw [held]
    rfl

/-- The capacity stays. -/
theorem capacity_step (sound : r.Sound) (valid : limits.Valid) (step : Step limits r news r') :
    r'.queue.capacity = r.queue.capacity := by
  cases step with
  | accept later added =>
    obtain ⟨e, -, rfl⟩ | ⟨-, -, rfl⟩ := KeyQueue.addLocked_cases (add_ok added) <;> rfl
  | enter later turn added =>
    obtain ⟨e, -, rfl⟩ | ⟨-, -, rfl⟩ := KeyQueue.addLocked_cases (add_ok added) <;> rfl
  | ready later ready =>
    show (r.queue.setReady ready).capacity = _
    unfold KeyQueue.setReady
    split_ifs <;> rfl
  | take later awake turn =>
    obtain ⟨-, -, -, rfl⟩ := KeyQueue.takeTurn_took turn
    rfl
  | finish later working finished =>
    obtain ⟨e, -, -, ⟨-, rfl⟩ | ⟨-, -, rfl⟩ | ⟨-, -, -, rfl⟩⟩ :=
      KeyQueue.finishResult_cases finished <;> rfl
  | @restart now later ended returned =>
    exact (@KeyQueue.restart_spec _ now _ sound.queue valid).2.2.1
  | _ => rfl

theorem capacity_steps (sound : r.Sound) (valid : limits.Valid) (steps : Steps limits r log r') :
    r'.queue.capacity = r.queue.capacity := by
  have both : r'.Sound ∧ r'.queue.capacity = r.queue.capacity := by
    refine Logged.Run.invariant (P := fun x => x.Sound ∧ x.queue.capacity = r.queue.capacity) ?_
      ⟨sound, rfl⟩ steps
    rintro s news t ⟨sound, same⟩ step
    exact ⟨sound.step valid step, (capacity_step sound valid step).trans same⟩
  exact both.2

/-- **One action for a key, and exact counters**, in every run over any number of sessions: two
workers never hold one key; the entries are within the capacity; the counter of the actions is the
number of workers that hold a key, and that of the failures the number of entries that wait after
one; and the end of an action never finds its entry inactive. -/
theorem keyed_exclusion {capacity start : Nat} (valid : limits.Valid)
    (steps : Steps limits (new capacity start) log r) :
    (∀ i j key, (r.workers i).held? = some key → (r.workers j).held? = some key → i = j) ∧
    size r.queue.entries ≤ capacity ∧
    r.queue.metrics = (r.queue.pending.length,
      ((Finset.univ.filter fun i => (r.workers i).held?.isSome = true).card : Int),
      (tally KeyEntry.retries r.queue.entries : Int)) ∧
    ∀ i key failed recheck now, r.workers i = .working key →
      (r.queue.finishResult limits key failed recheck now).isSome = true := by
  have sound := (sound_new capacity start).steps valid steps
  have bound := sound.queue.bound
  rw [capacity_steps (sound_new capacity start) valid steps] at bound
  refine ⟨fun i j key => sound.alone, bound, ?_, ?_⟩
  · have lengths := length_activeKeys sound.queue
    have actions : (size r.queue.entries : Int) - r.queue.pending.length =
        (Finset.univ.filter fun i => (r.workers i).held?.isSome = true).card := by
      rw [← sound.card_holders]
      omega
    rw [KeyQueue.metrics, actions, sound.queue.retries]
  · intro i key failed recheck now working
    obtain ⟨e, found, active⟩ := (sound.held key).mpr ⟨i, by rw [working]; rfl⟩
    exact KeyQueue.finishResult_isSome found active

/-- A queue for two keys that is ready and holds one. -/
def oneQueued : KeyQueue := ((KeyQueue.new 2).setReady true).push ⟨"a", 0, 0, true, false, 0⟩

/-- A worker that works on it. -/
def oneStarted : KeyedRun 1 :=
  ⟨0, oneQueued.pop ⟨"a", 0, 1, true, false, 0⟩, fun _ => .working "a", none, false⟩

theorem limits_valid : (⟨1, 4⟩ : RetryLimits).Valid := ⟨by decide, by decide⟩

theorem steps_oneQueued : Steps ⟨1, 4⟩ (new 2 0) [(0, .accepted "a")]
    (⟨0, oneQueued, fun _ => .idle, none, false⟩ : KeyedRun 1) := by
  have first : Steps ⟨1, 4⟩ (new 2 0 : KeyedRun 1) [] _ := .single (.ready le_rfl true)
  exact first.tail (.accept le_rfl rfl)

theorem steps_oneStarted : Steps ⟨1, 4⟩ (new 2 0) [(0, .accepted "a"), (0, .started 0 "a")]
    oneStarted := by
  have turn : oneQueued.takeTurn 0 = .took ⟨"a", 0, 1, true, false, 0⟩
      (oneQueued.pop ⟨"a", 0, 1, true, false, 0⟩) := rfl
  have last := steps_oneQueued.tail (.take (i := 0) le_rfl trivial turn)
  have same : (fun _ => .working "a" : Fin 1 → KeyWorker) =
      Function.update (fun _ => .idle) 0 (.working "a") := by
    funext i
    rw [Subsingleton.elim i 0, Function.update_self]
  rw [oneStarted, same]
  exact last

theorem keyed_exclusion_started : size oneStarted.queue.entries ≤ 2 ∧
    (oneStarted.queue.finishResult ⟨1, 4⟩ "a" true 0 5).isSome = true :=
  ⟨(keyed_exclusion limits_valid steps_oneStarted).2.1,
    (keyed_exclusion limits_valid steps_oneStarted).2.2.2 0 "a" true 0 5 rfl⟩

end

end KeyedRun

end Hypershell
