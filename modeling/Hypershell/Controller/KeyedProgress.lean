import Hypershell.Controller.KeyedRuns

/-!
# What a keyed controller owes a key

A key that was added is worked on.  It may be added while an action works on it, the
action may fail, the session may end in between, and other keys compete for the workers.

## Main definitions

* `Owed`, `Served` — a key that is still to be worked on, and one that was
* `failures` — how often a key failed in a row
* `ahead` — the entries that are taken before one

## Main results

* `keyed_kept` — a key that was added is owed until an action that began later succeeds
* `keyed_delayed` — nothing but time ends the delay after a failure
* `keyed_fair` — a key that is due is one of the next to be taken
* `keyed_awake` — nobody sleeps while there is something to do
-/

namespace Hypershell.KeyedRun

open Foundation KeyQueue

variable {n : Nat} {limits : RetryLimits} {r r' : KeyedRun n}
  {log news before after : List (Nat × KeyedNotice n)} {i : Fin n} {key : String} {now : Nat}

/-! ### A key stays -/

/-- What is said about a worker. -/
def worker? : KeyedNotice n → Option (Fin n)
  | .started i _ => some i
  | .succeeded i _ => some i
  | .deferred i _ _ => some i
  | .failed i _ => some i
  | _ => none

/-- A worker works on a key since it started within a log, and holds it. -/
def Since (after : List (Nat × KeyedNotice n)) (r : KeyedRun n) (key : String) : Prop :=
  ∃ i front t back, after = front ++ (t, .started i key) :: back ∧
    (∀ x ∈ back, worker? x.2 ≠ some i) ∧ (r.workers i).held? = some key

/-- **A key is owed**: it waits in the queue, or it will when the action ends that works on it, or
that action started within the log. -/
def Owed (after : List (Nat × KeyedNotice n)) (r : KeyedRun n) (key : String) : Prop :=
  ∃ e, r.queue.find? key = some e ∧ (e.active = false ∨ e.dirty = true ∨ Since after r key)

/-- **A key was served**: within the log a worker started on it, and succeeded before anything
else is said about that worker. -/
def Served (after : List (Nat × KeyedNotice n)) (key : String) : Prop :=
  ∃ i front t middle t' back, (∀ x ∈ middle, worker? x.2 ≠ some i) ∧
    after = front ++ (t, .started i key) :: (middle ++ (t', .succeeded i key) :: back)

theorem Served.append (served : Served after key) (news : List (Nat × KeyedNotice n)) :
    Served (after ++ news) key := by
  obtain ⟨i, front, t, middle, t', back, quiet, rfl⟩ := served
  exact ⟨i, front, t, middle, t', back ++ news, quiet, by simp⟩

/-- An action goes on if nothing is said about its worker. -/
theorem Since.append (since : Since after r key) (quiet : ∀ x ∈ news, ∀ i, worker? x.2 = some i →
      (r.workers i).held? ≠ some key)
    (holds : ∀ i, (r.workers i).held? = some key → (r'.workers i).held? = some key) :
    Since (after ++ news) r' key := by
  obtain ⟨i, front, t, back, rfl, silent, held⟩ := since
  refine ⟨i, front, t, back ++ news, by simp, fun x member => ?_, holds i held⟩
  rcases List.mem_append.mp member with old | new
  · exact silent x old
  · exact fun about => quiet x new i about held

/-- An entry that is not changed is owed as before. -/
theorem Owed.keep {e : KeyEntry} (found' : r'.queue.find? key = some e)
    (cause : e.active = false ∨ e.dirty = true ∨ Since after r key)
    (quiet : ∀ x ∈ news, ∀ i, worker? x.2 = some i → (r.workers i).held? ≠ some key)
    (holds : ∀ i, (r.workers i).held? = some key → (r'.workers i).held? = some key) :
    Owed (after ++ news) r' key := by
  refine ⟨e, found', ?_⟩
  rcases cause with idle | dirty | since
  · exact .inl idle
  · exact .inr (.inl dirty)
  · exact .inr (.inr (since.append quiet holds))

/-- A key is added, this one or another. -/
theorem Owed.added {q : KeyQueue} {key' : String} (sound : r.Sound) (owed : Owed after r key)
    (added : r.queue.add key' now = .ok q) {emitter : Option (String × Nat)} :
    Owed (after ++ [(now, .accepted key')])
      { r with clock := now, queue := q, emitter := emitter } key := by
  obtain ⟨e, found, cause⟩ := owed
  have quiet : ∀ x ∈ [(now, (.accepted key' : KeyedNotice n))], ∀ i, worker? x.2 = some i →
      (r.workers i).held? ≠ some key := by
    intro x member i about
    rw [List.mem_singleton.mp member] at about
    cases about
  obtain ⟨e', found', rfl⟩ | ⟨missing, -, rfl⟩ := addLocked_cases (add_ok added)
  · by_cases same : key = key'
    · subst same
      refine ⟨{ e' with dirty := true }, ?_, .inr (.inl rfl)⟩
      show (r.queue.store { e' with dirty := true }).find? key = _
      rw [find?_store, if_pos (sound.queue.named found').symm]
    · refine Owed.keep (e := e) ?_ cause quiet fun _ held => held
      show (r.queue.store { e' with dirty := true }).find? key = _
      rw [find?_store_other, found]
      show key ≠ e'.key
      rw [sound.queue.named found']
      exact same
  · have other : key ≠ key' := by
      rintro rfl
      rw [missing] at found
      cases found
    refine Owed.keep (e := e) ?_ cause quiet fun _ held => held
    show (r.queue.push ⟨key', now, 0, true, false, 0⟩).find? key = _
    rw [find?_push, if_neg other, found]

/-- **One step keeps a key or serves it.** -/
theorem Owed.step (sound : r.Sound) (valid : limits.Valid) (owed : Owed after r key)
    (step : Step limits r news r') : Owed (after ++ news) r' key ∨ Served (after ++ news) key := by
  have silent : ∀ x ∈ ([] : List (Nat × KeyedNotice n)), ∀ i, worker? x.2 = some i →
      (r.workers i).held? ≠ some key := by
    intro x never
    cases never
  cases step with
  | accept later added => exact .inl (owed.added sound added)
  | enter later turn added => exact .inl (owed.added sound added)
  | refuse later added =>
    obtain ⟨e, found, cause⟩ := owed
    refine .inl (.keep found cause (fun x member i about => ?_) fun _ held => held)
    rw [List.mem_singleton.mp member] at about
    cases about
  | full later turn added =>
    obtain ⟨e, found, cause⟩ := owed
    exact .inl (.keep found cause silent fun _ held => held)
  | withdraw later =>
    obtain ⟨e, found, cause⟩ := owed
    exact .inl (.keep found cause silent fun _ held => held)
  | ready later ready =>
    obtain ⟨e, found, cause⟩ := owed
    refine .inl (.keep (e := e) ?_ cause silent fun _ held => held)
    show (r.queue.setReady ready).find? key = _
    rw [find?_setReady, found]
  | @take now i e' q later awake turn =>
    obtain ⟨-, first, -, rfl⟩ := takeTurn_took turn
    left
    by_cases same : key = e'.key
    · subst same
      refine ⟨{ e' with active := true, dirty := false }, ?_, .inr (.inr ⟨i, after, now, [], rfl, ?_, ?_⟩)⟩
      · exact find?_store_self
      · intro x never
        cases never
      · rw [become_self]
        rfl
    · obtain ⟨e, found, cause⟩ := owed
      refine .keep (e := e) ?_ cause (fun x member j about => ?_) fun j held => ?_
      · show (r.queue.pop e').find? key = _
        rw [find?_pop, if_neg same, found]
      · rw [List.mem_singleton.mp member] at about
        cases about
        rw [held?_of_awake awake]
        intro never
        cases never
      · have other : j ≠ i := by
          rintro rfl
          rw [held?_of_awake awake] at held
          cases held
        rw [become_other _ other]
        exact held
  | @wait now i until? later awake turn =>
    obtain ⟨e, found, cause⟩ := owed
    refine .inl (.keep found cause silent fun j held => ?_)
    have other : j ≠ i := by
      rintro rfl
      rw [held?_of_awake awake] at held
      cases held
    rw [become_other _ other]
    exact held
  | @finish now i key' failed recheck q later working finished =>
    have mine : (r.workers i).held? = some key' := by rw [working]; rfl
    obtain ⟨e, found, cause⟩ := owed
    obtain ⟨e', found', active, shape⟩ := finishResult_cases finished
    by_cases same : key = key'
    · subst same
      have name : e'.key = key := sound.queue.named found'
      subst name
      obtain ⟨-, rfl⟩ | ⟨-, -, rfl⟩ | ⟨succeeds, done, clean, rfl⟩ := shape
      · exact .inl ⟨_, find?_store_self, .inl rfl⟩
      · exact .inl ⟨_, find?_store_self, .inl rfl⟩
      · right
        rw [found] at found'
        cases found'
        rcases cause with idle | dirty | ⟨j, front, t, back, rfl, quiet, held⟩
        · rw [active] at idle
          cases idle
        · rw [clean] at dirty
          cases dirty
        · have here : j = i := sound.alone held mine
          subst here
          refine ⟨j, front, t, back, now, [], quiet, ?_⟩
          subst succeeds done
          simp [KeyedNotice.outcome]
    · left
      refine .keep (e := e) ?_ cause (fun x member j about => ?_) fun j held => ?_
      · have name : e'.key = key' := sound.queue.named found'
        obtain ⟨-, rfl⟩ | ⟨-, -, rfl⟩ | ⟨-, -, -, rfl⟩ := shape
        · show (KeyQueue.push _ _).find? key = _
          rw [find?_push, if_neg (by rw [name]; exact same)]
          exact found
        · show (KeyQueue.push _ _).find? key = _
          rw [find?_push, if_neg (by rw [name]; exact same)]
          exact found
        · show (KeyQueue.notify _).find? key = _
          rw [find?_notify, find?_erase, if_neg same, found]
      · rw [List.mem_singleton.mp member] at about
        have here : j = i := by
          unfold KeyedNotice.outcome at about
          split_ifs at about <;> exact (Option.some.inj about).symm
        rw [here, mine]
        exact fun eq => same (Option.some.inj eq).symm
      · have other : j ≠ i := by
          rintro rfl
          rw [mine] at held
          exact same (Option.some.inj held).symm
        rw [become_other _ other]
        exact held
  | cancel later =>
    obtain ⟨e, found, cause⟩ := owed
    exact .inl (.keep found cause silent fun _ held => held)
  | @leave now i later here ended =>
    obtain ⟨e, found, cause⟩ := owed
    refine .inl (.keep found cause silent fun j held => ?_)
    by_cases mine : j = i
    · rw [mine] at held ⊢
      rw [become_self]
      exact held
    · rw [become_other _ mine]
      exact held
  | @restart now later ended returned =>
    obtain ⟨e, found, -⟩ := owed
    obtain ⟨-, -, -, finds⟩ := @restart_spec _ now _ sound.queue valid
    refine .inl ⟨resumed limits now e, ?_, .inl resumed_active⟩
    show (r.queue.restart limits now).find? key = _
    rw [finds, found]
    rfl

/-- A key that was just added is owed. -/
theorem owed_accepted {u v : KeyedRun n} {front back : List (Nat × KeyedNotice n)} (sound : u.Sound)
    (step : Step limits u (front ++ (now, .accepted key) :: back) v) :
    back = [] ∧ Owed [] v key := by
  generalize written : front ++ (now, .accepted key) :: back = news at step
  have only : ∀ {x : Nat × KeyedNotice n}, front ++ (now, .accepted key) :: back = [x] →
      back = [] ∧ x = (now, .accepted key) := by
    intro x single
    obtain ⟨rfl, eq⟩ | ⟨-, never⟩ := List.append_eq_singleton_iff.mp single
    · cases eq
      exact ⟨rfl, rfl⟩
    · cases never
  have marked : ∀ {q : KeyQueue}, u.queue.add key now = .ok q →
      ∃ e, q.find? key = some e ∧ (e.active = false ∨ e.dirty = true) := by
    intro q added
    obtain ⟨e, found, rfl⟩ | ⟨-, -, rfl⟩ := addLocked_cases (add_ok added)
    · refine ⟨{ e with dirty := true }, ?_, .inr rfl⟩
      rw [find?_store, if_pos (sound.queue.named found).symm]
    · exact ⟨_, find?_store_self, .inl rfl⟩
  cases step with
  | accept later added =>
    obtain ⟨rfl, eq⟩ := only written
    cases eq
    obtain ⟨e, found, idle | dirty⟩ := marked added
    · exact ⟨rfl, e, found, .inl idle⟩
    · exact ⟨rfl, e, found, .inr (.inl dirty)⟩
  | enter later turn added =>
    obtain ⟨rfl, eq⟩ := only written
    cases eq
    obtain ⟨e, found, idle | dirty⟩ := marked added
    · exact ⟨rfl, e, found, .inl idle⟩
    · exact ⟨rfl, e, found, .inr (.inl dirty)⟩
  | refuse later added => cases (only written).2
  | take later awake turn => cases (only written).2
  | finish later working finished =>
    have eq := (Prod.ext_iff.mp (only written).2).2
    unfold KeyedNotice.outcome at eq
    split_ifs at eq
  | @restart t later ended returned =>
    have member : (now, (.accepted key : KeyedNotice n)) ∈
        u.interruptions.map fun notice => (t, notice) := by
      rw [← written]
      exact List.mem_append_right _ List.mem_cons_self
    obtain ⟨notice, inside, eq⟩ := List.mem_map.mp member
    obtain ⟨k, -, rfl⟩ := List.mem_map.mp inside
    cases eq
  | _ => exact absurd written (List.append_ne_nil_of_right_ne_nil _ (List.cons_ne_nil _ _))

/-- **A key that was added is not lost.**  In every run, over any number of sessions, a key whose
addition was accepted is still owed, or an action on it began after the addition and succeeded. -/
theorem keyed_kept {capacity start t : Nat} (valid : limits.Valid)
    (steps : Steps limits (new capacity start) (before ++ (t, .accepted key) :: after) r) :
    Owed after r key ∨ Served after key := by
  obtain ⟨log₁, u, front, back, v, log₂, earlier, here, later, -, rfl⟩ := steps.split rfl
  have sound := (sound_new capacity start).steps valid earlier
  obtain ⟨rfl, owed⟩ := owed_accepted sound here
  rw [List.nil_append]
  have all : ∀ {x : KeyedRun n} {log : List (Nat × KeyedNotice n)}, Steps limits v log x →
      x.Sound ∧ (Owed log x key ∨ Served log key) := by
    intro x log run
    induction run with
    | refl => exact ⟨sound.step valid here, .inl owed⟩
    | tail run last ih =>
      refine ⟨ih.1.step valid last, ?_⟩
      rcases ih.2 with owed | served
      · exact owed.step ih.1 valid last
      · exact .inr (served.append _)
  exact (all later).2

theorem keyed_kept_started : Owed [(0, .started 0 "a")] oneStarted "a" ∨
    Served ([(0, .started 0 "a")] : List (Nat × KeyedNotice 1)) "a" := by
  have steps : Steps ⟨1, 4⟩ (new 2 0) ([] ++ (0, .accepted "a") :: [(0, .started 0 "a")])
      oneStarted := steps_oneStarted
  exact keyed_kept limits_valid steps

/-! ### A delay is waited for -/

/-- An action on a key ends, if the notice says so: whether it failed, and the delay that it asks
for. -/
def ends? (key : String) : KeyedNotice n → Option (Bool × Nat)
  | .succeeded _ k => if k = key then some (false, 0) else none
  | .deferred _ k recheck => if k = key then some (false, recheck) else none
  | .failed _ k => if k = key then some (true, 0) else none
  | .interrupted k => if k = key then some (true, 0) else none
  | _ => none

/-- The delay after the end of an action. -/
def pause (limits : RetryLimits) (count : Nat) (ended : Bool × Nat) : Nat :=
  if ended.1 = true then backoff limits.minimum limits.maximum (count + 1) else ended.2

/-- What a log says about a key: how often in a row the actions on it failed, and the time before
which none begins. -/
structure KeyHistory where
  failures : Nat
  rest : Nat

def KeyHistory.note (limits : RetryLimits) (key : String) (h : KeyHistory)
    (x : Nat × KeyedNotice n) : KeyHistory :=
  match ends? key x.2 with
  | none => h
  | some ended =>
    ⟨if ended.1 = true then h.failures + 1 else 0, x.1 + pause limits h.failures ended⟩

def history (limits : RetryLimits) (key : String) (log : List (Nat × KeyedNotice n)) : KeyHistory :=
  log.foldl (KeyHistory.note limits key) ⟨0, 0⟩

/-- How often in a row the actions on a key failed, at the end of a log. -/
def failures (key : String) (log : List (Nat × KeyedNotice n)) : Nat :=
  (history ⟨0, 0⟩ key log).failures

theorem history_append (limits : RetryLimits) (key : String) (log news : List (Nat × KeyedNotice n)) :
    history limits key (log ++ news) = news.foldl (KeyHistory.note limits key) (history limits key log) :=
  List.foldl_append

theorem note_of_none {h : KeyHistory} {x : Nat × KeyedNotice n} (quiet : ends? key x.2 = none) :
    h.note limits key x = h := by
  rw [KeyHistory.note, quiet]

theorem note_of_some {h : KeyHistory} {x : Nat × KeyedNotice n} {ended : Bool × Nat}
    (ends : ends? key x.2 = some ended) : h.note limits key x =
      ⟨if ended.1 = true then h.failures + 1 else 0, x.1 + pause limits h.failures ended⟩ := by
  rw [KeyHistory.note, ends]

theorem foldl_note_quiet {h : KeyHistory} (quiet : ∀ x ∈ news, ends? key x.2 = none) :
    news.foldl (KeyHistory.note limits key) h = h := by
  induction news generalizing h with
  | nil => rfl
  | cons x rest ih =>
    rw [List.foldl_cons, note_of_none (quiet x List.mem_cons_self)]
    exact ih fun y member => quiet y (List.mem_cons_of_mem _ member)

/-- The count does not depend on the limits. -/
theorem failures_history (limits : RetryLimits) (key : String)
    (log : List (Nat × KeyedNotice n)) : (history limits key log).failures = failures key log := by
  induction log using List.reverseRecOn with
  | nil => rfl
  | append_singleton log x ih =>
    rw [failures, history_append, history_append, List.foldl_cons, List.foldl_cons, List.foldl_nil,
      List.foldl_nil]
    cases ends : ends? key x.2 with
    | none =>
      rw [note_of_none ends, note_of_none ends]
      exact ih
    | some ended =>
      rw [note_of_some ends, note_of_some ends]
      show (if _ then _ else _) = if _ then _ else _
      rw [ih]
      rfl

/-- **What the queue knows of a key is what the log says**: its delay is that of its failures, and
it is not due before its rest is over. -/
structure Agrees (limits : RetryLimits) (key : String) (log : List (Nat × KeyedNotice n))
    (r : KeyedRun n) : Prop where
  delay : ∀ {e}, r.queue.find? key = some e →
    e.delay = backoff limits.minimum limits.maximum (history limits key log).failures
  due : ∀ {e}, r.queue.find? key = some e → e.active = false → (history limits key log).rest ≤ e.due
  absent : r.queue.find? key = none →
    (history limits key log).failures = 0 ∧ (history limits key log).rest ≤ r.clock

/-- Nothing is said about the key, and its entry stays but for its mark. -/
theorem Agrees.quiet (agrees : Agrees limits key log r) (said : ∀ x ∈ news, ends? key x.2 = none)
    (later : r.clock ≤ r'.clock)
    (found : ∀ {e'}, r'.queue.find? key = some e' → ∃ e, r.queue.find? key = some e ∧
      e'.delay = e.delay ∧ e'.due = e.due ∧ (e'.active = false → e.active = false))
    (missing : r'.queue.find? key = none → r.queue.find? key = none) :
    Agrees limits key (log ++ news) r' := by
  have same : history limits key (log ++ news) = history limits key log := by
    rw [history_append, foldl_note_quiet said]
  refine ⟨fun {e'} here => ?_, fun {e'} here idle => ?_, fun gone => ?_⟩
  · obtain ⟨e, old, delay, -, -⟩ := found here
    rw [same, delay, agrees.delay old]
  · obtain ⟨e, old, -, due, active⟩ := found here
    rw [same, due]
    exact agrees.due old (active idle)
  · rw [same]
    obtain ⟨none', rested⟩ := agrees.absent (missing gone)
    exact ⟨none', rested.trans later⟩

/-- A key is added, this one or another. -/
theorem Agrees.added {q : KeyQueue} {key' : String} (agrees : Agrees limits key log r)
    (sound : r.Sound) (later : r.clock ≤ now) (added : r.queue.add key' now = .ok q)
    {emitter : Option (String × Nat)} : Agrees limits key (log ++ [(now, .accepted key')])
      { r with clock := now, queue := q, emitter := emitter } := by
  have said : ∀ x ∈ [(now, (.accepted key' : KeyedNotice n))], ends? key x.2 = none := by
    intro x member
    rw [List.mem_singleton.mp member]
    rfl
  obtain ⟨e, found, rfl⟩ | ⟨missing, -, rfl⟩ := addLocked_cases (add_ok added)
  · have name : e.key = key' := sound.queue.named found
    subst name
    refine agrees.quiet said later (fun {e'} here => ?_) fun gone => ?_
    · replace here : (r.queue.store { e with dirty := true }).find? key = some e' := here
      rw [find?_store] at here
      split_ifs at here with same
      · cases here
        exact ⟨e, by rw [show key = e.key from same, found], rfl, rfl, id⟩
      · exact ⟨e', here, rfl, rfl, id⟩
    · replace gone : (r.queue.store { e with dirty := true }).find? key = none := gone
      rw [find?_store] at gone
      split_ifs at gone
      exact gone
  · by_cases same : key = key'
    · subst same
      obtain ⟨none', rested⟩ := agrees.absent missing
      have still : history limits key (log ++ [(now, .accepted key)]) = history limits key log := by
        rw [history_append, foldl_note_quiet said]
      have new' : (r.queue.push ⟨key, now, 0, true, false, 0⟩).find? key =
          some ⟨key, now, r.queue.next + 1, true, false, 0⟩ := find?_store_self
      refine ⟨fun {e'} here => ?_, fun {e'} here idle => ?_, fun gone => ?_⟩
      · cases new'.symm.trans here
        rw [still, none']
        rfl
      · cases new'.symm.trans here
        rw [still]
        exact rested.trans later
      · cases new'.symm.trans gone
    · refine agrees.quiet said later (fun {e'} here => ?_) fun gone => ?_
      · replace here : (r.queue.push ⟨key', now, 0, true, false, 0⟩).find? key = some e' := here
        rw [find?_push, if_neg same] at here
        exact ⟨e', here, rfl, rfl, id⟩
      · replace gone : (r.queue.push ⟨key', now, 0, true, false, 0⟩).find? key = none := gone
        rwa [find?_push, if_neg same] at gone

/-- An action on a key ends, with a new entry of the key or none. -/
theorem Agrees.ended {x : Nat × KeyedNotice n} {ended : Bool × Nat} {old : KeyEntry}
    (agrees : Agrees limits key log r) (found : r.queue.find? key = some old)
    (ends : ends? key x.2 = some ended) (time : x.1 = now)
    (clock : r'.clock = now)
    (entry' : ∀ {e'}, r'.queue.find? key = some e' →
      e'.delay = (if ended.1 = true then nextDelay limits.minimum limits.maximum old.delay else 0) ∧
      e'.due = now + (if ended.1 = true then nextDelay limits.minimum limits.maximum old.delay
        else ended.2))
    (gone : r'.queue.find? key = none → ended = (false, 0)) :
    Agrees limits key (log ++ [x]) r' := by
  have next : history limits key (log ++ [x]) = ⟨if ended.1 = true then
      (history limits key log).failures + 1 else 0,
      x.1 + pause limits (history limits key log).failures ended⟩ := by
    rw [history_append, List.foldl_cons, List.foldl_nil, note_of_some ends]
  have delayed := agrees.delay found
  refine ⟨fun {e'} here => ?_, fun {e'} here _ => ?_, fun missing => ?_⟩
  · rw [next, (entry' here).1]
    dsimp only
    split_ifs with failed
    · rw [backoff_succ, delayed]
    · rfl
  · rw [next, (entry' here).2, time, pause]
    dsimp only
    split_ifs with failed
    · rw [backoff_succ, delayed]
    · exact le_rfl
  · rw [next, gone missing, time, clock]
    exact ⟨rfl, le_rfl⟩

theorem Agrees.of_history {log' : List (Nat × KeyedNotice n)} (agrees : Agrees limits key log r)
    (same : history limits key log' = history limits key log) : Agrees limits key log' r where
  delay found := by
    rw [same]
    exact agrees.delay found
  due found := by
    rw [same]
    exact agrees.due found
  absent missing := by
    rw [same]
    exact agrees.absent missing

/-- Nothing is said, and the queue is the same. -/
theorem Agrees.still (agrees : Agrees limits key log r) (later : r.clock ≤ r'.clock)
    (said : ∀ x ∈ news, ends? key x.2 = none)
    (same : r'.queue.find? key = r.queue.find? key) : Agrees limits key (log ++ news) r' :=
  agrees.quiet said later (fun {e'} here => ⟨e', by rw [← same, here], rfl, rfl, id⟩)
    fun gone => by rw [← same, gone]

/-- The session ends. -/
theorem Agrees.restart (agrees : Agrees limits key log r) (sound : r.Sound) (valid : limits.Valid)
    (later : r.clock ≤ now) {workers : Fin n → KeyWorker} {emitter : Option (String × Nat)}
    {cancelled : Bool} :
    Agrees limits key (log ++ r.interruptions.map fun notice => (now, notice))
      ⟨now, r.queue.restart limits now, workers, emitter, cancelled⟩ := by
  obtain ⟨-, -, -, finds⟩ := @restart_spec _ now _ sound.queue valid
  have others : ∀ keys : List String, key ∉ keys →
      ∀ x ∈ (keys.map (.interrupted : String → KeyedNotice n)).map fun notice => (now, notice),
        ends? key x.2 = none := by
    intro keys absent x member
    obtain ⟨notice, inside, rfl⟩ := List.mem_map.mp member
    obtain ⟨k, listed, rfl⟩ := List.mem_map.mp inside
    refine if_neg ?_
    rintro rfl
    exact absent listed
  by_cases member : key ∈ activeKeys r.queue
  · obtain ⟨e, found, active⟩ := mem_activeKeys.mp member
    obtain ⟨front, back, split⟩ := List.append_of_mem member
    have once := nodup_activeKeys r.queue
    rw [split] at once
    have apart := List.nodup_append.mp once
    have absent : key ∉ front := fun inside => apart.2.2 key inside key List.mem_cons_self rfl
    have absent' : key ∉ back := (List.nodup_cons.mp apart.2.1).1
    have cut : Agrees limits key (log ++ [(now, .interrupted key)])
        ⟨now, r.queue.restart limits now, workers, emitter, cancelled⟩ := by
      have ends : ends? key (.interrupted key : KeyedNotice n) = some (true, 0) := if_pos rfl
      refine agrees.ended found ends rfl rfl (fun {e'} here => ?_)
        fun gone => ?_
      · have working : ¬e.active = false := by
          rw [active]
          exact Bool.true_eq_false_eq_False
        rw [finds, found, Option.map_some, resumed, if_neg working] at here
        cases here
        exact ⟨rfl, rfl⟩
      · rw [finds, found] at gone
        cases gone
    refine cut.of_history ?_
    show history limits key (log ++ ((activeKeys r.queue).map _).map _) = _
    rw [split, history_append, history_append, List.map_append, List.map_append, List.foldl_append,
      foldl_note_quiet (others front absent), List.map_cons, List.map_cons, List.foldl_cons,
      foldl_note_quiet (others back absent')]
    rfl
  · refine agrees.quiet (others _ member) later (fun {e'} here => ?_) fun gone => ?_
    · rw [finds] at here
      obtain ⟨e, found, rfl⟩ := Option.map_eq_some_iff.mp here
      have idle : e.active = false := by
        cases active : e.active with
        | false => rfl
        | true => exact absurd (mem_activeKeys.mpr ⟨e, found, active⟩) member
      rw [resumed_idle idle]
      exact ⟨e, found, rfl, rfl, id⟩
    · rw [finds] at gone
      exact Option.map_eq_none_iff.mp gone

/-- **Every step keeps queue and log in agreement.** -/
theorem Agrees.step (agrees : Agrees limits key log r) (sound : r.Sound) (valid : limits.Valid)
    (step : Step limits r news r') : Agrees limits key (log ++ news) r' := by
  have silent : ∀ x ∈ ([] : List (Nat × KeyedNotice n)), ends? key x.2 = none := by
    intro x never
    cases never
  cases step with
  | accept later added => exact agrees.added sound later added
  | enter later turn added => exact agrees.added sound later added
  | refuse later added =>
    refine agrees.still later (fun x member => ?_) rfl
    rw [List.mem_singleton.mp member]
    rfl
  | full later turn added => exact agrees.still later silent rfl
  | withdraw later => exact agrees.still later silent rfl
  | ready later ready => exact agrees.still later silent (find?_setReady ready)
  | @take now i e' q later awake turn =>
    obtain ⟨-, first, -, rfl⟩ := takeTurn_took turn
    obtain ⟨found, idle, -⟩ := first?_spec sound.queue first
    refine agrees.quiet (fun x member => ?_) later (fun {x} here => ?_) fun gone => ?_
    · rw [List.mem_singleton.mp member]
      rfl
    · replace here : (r.queue.pop e').find? key = some x := here
      rw [find?_pop] at here
      split_ifs at here with same
      · cases here
        exact ⟨e', by rw [same, found], rfl, rfl, fun _ => idle⟩
      · exact ⟨x, here, rfl, rfl, id⟩
    · replace gone : (r.queue.pop e').find? key = none := gone
      rw [find?_pop] at gone
      split_ifs at gone
      exact gone
  | wait later awake turn => exact agrees.still later silent rfl
  | @finish now i key' failed recheck q later working finished =>
    obtain ⟨e', found', active, shape⟩ := finishResult_cases finished
    have name : e'.key = key' := sound.queue.named found'
    by_cases same : key = key'
    · subst same
      have ends : ends? key (.outcome i key failed recheck) =
          some (failed, if failed = true then 0 else recheck) := by
        unfold KeyedNotice.outcome ends?
        cases failed with
        | true => simp
        | false =>
          rcases Nat.eq_zero_or_pos recheck with rfl | positive
          · simp
          · simp [positive]
      refine agrees.ended (x := (now, .outcome i key failed recheck)) found' ends rfl rfl
        (fun {x} here => ?_) fun gone => ?_
      · obtain ⟨fails, rfl⟩ | ⟨succeeds, -, rfl⟩ | ⟨-, -, -, rfl⟩ := shape
        · subst fails
          rw [← name] at here
          cases find?_store_self.symm.trans here
          exact ⟨rfl, rfl⟩
        · subst succeeds
          rw [← name] at here
          cases find?_store_self.symm.trans here
          exact ⟨rfl, rfl⟩
        · replace here : ({ r.queue with entries := r.queue.entries.erase key } : KeyQueue).find? key =
            some x := here
          rw [find?_erase, if_pos rfl] at here
          cases here
      · obtain ⟨-, rfl⟩ | ⟨-, -, rfl⟩ | ⟨succeeds, done, -, -⟩ := shape
        · rw [← name] at gone
          cases find?_store_self.symm.trans gone
        · rw [← name] at gone
          cases find?_store_self.symm.trans gone
        · rw [succeeds, done]
          rfl
    · refine agrees.still later (fun x member => ?_) ?_
      · rw [List.mem_singleton.mp member]
        unfold KeyedNotice.outcome
        have other : key' ≠ key := fun eq => same eq.symm
        split_ifs <;> exact if_neg other
      · obtain ⟨-, rfl⟩ | ⟨-, -, rfl⟩ | ⟨-, -, -, rfl⟩ := shape
        · exact find?_push.trans (if_neg (by rw [name]; exact same))
        · exact find?_push.trans (if_neg (by rw [name]; exact same))
        · exact find?_erase.trans (if_neg same)
  | cancel later => exact agrees.still later silent rfl
  | leave later here ended => exact agrees.still later silent rfl
  | restart later ended returned => exact agrees.restart sound valid later

theorem agrees_new (capacity start : Nat) :
    Agrees limits key [] (new capacity start : KeyedRun n) where
  delay found := by cases found
  due found := by cases found
  absent _ := ⟨rfl, Nat.zero_le _⟩

theorem agrees_steps {capacity start : Nat} (valid : limits.Valid)
    (steps : Steps limits (new capacity start) log r) : r.Sound ∧ Agrees limits key log r := by
  induction steps with
  | refl => exact ⟨sound_new _ _, agrees_new _ _⟩
  | tail run last ih => exact ⟨ih.1.step valid last, ih.2.step ih.1 valid last⟩

/-- An action begins on an entry of the heap that is due. -/
theorem started_step {u v : KeyedRun n} {front back : List (Nat × KeyedNotice n)} (sound : u.Sound)
    (step : Step limits u (front ++ (now, .started i key) :: back) v) :
    front = [] ∧ ∃ e, u.queue.find? key = some e ∧ e.active = false ∧ e.due ≤ now := by
  generalize written : front ++ (now, .started i key) :: back = news at step
  have only : ∀ {x : Nat × KeyedNotice n}, front ++ (now, .started i key) :: back = [x] →
      front = [] ∧ x = (now, .started i key) := by
    intro x single
    obtain ⟨rfl, eq⟩ | ⟨-, never⟩ := List.append_eq_singleton_iff.mp single
    · cases eq
      exact ⟨rfl, rfl⟩
    · cases never
  cases step with
  | @take t j e q later awake turn =>
    obtain ⟨rfl, eq⟩ := only written
    cases eq
    obtain ⟨-, first, due, -⟩ := takeTurn_took turn
    obtain ⟨found, idle, -⟩ := first?_spec sound.queue first
    exact ⟨rfl, e, found, idle, due⟩
  | accept later added => cases (only written).2
  | enter later turn added => cases (only written).2
  | refuse later added => cases (only written).2
  | finish later working finished =>
    have eq := (Prod.ext_iff.mp (only written).2).2
    unfold KeyedNotice.outcome at eq
    split_ifs at eq
  | @restart t later ended returned =>
    have member : (now, (.started i key : KeyedNotice n)) ∈
        u.interruptions.map fun notice => (t, notice) := by
      rw [← written]
      exact List.mem_append_right _ List.mem_cons_self
    obtain ⟨notice, inside, eq⟩ := List.mem_map.mp member
    obtain ⟨k, -, rfl⟩ := List.mem_map.mp inside
    cases eq
  | _ => exact absurd written (List.append_ne_nil_of_right_ne_nil _ (List.cons_ne_nil _ _))

/-- **Nothing but time ends a delay.**  In every run, over any number of sessions, an action on a
key begins no earlier than the last one on it ended or was cut off, and as much later as that one
asked for or as the number of failures in a row says, however often the key is added in between. -/
theorem keyed_delayed {capacity start t t' : Nat} {cut : KeyedNotice n} {ended : Bool × Nat}
    {between : List (Nat × KeyedNotice n)} (valid : limits.Valid)
    (steps : Steps limits (new capacity start)
      (before ++ (t, cut) :: (between ++ (t', .started i key) :: after)) r)
    (ends : ends? key cut = some ended) (none' : ∀ x ∈ between, ends? key x.2 = none) :
    t + pause limits (failures key before) ended ≤ t' := by
  have written : before ++ (t, cut) :: (between ++ (t', .started i key) :: after) =
      (before ++ (t, cut) :: between) ++ (t', .started i key) :: after := by simp
  obtain ⟨log₁, u, front, back, v, log₂, earlier, here, -, split, -⟩ := steps.split written
  obtain ⟨sound, agrees⟩ := @agrees_steps _ _ _ _ key _ _ valid earlier
  obtain ⟨rfl, e, found, idle, due⟩ := started_step sound here
  rw [List.append_nil] at split
  have rest : (history limits key log₁).rest = t + pause limits (failures key before) ended := by
    rw [← split, history_append, List.foldl_cons, foldl_note_quiet none', note_of_some ends,
      failures_history]
  rw [← rest]
  exact (agrees.due found idle).trans due

theorem keyed_delayed_failed : 0 + pause ⟨1, 4⟩ 0 (true, 0) ≤ 1 := by
  have cut : Step ⟨1, 4⟩ oneStarted [(0, .outcome 0 "a" true 0)] _ := .finish le_rfl rfl rfl
  have again := (steps_oneStarted.tail cut).tail
    (@Step.take _ _ _ 1 0 _ _ (Nat.zero_le 1) trivial rfl)
  refine @keyed_delayed _ _ _ [(0, .accepted "a"), (0, .started 0 "a")] _ 0 "a" _ _ _ _ _ _ []
    limits_valid again rfl fun x never => ?_
  cases never

/-! ### A key has its turn -/

/-- An entry is taken before those of a rank. -/
def before? (rank : Nat ×ₗ Nat) (e : KeyEntry) : Bool := e.idle && decide (e.rank < rank)

/-- The number of entries that are taken before those of a rank. -/
def ahead (rank : Nat ×ₗ Nat) (q : KeyQueue) : Nat := tally (before? rank) q.entries

/-- An action begins. -/
def starts : Nat × KeyedNotice n → Bool
  | (_, .started _ _) => true
  | _ => false

/-- An entry waits, and is due. -/
def Waits (rank : Nat ×ₗ Nat) (r : KeyedRun n) (key : String) : Prop :=
  (∃ e, r.queue.find? key = some e ∧ e.active = false ∧ e.rank = rank) ∧ (ofLex rank).1 ≤ r.clock

variable {rank : Nat ×ₗ Nat} {q : KeyQueue} {e old : KeyEntry}

/-- An entry that is due no earlier, and has a later order, has a later rank. -/
theorem rank_lt {x : KeyEntry} (due : e.due ≤ x.due) (order : e.order < x.order) : e.rank < x.rank :=
  Prod.Lex.toLex_lt_toLex.mpr (due.lt_or_eq.imp id fun same => ⟨same, order⟩)

theorem not_before {x : KeyEntry} (later : rank ≤ x.rank) : before? rank x = false := by
  rw [before?, decide_eq_false (not_lt.mpr later), Bool.and_false]

/-- An entry is pushed that is due no earlier. -/
theorem ahead_push (numbered : q.Numbered) (found : q.find? key = some old) (due : old.due ≤ e.due) :
    ahead old.rank (q.push e) ≤ ahead old.rank q := by
  have counted := @tally_store q { e with order := q.next + 1 } (before? old.rank)
  have later : old.rank < ({ e with order := q.next + 1 } : KeyEntry).rank :=
    rank_lt due (Nat.lt_succ_of_le (numbered.issued found))
  rw [share, not_before later.le, if_neg Bool.false_ne_true] at counted
  show tally _ (q.store { e with order := q.next + 1 }).entries ≤ tally _ q.entries
  simp only at counted
  omega

/-- An entry is marked. -/
theorem ahead_mark (found : q.find? e.key = some e) :
    ahead rank (q.store { e with dirty := true }) = ahead rank q := by
  have counted := @tally_store q { e with dirty := true } (before? rank)
  rw [show ({ e with dirty := true } : KeyEntry).key = e.key from rfl, found] at counted
  exact Nat.add_right_cancel counted

/-- An action begins on an entry. -/
theorem ahead_pop (sound : q.Sound) (first : q.first? = some e) (found : q.find? key = some old)
    (idle : old.active = false) (other : e.key ≠ key) :
    ahead old.rank (q.pop e) + 1 = ahead old.rank q := by
  obtain ⟨found', idle', least⟩ := first?_spec sound first
  have counted := @tally_store q { e with active := true, dirty := false } (before? old.rank)
  have earlier : e.rank < old.rank := by
    refine lt_of_le_of_ne (least found idle) fun same => other ?_
    have orders : e.order = old.order := (Prod.ext_iff.mp (toLex_inj.mp same)).2
    exact sound.apart found' found orders
  have here : before? old.rank e = true := by
    rw [before?, KeyEntry.idle, idle', decide_eq_true earlier]
    rfl
  rw [show ({ e with active := true, dirty := false } : KeyEntry).key = e.key from rfl, found', share,
    if_pos here] at counted
  exact counted

/-- Every action is cut off. -/
theorem ahead_restart (sound : q.Sound) (valid : limits.Valid) (due : (ofLex rank).1 ≤ now) :
    ahead rank (q.restart limits now) ≤ ahead rank q := by
  obtain ⟨-, -, -, finds⟩ := @restart_spec _ now _ sound valid
  have later : ∀ {k x}, q.find? k = some x → before? rank (resumed limits now x) = true →
      before? rank x = true := by
    intro k x found counts
    cases active : x.active with
    | false => rwa [resumed_idle active] at counts
    | true =>
      have positive : 0 < nextDelay limits.minimum limits.maximum x.delay :=
        valid.positive.trans_le (nextDelay_bounds valid.ordered _).1
      have after : rank ≤ (resumed limits now x).rank := by
        refine le_of_lt (Prod.Lex.toLex_lt_toLex.mpr (.inl ?_))
        show (ofLex rank).1 < (resumed limits now x).due
        rw [resumed, if_neg (by rw [active]; exact Bool.true_eq_false_eq_False)]
        exact Nat.lt_of_le_of_lt due (Nat.lt_add_of_pos_right positive)
      rw [not_before after] at counts
      cases counts
  refine tally_le_of_lookup fun {k x} found counts => ?_
  obtain ⟨y, found', rfl⟩ := Option.map_eq_some_iff.mp ((finds k).symm.trans found)
  exact ⟨y, found', later found' counts⟩

/-- A key is added while another waits. -/
theorem Waits.added {q : KeyQueue} {key' : String} (sound : r.Sound) (waits : Waits rank r key)
    (later : r.clock ≤ now) (added : r.queue.add key' now = .ok q)
    {emitter : Option (String × Nat)} :
    Waits rank { r with clock := now, queue := q, emitter := emitter } key ∧
      ahead rank q ≤ ahead rank r.queue := by
  obtain ⟨⟨old, found, idle, rfl⟩, due⟩ := waits
  obtain ⟨e, found', rfl⟩ | ⟨missing, -, rfl⟩ := addLocked_cases (add_ok added)
  · have name : e.key = key' := sound.queue.named found'
    subst name
    refine ⟨⟨?_, due.trans later⟩, (ahead_mark found').le⟩
    show ∃ x, (r.queue.store { e with dirty := true }).find? key = some x ∧ _
    rw [find?_store]
    split_ifs with same
    · rw [show key = e.key from same, found'] at found
      cases found
      exact ⟨_, rfl, idle, rfl⟩
    · exact ⟨old, found, idle, rfl⟩
  · have other : key ≠ key' := by
      rintro rfl
      rw [missing] at found
      cases found
    refine ⟨⟨?_, due.trans later⟩, ahead_push sound.queue.toNumbered found (due.trans later)⟩
    show ∃ x, (r.queue.push ⟨key', now, 0, true, false, 0⟩).find? key = some x ∧ _
    rw [find?_push, if_neg other]
    exact ⟨old, found, idle, rfl⟩

/-- **A step that does not take a waiting key takes one before it, or leaves it its place.** -/
theorem Waits.step (sound : r.Sound) (valid : limits.Valid) (waits : Waits rank r key)
    (step : Step limits r news r') (passed : ∀ t i, (t, .started i key) ∉ news) :
    Waits rank r' key ∧ news.countP starts + ahead rank r'.queue ≤ ahead rank r.queue := by
  cases step with
  | accept later added =>
    obtain ⟨kept, fewer⟩ := waits.added sound later added
    exact ⟨kept, by simpa [starts] using fewer⟩
  | enter later turn added =>
    obtain ⟨kept, fewer⟩ := waits.added sound later added
    exact ⟨kept, by simpa [starts] using fewer⟩
  | refuse later added => exact ⟨⟨waits.1, waits.2.trans later⟩, by simp [starts]⟩
  | full later turn added => exact ⟨⟨waits.1, waits.2.trans later⟩, by simp⟩
  | withdraw later => exact ⟨⟨waits.1, waits.2.trans later⟩, by simp⟩
  | ready later ready =>
    refine ⟨⟨?_, waits.2.trans later⟩, ?_⟩
    · show ∃ x, (r.queue.setReady ready).find? key = some x ∧ _
      rw [find?_setReady]
      exact waits.1
    · have same : ahead rank (r.queue.setReady ready) = ahead rank r.queue := by
        unfold KeyQueue.setReady
        split_ifs <;> rfl
      rw [List.countP_nil, Nat.zero_add]
      exact same.le
  | @take now i e q later awake turn =>
    obtain ⟨⟨old, found, idle, rfl⟩, due⟩ := waits
    obtain ⟨-, first, -, rfl⟩ := takeTurn_took turn
    have other : e.key ≠ key := by
      rintro rfl
      exact passed now i List.mem_cons_self
    refine ⟨⟨⟨old, ?_, idle, rfl⟩, due.trans later⟩, ?_⟩
    · show (r.queue.pop e).find? key = _
      rw [find?_pop, if_neg (fun same => other same.symm), found]
    · rw [show [(now, KeyedNotice.started i e.key)].countP starts = 1 from rfl, Nat.add_comm]
      exact (ahead_pop sound.queue first found idle other).le
  | wait later awake turn => exact ⟨⟨waits.1, waits.2.trans later⟩, by simp [become]⟩
  | @finish now i key' failed recheck q later working finished =>
    obtain ⟨⟨old, found, idle, rfl⟩, due⟩ := waits
    have none' : [(now, KeyedNotice.outcome i key' failed recheck)].countP starts = 0 := by
      unfold KeyedNotice.outcome
      split_ifs <;> rfl
    rw [none', Nat.zero_add]
    obtain ⟨e, found', active, shape⟩ := finishResult_cases finished
    have other : key ≠ e.key := by
      rintro rfl
      rw [sound.queue.named found'] at found
      rw [found] at found'
      cases found'
      rw [idle] at active
      cases active
    obtain ⟨-, rfl⟩ | ⟨-, -, rfl⟩ | ⟨-, -, -, rfl⟩ := shape
    · refine ⟨⟨⟨old, ?_, idle, rfl⟩, due.trans later⟩, ?_⟩
      · show (KeyQueue.push _ _).find? key = _
        rw [find?_push, if_neg (by exact other)]
        exact found
      · have numbered : Numbered { r.queue with retrying := r.queue.retrying + 1 } :=
          ⟨sound.queue.named, sound.queue.issued, sound.queue.apart⟩
        exact ahead_push (q := { r.queue with retrying := r.queue.retrying + 1 }) numbered found
          ((due.trans later).trans (Nat.le_add_right _ _))
    · refine ⟨⟨⟨old, ?_, idle, rfl⟩, due.trans later⟩, ?_⟩
      · show (KeyQueue.push _ _).find? key = _
        rw [find?_push, if_neg (by exact other)]
        exact found
      · exact ahead_push sound.queue.toNumbered found ((due.trans later).trans (Nat.le_add_right _ _))
    · have name : e.key = key' := sound.queue.named found'
      refine ⟨⟨⟨old, ?_, idle, rfl⟩, due.trans later⟩, ?_⟩
      · exact (find?_erase.trans (if_neg (by rwa [← name]))).trans found
      · exact (Nat.le_add_right _ _).trans tally_erase.le
  | cancel later => exact ⟨⟨waits.1, waits.2.trans later⟩, by simp⟩
  | leave later here ended => exact ⟨⟨waits.1, waits.2.trans later⟩, by simp [become]⟩
  | @restart now later ended returned =>
    have none' : (r.interruptions.map fun notice => (now, notice)).countP starts = 0 := by
      refine List.countP_eq_zero.mpr fun x member => ?_
      obtain ⟨notice, inside, rfl⟩ := List.mem_map.mp member
      obtain ⟨k, -, rfl⟩ := List.mem_map.mp inside
      exact Bool.false_ne_true
    rw [none', Nat.zero_add]
    obtain ⟨-, -, -, finds⟩ := @restart_spec _ now _ sound.queue valid
    refine ⟨⟨?_, waits.2.trans later⟩, ahead_restart sound.queue valid (waits.2.trans later)⟩
    obtain ⟨old, found, idle, same⟩ := waits.1
    refine ⟨old, ?_, idle, same⟩
    show (r.queue.restart limits now).find? key = _
    rw [finds, found, Option.map_some, resumed_idle idle]

/-- **A key that is due has its turn.**  In every run, while a key waits that is due, fewer other
actions begin than there are entries, before its own does, whatever is added, fails or restarts;
and a turn of a worker takes a key whenever the queue is ready. -/
theorem keyed_fair {capacity start : Nat} {e : KeyEntry} {log' : List (Nat × KeyedNotice n)}
    (valid : limits.Valid) (steps : Steps limits (new capacity start) log r)
    (found : r.queue.find? key = some e) (idle : e.active = false) (due : e.due ≤ r.clock)
    (later : Steps limits r log' r') (passed : ∀ t i, (t, .started i key) ∉ log') :
    log'.countP starts < capacity ∧
      (r'.queue.ready = true → ∀ now, r'.clock ≤ now →
        ∃ next q, r'.queue.takeTurn now = .took next q ∧ next.rank ≤ e.rank) := by
  have sound := (sound_new capacity start).steps valid steps
  have all : r'.Sound ∧ Waits e.rank r' key ∧
      log'.countP starts + ahead e.rank r'.queue ≤ ahead e.rank r.queue := by
    induction later with
    | refl => exact ⟨sound, ⟨⟨e, found, idle, rfl⟩, due⟩, by simp⟩
    | @tail log'' news s t run last ih =>
      obtain ⟨here, waits, fewer⟩ := ih fun t i member => passed t i (List.mem_append_left _ member)
      obtain ⟨waits', fewer'⟩ := waits.step here valid last fun t i member =>
        passed t i (List.mem_append_right _ member)
      refine ⟨here.step valid last, waits', ?_⟩
      rw [List.countP_append]
      omega
  obtain ⟨sound', ⟨⟨e', found', idle', same⟩, due'⟩, fewer⟩ := all
  constructor
  · have room : ahead e.rank r.queue < size r.queue.entries :=
      List.countP_lt_length_iff.mpr
        ⟨⟨key, e⟩, AList.mem_lookup_iff.mp found, not_before le_rfl⟩
    have bound := sound.queue.bound
    rw [capacity_steps (sound_new capacity start) valid steps] at bound
    exact (Nat.le_of_add_right_le fewer).trans_lt (room.trans_le bound)
  · intro ready now after
    obtain ⟨next, first⟩ := exists_first? sound'.queue found' idle'
    have least : next.rank ≤ e.rank := by
      rw [← same]
      exact (first?_spec sound'.queue first).2.2 found' idle'
    have sooner : next.due ≤ e.due := Prod.Lex.monotone_fst _ _ least
    have reached : next.due ≤ now := sooner.trans (due'.trans after)
    refine ⟨next, r'.queue.pop next, ?_, least⟩
    rw [takeTurn, if_pos ready, first]
    exact if_pos reached

theorem keyed_fair_second : [(0, (.started 0 "a" : KeyedNotice 1))].countP starts < 2 := by
  have steps := steps_oneQueued.tail (@Step.accept _ _ _ 0 "b" _ le_rfl rfl)
  have awake : Awake (⟨0, oneQueued.push ⟨"b", 0, 0, true, false, 0⟩, fun _ => .idle, none, false⟩ :
      KeyedRun 1) 0 .idle := trivial
  have first := @Step.take _ ⟨1, 4⟩ _ 0 0 _ _ le_rfl awake rfl
  refine (@keyed_fair _ _ _ _ _ "b" _ _ _ _ limits_valid steps rfl rfl le_rfl (.single first)
    fun t i member => ?_).1
  have same := (Prod.ext_iff.mp (List.mem_singleton.mp member)).2
  simp at same

/-! ### Nobody sleeps -/

/-- **Nobody sleeps while there is something to do**: a worker that was not woken waits for a
queue that is not ready, or for a time before which nothing is due, and an emitter that was not
woken has found a full queue. -/
structure Wakeful (r : KeyedRun n) : Prop where
  seen : ∀ {i seen until?}, r.workers i = .waiting seen until? → seen ≤ r.queue.changed
  calm : ∀ {i until?}, r.workers i = .waiting r.queue.changed until? → r.queue.ready = true →
    ∀ {key e}, r.queue.find? key = some e → e.active = false → ∃ d, until? = some d ∧ d ≤ e.due
  saw : ∀ {key seen}, r.emitter = some (key, seen) → seen ≤ r.queue.changed
  full : ∀ {key}, r.emitter = some (key, r.queue.changed) →
    r.queue.find? key = none ∧ r.queue.capacity ≤ size r.queue.entries

/-- All are woken. -/
theorem Wakeful.woken (wakeful : r.Wakeful) {q : KeyQueue} {clock : Nat} {cancelled : Bool}
    {workers : Fin n → KeyWorker} (changed : r.queue.changed < q.changed)
    (waiting : ∀ {i seen until?}, workers i = .waiting seen until? →
      r.workers i = .waiting seen until?)
    {emitter : Option (String × Nat)} (emits : ∀ {x}, emitter = some x → r.emitter = some x) :
    (⟨clock, q, workers, emitter, cancelled⟩ : KeyedRun n).Wakeful where
  seen here := (wakeful.seen (waiting here)).trans changed.le
  calm here := absurd (wakeful.seen (waiting here)) (Nat.not_le.mpr changed)
  saw here := (wakeful.saw (emits here)).trans changed.le
  full here := absurd (wakeful.saw (emits here)) (Nat.not_le.mpr changed)

/-- Nobody is woken, and the queue holds no new entries. -/
theorem Wakeful.stay (wakeful : r.Wakeful) {q : KeyQueue} {clock : Nat} {cancelled : Bool}
    {workers : Fin n → KeyWorker} (changed : q.changed = r.queue.changed)
    (ready : q.ready = r.queue.ready)
    (waiting : ∀ {i seen until?}, workers i = .waiting seen until? →
      r.workers i = .waiting seen until?)
    (fewer : ∀ {key e}, q.find? key = some e → e.active = false →
      ∃ old, r.queue.find? key = some old ∧ old.active = false ∧ old.due = e.due)
    {emitter : Option (String × Nat)} (emits : ∀ {x}, emitter = some x → r.emitter = some x)
    (same : ∀ {key}, r.queue.find? key = none → q.find? key = none)
    (capacity : q.capacity = r.queue.capacity) (entries : size q.entries = size r.queue.entries) :
    (⟨clock, q, workers, emitter, cancelled⟩ : KeyedRun n).Wakeful where
  seen here := (wakeful.seen (waiting here)).trans changed.ge
  calm {i until?} here on {key e} found idle := by
    obtain ⟨old, found', idle', due⟩ := fewer found idle
    rw [← due]
    replace here : workers i = .waiting q.changed until? := here
    rw [changed] at here
    replace on : q.ready = true := on
    rw [ready] at on
    exact wakeful.calm (waiting here) on found' idle'
  saw here := (wakeful.saw (emits here)).trans changed.ge
  full {key} here := by
    replace here : emitter = some (key, q.changed) := here
    rw [changed] at here
    obtain ⟨missing, none'⟩ := wakeful.full (emits here)
    refine ⟨same missing, ?_⟩
    show q.capacity ≤ size q.entries
    rwa [capacity, entries]

/-- A key is added. -/
theorem Wakeful.added (wakeful : r.Wakeful) (sound : r.Sound) {q : KeyQueue}
    (added : r.queue.add key now = .ok q) {emitter : Option (String × Nat)}
    (emits : ∀ {x}, emitter = some x → r.emitter = some x) :
    Wakeful { r with clock := now, queue := q, emitter := emitter } := by
  obtain ⟨e, found, rfl⟩ | ⟨missing, room, rfl⟩ := addLocked_cases (add_ok added)
  · have name : e.key = key := sound.queue.named found
    subst name
    refine wakeful.stay (q := r.queue.store { e with dirty := true }) rfl rfl id
      (fun {k x} here idle => ?_) emits (fun {k} gone => ?_) rfl ?_
    · rw [find?_store] at here
      split_ifs at here with same
      · cases here
        exact ⟨e, by rw [same, found], idle, rfl⟩
      · exact ⟨x, here, idle, rfl⟩
    · rw [find?_store]
      split_ifs with same
      · rw [show k = e.key from same, found] at gone
        cases gone
      · exact gone
    · rw [size_store, show ({ e with dirty := true } : KeyEntry).key = e.key from rfl, found]
      rfl
  · exact wakeful.woken (Nat.lt_succ_self _) id emits

/-- **Every step lets nobody sleep.** -/
theorem Wakeful.step (wakeful : r.Wakeful) (sound : r.Sound)
    (step : Step limits r news r') : r'.Wakeful := by
  cases step with
  | accept later added => exact wakeful.added sound added id
  | enter later turn added =>
    refine wakeful.added sound added fun never => ?_
    cases never
  | refuse later added => exact ⟨wakeful.seen, wakeful.calm, wakeful.saw, wakeful.full⟩
  | @full now key later turn added =>
    refine ⟨wakeful.seen, wakeful.calm, fun {k seen} here => ?_, fun {k} here => ?_⟩
    · cases here
      exact le_rfl
    · cases here
      have refused : r.queue.find? key = none ∧ r.queue.capacity ≤ size r.queue.entries := by
        unfold KeyQueue.add at added
        split_ifs at added
        · unfold KeyQueue.addLocked at added
          split at added
          · cases added
          · next missing =>
            split_ifs at added with none'
            exact ⟨missing, none'⟩
        · cases added
      exact refused
  | withdraw later =>
    refine ⟨wakeful.seen, wakeful.calm, fun here => ?_, fun here => ?_⟩ <;> cases here
  | ready later ready =>
    by_cases same : r.queue.ready = ready
    · have still : r.queue.setReady ready = r.queue := if_neg (not_not.mpr same)
      rw [still]
      exact ⟨wakeful.seen, wakeful.calm, wakeful.saw, wakeful.full⟩
    · refine wakeful.woken ?_ id id
      rw [KeyQueue.setReady, if_pos same]
      exact Nat.lt_succ_self _
  | @take now i e q later awake turn =>
    obtain ⟨-, first, -, rfl⟩ := takeTurn_took turn
    obtain ⟨found, idle, -⟩ := first?_spec sound.queue first
    refine wakeful.stay (q := r.queue.pop e) rfl rfl (fun {j seen until?} here => ?_)
      (fun {k x} here idle' => ?_) id (fun {k} gone => ?_) rfl ?_
    · by_cases mine : j = i
      · rw [mine, Function.update_self] at here
        cases here
      · rwa [Function.update_of_ne mine] at here
    · rw [find?_pop] at here
      split_ifs at here
      · cases here
        cases idle'
      · exact ⟨x, here, idle', rfl⟩
    · rw [find?_pop]
      split_ifs with same
      · rw [show k = e.key from same, found] at gone
        cases gone
      · exact gone
    · rw [pop, size_store, show ({ e with active := true, dirty := false } : KeyEntry).key = e.key
        from rfl]
      show (if (r.queue.find? e.key).isSome then _ else _) = _
      rw [found]
      rfl
  | @wait now i until? later awake turn =>
    have seen' : ∀ {j seen u}, (r.become i (.waiting r.queue.changed until?)).workers j =
        .waiting seen u → (seen = r.queue.changed ∧ u = until?) ∨ r.workers j = .waiting seen u := by
      intro j seen u here
      by_cases mine : j = i
      · rw [mine, become_self] at here
        cases here
        exact .inl ⟨rfl, rfl⟩
      · rw [become_other _ mine] at here
        exact .inr here
    refine ⟨fun {j seen u} here => ?_, fun {j u} here on {key e} found idle => ?_, wakeful.saw,
      wakeful.full⟩
    · obtain ⟨same, -⟩ | old := seen' here
      · exact same.le
      · exact wakeful.seen old
    · obtain ⟨-, rfl⟩ | old := seen' here
      · obtain off | nothing | ⟨first, top, rfl⟩ := takeTurn_waits turn
        · replace on : r.queue.ready = true := on
          rw [off] at on
          cases on
        · obtain ⟨first, top⟩ := exists_first? sound.queue found idle
          rw [nothing] at top
          cases top
        · exact ⟨first.due, rfl, Prod.Lex.monotone_fst _ _
            ((first?_spec sound.queue top).2.2 found idle)⟩
      · exact wakeful.calm old on found idle
  | @finish now i key failed recheck q later working finished =>
    have changed : r.queue.changed < q.changed := by
      obtain ⟨e, -, -, ⟨-, rfl⟩ | ⟨-, -, rfl⟩ | ⟨-, -, -, rfl⟩⟩ := finishResult_cases finished <;>
        exact Nat.lt_succ_self _
    refine wakeful.woken changed (fun {j seen until?} here => ?_) id
    by_cases mine : j = i
    · rw [mine, Function.update_self] at here
      cases here
    · rwa [Function.update_of_ne mine] at here
  | cancel later => exact ⟨wakeful.seen, wakeful.calm, wakeful.saw, wakeful.full⟩
  | @leave now i later here ended =>
    have seen' : ∀ {j seen u}, (r.become i (.gone (r.workers i).held?)).workers j =
        .waiting seen u → r.workers j = .waiting seen u := by
      intro j seen u here
      by_cases mine : j = i
      · rw [mine, become_self] at here
        cases here
      · rwa [become_other _ mine] at here
    exact ⟨fun here => wakeful.seen (seen' here), fun here => wakeful.calm (seen' here),
      wakeful.saw, wakeful.full⟩
  | @restart now later ended returned =>
    refine ⟨fun here => ?_, fun here => ?_, fun here => ?_, fun here => ?_⟩ <;> cases here

/-- **Nobody sleeps while there is something to do.**  In every run, a worker that waits may take
its turn as soon as that turn takes a key, and an emitter that waits may try again as soon as
there is room for its key. -/
theorem keyed_awake {capacity start seen : Nat} {until? : Option Nat} {e : KeyEntry} {q : KeyQueue}
    (valid : limits.Valid) (steps : Steps limits (new capacity start) log r) :
    (r.workers i = .waiting seen until? → r.queue.takeTurn now = .took e q →
      r.Awake now (.waiting seen until?)) ∧
    (r.emitter = some (key, seen) → r.queue.add key now = .ok q → r.Admits key) := by
  have both : r.Sound ∧ r.Wakeful := by
    refine Logged.Run.invariant (P := fun x => x.Sound ∧ x.Wakeful) ?_ ⟨sound_new _ _, ?_⟩ steps
    · rintro s news t ⟨sound, wakeful⟩ step
      exact ⟨sound.step valid step, wakeful.step sound step⟩
    · refine ⟨fun here => ?_, fun here => ?_, fun here => ?_, fun here => ?_⟩ <;> cases here
  obtain ⟨sound, wakeful⟩ := both
  constructor
  · intro waits turn
    obtain ⟨ready, first, due, -⟩ := takeTurn_took turn
    by_cases changed : seen = r.queue.changed
    · subst changed
      obtain ⟨found, idle, -⟩ := first?_spec sound.queue first
      obtain ⟨d, at', sooner⟩ := wakeful.calm waits ready found idle
      exact .inr ⟨d, at', sooner.trans due⟩
    · exact .inl changed
  · intro emits added
    refine .inr ⟨seen, emits, ?_⟩
    rintro rfl
    obtain ⟨missing, none'⟩ := wakeful.full emits
    obtain ⟨e, found, -⟩ | ⟨-, room, -⟩ := addLocked_cases (add_ok added)
    · rw [missing] at found
      cases found
    · exact absurd none' (Nat.not_le.mpr room)

theorem keyed_awake_added : ∃ r : KeyedRun 1, r.workers 0 = .waiting 0 none ∧
    r.Awake 0 (.waiting 0 none) := by
  have waits : Steps ⟨1, 4⟩ (new 2 0 : KeyedRun 1) [] _ :=
    .single (@Step.wait _ _ _ 0 0 _ le_rfl trivial rfl)
  have steps := (waits.tail (.ready le_rfl true)).tail (@Step.accept _ _ _ 0 "a" _ le_rfl rfl)
  exact ⟨_, rfl, (@keyed_awake _ _ _ _ 0 "a" 0 2 0 0 none _ _ limits_valid steps).1 rfl rfl⟩

end Hypershell.KeyedRun
