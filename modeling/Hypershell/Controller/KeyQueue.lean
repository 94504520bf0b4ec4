import Mathlib.Data.List.MinMax
import Mathlib.Data.Prod.Lex
import Hypershell.Foundation.Backoff
import Hypershell.Foundation.Counting

/-!
# The queue of a keyed controller

A controller works on keys, at most one action on each at a time.  Its queue holds the
keys to work on and those an action works on, and no others.  A key that is added again
is only marked; a key whose action fails waits, longer with every failure in a row.

## Main definitions

* `KeyQueue` — the entries, the heap of those that no action works on, and the counters
* `addLocked`, `takeTurn`, `finishResult`, `restart` — what happens under the lock
* `KeyQueue.Sound` — the heap and the counters agree with the entries

## Main results

* `Sound.addLocked`, `Sound.takeTurn`, `Sound.finishResult`, `Sound.restart` — always

## Design notes

* The heap is the list of its keys.  `pop` is the least entry by the time it is due and then by
  its order, as the interface of the heap says; nothing else of its layout is read.
* `changed` counts the channels that were closed and replaced.
* Times and durations are whole nanoseconds.
-/

namespace Hypershell

open Foundation

/-- One key: when it is due, and whether an action works on it. -/
structure KeyEntry where
  key : String
  due : Nat
  order : Nat
  dirty : Bool
  active : Bool
  delay : Nat
  deriving DecidableEq, Repr

/-- What `Less` compares. -/
def KeyEntry.rank (e : KeyEntry) : Nat ×ₗ Nat := toLex (e.due, e.order)

/-- The variables under the lock of `keyQueue`. -/
structure KeyQueue where
  ready : Bool
  capacity : Nat
  next : Nat
  entries : AList fun _ : String => KeyEntry
  pending : List String
  changed : Nat
  retrying : Int

/-- `ErrKey` and `ErrOverflow`. -/
inductive KeyError
  | key
  | overflow
  deriving DecidableEq, Repr

/-- A key of 1 to 1024 bytes. -/
def validKey (key : String) : Bool := decide (0 < key.utf8ByteSize) && decide (key.utf8ByteSize ≤ 1024)

/-- The limits of the delay after a failure. -/
structure RetryLimits where
  minimum : Nat
  maximum : Nat

/-- The limits that the options of a controller may have. -/
structure RetryLimits.Valid (limits : RetryLimits) : Prop where
  positive : 0 < limits.minimum
  ordered : limits.minimum ≤ limits.maximum

namespace KeyQueue

/-- `newKeyQueue`. -/
def new (capacity : Nat) : KeyQueue := ⟨false, capacity, 0, ∅, [], 0, 0⟩

/-- Wake all who wait. -/
def notify (q : KeyQueue) : KeyQueue := { q with changed := q.changed + 1 }

/-- The entry of a key. -/
def find? (q : KeyQueue) (key : String) : Option KeyEntry := q.entries.lookup key

def store (q : KeyQueue) (e : KeyEntry) : KeyQueue := { q with entries := q.entries.insert e.key e }

/-- `heap.Push`, of an entry that gets the next order. -/
def push (q : KeyQueue) (e : KeyEntry) : KeyQueue :=
  ({ q with next := q.next + 1, pending := e.key :: q.pending }.store
    { e with order := q.next + 1 }).notify

def setReady (q : KeyQueue) (ready : Bool) : KeyQueue :=
  if q.ready ≠ ready then { q with ready := ready }.notify else q

/-- An entry is marked, or made. -/
def addLocked (q : KeyQueue) (key : String) (now : Nat) : Except KeyError KeyQueue :=
  match q.find? key with
  | some e => .ok (q.store { e with dirty := true })
  | none =>
    if q.capacity ≤ size q.entries then .error .overflow
    else .ok (q.push ⟨key, now, 0, true, false, 0⟩)

def add (q : KeyQueue) (key : String) (now : Nat) : Except KeyError KeyQueue :=
  if validKey key = true then q.addLocked key now else .error .key

/-- The entries of the heap. -/
def pendingEntries (q : KeyQueue) : List KeyEntry := q.pending.filterMap q.find?

/-- The top of the heap. -/
def first? (q : KeyQueue) : Option KeyEntry := q.pendingEntries.argmin KeyEntry.rank

/-- What one turn of the loop of `take` ends in: a key, or a wait, for a timer or without. -/
inductive Turn
  | took (e : KeyEntry) (q : KeyQueue)
  | waits (until? : Option Nat)

/-- `heap.Pop`, of the entry that an action works on next. -/
def pop (q : KeyQueue) (e : KeyEntry) : KeyQueue :=
  { q with
    pending := q.pending.erase e.key
    retrying := if 0 < e.delay then q.retrying - 1 else q.retrying }.store
    { e with active := true, dirty := false }

/-- One turn of the loop of `take`. -/
def takeTurn (q : KeyQueue) (now : Nat) : Turn :=
  if q.ready = true then
    match q.first? with
    | none => .waits none
    | some e => if e.due ≤ now then .took e (q.pop e) else .waits (some e.due)
  else .waits none

/-- An action has ended.  There is no result where the source panics. -/
def finishResult (q : KeyQueue) (limits : RetryLimits) (key : String) (failed : Bool)
    (recheck now : Nat) : Option KeyQueue :=
  match q.find? key with
  | none => none
  | some e =>
    if e.active = false then none
    else if failed = true then
      let delay := nextDelay limits.minimum limits.maximum e.delay
      some ({ q with retrying := q.retrying + 1 }.push
        { e with active := false, delay := delay, due := now + delay })
    else if 0 < recheck then
      some (q.push { e with active := false, delay := 0, due := now + recheck })
    else if e.dirty = false then some { q with entries := q.entries.erase key }.notify
    else some (q.push { e with active := false, delay := 0, due := now })

/-- What `restart` makes of one entry. -/
def resume (limits : RetryLimits) (now : Nat) (q : KeyQueue) (key : String) : KeyQueue :=
  match q.find? key with
  | none => q
  | some e =>
    if e.active = false then q
    else
      let delay := nextDelay limits.minimum limits.maximum e.delay
      { q with retrying := q.retrying + 1, pending := key :: q.pending }.store
        { e with active := false, dirty := true, delay := delay, due := now + delay }

/-- The queue for the next session. -/
def restart (q : KeyQueue) (limits : RetryLimits) (now : Nat) : KeyQueue :=
  (q.entries.keys.foldl (resume limits now) { q with ready := false }).notify

/-- `metrics`: the keys that wait, those that actions work on, and those that wait after a
failure. -/
def metrics (q : KeyQueue) : Nat × Int × Int :=
  (q.pending.length, (size q.entries : Int) - q.pending.length, q.retrying)

/-! ### Reading a changed queue -/

section

variable {q : KeyQueue} {e : KeyEntry} {key : String}

@[simp] theorem find?_notify : q.notify.find? key = q.find? key := rfl

@[simp] theorem find?_store_self : (q.store e).find? e.key = some e := AList.lookup_insert _

theorem find?_store_other (other : key ≠ e.key) : (q.store e).find? key = q.find? key :=
  AList.lookup_insert_ne other

theorem find?_store : (q.store e).find? key = if key = e.key then some e else q.find? key := by
  split_ifs with same
  · rw [same, find?_store_self]
  · exact find?_store_other same

theorem find?_push : (q.push e).find? key =
    if key = e.key then some { e with order := q.next + 1 } else q.find? key := find?_store

theorem find?_erase {other : String} :
    ({ q with entries := q.entries.erase other } : KeyQueue).find? key =
      if key = other then none else q.find? key := by
  split_ifs with same
  · rw [same, find?, AList.lookup_erase]
  · exact AList.lookup_erase_ne same

@[simp] theorem find?_setReady (ready : Bool) : (q.setReady ready).find? key = q.find? key := by
  unfold setReady
  split_ifs <;> rfl

@[simp] theorem pending_store : (q.store e).pending = q.pending := rfl

@[simp] theorem pending_push : (q.push e).pending = e.key :: q.pending := rfl

@[simp] theorem pending_notify : q.notify.pending = q.pending := rfl

@[simp] theorem pending_pop : (q.pop e).pending = q.pending.erase e.key := rfl

theorem find?_pop : (q.pop e).find? key =
    if key = e.key then some { e with active := true, dirty := false } else q.find? key :=
  find?_store

end

end KeyQueue

/-! ### The heap and the counters -/

/-- An entry that no action works on. -/
def KeyEntry.idle (e : KeyEntry) : Bool := !e.active

/-- An entry that waits after a failure. -/
def KeyEntry.retries (e : KeyEntry) : Bool := !e.active && decide (0 < e.delay)

namespace KeyQueue

/-- Entries stand under their keys, and no two of them have one order. -/
structure Numbered (q : KeyQueue) : Prop where
  named : ∀ {key e}, q.find? key = some e → e.key = key
  issued : ∀ {key e}, q.find? key = some e → e.order ≤ q.next
  apart : ∀ {key key' e e'}, q.find? key = some e → q.find? key' = some e' →
    e.order = e'.order → key = key'

/-- **The heap and the counters agree with the entries**: the heap holds the idle entries, each
once, and there are no more entries than the capacity. -/
structure Sound (q : KeyQueue) : Prop extends Numbered q where
  once : q.pending.Nodup
  heap : ∀ key, key ∈ q.pending ↔ ∃ e, q.find? key = some e ∧ e.active = false
  count : q.pending.length = tally KeyEntry.idle q.entries
  retries : q.retrying = tally KeyEntry.retries q.entries
  bound : size q.entries ≤ q.capacity

section

variable {q : KeyQueue} {e old : KeyEntry} {key : String} {now : Nat} {limits : RetryLimits}

/-- An entry with the key and the order of the one that it replaces. -/
theorem Numbered.store (numbered : q.Numbered) (found : q.find? e.key = some old)
    (order : e.order = old.order) : (q.store e).Numbered := by
  refine ⟨?_, ?_, ?_⟩
  · intro k x at'
    rw [find?_store] at at'
    split_ifs at at' with same
    · cases at'
      exact same.symm
    · exact numbered.named at'
  · intro k x at'
    rw [find?_store] at at'
    split_ifs at at'
    · cases at'
      rw [order]
      exact numbered.issued found
    · exact numbered.issued at'
  · intro k k' x x' at' at'' orders
    rw [find?_store] at at' at''
    split_ifs at at' with same <;> split_ifs at at'' with same'
    · rw [same, same']
    · cases at'
      exact same.trans (numbered.apart found at'' (order.symm.trans orders))
    · cases at''
      exact (numbered.apart at' found (orders.trans order)).trans same'.symm
    · exact numbered.apart at' at'' orders

/-- An entry that gets the next order. -/
theorem Numbered.push (numbered : q.Numbered) : (q.push e).Numbered := by
  refine ⟨?_, ?_, ?_⟩
  · intro k x found
    rw [find?_push] at found
    split_ifs at found with same
    · cases found
      exact same.symm
    · exact numbered.named found
  · intro k x found
    rw [find?_push] at found
    split_ifs at found
    · cases found
      exact le_rfl
    · exact (numbered.issued found).trans (Nat.le_succ _)
  · intro k k' x x' found found' orders
    rw [find?_push] at found found'
    split_ifs at found with same <;> split_ifs at found' with same'
    · rw [same, same']
    · cases found
      have earlier := numbered.issued found'
      rw [← orders] at earlier
      exact absurd earlier (Nat.not_succ_le_self _)
    · cases found'
      have earlier := numbered.issued found
      rw [orders] at earlier
      exact absurd earlier (Nat.not_succ_le_self _)
    · exact numbered.apart found found' orders

theorem sound_new (capacity : Nat) : (new capacity).Sound where
  named found := by cases found
  issued found := by cases found
  apart found := by cases found
  once := List.nodup_nil
  heap key := by
    constructor
    · intro never
      cases never
    · rintro ⟨e, found, -⟩
      cases found
  count := rfl
  retries := rfl
  bound := Nat.zero_le _

theorem Sound.notify (sound : q.Sound) : q.notify.Sound :=
  { sound with named := sound.named, issued := sound.issued, apart := sound.apart }

theorem Sound.setReady (sound : q.Sound) (ready : Bool) : (q.setReady ready).Sound := by
  unfold KeyQueue.setReady
  split_ifs
  · exact { sound with named := sound.named, issued := sound.issued, apart := sound.apart }
  · exact sound

/-- The number of some entries after one is stored. -/
theorem tally_store (p : KeyEntry → Bool) : tally p (q.store e).entries + share p (q.find? e.key) =
    tally p q.entries + share p (some e) := tally_insert

theorem size_store : size (q.store e).entries =
    if (q.find? e.key).isSome then size q.entries else size q.entries + 1 := size_insert

/-- An entry of the heap is idle. -/
theorem Sound.idle_of_pending (sound : q.Sound) (member : key ∈ q.pending)
    (found : q.find? key = some e) : e.active = false := by
  obtain ⟨e', found', idle⟩ := (sound.heap key).mp member
  rw [found] at found'
  cases found'
  exact idle

/-- The heap after an entry is stored whose key is in it exactly if the entry is idle. -/
theorem Sound.heap_store (sound : q.Sound) {pending : List String}
    (others : ∀ k, k ≠ e.key → (k ∈ pending ↔ k ∈ q.pending))
    (here : e.key ∈ pending ↔ e.active = false) (k : String) :
    k ∈ pending ↔ ∃ x, (q.store e).find? k = some x ∧ x.active = false := by
  rw [find?_store]
  split_ifs with same
  · rw [same, here]
    constructor
    · intro idle
      exact ⟨e, rfl, idle⟩
    · rintro ⟨x, eq, idle⟩
      cases eq
      exact idle
  · exact (others k same).trans (sound.heap k)

/-- An entry is replaced, in the heap or not, and so are the counters. -/
theorem Sound.replace (sound : q.Sound) (found : q.find? e.key = some old)
    (order : e.order = old.order) {pending : List String} {retrying : Int} (once : pending.Nodup)
    (others : ∀ k, k ≠ e.key → (k ∈ pending ↔ k ∈ q.pending))
    (here : e.key ∈ pending ↔ e.active = false)
    (length : pending.length + share KeyEntry.idle (some old) =
      q.pending.length + share KeyEntry.idle (some e))
    (counted : retrying + share KeyEntry.retries (some old) =
      q.retrying + share KeyEntry.retries (some e)) :
    ({ q with pending := pending, retrying := retrying }.store e).Sound := by
  have numbered := sound.toNumbered.store found order
  have idles := @tally_store q e KeyEntry.idle
  have failures := @tally_store q e KeyEntry.retries
  rw [found] at idles failures
  refine { named := numbered.named, issued := numbered.issued, apart := numbered.apart,
           once := once, heap := sound.heap_store others here, count := ?_, retries := ?_, bound := ?_ }
  · show pending.length = tally KeyEntry.idle (q.store e).entries
    have count := sound.count
    omega
  · show retrying = (tally KeyEntry.retries (q.store e).entries : Int)
    have retries := sound.retries
    omega
  · show size (q.store e).entries ≤ q.capacity
    rw [size_store, found]
    exact sound.bound

/-- A key that is not in the heap is pushed. -/
theorem Sound.push (sound : q.Sound) (idle : e.active = false)
    (busy : ∀ old, q.find? e.key = some old → old.active = true)
    (room : q.find? e.key = none → size q.entries < q.capacity) {retrying : Int}
    (counted : retrying = q.retrying + share KeyEntry.retries (some e)) :
    ({ q with retrying := retrying }.push e).Sound := by
  have absent : e.key ∉ q.pending := by
    intro member
    obtain ⟨old, found, idle⟩ := (sound.heap e.key).mp member
    rw [busy old found] at idle
    cases idle
  have before : ∀ p : KeyEntry → Bool, (∀ x : KeyEntry, x.active = true → p x = false) →
      share p (q.find? e.key) = 0 := by
    intro p active
    cases found : q.find? e.key with
    | none => rfl
    | some old => rw [share, active old (busy old found), if_neg Bool.false_ne_true]
  have idles := @tally_store q { e with order := q.next + 1 } KeyEntry.idle
  have failures := @tally_store q { e with order := q.next + 1 } KeyEntry.retries
  have numbered := sound.toNumbered.push (e := e)
  refine { named := numbered.named, issued := numbered.issued, apart := numbered.apart,
           once := List.nodup_cons.mpr ⟨absent, sound.once⟩, heap := ?_, count := ?_, retries := ?_,
           bound := ?_ }
  · refine sound.heap_store (e := { e with order := q.next + 1 }) (fun k other => ?_) ?_
    · exact List.mem_cons.trans (or_iff_right other)
    · exact ⟨fun _ => idle, fun _ => List.mem_cons_self⟩
  · show q.pending.length + 1 = tally KeyEntry.idle (q.store { e with order := q.next + 1 }).entries
    have counts : share KeyEntry.idle (some { e with order := q.next + 1 }) = 1 := by
      rw [share, KeyEntry.idle, idle]
      rfl
    have gone : share KeyEntry.idle (q.find? e.key) = 0 :=
      before _ fun x active => by rw [KeyEntry.idle, active]; rfl
    have count := sound.count
    simp only at idles
    omega
  · show retrying = (tally KeyEntry.retries (q.store { e with order := q.next + 1 }).entries : Int)
    have gone : share KeyEntry.retries (q.find? e.key) = 0 :=
      before _ fun x active => by rw [KeyEntry.retries, active]; rfl
    have same : share KeyEntry.retries (some { e with order := q.next + 1 }) =
        share KeyEntry.retries (some e) := rfl
    have retries := sound.retries
    simp only at failures
    omega
  · show size (q.store { e with order := q.next + 1 }).entries ≤ q.capacity
    rw [size_store]
    split_ifs with known
    · exact sound.bound
    · exact room (Option.not_isSome_iff_eq_none.mp known)

/-- The counter stays if the entry does not wait after a failure. -/
theorem Sound.push_idle (sound : q.Sound) (idle : e.active = false)
    (busy : ∀ old, q.find? e.key = some old → old.active = true)
    (room : q.find? e.key = none → size q.entries < q.capacity)
    (fresh : share KeyEntry.retries (some e) = 0) : (q.push e).Sound :=
  sound.push idle busy room (by rw [fresh]; exact (Int.add_zero _).symm)

/-! ### The operations -/

/-- The top of the heap is in it, and no other entry of the heap is before it. -/
theorem first?_spec (sound : q.Sound) (first : q.first? = some e) :
    q.find? e.key = some e ∧ e.active = false ∧
      ∀ {k x}, q.find? k = some x → x.active = false → e.rank ≤ x.rank := by
  obtain ⟨k, member, found⟩ := List.mem_filterMap.mp (List.argmin_mem first)
  have name := sound.named found
  subst name
  refine ⟨found, sound.idle_of_pending member found, fun {k x} found' idle => ?_⟩
  have pending : k ∈ q.pending := (sound.heap k).mpr ⟨x, found', idle⟩
  exact List.le_of_mem_argmin (List.mem_filterMap.mpr ⟨k, pending, found'⟩) first

/-- A heap with an entry has a top. -/
theorem exists_first? (sound : q.Sound) {x : KeyEntry} (found : q.find? key = some x)
    (idle : x.active = false) : ∃ e, q.first? = some e := by
  have member : x ∈ q.pendingEntries :=
    List.mem_filterMap.mpr ⟨key, (sound.heap key).mpr ⟨x, found, idle⟩, found⟩
  cases first : q.first? with
  | some e => exact ⟨e, rfl⟩
  | none =>
    rw [first?, List.argmin_eq_none] at first
    rw [first] at member
    cases member

/-- What `addLocked` does: it marks an entry, makes one, or refuses. -/
theorem addLocked_cases {q' : KeyQueue} (added : q.addLocked key now = .ok q') :
    (∃ e, q.find? key = some e ∧ q' = q.store { e with dirty := true }) ∨
    (q.find? key = none ∧ size q.entries < q.capacity ∧
      q' = q.push ⟨key, now, 0, true, false, 0⟩) := by
  unfold addLocked at added
  split at added
  · next e found =>
    cases added
    exact .inl ⟨e, found, rfl⟩
  · next missing =>
    split_ifs at added with full
    cases added
    exact .inr ⟨missing, Nat.lt_of_not_le full, rfl⟩

theorem Sound.addLocked (sound : q.Sound) {q' : KeyQueue} (added : q.addLocked key now = .ok q') :
    q'.Sound := by
  obtain ⟨e, found, rfl⟩ | ⟨missing, room, rfl⟩ := addLocked_cases added
  · have name : e.key = key := sound.named found
    subst name
    refine sound.replace (e := { e with dirty := true }) found rfl sound.once
      (fun _ _ => Iff.rfl) ?_ rfl rfl
    rw [sound.heap]
    constructor
    · rintro ⟨x, found', idle⟩
      rw [found] at found'
      cases found'
      exact idle
    · intro idle
      exact ⟨e, found, idle⟩
  · refine sound.push_idle (e := ⟨key, now, 0, true, false, 0⟩) rfl (fun old found => ?_)
      (fun _ => room) ?_
    · rw [missing] at found
      cases found
    · rw [share, KeyEntry.retries]
      simp

/-- What a turn of `take` does when it takes. -/
theorem takeTurn_took {q' : KeyQueue} (turn : q.takeTurn now = .took e q') :
    q.ready = true ∧ q.first? = some e ∧ e.due ≤ now ∧ q' = q.pop e := by
  unfold takeTurn at turn
  split_ifs at turn with ready
  split at turn
  · cases turn
  · next first =>
    split_ifs at turn with due
    cases turn
    exact ⟨ready, first, due, rfl⟩

/-- And when it waits. -/
theorem takeTurn_waits {until? : Option Nat} (turn : q.takeTurn now = .waits until?) :
    q.ready = false ∨ (q.first? = none) ∨ ∃ e, q.first? = some e ∧ until? = some e.due := by
  unfold takeTurn at turn
  split_ifs at turn with ready
  · split at turn
    · next first => exact .inr (.inl first)
    · next e first =>
      split_ifs at turn
      cases turn
      exact .inr (.inr ⟨e, first, rfl⟩)
  · exact .inl (Bool.eq_false_iff.mpr ready)

theorem Sound.pop (sound : q.Sound) (first : q.first? = some e) : (q.pop e).Sound := by
  obtain ⟨found, idle, -⟩ := first?_spec sound first
  have member : e.key ∈ q.pending := (sound.heap e.key).mpr ⟨e, found, idle⟩
  refine sound.replace (e := { e with active := true, dirty := false }) found rfl
    (sound.once.erase _) (fun k other => List.mem_erase_of_ne other) ?_ ?_ ?_
  · constructor
    · intro still
      exact absurd still sound.once.not_mem_erase
    · intro never
      cases never
  · have positive := List.length_pos_of_mem member
    simp only [List.length_erase_of_mem member, share, KeyEntry.idle, idle]
    simp
    omega
  · simp only [share, KeyEntry.retries, idle]
    split_ifs <;> simp_all

/-- What an action's end does: its key waits after a failure, for a recheck, or for another pass,
or it leaves the queue. -/
theorem finishResult_cases {q' : KeyQueue} {failed : Bool} {recheck : Nat}
    (finished : q.finishResult limits key failed recheck now = some q') :
    ∃ e, q.find? key = some e ∧ e.active = true ∧
      ((failed = true ∧ q' = { q with retrying := q.retrying + 1 }.push { e with
          active := false, delay := nextDelay limits.minimum limits.maximum e.delay,
          due := now + nextDelay limits.minimum limits.maximum e.delay }) ∨
        (failed = false ∧ (0 < recheck ∨ e.dirty = true) ∧
          q' = q.push { e with active := false, delay := 0, due := now + recheck }) ∨
        (failed = false ∧ recheck = 0 ∧ e.dirty = false ∧
          q' = { q with entries := q.entries.erase key }.notify)) := by
  unfold finishResult at finished
  split at finished
  · cases finished
  · next e found =>
    split_ifs at finished with inactive failing later clean
    · cases finished
      exact ⟨e, found, by simpa using inactive, .inl ⟨failing, rfl⟩⟩
    · cases finished
      exact ⟨e, found, by simpa using inactive, .inr (.inl ⟨by simpa using failing, .inl later, rfl⟩)⟩
    · cases finished
      exact ⟨e, found, by simpa using inactive,
        .inr (.inr ⟨by simpa using failing, by omega, clean, rfl⟩)⟩
    · cases finished
      have none' : recheck = 0 := by omega
      subst none'
      exact ⟨e, found, by simpa using inactive,
        .inr (.inl ⟨by simpa using failing, .inr (by simpa using clean), rfl⟩)⟩

/-- An action that works on a key can end. -/
theorem finishResult_isSome {failed : Bool} {recheck : Nat} (found : q.find? key = some e)
    (active : e.active = true) : (q.finishResult limits key failed recheck now).isSome = true := by
  rw [finishResult, found]
  dsimp only
  rw [if_neg (by rw [active]; exact Bool.true_eq_false_eq_False)]
  split_ifs <;> rfl

theorem Sound.finishResult (sound : q.Sound) (valid : limits.Valid) {q' : KeyQueue} {failed : Bool}
    {recheck : Nat} (finished : q.finishResult limits key failed recheck now = some q') :
    q'.Sound := by
  obtain ⟨e, found, active, cases'⟩ := finishResult_cases finished
  have name : e.key = key := sound.named found
  subst name
  have busy : ∀ old, q.find? e.key = some old → old.active = true := by
    intro old found'
    rw [found] at found'
    cases found'
    exact active
  have room : q.find? e.key = none → size q.entries < q.capacity := by
    intro missing
    rw [found] at missing
    cases missing
  obtain ⟨-, rfl⟩ | ⟨-, -, rfl⟩ | ⟨-, -, -, rfl⟩ := cases'
  · refine sound.push (e := { e with active := false, delay := _, due := _ }) rfl busy room ?_
    have positive : 0 < nextDelay limits.minimum limits.maximum e.delay :=
      valid.positive.trans_le (nextDelay_bounds valid.ordered _).1
    simp [share, KeyEntry.retries, positive]
  · refine sound.push_idle (e := { e with active := false, delay := 0, due := _ }) rfl busy room ?_
    simp [share, KeyEntry.retries]
  · have gone : ∀ p : KeyEntry → Bool, p e = false →
        tally p (q.entries.erase e.key) = tally p q.entries := by
      intro p off
      have erased : tally p (q.entries.erase e.key) + share p (q.find? e.key) = _ := tally_erase
      rw [found, share, off, if_neg Bool.false_ne_true] at erased
      exact erased
    refine Sound.notify
      { named := ?_, issued := ?_, apart := ?_, once := sound.once, heap := ?_, count := ?_,
        retries := ?_, bound := size_erase_le.trans sound.bound }
    · intro k x found'
      rw [find?_erase] at found'
      split_ifs at found'
      exact sound.named found'
    · intro k x found'
      rw [find?_erase] at found'
      split_ifs at found'
      exact sound.issued found'
    · intro k k' x x' found' found'' orders
      rw [find?_erase] at found' found''
      split_ifs at found' found''
      exact sound.apart found' found'' orders
    · intro k
      rw [find?_erase]
      split_ifs with same
      · constructor
        · intro member
          rw [same] at member
          rw [sound.idle_of_pending member found] at active
          cases active
        · rintro ⟨x, never, -⟩
          cases never
      · exact sound.heap k
    · exact sound.count.trans (gone _ (by rw [KeyEntry.idle, active]; rfl)).symm
    · rw [gone _ (by rw [KeyEntry.retries, active]; rfl)]
      exact sound.retries

/-- What a restart makes of an entry: an action that was cut off counts as failed. -/
def resumed (limits : RetryLimits) (now : Nat) (e : KeyEntry) : KeyEntry :=
  if e.active = false then e
  else
    { e with
      active := false
      dirty := true
      delay := nextDelay limits.minimum limits.maximum e.delay
      due := now + nextDelay limits.minimum limits.maximum e.delay }

theorem resumed_active : (resumed limits now e).active = false := by
  unfold resumed
  split_ifs with idle
  · exact idle
  · rfl

theorem resumed_idle (idle : e.active = false) : resumed limits now e = e := if_pos idle

theorem find?_resume (sound : q.Sound) (k : String) : (resume limits now q key).find? k =
    if k = key then (q.find? k).map (resumed limits now) else q.find? k := by
  unfold resume
  split
  · next missing =>
    split_ifs with same
    · rw [same, missing]
      rfl
    · rfl
  · next e found =>
    have name : e.key = key := sound.named found
    split_ifs with idle same same
    · rw [same, found, Option.map_some, resumed_idle idle]
    · rfl
    · rw [same, found, Option.map_some, resumed, if_neg idle, ← name]
      exact find?_store_self
    · refine find?_store_other ?_
      rw [← name] at same
      exact same

theorem Sound.resume (sound : q.Sound) (valid : limits.Valid) :
    (resume limits now q key).Sound := by
  unfold KeyQueue.resume
  split
  · exact sound
  · next e found =>
    split_ifs with idle
    · exact sound
    · have name : e.key = key := sound.named found
      subst name
      have active : e.active = true := by simpa using idle
      have absent : e.key ∉ q.pending := fun member => idle (sound.idle_of_pending member found)
      have positive : 0 < nextDelay limits.minimum limits.maximum e.delay :=
        valid.positive.trans_le (nextDelay_bounds valid.ordered _).1
      refine sound.replace
        (e := { e with active := false, dirty := true, delay := _, due := _ }) found rfl
        (List.nodup_cons.mpr ⟨absent, sound.once⟩) (fun k other => ?_) ?_ ?_ ?_
      · exact List.mem_cons.trans (or_iff_right other)
      · exact ⟨fun _ => rfl, fun _ => List.mem_cons_self⟩
      · simp [share, KeyEntry.idle, active]
      · simp [share, KeyEntry.retries, active, positive]

theorem resume_changed : (resume limits now q key).changed = q.changed ∧
    (resume limits now q key).capacity = q.capacity ∧ (resume limits now q key).next = q.next := by
  unfold resume
  split
  · exact ⟨rfl, rfl, rfl⟩
  · split_ifs <;> exact ⟨rfl, rfl, rfl⟩

/-- Every key of a list is resumed. -/
theorem foldl_resume (valid : limits.Valid) (keys : List String) (sound : q.Sound) :
    (keys.foldl (resume limits now) q).Sound ∧
      (keys.foldl (resume limits now) q).changed = q.changed ∧
      (keys.foldl (resume limits now) q).capacity = q.capacity ∧
      ∀ k, (keys.foldl (resume limits now) q).find? k =
        if k ∈ keys then (q.find? k).map (resumed limits now) else q.find? k := by
  induction keys generalizing q with
  | nil => exact ⟨sound, rfl, rfl, fun k => (if_neg List.not_mem_nil).symm⟩
  | cons key rest ih =>
    obtain ⟨changed, capacity, -⟩ := @resume_changed q key now limits
    have first : (resume limits now q key).Sound := sound.resume valid
    obtain ⟨later, changed', capacity', finds⟩ := ih first
    refine ⟨later, changed'.trans changed, capacity'.trans capacity, fun k => (finds k).trans ?_⟩
    rw [find?_resume sound]
    simp only [List.mem_cons]
    by_cases same : k = key
    · rw [if_pos same, if_pos (Or.inl same)]
      split_ifs
      · cases q.find? k with
        | none => rfl
        | some x => rw [Option.map_some, Option.map_some, resumed_idle resumed_active]
      · rfl
    · rw [if_neg same]
      simp only [same, false_or]

/-- **A restart** cuts off every action and keeps every key. -/
theorem restart_spec (sound : q.Sound) (valid : limits.Valid) :
    (q.restart limits now).Sound ∧ (q.restart limits now).changed = q.changed + 1 ∧
      (q.restart limits now).capacity = q.capacity ∧
      ∀ k, (q.restart limits now).find? k = (q.find? k).map (resumed limits now) := by
  have paused : ({ q with ready := false } : KeyQueue).Sound :=
    { sound with named := sound.named, issued := sound.issued, apart := sound.apart }
  obtain ⟨later, changed, capacity, finds⟩ := @foldl_resume _ now limits valid q.entries.keys paused
  refine ⟨later.notify, congrArg (· + 1) changed, capacity, fun k => (finds k).trans ?_⟩
  split_ifs with member
  · rfl
  · have missing : q.find? k = none := by
      rw [find?, AList.lookup_eq_none]
      exact member
    show q.find? k = _
    rw [missing]
    rfl

end

end KeyQueue

end Hypershell
