import Hypershell.Foundation.LoggedRuns
import Hypershell.Foundation.OrderedLocks
import Hypershell.Outbox.Queue

/-!
# Runs of the outbox

Transactions insert batches of messages and commit or roll back, one row after another and
side by side; and anyone claims, acknowledges, retries and purges at any time.

## Main definitions

* `Producer` — a transaction in `Enqueue`: its locks, and the rows that nobody else sees yet
* `OutboxRun`, `Step`, `Steps` — the table and those who use it, a step and a run
* `OutboxRun.Sound` — what the locks are for: a row that is not committed yet has a later place
  than any of its key that are, also in a snapshot

## Main results

* `Sound.step` — by cases over the steps
* `enqueue_advances` — producers never wait for one another in a circle

## Design notes

* The locks are those that `Enqueue` takes; a transaction that waits for anything else is one that
  takes no step.
* A token is drawn at random.  That none is drawn twice is part of the step.
-/

namespace Hypershell.Outbox

open Foundation

/-- A transaction, in `Enqueue`: the locks that it has and those it has yet to take, the rows that
it has inserted and the messages it has yet to. -/
inductive Producer
  | idle
  | working (held rest : List Int) (staged : List OutboxRow) (messages : List Message)

namespace Producer

def held : Producer → List Int
  | working held _ _ _ => held
  | idle => []

def staged : Producer → List OutboxRow
  | working _ _ staged _ => staged
  | idle => []

/-- The lock that it asks for. -/
def wants : Producer → Option Int
  | working _ (key :: _) _ _ => some key
  | _ => none

end Producer

/-- What happens to a message. -/
inductive OutboxNotice
  /-- It was committed. -/
  | queued (r : OutboxRow)
  /-- It was claimed.  The row is the one with the new lease. -/
  | claimed (r : OutboxRow)
  | acknowledged (receipt : Receipt) (r : OutboxRow)
  | retried (receipt : Receipt) (r : OutboxRow)
  /-- It was purged, for so many attempts. -/
  | purged (attempts : Nat) (r : OutboxRow)

/-- The row that a notice is about. -/
def OutboxNotice.row : OutboxNotice → OutboxRow
  | queued r => r
  | claimed r => r
  | acknowledged _ r => r
  | retried _ r => r
  | purged _ r => r

/-- The table and those who use it: `p` transactions and `c` claims at a time. -/
structure OutboxRun (p c : Nat) where
  clock : Nat
  /-- The last number that the sequence gave out. -/
  next : Nat
  rows : List OutboxRow
  producers : Fin p → Producer
  /-- What a claim sees that has begun. -/
  readers : Fin c → Option (List OutboxRow)
  /-- The tokens that were drawn. -/
  tokens : List UUID

namespace OutboxRun

variable {p c : Nat}

def new (p c now : Nat) : OutboxRun p c := ⟨now, 0, [], fun _ => .idle, fun _ => none, []⟩

/-- A row that is in the table, or will be if its transaction commits. -/
def Present (s : OutboxRun p c) (r : OutboxRow) : Prop :=
  r ∈ s.rows ∨ ∃ i, r ∈ (s.producers i).staged

/-- The transaction after its next statement. -/
def become (s : OutboxRun p c) (i : Fin p) (producer : Producer) : OutboxRun p c :=
  { s with producers := Function.update s.producers i producer }

def seeing (s : OutboxRun p c) (j : Fin c) (snapshot : Option (List OutboxRow)) : OutboxRun p c :=
  { s with readers := Function.update s.readers j snapshot }

/-- **One step**, at a time that is not before the last one. -/
inductive Step (lockOf : String × String → Int) :
    OutboxRun p c → List (Nat × OutboxNotice) → OutboxRun p c → Prop
  | enqueue {s : OutboxRun p c} {now : Nat} {i : Fin p} {messages : List Message}
      (later : s.clock ≤ now) (free : s.producers i = .idle) (checked : checkBatch messages = .ok ()) :
      Step lockOf s [] ({ s with clock := now }.become i
        (.working [] (lockKeys lockOf messages) [] messages))
  | lock {s : OutboxRun p c} {now : Nat} {i : Fin p} {held rest : List Int} {key : Int}
      {staged : List OutboxRow} {messages : List Message} (later : s.clock ≤ now)
      (working : s.producers i = .working held (key :: rest) staged messages)
      (free : ∀ j, j ≠ i → key ∉ (s.producers j).held) :
      Step lockOf s [] ({ s with clock := now }.become i
        (.working (held ++ [key]) rest staged messages))
  | insert {s : OutboxRun p c} {now : Nat} {i : Fin p} {held : List Int} {staged : List OutboxRow}
      {m : Message} {messages : List Message} (later : s.clock ≤ now)
      (working : s.producers i = .working held [] staged (m :: messages))
      (fresh : ∀ r, s.Present r → r.id ≠ m.id) :
      Step lockOf s [] ({ s with clock := now, next := s.next + 1 }.become i
        (.working held [] (staged ++ [m.row (s.next + 1) now]) messages))
  | commit {s : OutboxRun p c} {now : Nat} {i : Fin p} {held : List Int} {staged : List OutboxRow}
      (later : s.clock ≤ now) (working : s.producers i = .working held [] staged []) :
      Step lockOf s (staged.map fun r => (now, .queued r))
        ({ s with clock := now, rows := s.rows ++ staged }.become i .idle)
  | rollback {s : OutboxRun p c} {now : Nat} {i : Fin p} (later : s.clock ≤ now) :
      Step lockOf s [] ({ s with clock := now }.become i .idle)
  /-- A claim begins: the statement takes its snapshot. -/
  | read {s : OutboxRun p c} {now : Nat} {j : Fin c} (later : s.clock ≤ now) :
      Step lockOf s [] ({ s with clock := now }.seeing j (some s.rows))
  | claim {s : OutboxRun p c} {now : Nat} {j : Fin c} {snapshot : List OutboxRow} {token : UUID}
      {limit lease : Nat} {locked : Nat → Bool} (later : s.clock ≤ now)
      (reading : s.readers j = some snapshot) (limits : claimLimits limit lease = true)
      (drawn : token ∉ s.tokens) :
      Step lockOf s
        ((claim snapshot s.rows locked limit now token lease).2.map fun r => (now, .claimed r))
        ({ s with
            clock := now
            rows := (claim snapshot s.rows locked limit now token lease).1
            tokens := token :: s.tokens }.seeing j none)
  | acknowledge {s : OutboxRun p c} {now : Nat} {receipt : Receipt} {rows out : List OutboxRow}
      (later : s.clock ≤ now) (done : acknowledge s.rows receipt now = .ok (rows, out)) :
      Step lockOf s (out.map fun r => (now, .acknowledged receipt r))
        { s with clock := now, rows := rows }
  | retry {s : OutboxRun p c} {now delay : Nat} {receipt : Receipt} {code : String}
      {rows out : List OutboxRow} (later : s.clock ≤ now)
      (done : retry s.rows receipt delay code now = .ok (rows, out)) :
      Step lockOf s (out.map fun r => (now, .retried receipt r)) { s with clock := now, rows := rows }
  | purge {s : OutboxRun p c} {now limit attempts olderThan : Nat} {rows out : List OutboxRow}
      (later : s.clock ≤ now) (done : purge s.rows limit attempts olderThan now = .ok (rows, out)) :
      Step lockOf s (out.map fun r => (now, .purged attempts r))
        { s with clock := now, rows := rows }

/-- **A run**, and what happened in it. -/
abbrev Steps (lockOf : String × String → Int) :
    OutboxRun p c → List (Nat × OutboxNotice) → OutboxRun p c → Prop :=
  Logged.Run (Step lockOf)

/-! ### The order of a key -/

/-- **What the locks are for.** -/
structure Sound (lockOf : String × String → Int) (s : OutboxRun p c) : Prop where
  /-- Locks are taken in their order. -/
  ordered : ∀ {i held rest staged messages}, s.producers i = .working held rest staged messages →
    (held ++ rest).Pairwise (· < ·)
  /-- A transaction has or will have the locks of its messages. -/
  locks : ∀ {i held rest staged messages}, s.producers i = .working held rest staged messages →
    ∀ m ∈ messages, lockOf m.key ∈ held ++ rest
  held : ∀ {i r}, r ∈ (s.producers i).staged → lockOf r.key ∈ (s.producers i).held
  exclusive : ∀ {i j key}, key ∈ (s.producers i).held → key ∈ (s.producers j).held → i = j
  /-- What is not committed yet was not claimed. -/
  blank : ∀ {i r}, r ∈ (s.producers i).staged →
    r.attempts = 0 ∧ r.lease = none ∧ r.availableAt ≤ s.clock
  issued : ∀ {r}, s.Present r → r.sequence ≤ s.next
  /-- `PRIMARY KEY`. -/
  named : ∀ {r r'}, s.Present r → s.Present r' → r.id = r'.id → r.sequence = r'.sequence
  once : (s.rows.map fun r => r.sequence).Nodup
  onceStaged : ∀ i, ((s.producers i).staged.map fun r => r.sequence).Nodup
  apart : ∀ {i j r r'}, r ∈ (s.producers i).staged → r' ∈ (s.producers j).staged →
    r.sequence = r'.sequence → i = j
  /-- What is not committed yet is later. -/
  late : ∀ {i r r'}, r ∈ s.rows → r' ∈ (s.producers i).staged →
    r.sequence ≠ r'.sequence ∧ (r.key = r'.key → r.sequence < r'.sequence)
  seen : ∀ {j snapshot r}, s.readers j = some snapshot → r ∈ snapshot → r.sequence ≤ s.next
  same : ∀ {j snapshot r r'}, s.readers j = some snapshot → r ∈ snapshot → s.Present r' →
    r.sequence = r'.sequence → r.toLetter = r'.toLetter
  /-- And so is what a snapshot does not show. -/
  unseen : ∀ {j snapshot r r'}, s.readers j = some snapshot → r ∈ snapshot → s.Present r' →
    r.key = r'.key → (∃ old ∈ snapshot, old.toLetter = r'.toLetter) ∨ r.sequence < r'.sequence

section

variable {lockOf : String × String → Int} {s t : OutboxRun p c} {log news : List (Nat × OutboxNotice)}
  {i j : Fin p} {now : Nat} {producer : Producer}

theorem become_producers : (s.become i producer).producers j =
    if j = i then producer else s.producers j := Function.update_apply ..

theorem sound_new (now : Nat) : (new p c now).Sound lockOf := by
  have nobody : ∀ r, ¬(new p c now).Present r := by
    rintro r (here | ⟨i, here⟩) <;> cases here
  exact {
    ordered := fun working => by cases working
    locks := fun working => by cases working
    held := fun member => by cases member
    exclusive := fun member => by cases member
    blank := fun member => by cases member
    issued := fun present => absurd present (nobody _)
    named := fun present => absurd present (nobody _)
    once := List.nodup_nil
    onceStaged := fun _ => List.nodup_nil
    apart := fun member => by cases member
    late := fun member => by cases member
    seen := fun reading => by cases reading
    same := fun reading => by cases reading
    unseen := fun reading => by cases reading }

theorem lockKeys_pairwise (messages : List Message) :
    (lockKeys lockOf messages).Pairwise (· < ·) := Finset.sortedLT_sort _ |>.pairwise

theorem mem_lockKeys {messages : List Message} {m : Message} (member : m ∈ messages) :
    lockOf m.key ∈ lockKeys lockOf messages := by
  rw [lockKeys, Finset.mem_sort, List.mem_toFinset]
  exact List.mem_map_of_mem member

/-- Rows that are the same letters as before, each once, or are gone. -/
theorem Sound.settle (sound : s.Sound lockOf) (later : s.clock ≤ now) {rows : List OutboxRow} {tokens : List UUID}
    {readers : Fin c → Option (List OutboxRow)}
    (letters : ∀ r ∈ rows, ∃ old ∈ s.rows, old.toLetter = r.toLetter)
    (once : (rows.map fun r => r.sequence).Nodup)
    (reading : ∀ j snapshot, readers j = some snapshot → s.readers j = some snapshot) :
    (⟨now, s.next, rows, s.producers, readers, tokens⟩ : OutboxRun p c).Sound lockOf := by
  have present : ∀ {r}, (⟨now, s.next, rows, s.producers, readers, tokens⟩ : OutboxRun p c).Present r →
      ∃ old, s.Present old ∧ old.toLetter = r.toLetter := by
    rintro r (here | ⟨i, staged⟩)
    · obtain ⟨old, member, same⟩ := letters r here
      exact ⟨old, .inl member, same⟩
    · exact ⟨r, .inr ⟨i, staged⟩, rfl⟩
  exact {
    ordered := sound.ordered
    locks := sound.locks
    held := sound.held
    exclusive := sound.exclusive
    blank := fun member => by
      obtain ⟨attempts, lease, available⟩ := sound.blank member
      exact ⟨attempts, lease, available.trans later⟩
    issued := fun {r} here => by
      obtain ⟨old, before, same⟩ := present here
      have issued := sound.issued before
      rwa [show old.sequence = r.sequence from congrArg Letter.sequence same] at issued
    named := fun {r r'} here here' equal => by
      obtain ⟨old, before, same⟩ := present here
      obtain ⟨old', before', same'⟩ := present here'
      have named := sound.named before before'
      rw [same, same'] at named
      exact named equal
    once := once
    onceStaged := sound.onceStaged
    apart := sound.apart
    late := fun {i r r'} here staged => by
      obtain ⟨old, member, same⟩ := letters r here
      have late := sound.late member staged
      rwa [show old.sequence = r.sequence from congrArg Letter.sequence same,
        show old.key = r.key from congrArg Letter.key same] at late
    seen := fun here member => sound.seen (reading _ _ here) member
    same := fun {j snapshot r r'} here member later equal => by
      obtain ⟨old, before, same⟩ := present later
      rw [← same]
      refine sound.same (reading _ _ here) member before (equal.trans ?_)
      exact (congrArg Letter.sequence same).symm
    unseen := fun {j snapshot r r'} here member later equal => by
      obtain ⟨old, before, same⟩ := present later
      have unseen := sound.unseen (reading _ _ here) member before
        (equal.trans (congrArg Letter.key same).symm)
      rwa [same] at unseen }

/-- A transaction begins, takes a lock, or ends without a trace. -/
theorem Sound.become (sound : s.Sound lockOf) (later : s.clock ≤ now)
    (ordered : ∀ held rest staged messages, producer = .working held rest staged messages →
      (held ++ rest).Pairwise (· < ·) ∧ ∀ m ∈ messages, lockOf m.key ∈ held ++ rest)
    (staged : producer.staged = [] ∨ producer.staged = (s.producers i).staged)
    (kept : producer.staged ≠ [] → ∀ key ∈ (s.producers i).held, key ∈ producer.held)
    (exclusive : ∀ key ∈ producer.held, ∀ j, j ≠ i → key ∉ (s.producers j).held) :
    ({ s with clock := now }.become i producer).Sound lockOf := by
  have fewer : ∀ {j r}, r ∈ (({ s with clock := now }.become i producer).producers j).staged →
      r ∈ (s.producers j).staged := by
    intro j r member
    rw [become_producers] at member
    split_ifs at member with same
    · rcases staged with none' | old
      · rw [none'] at member
        cases member
      · rwa [old, ← same] at member
    · exact member
  have present : ∀ {r}, ({ s with clock := now }.become i producer).Present r → s.Present r := by
    rintro r (here | ⟨j, member⟩)
    · exact .inl here
    · exact .inr ⟨j, fewer member⟩
  exact {
    ordered := fun {j held rest rows messages} working => by
      rw [become_producers] at working
      split_ifs at working
      · exact (ordered _ _ _ _ working).1
      · exact sound.ordered working
    locks := fun {j held rest rows messages} working => by
      rw [become_producers] at working
      split_ifs at working
      · exact (ordered _ _ _ _ working).2
      · exact sound.locks working
    held := fun {j r} member => by
      have before := sound.held (fewer member)
      rw [become_producers] at member ⊢
      split_ifs at member ⊢ with same
      · rw [same] at before
        exact kept (List.ne_nil_of_mem member) _ before
      · exact before
    exclusive := fun {j j' key} first second => by
      rw [become_producers] at first second
      split_ifs at first second with same same' same'
      · rw [same, same']
      · exact absurd second (exclusive key first j' same')
      · exact absurd first (exclusive key second j same)
      · exact sound.exclusive first second
    blank := fun member => by
      obtain ⟨attempts, lease, available⟩ := sound.blank (fewer member)
      exact ⟨attempts, lease, available.trans later⟩
    issued := fun here => sound.issued (present here)
    named := fun here here' => sound.named (present here) (present here')
    once := sound.once
    onceStaged := fun j => by
      rw [become_producers]
      split_ifs
      · rcases staged with none' | old
        · rw [none']
          exact List.nodup_nil
        · rw [old]
          exact sound.onceStaged i
      · exact sound.onceStaged j
    apart := fun first second => sound.apart (fewer first) (fewer second)
    late := fun here member => sound.late here (fewer member)
    seen := sound.seen
    same := fun here member later => sound.same here member (present later)
    unseen := fun here member later => sound.unseen here member (present later) }

/-- A message is inserted: its row has the last place of all. -/
theorem Sound.insert (sound : s.Sound lockOf) {held : List Int} {staged : List OutboxRow} {m : Message}
    {messages : List Message} (working : s.producers i = .working held [] staged (m :: messages))
    (fresh : ∀ r, s.Present r → r.id ≠ m.id) (later : s.clock ≤ now) :
    ({ s with clock := now, next := s.next + 1 }.become i
      (.working held [] (staged ++ [m.row (s.next + 1) now]) messages)).Sound lockOf := by
  have mine : (s.producers i).staged = staged := by rw [working]; rfl
  have locked : (s.producers i).held = held := by rw [working]; rfl
  have more : ∀ {j r}, r ∈ (({ s with clock := now, next := s.next + 1 }.become i
      (.working held [] (staged ++ [m.row (s.next + 1) now]) messages)).producers j).staged →
      r ∈ (s.producers j).staged ∨ (j = i ∧ r = m.row (s.next + 1) now) := by
    intro j r member
    rw [become_producers] at member
    split_ifs at member with same
    · rcases List.mem_append.mp member with old | new'
      · rw [same, mine]
        exact .inl old
      · exact .inr ⟨same, List.mem_singleton.mp new'⟩
    · exact .inl member
  have present : ∀ {r}, ({ s with clock := now, next := s.next + 1 }.become i
      (.working held [] (staged ++ [m.row (s.next + 1) now]) messages)).Present r →
      s.Present r ∨ r = m.row (s.next + 1) now := by
    rintro r (here | ⟨j, member⟩)
    · exact .inl (.inl here)
    · exact (more member).imp (fun old => .inr ⟨j, old⟩) And.right
  have unissued : ∀ {r}, s.Present r → r.sequence < s.next + 1 := fun here =>
    Nat.lt_succ_of_le (sound.issued here)
  exact {
    ordered := fun {j held' rest rows messages'} working' => by
      rw [become_producers] at working'
      split_ifs at working'
      · cases working'
        exact sound.ordered working
      · exact sound.ordered working'
    locks := fun {j held' rest rows messages'} working' => by
      rw [become_producers] at working'
      split_ifs at working'
      · cases working'
        exact fun m' member => sound.locks working m' (List.mem_cons_of_mem _ member)
      · exact sound.locks working'
    held := fun {j r} member => by
      rcases more member with old | ⟨rfl, rfl⟩
      · have before := sound.held old
        rw [become_producers]
        split_ifs with same
        · rwa [same, locked] at before
        · exact before
      · rw [become_producers, if_pos rfl]
        have lock := sound.locks working m List.mem_cons_self
        rwa [List.append_nil] at lock
    exclusive := fun {j j' key} first second => by
      have same : ∀ {j}, key ∈ (({ s with clock := now, next := s.next + 1 }.become i
          (.working held [] (staged ++ [m.row (s.next + 1) now]) messages)).producers j).held →
          key ∈ (s.producers j).held := by
        intro j member
        rw [become_producers] at member
        split_ifs at member with same
        · rwa [same, locked]
        · exact member
      exact sound.exclusive (same first) (same second)
    blank := fun {j r} member => by
      rcases more member with old | ⟨rfl, rfl⟩
      · obtain ⟨attempts, lease, available⟩ := sound.blank old
        exact ⟨attempts, lease, available.trans later⟩
      · exact ⟨rfl, rfl, le_rfl⟩
    issued := fun {r} here => by
      rcases present here with old | rfl
      · exact (sound.issued old).trans (Nat.le_succ _)
      · exact le_rfl
    named := fun {r r'} here here' equal => by
      rcases present here with old | rfl <;> rcases present here' with old' | rfl
      · exact sound.named old old' equal
      · exact absurd equal (fresh _ old)
      · exact absurd equal.symm (fresh _ old')
      · rfl
    once := sound.once
    onceStaged := fun j => by
      rw [become_producers]
      split_ifs
      · show ((staged ++ [m.row (s.next + 1) now]).map fun r => r.sequence).Nodup
        rw [List.map_append, List.nodup_append]
        refine ⟨by rw [← mine]; exact sound.onceStaged i, List.nodup_singleton _, ?_⟩
        intro a old b new' same
        obtain ⟨r, member, rfl⟩ := List.mem_map.mp old
        rw [List.map_singleton, List.mem_singleton] at new'
        rw [← mine] at member
        exact absurd (same.trans new') (unissued (.inr ⟨i, member⟩)).ne
      · exact sound.onceStaged j
    apart := fun {j j' r r'} first second same => by
      rcases more first with old | ⟨rfl, rfl⟩ <;> rcases more second with old' | ⟨rfl, rfl⟩
      · exact sound.apart old old' same
      · exact absurd same (unissued (.inr ⟨_, old⟩)).ne
      · exact absurd same.symm (unissued (.inr ⟨_, old'⟩)).ne
      · rfl
    late := fun {j r r'} here member => by
      rcases more member with old | ⟨rfl, rfl⟩
      · exact sound.late here old
      · exact ⟨(unissued (.inl here)).ne, fun _ => unissued (.inl here)⟩
    seen := fun here member => (sound.seen here member).trans (Nat.le_succ _)
    same := fun {j snapshot r r'} here member later equal => by
      rcases present later with old | rfl
      · exact sound.same here member old equal
      · exact absurd equal (Nat.lt_succ_of_le (sound.seen here member)).ne
    unseen := fun {j snapshot r r'} here member later equal => by
      rcases present later with old | rfl
      · exact sound.unseen here member old equal
      · exact .inr (Nat.lt_succ_of_le (sound.seen here member)) }

/-- A transaction commits. -/
theorem Sound.commit (sound : s.Sound lockOf) {held : List Int} {staged : List OutboxRow}
    (working : s.producers i = .working held [] staged []) (later : s.clock ≤ now) :
    ({ s with clock := now, rows := s.rows ++ staged }.become i .idle).Sound lockOf := by
  have mine : (s.producers i).staged = staged := by rw [working]; rfl
  have others : ∀ {j r}, r ∈ (({ s with clock := now, rows := s.rows ++ staged }.become i
      .idle).producers j).staged → j ≠ i ∧ r ∈ (s.producers j).staged := by
    intro j r member
    rw [become_producers] at member
    split_ifs at member with same
    · cases member
    · exact ⟨same, member⟩
  have present : ∀ {r}, ({ s with clock := now, rows := s.rows ++ staged }.become i .idle).Present r →
      s.Present r := by
    rintro r (here | ⟨j, member⟩)
    · rcases List.mem_append.mp here with old | new'
      · exact .inl old
      · exact .inr ⟨i, by rwa [mine]⟩
    · exact .inr ⟨j, (others member).2⟩
  have holder : ∀ {j key}, key ∈ (({ s with clock := now, rows := s.rows ++ staged }.become i
      .idle).producers j).held → key ∈ (s.producers j).held := by
    intro j key member
    rw [become_producers] at member
    split_ifs at member
    · cases member
    · exact member
  exact {
    ordered := fun {j held' rest rows messages'} working' => by
      rw [become_producers] at working'
      split_ifs at working'
      exact sound.ordered working'
    locks := fun {j held' rest rows messages'} working' => by
      rw [become_producers] at working'
      split_ifs at working'
      exact sound.locks working'
    held := fun {j r} member => by
      obtain ⟨other, member⟩ := others member
      rw [become_producers, if_neg other]
      exact sound.held member
    exclusive := fun first second => sound.exclusive (holder first) (holder second)
    blank := fun member => by
      obtain ⟨attempts, lease, available⟩ := sound.blank (others member).2
      exact ⟨attempts, lease, available.trans later⟩
    issued := fun here => sound.issued (present here)
    named := fun here here' => sound.named (present here) (present here')
    once := by
      show ((s.rows ++ staged).map fun r => r.sequence).Nodup
      rw [List.map_append, List.nodup_append]
      refine ⟨sound.once, by rw [← mine]; exact sound.onceStaged i, ?_⟩
      intro a old b new' same
      obtain ⟨r, member, rfl⟩ := List.mem_map.mp old
      obtain ⟨r', member', rfl⟩ := List.mem_map.mp new'
      rw [← mine] at member'
      exact (sound.late member member').1 same
    onceStaged := fun j => by
      rw [become_producers]
      split_ifs
      · exact List.nodup_nil
      · exact sound.onceStaged j
    apart := fun first second => sound.apart (others first).2 (others second).2
    late := fun {j r r'} here member => by
      obtain ⟨other, member⟩ := others member
      rcases List.mem_append.mp here with old | new'
      · exact sound.late old member
      · rw [← mine] at new'
        refine ⟨fun same => other (sound.apart member new' same.symm), fun same => ?_⟩
        -- Both hold the lock of the key.
        have lock := sound.held new'
        rw [same] at lock
        exact absurd (sound.exclusive (sound.held member) lock) other
    seen := sound.seen
    same := fun here member later => sound.same here member (present later)
    unseen := fun here member later => sound.unseen here member (present later) }

/-- A claim takes its snapshot. -/
theorem Sound.read (sound : s.Sound lockOf) (j : Fin c) (later : s.clock ≤ now) :
    ({ s with clock := now }.seeing j (some s.rows)).Sound lockOf := by
  have reads : ∀ {k snapshot}, ({ s with clock := now }.seeing j (some s.rows)).readers k =
      some snapshot → snapshot = s.rows ∨ s.readers k = some snapshot := by
    intro k snapshot reading
    have here : (if k = j then some s.rows else s.readers k) = some snapshot :=
      (Function.update_apply ..).symm.trans reading
    split_ifs at here
    · exact .inl (Option.some.inj here).symm
    · exact .inr here
  have itself : ∀ {r r'}, r ∈ s.rows → s.Present r' → r.sequence = r'.sequence → r = r' := by
    rintro r r' member (here | ⟨i, staged⟩) equal
    · exact List.inj_on_of_nodup_map sound.once member here equal
    · exact absurd equal (sound.late member staged).1
  exact {
    ordered := sound.ordered
    locks := sound.locks
    held := sound.held
    exclusive := sound.exclusive
    blank := fun member => by
      obtain ⟨attempts, lease, available⟩ := sound.blank member
      exact ⟨attempts, lease, available.trans later⟩
    issued := sound.issued
    named := sound.named
    once := sound.once
    onceStaged := sound.onceStaged
    apart := sound.apart
    late := sound.late
    seen := fun {k snapshot r} here member => by
      rcases reads here with rfl | old
      · exact sound.issued (.inl member)
      · exact sound.seen old member
    same := fun {k snapshot r r'} here member later equal => by
      rcases reads here with rfl | old
      · rw [itself member later equal]
      · exact sound.same old member later equal
    unseen := fun {k snapshot r r'} here member later equal => by
      rcases reads here with rfl | old
      · rcases later with here' | ⟨i, staged⟩
        · exact .inl ⟨r', here', rfl⟩
        · exact .inr ((sound.late member staged).2 equal)
      · exact sound.unseen old member later equal }

/-- Rows that are updated keep their places. -/
theorem once_map {rows : List OutboxRow} {f : OutboxRow → OutboxRow}
    (letters : ∀ r, (f r).toLetter = r.toLetter) (once : (rows.map fun r => r.sequence).Nodup) :
    ((rows.map f).map fun r => r.sequence).Nodup := by
  rw [List.map_map]
  have same : (fun r : OutboxRow => r.sequence) ∘ f = fun r => r.sequence := by
    funext r
    exact congrArg Letter.sequence (letters r)
  rwa [same]

theorem once_filter {rows : List OutboxRow} {f : OutboxRow → Bool}
    (once : (rows.map fun r => r.sequence).Nodup) :
    ((rows.filter f).map fun r => r.sequence).Nodup :=
  once.sublist (List.filter_sublist.map _)

section

variable {code : String} {due expiry : Nat} {token : UUID} {receipt : Receipt} {taken : OutboxRow → Bool}
  {r : OutboxRow} {rows : List OutboxRow}

/-- A row that a retry may have returned is the same letter. -/
theorem letter_returned : (if r.heldBy receipt now = true then r.returned code due else r).toLetter =
    r.toLetter := by
  split_ifs <;> rfl

/-- A row that a claim may have leased is the same letter. -/
theorem letter_leased : (if taken r = true then r.leased token expiry else r).toLetter =
    r.toLetter := by
  split_ifs <;> rfl

theorem mem_returned (member : r ∈ rows.map fun r =>
      if r.heldBy receipt now = true then r.returned code due else r) :
    ∃ old ∈ rows, old.toLetter = r.toLetter := by
  obtain ⟨old, before, rfl⟩ := List.mem_map.mp member
  exact ⟨old, before, letter_returned.symm⟩

end

/-- **Every step keeps what the locks are for.** -/
theorem Sound.step (sound : s.Sound lockOf) (step : Step lockOf s news t) : t.Sound lockOf := by
  cases step with
  | @enqueue now i messages later free checked =>
    refine sound.become later (fun held rest staged messages' shape => ?_) (.inl rfl)
      (fun never => absurd rfl never) fun key never => absurd never List.not_mem_nil
    cases shape
    rw [List.nil_append]
    exact ⟨lockKeys_pairwise messages, fun m => mem_lockKeys⟩
  | @lock now i held rest key staged messages later working free =>
    have mine : (s.producers i).held = held := by rw [working]; rfl
    refine sound.become later (fun held' rest' staged' messages' shape => ?_) (.inr ?_) (fun _ k member => ?_)
      fun k member j other => ?_
    · cases shape
      rw [List.append_assoc]
      exact ⟨sound.ordered working, sound.locks working⟩
    · rw [working]
      rfl
    · rw [mine] at member
      exact List.mem_append_left _ member
    · rcases List.mem_append.mp member with old | new'
      · rw [← mine] at old
        exact fun held' => other (sound.exclusive held' old)
      · rw [List.mem_singleton.mp new']
        exact free j other
  | insert later working fresh => exact sound.insert working fresh later
  | commit later working => exact sound.commit working later
  | rollback later =>
    refine sound.become later (fun held rest staged messages shape => ?_) (.inl rfl)
      (fun never => absurd rfl never) fun key never => absurd never List.not_mem_nil
    cases shape
  | read later => exact sound.read _ later
  | @claim now j snapshot token limit lease locked later reading limits drawn =>
    refine sound.settle later (fun r member => ?_) (once_map (fun r => letter_leased) sound.once)
      fun k snapshot here => ?_
    · rcases mem_claim.mp member with ⟨old, before, -, rfl⟩ | ⟨old, -⟩
      · exact ⟨old, before, (leased_letter _).symm⟩
      · exact ⟨r, old, rfl⟩
    · have here : (if k = j then none else s.readers k) = some snapshot :=
        (Function.update_apply ..).symm.trans here
      split_ifs at here
      exact here
  | acknowledge later done =>
    obtain ⟨rfl, -⟩ := acknowledge_spec done
    exact sound.settle later (fun r member => ⟨r, List.mem_of_mem_filter member, rfl⟩)
      (once_filter sound.once) fun _ _ => id
  | retry later done =>
    obtain ⟨-, rfl, -⟩ := retry_spec done
    exact sound.settle later (fun r => mem_returned) (once_map (fun r => letter_returned) sound.once)
      fun _ _ => id
  | purge later done =>
    obtain ⟨gone, rfl, -, -, -⟩ := purge_spec done
    exact sound.settle later (fun r member => ⟨r, List.mem_of_mem_filter member, rfl⟩)
      (once_filter sound.once) fun _ _ => id

theorem Sound.steps (sound : s.Sound lockOf) (steps : Steps lockOf s log t) : t.Sound lockOf :=
  Logged.Run.invariant (fun sound step => sound.step step) sound steps

/-! ### Nobody waits in a circle -/

/-- **Producers never wait for one another in a circle.**  In every run, if transactions are in
`Enqueue`, one of them does not wait for a lock of another. -/
theorem enqueue_advances {start : Nat} (steps : Steps lockOf (new p c start) log s)
    (atWork : ∃ i, s.producers i ≠ .idle) :
    ∃ i, s.producers i ≠ .idle ∧
      ¬OrderedLocks.Waits (fun i key => key ∈ (s.producers i).held) (fun i => (s.producers i).wants) i := by
  have sound : s.Sound lockOf := (sound_new start).steps steps
  refine OrderedLocks.exists_not_waiting (fun i wanted asks key member => ?_) atWork fun i key member => ?_
  · cases shape : s.producers i with
    | idle =>
      rw [shape] at asks
      cases asks
    | working held rest staged messages =>
      rw [shape] at asks member
      cases rest with
      | nil => cases asks
      | cons key' rest =>
        cases asks
        have ordered := sound.ordered shape
        exact (List.pairwise_append.mp ordered).2.2 key member wanted List.mem_cons_self
  · intro idle
    rw [idle] at member
    cases member

end

/-- A message and a token. -/
def oneMessage : Message :=
  ⟨⟨List.replicate 16 1, List.length_replicate⟩, "kafka", "a", "created",
    2, true, [.opening .object, .closing .object]⟩

def oneToken (byte : UInt8) : UUID := ⟨List.replicate 16 byte, List.length_replicate⟩

/-- Every key has one lock. -/
def oneLock : String × String → Int := fun _ => 0

/-- A transaction that inserts the message. -/
def oneEnqueued : OutboxRun 1 1 :=
  (new 1 1 0).become 0 (.working [] (lockKeys oneLock [oneMessage]) [] [oneMessage])

theorem steps_oneEnqueued : Steps oneLock (new 1 1 0) [] oneEnqueued := by
  have checked : checkBatch [oneMessage] = .ok () := by decide
  exact .single (.enqueue (i := 0) le_rfl rfl checked)

theorem enqueue_advances_one : ∃ i, oneEnqueued.producers i ≠ .idle ∧
    ¬OrderedLocks.Waits (fun i key => key ∈ (oneEnqueued.producers i).held)
      (fun i => (oneEnqueued.producers i).wants) i := by
  refine enqueue_advances steps_oneEnqueued ⟨0, ?_⟩
  rw [oneEnqueued, become_producers, if_pos rfl]
  intro never
  cases never

/-- The row of the message, and its lease. -/
def oneRow : OutboxRow := oneMessage.row 1 0

theorem steps_oneCommitted : ∃ s : OutboxRun 1 1,
    Steps oneLock (new 1 1 0) [(0, .queued oneRow)] s ∧
    s.rows = [oneRow] ∧ s.clock = 0 ∧ s.tokens = [] := by
  have keys : lockKeys oneLock [oneMessage] = [0] := Finset.sort_singleton _ _
  have begun := steps_oneEnqueued
  rw [oneEnqueued, keys] at begun
  have alone : ∀ j : Fin 1, j ≠ 0 → (0 : Int) ∉ (((new 1 1 0).become 0
      (.working [] [0] [] [oneMessage])).producers j).held :=
    fun j other => absurd (Subsingleton.elim j 0) other
  have locked := begun.tail (.lock (i := 0) le_rfl rfl alone)
  have inserted := locked.tail (.insert (i := 0) le_rfl rfl ?_)
  · have done := inserted.tail (.commit (i := 0) le_rfl rfl)
    exact ⟨_, done, rfl, rfl, rfl⟩
  · rintro r (never | ⟨i, never⟩)
    · cases never
    · rw [Subsingleton.elim i 0] at never
      cases never
/-- A row alone in the table is claimed. -/
theorem claim_alone {s : OutboxRun 1 1} {x : OutboxRow} (now : Nat) {token : UUID}
    (alone : s.rows = [x]) (ready : x.available now = true) (later : s.clock ≤ now)
    (drawn : token ∉ s.tokens) : ∃ t : OutboxRun 1 1,
    Steps oneLock s [(now, .claimed (x.leased token (now + 1000000000)))] t ∧
      t.rows = [x.leased token (now + 1000000000)] ∧ t.clock = now ∧ t.tokens = token :: s.tokens := by
  have leads : x.leads [x] = true := by
    refine leads_iff.mpr fun other member _ => ?_
    rw [List.mem_singleton.mp member]
  have chosen : readyRows [x] [x] (fun _ => false) 1 now = [x] := by
    have kept : [x].filter (fun m => m.available now && m.leads [x]) = [x] := by
      rw [List.filter_singleton, ready, leads]
      rfl
    rw [readyRows, kept, bySequence, sorted_short le_rfl]
    simp [ready]
  have claimed : claim [x] [x] (fun _ => false) 1 now token 1000000000 =
      ([x.leased token (now + 1000000000)], [x.leased token (now + 1000000000)]) := by
    rw [claim, chosen]
    simp [among, milliseconds, OutboxRow.leased]
  have reading : Steps oneLock s [] ({ s with clock := now }.seeing 0 (some [x])) := by
    rw [← alone]
    exact .single (.read later)
  have done := reading.tail (@Step.claim 1 1 oneLock _ now 0 [x] token 1 1000000000 (fun _ => false)
    le_rfl rfl (by decide) drawn)
  have rows : ({ s with clock := now }.seeing 0 (some [x])).rows = [x] := alone
  rw [rows, claimed] at done
  exact ⟨_, done, rfl, rfl, rfl⟩

theorem steps_oneClaimed : ∃ s : OutboxRun 1 1,
    Steps oneLock (new 1 1 0) [(0, .queued oneRow),
      (0, .claimed (oneRow.leased (oneToken 2) 1000000000))] s ∧
    s.rows = [oneRow.leased (oneToken 2) 1000000000] ∧ s.clock = 0 ∧ s.tokens = [oneToken 2] := by
  obtain ⟨s, steps, rows, clock, tokens⟩ := steps_oneCommitted
  have drawn : oneToken 2 ∉ s.tokens := by
    rw [tokens]
    exact List.not_mem_nil
  obtain ⟨t, more, rows', clock', tokens'⟩ := claim_alone 0 rows (by decide) clock.le drawn
  rw [tokens] at tokens'
  exact ⟨t, steps.trans more, rows', clock', tokens'⟩

end OutboxRun

end Hypershell.Outbox
