import Hypershell.Outbox.QueueRuns

/-!
# What the outbox promises

Of a message that was committed the log says what became of it: it was claimed, perhaps
several times, and at last acknowledged or purged, or it is still in the table.

## Main definitions

* `queued?`, `removed?`, `claims` — what a notice says of a message
* `Told` — the table is what the log says it is

## Main results

* `queue_kept` — no message is lost, and none is there twice
* `queue_fifo` — the messages of a key are claimed in their order
* `queue_leases` — one lease on a message at a time
* `queue_receipts` — a receipt counts while its own lease runs
* `queue_blocked` — what leads its key is ready, or it is listed as blocked
-/

namespace Hypershell.Outbox.OutboxRun

open Foundation

variable {p c : Nat} {lockOf : String × String → Int} {s t : OutboxRun p c}
  {log news before after between : List (Nat × OutboxNotice)} {now : Nat} {r r' : OutboxRow}

/-! ### What a step says -/

/-- The message that a notice says was committed. -/
def queued? : Nat × OutboxNotice → Option Letter
  | (_, .queued r) => some r.toLetter
  | _ => none

/-- The message that a notice says has left the table. -/
def removed? : Nat × OutboxNotice → Option Letter
  | (_, .acknowledged _ r) => some r.toLetter
  | (_, .purged _ r) => some r.toLetter
  | _ => none

/-- A notice says that a message was claimed. -/
def claims (sequence : Nat) : Nat × OutboxNotice → Bool
  | (_, .claimed r) => decide (r.sequence = sequence)
  | _ => false

/-- A message has left the table. -/
def Removed (log : List (Nat × OutboxNotice)) (l : Letter) : Prop := l ∈ log.filterMap removed?

/-- What must hold of the table when a notice is written. -/
def Explained (s : OutboxRun p c) (t : Nat) : OutboxNotice → Prop
  | .queued r => ∃ i, r ∈ (s.producers i).staged
  | .claimed r => ∃ old ∈ s.rows, old.toLetter = r.toLetter ∧ old.available t = true ∧
      ∀ other, s.Present other → other.key = r.key → r.sequence ≤ other.sequence
  | .acknowledged receipt r => r ∈ s.rows ∧ r.heldBy receipt t = true
  | .retried receipt r => r ∈ s.rows ∧ r.heldBy receipt t = true
  | .purged attempts r => r ∈ s.rows ∧ 1 ≤ attempts ∧ attempts ≤ r.attempts

/-- A row that is claimed leads its key, in the table and among what is not committed yet. -/
theorem leads_of_ready (sound : s.Sound lockOf) {j : Fin c} {snapshot : List OutboxRow}
    {locked : Nat → Bool} {limit : Nat} (reading : s.readers j = some snapshot) (member : r ∈ s.rows)
    (taken : among (readyRows snapshot s.rows locked limit now) r = true) :
    r.available now = true ∧
      ∀ other, s.Present other → other.key = r.key → r.sequence ≤ other.sequence := by
  obtain ⟨m, chosen, equal⟩ := among_iff.mp taken
  obtain ⟨inside, leads, r', member', same, ready⟩ := readyRows_spec chosen
  have itself : r' = r := List.inj_on_of_nodup_map sound.once member' member (same.trans equal)
  subst itself
  refine ⟨ready, fun other present key => ?_⟩
  have letter : m.toLetter = r'.toLetter := sound.same reading inside (.inl member) equal
  have keys : m.key = other.key := (congrArg Letter.key letter).trans key.symm
  rw [← equal]
  rcases sound.unseen reading inside present keys with ⟨old, shown, letter'⟩ | later
  · have first := leads_iff.mp leads old shown ((congrArg Letter.key letter').trans keys.symm)
    rwa [show old.sequence = other.sequence from congrArg Letter.sequence letter'] at first
  · exact later.le

/-- **Every notice is explained** by the table before its step. -/
theorem explained_step (sound : s.Sound lockOf) (step : Step lockOf s news t)
    {x : Nat × OutboxNotice} (member : x ∈ news) : Explained s x.1 x.2 := by
  cases step with
  | commit later working =>
    obtain ⟨r, staged, rfl⟩ := List.mem_map.mp member
    exact ⟨_, by rw [working]; exact staged⟩
  | claim later reading limits drawn =>
    obtain ⟨r, delivered, rfl⟩ := List.mem_map.mp member
    obtain ⟨old, before, taken, rfl⟩ := mem_deliveries.mp delivered
    obtain ⟨ready, leads⟩ := leads_of_ready sound reading before taken
    exact ⟨old, before, rfl, ready, leads⟩
  | acknowledge later done =>
    obtain ⟨-, rfl⟩ := acknowledge_spec done
    obtain ⟨r, gone, rfl⟩ := List.mem_map.mp member
    exact List.mem_filter.mp gone
  | retry later done =>
    obtain ⟨-, -, rfl⟩ := retry_spec done
    obtain ⟨r, gone, rfl⟩ := List.mem_map.mp member
    exact List.mem_filter.mp gone
  | purge later done =>
    obtain ⟨dead, -, rfl, positive, enough⟩ := purge_spec done
    obtain ⟨r, gone, rfl⟩ := List.mem_map.mp member
    obtain ⟨inside, is⟩ := List.mem_filter.mp gone
    obtain ⟨m, member', same, tried⟩ := enough r is
    have itself : m = r := List.inj_on_of_nodup_map sound.once member' inside same
    rw [itself] at tried
    exact ⟨inside, positive, tried⟩
  | _ => cases member

/-! ### The table and the log -/

/-- **The table is what the log says it is.** -/
structure Told (log : List (Nat × OutboxNotice)) (s : OutboxRun p c) : Prop where
  issued : ∀ {l}, l ∈ log.filterMap queued? → l.sequence ≤ s.next
  fresh : ∀ {l i r}, l ∈ log.filterMap queued? → r ∈ (s.producers i).staged →
    l.sequence ≠ r.sequence
  once : ((log.filterMap queued?).map Letter.sequence).Nodup
  /-- What was committed is in the table, or has left it. -/
  conserved : (log.filterMap queued?).Perm (s.rows.map OutboxRow.toLetter ++ log.filterMap removed?)
  attempts : ∀ {r}, r ∈ s.rows → r.attempts = log.countP (claims r.sequence)
  claimed : ∀ {t r}, (t, .claimed r) ∈ log → r.toLetter ∈ log.filterMap queued? ∧
    ∃ token expiry, r.lease = some (token, expiry) ∧ token ∈ s.tokens
  /-- Since a row was claimed, nothing was said of it. -/
  latest : ∀ {r l}, r ∈ s.rows → r.lease = some l → ∃ before t after,
    log = before ++ (t, .claimed r) :: after ∧ ∀ x ∈ after, x.2.row.sequence ≠ r.sequence
  /-- Every other lease on a row has ended. -/
  ended : ∀ {before t r₀ after r}, log = before ++ (t, .claimed r₀) :: after → r ∈ s.rows →
    r.sequence = r₀.sequence → r = r₀ ∨ (∃ l, r₀.lease = some l ∧ l.2 ≤ s.clock) ∨
      ∃ t' receipt r', (t', .retried receipt r') ∈ after ∧ r'.sequence = r.sequence
  tokens : ∀ {t t' r r' token e e'}, (t, .claimed r) ∈ log → (t', .claimed r') ∈ log →
    r.lease = some (token, e) → r'.lease = some (token, e') → r.sequence = r'.sequence → r = r'
  /-- A message waits after a failure, or it may be claimed. -/
  waits : ∀ {r}, r ∈ s.rows → r.availableAt ≤ s.clock ∨ r.failureCode ≠ ""

theorem told_new (start : Nat) : Told [] (new p c start) where
  issued member := by cases member
  fresh member := by cases member
  once := List.nodup_nil
  conserved := List.Perm.refl _
  attempts member := by cases member
  claimed member := by cases member
  latest member := by cases member
  ended written := absurd written.symm (List.append_ne_nil_of_right_ne_nil _ (List.cons_ne_nil _ _))
  tokens member := by cases member
  waits member := by cases member

/-- An entry of a longer log is in the old part or in the new one. -/
theorem split_append {x : Nat × OutboxNotice} (written : log ++ news = before ++ x :: after) :
    (∃ rest, log = before ++ x :: rest ∧ after = rest ++ news) ∨
      ∃ front, before = log ++ front ∧ news = front ++ x :: after := by
  obtain ⟨front, rfl, later⟩ | ⟨rest, earlier, later⟩ := List.append_eq_append_iff.mp written
  · exact .inr ⟨front, rfl, later⟩
  · cases rest with
    | nil =>
      rw [List.append_nil] at earlier
      exact .inr ⟨[], by rw [earlier, List.append_nil], by simpa using later.symm⟩
    | cons y rest =>
      obtain ⟨rfl, rfl⟩ := List.cons_eq_cons.mp later
      exact .inl ⟨rest, earlier, rfl⟩

/-- Notices that do not concern a reader of the log. -/
theorem filterMap_append_silent {V : Type} {reads : Nat × OutboxNotice → Option V}
    {rows : List OutboxRow} {notice : OutboxRow → OutboxNotice}
    (silent : ∀ r, reads (now, notice r) = none) :
    (log ++ rows.map fun r => (now, notice r)).filterMap reads = log.filterMap reads := by
  rw [List.filterMap_append, List.filterMap_map]
  have none' : reads ∘ (fun r => (now, notice r)) = fun _ => none := by
    funext r
    exact silent r
  rw [none', List.filterMap_none, List.append_nil]

theorem countP_append_silent {counts : Nat × OutboxNotice → Bool} {rows : List OutboxRow}
    {notice : OutboxRow → OutboxNotice} (silent : ∀ r, counts (now, notice r) = false) :
    (log ++ rows.map fun r => (now, notice r)).countP counts = log.countP counts := by
  rw [List.countP_append, List.countP_map]
  have none' : counts ∘ (fun r => (now, notice r)) = fun _ => false := by
    funext r
    exact silent r
  rw [none', List.countP_false]
  rfl

/-- Nothing is said, and the table stays. -/
theorem Told.still (told : Told log s) (rows : t.rows = s.rows) (tokens : t.tokens = s.tokens)
    (next : s.next ≤ t.next) (clock : s.clock ≤ t.clock)
    (staged : ∀ i r, r ∈ (t.producers i).staged → (∃ j, r ∈ (s.producers j).staged) ∨
      s.next < r.sequence) : Told (log ++ []) t := by
  rw [List.append_nil]
  exact {
    issued := fun member => (told.issued member).trans next
    fresh := fun {l i r} member inside => by
      rcases staged i r inside with ⟨j, old⟩ | new'
      · exact told.fresh member old
      · exact ((told.issued member).trans_lt new').ne
    once := told.once
    conserved := by
      rw [rows]
      exact told.conserved
    attempts := fun member => told.attempts (rows ▸ member)
    claimed := fun member => by
      rw [tokens]
      exact told.claimed member
    latest := fun member => told.latest (rows ▸ member)
    ended := fun written member same => by
      rcases told.ended written (rows ▸ member) same with here | ⟨l, was, expired⟩ | returned
      · exact .inl here
      · exact .inr (.inl ⟨l, was, expired.trans clock⟩)
      · exact .inr (.inr returned)
    tokens := told.tokens
    waits := fun member => (told.waits (rows ▸ member)).imp_left fun due => due.trans clock }

/-- Of a row that stays, nothing is said. -/
theorem Told.latest_kept (told : Told log s) (member : r ∈ s.rows) {l : UUID × Nat}
    (has : r.lease = some l) (quiet : ∀ x ∈ news, x.2.row.sequence ≠ r.sequence) :
    ∃ before t after, log ++ news = before ++ (t, .claimed r) :: after ∧
      ∀ x ∈ after, x.2.row.sequence ≠ r.sequence := by
  obtain ⟨before, t, rest, rfl, silent⟩ := told.latest member has
  refine ⟨before, t, rest ++ news, by simp, fun x inside => ?_⟩
  rcases List.mem_append.mp inside with old | new'
  · exact silent x old
  · exact quiet x new'

/-- The leases on a row that stays have ended as before. -/
theorem Told.ended_kept (told : Told log s) {r₀ : OutboxRow} {rest : List (Nat × OutboxNotice)}
    {time clock : Nat} (written : log = before ++ (time, .claimed r₀) :: rest) (member : r ∈ s.rows)
    (same : r.sequence = r₀.sequence) (later : s.clock ≤ clock) :
    r = r₀ ∨ (∃ l, r₀.lease = some l ∧ l.2 ≤ clock) ∨
      ∃ t' receipt r', (t', OutboxNotice.retried receipt r') ∈ rest ++ news ∧
        r'.sequence = r.sequence := by
  rcases told.ended written member same with here | ⟨l, was, expired⟩ | ⟨t', receipt, r', inside, of⟩
  · exact .inl here
  · exact .inr (.inl ⟨l, was, expired.trans later⟩)
  · exact .inr (.inr ⟨t', receipt, r', List.mem_append_left _ inside, of⟩)

/-- Rows leave the table. -/
theorem Told.remove (told : Told log s) (sound : s.Sound lockOf) (later : s.clock ≤ now)
    {gone : OutboxRow → Bool} {notice : OutboxRow → OutboxNotice}
    (about : ∀ r, removed? (now, notice r) = some r.toLetter) (of : ∀ r, (notice r).row = r) :
    Told (log ++ (s.rows.filter gone).map fun r => (now, notice r))
      { s with clock := now, rows := s.rows.filter fun r => !gone r } := by
  have unqueued : ∀ r, queued? (now, notice r) = none := by
    intro r
    have is := about r
    cases shape : notice r <;> rw [shape] at is <;> first | rfl | cases is
  have unclaimed : ∀ k r, claims k (now, notice r) = false := by
    intro k r
    have is := about r
    cases shape : notice r <;> rw [shape] at is <;> first | rfl | cases is
  have queues : (log ++ (s.rows.filter gone).map fun r => (now, notice r)).filterMap queued? =
      log.filterMap queued? := filterMap_append_silent unqueued
  have old : ∀ {t r}, (t, OutboxNotice.claimed r) ∈ log ++ (s.rows.filter gone).map
      (fun r => (now, notice r)) → (t, OutboxNotice.claimed r) ∈ log := by
    intro t r member
    rcases List.mem_append.mp member with before | new'
    · exact before
    · obtain ⟨x, -, eq⟩ := List.mem_map.mp new'
      have never := unclaimed r.sequence x
      rw [eq, claims, decide_eq_false_iff_not] at never
      exact absurd rfl never
  have quiet : ∀ {r}, r ∈ s.rows → gone r = false →
      ∀ x ∈ (s.rows.filter gone).map (fun r => (now, notice r)), x.2.row.sequence ≠ r.sequence := by
    intro r member stays x inside equal
    obtain ⟨out, left, rfl⟩ := List.mem_map.mp inside
    obtain ⟨member', is⟩ := List.mem_filter.mp left
    rw [of] at equal
    rw [List.inj_on_of_nodup_map sound.once member' member equal, stays] at is
    cases is
  have stays : ∀ {r}, r ∈ s.rows.filter (fun r => !gone r) → r ∈ s.rows ∧ gone r = false := by
    intro r member
    obtain ⟨inside, is⟩ := List.mem_filter.mp member
    exact ⟨inside, by simpa using is⟩
  exact {
    issued := fun member => told.issued (queues ▸ member)
    fresh := fun member inside => told.fresh (queues ▸ member) inside
    once := by
      rw [queues]
      exact told.once
    conserved := by
      have removals : ((s.rows.filter gone).map fun r => (now, notice r)).filterMap removed? =
          (s.rows.filter gone).map OutboxRow.toLetter := by
        rw [List.filterMap_map, ← List.filterMap_eq_map]
        congr 1
        funext r
        exact about r
      rw [queues, List.filterMap_append, removals]
      refine told.conserved.trans ?_
      have parts := ((List.filter_append_perm gone s.rows).map OutboxRow.toLetter).symm
      rw [List.map_append] at parts
      refine (parts.append_right _).trans ?_
      rw [List.append_assoc]
      refine List.perm_append_comm.trans ?_
      rw [List.append_assoc]
    attempts := fun {r} member => by
      obtain ⟨inside, -⟩ := stays member
      rw [countP_append_silent (unclaimed r.sequence)]
      exact told.attempts inside
    claimed := fun member => by
      rw [queues]
      exact told.claimed (old member)
    latest := fun {r l} member has => by
      obtain ⟨inside, is⟩ := stays member
      exact told.latest_kept inside has (quiet inside is)
    ended := fun {before t r₀ after r} written member same => by
      obtain ⟨inside, is⟩ := stays member
      rcases split_append written with ⟨rest, earlier, rfl⟩ | ⟨front, -, new'⟩
      · exact told.ended_kept earlier inside same later
      · have here : (t, OutboxNotice.claimed r₀) ∈
            (s.rows.filter gone).map (fun r => (now, notice r)) := by
          rw [new']
          exact List.mem_append_right _ List.mem_cons_self
        exact absurd same.symm (quiet inside is _ here)
    tokens := fun member member' => told.tokens (old member) (old member')
    waits := fun member => (told.waits (stays member).1).imp_left fun due => due.trans later }

/-- A transaction commits. -/
theorem Told.commit (told : Told log s) (sound : s.Sound lockOf) (later : s.clock ≤ now) {i : Fin p}
    {held : List Int} {staged : List OutboxRow}
    (working : s.producers i = .working held [] staged []) :
    Told (log ++ staged.map fun r => (now, .queued r))
      ({ s with clock := now, rows := s.rows ++ staged }.become i .idle) := by
  have mine : (s.producers i).staged = staged := by rw [working]; rfl
  have queues : (log ++ staged.map fun r => (now, OutboxNotice.queued r)).filterMap queued? =
      log.filterMap queued? ++ staged.map OutboxRow.toLetter := by
    rw [List.filterMap_append, List.filterMap_map, ← List.filterMap_eq_map]
    rfl
  have removals : (log ++ staged.map fun r => (now, OutboxNotice.queued r)).filterMap removed? =
      log.filterMap removed? := filterMap_append_silent fun _ => rfl
  have old : ∀ {t r}, (t, OutboxNotice.claimed r) ∈ log ++ staged.map (fun r => (now, .queued r)) →
      (t, OutboxNotice.claimed r) ∈ log := by
    intro t r member
    rcases List.mem_append.mp member with before | new'
    · exact before
    · obtain ⟨x, -, eq⟩ := List.mem_map.mp new'
      cases eq
  have others : ∀ {j r}, r ∈ (({ s with clock := now, rows := s.rows ++ staged }.become i
      .idle).producers j).staged → j ≠ i ∧ r ∈ (s.producers j).staged := by
    intro j r member
    rw [become_producers] at member
    split_ifs at member with same
    · cases member
    · exact ⟨same, member⟩
  -- Of what was not committed yet nothing was said.
  have silent : ∀ {r}, r ∈ staged → ∀ {t r'}, (t, OutboxNotice.claimed r') ∈ log →
      r'.sequence ≠ r.sequence := by
    intro r member t r' claimed
    rw [← mine] at member
    exact told.fresh (told.claimed claimed).1 member
  exact {
    issued := fun {l} member => by
      rw [queues] at member
      rcases List.mem_append.mp member with before | new'
      · exact told.issued before
      · obtain ⟨r, inside, rfl⟩ := List.mem_map.mp new'
        exact sound.issued (.inr ⟨i, by rwa [mine]⟩)
    fresh := fun {l j r} member inside => by
      obtain ⟨other, inside⟩ := others inside
      rw [queues] at member
      rcases List.mem_append.mp member with before | new'
      · exact told.fresh before inside
      · obtain ⟨x, staged', rfl⟩ := List.mem_map.mp new'
        rw [← mine] at staged'
        exact fun same => other (sound.apart inside staged' same.symm)
    once := by
      rw [queues, List.map_append, List.nodup_append]
      refine ⟨told.once, ?_, ?_⟩
      · have once := sound.onceStaged i
        rw [mine] at once
        rwa [List.map_map]
      · intro a before b new' same
        obtain ⟨l, member, rfl⟩ := List.mem_map.mp before
        obtain ⟨l', member', rfl⟩ := List.mem_map.mp new'
        obtain ⟨r, inside, rfl⟩ := List.mem_map.mp member'
        rw [← mine] at inside
        exact told.fresh member inside same
    conserved := by
      rw [queues, removals]
      show List.Perm _ ((s.rows ++ staged).map _ ++ _)
      rw [List.map_append, List.append_assoc]
      refine (told.conserved.append_right _).trans ?_
      rw [List.append_assoc]
      exact List.perm_append_comm.append_left _
    attempts := fun {r} member => by
      rw [countP_append_silent fun _ => rfl]
      rcases List.mem_append.mp member with before | new'
      · exact told.attempts before
      · have zero : log.countP (claims r.sequence) = 0 := by
          refine List.countP_eq_zero.mpr fun x inside claim => ?_
          obtain ⟨t, notice⟩ := x
          cases notice with
          | claimed r' => exact silent new' inside (of_decide_eq_true claim)
          | _ => cases claim
        rw [zero]
        rw [← mine] at new'
        exact (sound.blank new').1
    claimed := fun member => by
      rw [queues]
      obtain ⟨queued, drawn⟩ := told.claimed (old member)
      exact ⟨List.mem_append_left _ queued, drawn⟩
    latest := fun {r l} member has => by
      rcases List.mem_append.mp member with before | new'
      · refine told.latest_kept before has fun x inside => ?_
        obtain ⟨r', staged', rfl⟩ := List.mem_map.mp inside
        rw [← mine] at staged'
        exact fun same => (sound.late before staged').1 same.symm
      · rw [← mine] at new'
        rw [(sound.blank new').2.1] at has
        cases has
    ended := fun {before t r₀ after r} written member same => by
      have claimed : (t, OutboxNotice.claimed r₀) ∈ log := by
        refine old ?_
        rw [written]
        exact List.mem_append_right _ List.mem_cons_self
      rcases List.mem_append.mp member with earlier | new'
      · rcases split_append written with ⟨rest, written', rfl⟩ | ⟨front, -, new'⟩
        · exact told.ended_kept written' earlier same later
        · have here : (t, OutboxNotice.claimed r₀) ∈ staged.map fun r => (now, .queued r) := by
            rw [new']
            exact List.mem_append_right _ List.mem_cons_self
          obtain ⟨x, -, eq⟩ := List.mem_map.mp here
          cases eq
      · exact absurd same.symm (silent new' claimed)
    tokens := fun member member' => told.tokens (old member) (old member')
    waits := fun {r} member => by
      rcases List.mem_append.mp member with before | new'
      · exact (told.waits before).imp_left fun due => due.trans later
      · rw [← mine] at new'
        exact .inl ((sound.blank new').2.2.trans later) }

/-- A receipt returns its row. -/
theorem Told.returned (told : Told log s) (sound : s.Sound lockOf) (later : s.clock ≤ now)
    {receipt : Receipt} {due : Nat} {code : String} (labelled : isLabel code = true) :
    Told (log ++ (s.rows.filter (OutboxRow.heldBy receipt now)).map fun r => (now, .retried receipt r))
      { s with
        clock := now
        rows := s.rows.map fun r => if r.heldBy receipt now = true then r.returned code due else r } := by
  have queues : (log ++ (s.rows.filter (OutboxRow.heldBy receipt now)).map fun r =>
      (now, OutboxNotice.retried receipt r)).filterMap queued? = log.filterMap queued? :=
    filterMap_append_silent fun _ => rfl
  have removals : (log ++ (s.rows.filter (OutboxRow.heldBy receipt now)).map fun r =>
      (now, OutboxNotice.retried receipt r)).filterMap removed? = log.filterMap removed? :=
    filterMap_append_silent fun _ => rfl
  have old : ∀ {t r}, (t, OutboxNotice.claimed r) ∈ log ++
      (s.rows.filter (OutboxRow.heldBy receipt now)).map (fun r => (now, .retried receipt r)) →
      (t, OutboxNotice.claimed r) ∈ log := by
    intro t r member
    rcases List.mem_append.mp member with before | new'
    · exact before
    · obtain ⟨x, -, eq⟩ := List.mem_map.mp new'
      cases eq
  -- A row afterwards is a row that stayed, or one that was returned.
  have row : ∀ {r}, r ∈ s.rows.map (fun r => if r.heldBy receipt now = true then
      r.returned code due else r) →
      (r ∈ s.rows ∧ r.heldBy receipt now = false) ∨
        ∃ x ∈ s.rows, x.heldBy receipt now = true ∧ r = x.returned code due := by
    intro r member
    obtain ⟨x, inside, rfl⟩ := List.mem_map.mp member
    split_ifs with held
    · exact .inr ⟨x, inside, held, rfl⟩
    · exact .inl ⟨inside, Bool.eq_false_iff.mpr held⟩
  have quiet : ∀ {r}, r ∈ s.rows → r.heldBy receipt now = false →
      ∀ x ∈ (s.rows.filter (OutboxRow.heldBy receipt now)).map fun r => (now,
        OutboxNotice.retried receipt r), x.2.row.sequence ≠ r.sequence := by
    intro r member stays x inside equal
    obtain ⟨out, left, rfl⟩ := List.mem_map.mp inside
    obtain ⟨member', is⟩ := List.mem_filter.mp left
    rw [List.inj_on_of_nodup_map sound.once member' member equal, stays] at is
    cases is
  exact {
    issued := fun member => told.issued (queues ▸ member)
    fresh := fun member inside => told.fresh (queues ▸ member) inside
    once := by
      rw [queues]
      exact told.once
    conserved := by
      rw [queues, removals]
      have letters : (s.rows.map fun r => if r.heldBy receipt now = true then
          r.returned code due else r).map OutboxRow.toLetter =
          s.rows.map OutboxRow.toLetter := by
        rw [List.map_map]
        refine List.map_congr_left fun r _ => ?_
        show OutboxRow.toLetter (if _ then _ else _) = _
        split_ifs <;> rfl
      show List.Perm _ ((s.rows.map _).map _ ++ _)
      rw [letters]
      exact told.conserved
    attempts := fun {r} member => by
      rw [countP_append_silent fun _ => rfl]
      rcases row member with ⟨inside, -⟩ | ⟨x, inside, -, rfl⟩
      · exact told.attempts inside
      · show x.attempts = log.countP (claims x.sequence)
        exact told.attempts inside
    claimed := fun member => by
      rw [queues]
      exact told.claimed (old member)
    latest := fun {r l} member has => by
      rcases row member with ⟨inside, stays⟩ | ⟨x, -, -, rfl⟩
      · exact told.latest_kept inside has (quiet inside stays)
      · cases has
    ended := fun {before t r₀ after r} written member same => by
      rcases split_append written with ⟨rest, earlier, rfl⟩ | ⟨front, -, new'⟩
      · rcases row member with ⟨inside, -⟩ | ⟨x, inside, held, rfl⟩
        · exact told.ended_kept earlier inside same later
        · refine .inr (.inr ⟨now, receipt, x, List.mem_append_right _ ?_, rfl⟩)
          exact List.mem_map.mpr ⟨x, List.mem_filter.mpr ⟨inside, held⟩, rfl⟩
      · have here : (t, OutboxNotice.claimed r₀) ∈
            (s.rows.filter (OutboxRow.heldBy receipt now)).map (fun r => (now, .retried receipt r)) := by
          rw [new']
          exact List.mem_append_right _ List.mem_cons_self
        obtain ⟨x, -, eq⟩ := List.mem_map.mp here
        cases eq
    tokens := fun member member' => told.tokens (old member) (old member')
    waits := fun {r} member => by
      rcases row member with ⟨inside, -⟩ | ⟨x, -, -, rfl⟩
      · exact (told.waits inside).imp_left fun due => due.trans later
      · refine .inr fun empty => ?_
        rw [show code = "" from empty] at labelled
        cases labelled }

theorem Told.retry (told : Told log s) (sound : s.Sound lockOf) (later : s.clock ≤ now)
    {receipt : Receipt} {delay : Nat} {code : String} {rows out : List OutboxRow}
    (done : Outbox.retry s.rows receipt delay code now = .ok (rows, out)) :
    Told (log ++ out.map fun r => (now, .retried receipt r)) { s with clock := now, rows := rows } := by
  obtain ⟨labelled, rfl, rfl⟩ := retry_spec done
  exact told.returned sound later labelled

/-- Each delivery of a claim is said once. -/
theorem countP_claimed {rows : List OutboxRow} {chosen : OutboxRow → Bool}
    (once : (rows.map fun r => r.sequence).Nodup) (member : r ∈ rows) (taken : chosen r = true) :
    ((rows.filter chosen).map fun r => (now, OutboxNotice.claimed r)).countP (claims r.sequence) = 1 := by
  have inside : r.sequence ∈ (rows.filter chosen).map fun r => r.sequence :=
    List.mem_map_of_mem (List.mem_filter.mpr ⟨member, taken⟩)
  have single := List.count_eq_one_of_mem (once_filter (f := chosen) once) inside
  rw [List.count, List.countP_map] at single
  rw [List.countP_map, ← single]
  refine List.countP_congr fun x _ => ?_
  show decide (x.sequence = r.sequence) = true ↔ (x.sequence == r.sequence) = true
  rw [decide_eq_true_iff, beq_iff_eq]

/-- A claim takes some rows. -/
theorem Told.claim (told : Told log s) (sound : s.Sound lockOf) (later : s.clock ≤ now)
    {chosen : Nat → Bool} {token : UUID} {expiry : Nat} {readers : Fin c → Option (List OutboxRow)}
    (ready : ∀ r ∈ s.rows, chosen r.sequence = true → r.available now = true)
    (drawn : token ∉ s.tokens) {rows : List OutboxRow}
    (renewed : rows = s.rows.map fun r =>
      if chosen r.sequence = true then r.leased token expiry else r) :
    Told (log ++ (rows.filter fun r => chosen r.sequence).map fun r => (now, .claimed r))
      ⟨now, s.next, rows, s.producers, readers, token :: s.tokens⟩ := by
  have queues : (log ++ (rows.filter fun r => chosen r.sequence).map fun r =>
      (now, OutboxNotice.claimed r)).filterMap queued? = log.filterMap queued? :=
    filterMap_append_silent fun _ => rfl
  have removals : (log ++ (rows.filter fun r => chosen r.sequence).map fun r =>
      (now, OutboxNotice.claimed r)).filterMap removed? = log.filterMap removed? :=
    filterMap_append_silent fun _ => rfl
  have letters : rows.map OutboxRow.toLetter = s.rows.map OutboxRow.toLetter := by
    rw [renewed, List.map_map]
    refine List.map_congr_left fun r _ => ?_
    show OutboxRow.toLetter (if _ then _ else _) = _
    split_ifs <;> rfl
  have once : (rows.map fun r => r.sequence).Nodup := by
    rw [renewed]
    refine once_map (fun r => ?_) sound.once
    split_ifs <;> rfl
  -- A row afterwards is a row that stayed, or one that was claimed.
  have row : ∀ {r}, r ∈ rows → (r ∈ s.rows ∧ chosen r.sequence = false) ∨
      ∃ x ∈ s.rows, chosen x.sequence = true ∧ r = x.leased token expiry := by
    intro r member
    rw [renewed] at member
    obtain ⟨x, inside, rfl⟩ := List.mem_map.mp member
    split_ifs with taken
    · exact .inr ⟨x, inside, taken, rfl⟩
    · exact .inl ⟨inside, Bool.eq_false_iff.mpr taken⟩
  have said : ∀ {t r}, (t, OutboxNotice.claimed r) ∈ log ++ (rows.filter fun r =>
      chosen r.sequence).map (fun r => (now, .claimed r)) → (t, OutboxNotice.claimed r) ∈ log ∨
      ∃ x ∈ s.rows, chosen x.sequence = true ∧ r = x.leased token expiry ∧ r ∈ rows := by
    intro t r member
    rcases List.mem_append.mp member with before | new'
    · exact .inl before
    · obtain ⟨x, left, eq⟩ := List.mem_map.mp new'
      cases eq
      obtain ⟨inside, taken⟩ := List.mem_filter.mp left
      rcases row inside with ⟨-, other⟩ | ⟨y, before, taken', same⟩
      · rw [other] at taken
        cases taken
      · exact .inr ⟨y, before, taken', same, inside⟩
  have quiet : ∀ {k}, chosen k = false → ∀ x ∈ (rows.filter fun r => chosen r.sequence).map
      (fun r => (now, OutboxNotice.claimed r)), x.2.row.sequence ≠ k := by
    intro k other x inside equal
    obtain ⟨out, left, rfl⟩ := List.mem_map.mp inside
    have is := (List.mem_filter.mp left).2
    rw [show out.sequence = k from equal, other] at is
    cases is
  exact {
    issued := fun member => told.issued (queues ▸ member)
    fresh := fun member inside => told.fresh (queues ▸ member) inside
    once := by
      rw [queues]
      exact told.once
    conserved := by
      rw [queues, removals]
      show List.Perm _ (rows.map _ ++ _)
      rw [letters]
      exact told.conserved
    attempts := fun {r} member => by
      rw [List.countP_append]
      rcases row member with ⟨inside, other⟩ | ⟨x, inside, taken, rfl⟩
      · have none' : ((rows.filter fun r => chosen r.sequence).map fun r =>
            (now, OutboxNotice.claimed r)).countP (claims r.sequence) = 0 := by
          refine List.countP_eq_zero.mpr fun y member' claim => ?_
          obtain ⟨out, -, rfl⟩ := List.mem_map.mp member'
          exact quiet other _ member' (of_decide_eq_true claim)
        rw [none', Nat.add_zero]
        exact told.attempts inside
      · have one := @countP_claimed now (x.leased token expiry) rows (fun r => chosen r.sequence) once
          member taken
        rw [one]
        exact congrArg (· + 1) (told.attempts inside)
    claimed := fun {t r} member => by
      rw [queues]
      rcases said member with before | ⟨x, inside, taken, rfl, -⟩
      · obtain ⟨queued, old, e, has, drawn'⟩ := told.claimed before
        exact ⟨queued, old, e, has, List.mem_cons_of_mem _ drawn'⟩
      · refine ⟨told.conserved.mem_iff.mpr (List.mem_append_left _ ?_), token, expiry, rfl,
          List.mem_cons_self⟩
        exact List.mem_map.mpr ⟨x, inside, rfl⟩
    latest := fun {r l} member has => by
      rcases row member with ⟨inside, other⟩ | ⟨x, inside, taken, rfl⟩
      · exact told.latest_kept inside has (quiet other)
      · have delivered : x.leased token expiry ∈ rows.filter fun r => chosen r.sequence :=
          List.mem_filter.mpr ⟨member, taken⟩
        obtain ⟨front, back, split⟩ := List.append_of_mem delivered
        have once' : ((rows.filter fun r => chosen r.sequence).map fun r => r.sequence).Nodup :=
          once_filter once
        rw [split, List.map_append, List.map_cons, List.nodup_append, List.nodup_cons] at once'
        refine ⟨log ++ front.map (fun r => (now, .claimed r)), now,
          back.map fun r => (now, .claimed r), ?_, fun y inside' equal => ?_⟩
        · rw [split, List.map_append, List.map_cons, List.append_assoc]
        · obtain ⟨out, later', rfl⟩ := List.mem_map.mp inside'
          refine once'.2.1.1 ?_
          rw [← equal]
          exact List.mem_map_of_mem (f := fun r : OutboxRow => r.sequence) later'
    ended := fun {before t r₀ after r} written member same => by
      rcases split_append written with ⟨rest, earlier, rfl⟩ | ⟨front, -, new'⟩
      · rcases row member with ⟨inside, -⟩ | ⟨x, inside, taken, rfl⟩
        · exact told.ended_kept earlier inside same later
        · -- The lease that was the latest has ended too.
          have kept := @Told.ended_kept _ _ _ _ ((rows.filter fun r => chosen r.sequence).map fun r =>
            (now, .claimed r)) _ _ told _ _ _ _ earlier inside same later
          rcases kept with rfl | expired | returned
          · obtain ⟨-, ends⟩ := available_iff.mp (ready x inside taken)
            have inLog : (t, OutboxNotice.claimed x) ∈ log := by
              rw [earlier]
              exact List.mem_append_right _ List.mem_cons_self
            obtain ⟨-, old, e, has, -⟩ := told.claimed inLog
            exact .inr (.inl ⟨_, has, ends old e has⟩)
          · exact .inr (.inl expired)
          · exact .inr (.inr returned)
      · have here : (t, OutboxNotice.claimed r₀) ∈ (rows.filter fun r => chosen r.sequence).map
            (fun r => (now, .claimed r)) := by
          rw [new']
          exact List.mem_append_right _ List.mem_cons_self
        obtain ⟨out, left, eq⟩ := List.mem_map.mp here
        cases eq
        exact .inl (List.inj_on_of_nodup_map once member (List.mem_of_mem_filter left) same)
    tokens := fun {t t' r r' k e e'} member member' has has' same => by
      rcases said member with before | ⟨x, -, -, rfl, inside⟩ <;>
        rcases said member' with before' | ⟨x', -, -, rfl, inside'⟩
      · exact told.tokens before before' has has' same
      · obtain ⟨-, old, d, has'', drawn'⟩ := told.claimed before
        cases has.symm.trans has''
        cases has'
        exact absurd drawn' drawn
      · obtain ⟨-, old, d, has'', drawn'⟩ := told.claimed before'
        cases has'.symm.trans has''
        cases has
        exact absurd drawn' drawn
      · exact List.inj_on_of_nodup_map once inside inside' same
    waits := fun {r} member => by
      rcases row member with ⟨inside, -⟩ | ⟨x, inside, -, rfl⟩
      · exact (told.waits inside).imp_left fun due => due.trans later
      · exact (told.waits inside).imp_left fun due => due.trans later }

/-- What is not committed yet after a step was so before, but for the row that was inserted. -/
theorem staged_step (step : Step lockOf s news t) {j : Fin p} (member : r ∈ (t.producers j).staged) :
    (∃ i, r ∈ (s.producers i).staged) ∨ r.sequence = s.next + 1 := by
  have other : ∀ {i producer} {s' : OutboxRun p c}, s'.producers = s.producers →
      r ∈ ((s'.become i producer).producers j).staged →
      r ∈ producer.staged ∨ ∃ i, r ∈ (s.producers i).staged := by
    intro i producer s' same inside
    rw [become_producers, same] at inside
    split_ifs at inside
    · exact .inl inside
    · exact .inr ⟨j, inside⟩
  cases step with
  | enqueue later free checked =>
    rcases other rfl member with never | old
    · cases never
    · exact .inl old
  | lock later working free =>
    rcases other rfl member with mine | old
    · exact .inl ⟨_, by rw [working]; exact mine⟩
    · exact .inl old
  | insert later working fresh =>
    rcases other rfl member with mine | old
    · rcases List.mem_append.mp mine with before | new'
      · exact .inl ⟨_, by rw [working]; exact before⟩
      · rw [List.mem_singleton.mp new']
        exact .inr rfl
    · exact .inl old
  | commit later working =>
    rcases other rfl member with never | old
    · cases never
    · exact .inl old
  | rollback later =>
    rcases other rfl member with never | old
    · cases never
    · exact .inl old
  | _ => exact .inl ⟨j, member⟩

/-- A row after a step was there before, but for the one that was inserted. -/
theorem present_step (step : Step lockOf s news t) (present : t.Present r) :
    (∃ old, s.Present old ∧ old.toLetter = r.toLetter) ∨ r.sequence = s.next + 1 := by
  rcases present with here | ⟨j, member⟩
  swap
  · exact (staged_step step member).imp_left fun staged => ⟨r, .inr staged, rfl⟩
  left
  cases step with
  | commit later working =>
    rcases List.mem_append.mp here with old | new'
    · exact ⟨r, .inl old, rfl⟩
    · exact ⟨r, .inr ⟨_, by rw [working]; exact new'⟩, rfl⟩
  | claim later reading limits drawn =>
    rcases mem_claim.mp here with ⟨old, member, -, rfl⟩ | ⟨old, -⟩
    · exact ⟨old, .inl member, rfl⟩
    · exact ⟨r, .inl old, rfl⟩
  | acknowledge later done =>
    obtain ⟨rfl, -⟩ := acknowledge_spec done
    exact ⟨r, .inl (List.mem_of_mem_filter here), rfl⟩
  | retry later done =>
    obtain ⟨-, rfl, -⟩ := retry_spec done
    obtain ⟨old, member, same⟩ := mem_returned here
    exact ⟨old, .inl member, same⟩
  | purge later done =>
    obtain ⟨gone, rfl, -, -, -⟩ := purge_spec done
    exact ⟨r, .inl (List.mem_of_mem_filter here), rfl⟩
  | _ => exact ⟨r, .inl here, rfl⟩

/-- **Every step keeps table and log in agreement.** -/
theorem Told.step (told : Told log s) (sound : s.Sound lockOf) (step : Step lockOf s news t) :
    Told (log ++ news) t := by
  have staged : ∀ i r, r ∈ (t.producers i).staged → (∃ j, r ∈ (s.producers j).staged) ∨
      s.next < r.sequence := fun i r member =>
    (staged_step step member).imp_right fun last => Nat.lt_of_succ_le last.ge
  cases step with
  | enqueue later free checked => exact told.still rfl rfl le_rfl later staged
  | lock later working free => exact told.still rfl rfl le_rfl later staged
  | insert later working fresh => exact told.still rfl rfl (Nat.le_succ _) later staged
  | commit later working => exact told.commit sound later working
  | rollback later => exact told.still rfl rfl le_rfl later staged
  | read later => exact told.still rfl rfl le_rfl later staged
  | @claim now j snapshot token limit lease locked later reading limits drawn =>
    exact @Told.claim _ _ _ _ _ _ told sound later
      (fun k => (readyRows snapshot s.rows locked limit now).any fun m => decide (m.sequence = k))
      token _ _ (fun r member taken => (leads_of_ready sound reading member taken).1) drawn _ rfl
  | acknowledge later done =>
    obtain ⟨rfl, rfl⟩ := acknowledge_spec done
    exact told.remove sound later (fun _ => rfl) fun _ => rfl
  | retry later done => exact told.retry sound later done
  | purge later done =>
    obtain ⟨gone, rfl, rfl, -, -⟩ := purge_spec done
    exact told.remove sound later (fun _ => rfl) fun _ => rfl

/-- **What was claimed is before all that is left of its key**, and all that will be. -/
def Ahead (log : List (Nat × OutboxNotice)) (s : OutboxRun p c) : Prop :=
  ∀ t r other, (t, .claimed r) ∈ log → s.Present other → other.key = r.key →
    r.sequence ≤ other.sequence

theorem Ahead.step (ahead : Ahead log s) (told : Told log s) (sound : s.Sound lockOf)
    (step : Step lockOf s news t) : Ahead (log ++ news) t := by
  intro time r other claimed present key
  have issued : r.sequence ≤ s.next := by
    rcases List.mem_append.mp claimed with old | new'
    · exact told.issued (told.claimed old).1
    · obtain ⟨before, member, letter, -, -⟩ := explained_step sound step new'
      rw [← congrArg Letter.sequence letter]
      exact sound.issued (.inl member)
  rcases present_step step present with ⟨before, was, letter⟩ | last
  · have key' : before.key = r.key := (congrArg Letter.key letter).trans key
    rw [← show before.sequence = other.sequence from congrArg Letter.sequence letter]
    rcases List.mem_append.mp claimed with old | new'
    · exact ahead time r before old was key'
    · obtain ⟨old, -, -, -, leads⟩ := explained_step sound step new'
      exact leads before was key'
  · rw [last]
    exact issued.trans (Nat.le_succ _)

/-- The table and the log of a run. -/
theorem told_steps {start : Nat} (steps : Steps lockOf (new p c start) log s) :
    s.Sound lockOf ∧ Told log s ∧ Ahead log s := by
  induction steps with
  | refl =>
    refine ⟨sound_new start, told_new start, fun t r other never => ?_⟩
    cases never
  | tail run last ih =>
    obtain ⟨sound, told, ahead⟩ := ih
    exact ⟨sound.step last, told.step sound last, ahead.step told sound last⟩

/-! ### What holds of every run -/

/-- A step says one thing of a message. -/
theorem news_once (sound : s.Sound lockOf) (step : Step lockOf s news t) :
    (news.map fun x => x.2.row.sequence).Nodup := by
  have named : ∀ {rows : List OutboxRow} {time : Nat} {notice : OutboxRow → OutboxNotice},
      (∀ r, (notice r).row = r) → (rows.map fun r => r.sequence).Nodup →
      ((rows.map fun r => (time, notice r)).map fun x => x.2.row.sequence).Nodup := by
    intro rows time notice of once
    rw [List.map_map]
    have same : (fun x : Nat × OutboxNotice => x.2.row.sequence) ∘ (fun r => (time, notice r)) =
        fun r => r.sequence := by
      funext r
      exact congrArg (fun r : OutboxRow => r.sequence) (of r)
    rwa [same]
  cases step with
  | @commit now i held staged later working =>
    refine named (fun _ => rfl) ?_
    have once := sound.onceStaged i
    rwa [working] at once
  | @claim now j snapshot token limit lease locked later reading limits drawn =>
    refine named (fun _ => rfl) (once_filter (once_map (fun r => ?_) sound.once))
    split_ifs <;> rfl
  | acknowledge later done =>
    obtain ⟨-, rfl⟩ := acknowledge_spec done
    exact named (fun _ => rfl) (once_filter sound.once)
  | retry later done =>
    obtain ⟨-, -, rfl⟩ := retry_spec done
    exact named (fun _ => rfl) (once_filter sound.once)
  | purge later done =>
    obtain ⟨gone, -, rfl, -, -⟩ := purge_spec done
    exact named (fun _ => rfl) (once_filter sound.once)
  | _ => exact List.nodup_nil

/-- A step that commits says nothing else. -/
theorem queued_step (step : Step lockOf s news t) {time : Nat} (member : (time, .queued r) ∈ news)
    {x : Nat × OutboxNotice} (other : x ∈ news) : ∃ r', x.2 = .queued r' := by
  cases step with
  | commit later working =>
    obtain ⟨r', -, rfl⟩ := List.mem_map.mp other
    exact ⟨r', rfl⟩
  | claim later reading limits drawn =>
    obtain ⟨r', -, eq⟩ := List.mem_map.mp member
    cases eq
  | acknowledge later done =>
    obtain ⟨r', -, eq⟩ := List.mem_map.mp member
    cases eq
  | retry later done =>
    obtain ⟨r', -, eq⟩ := List.mem_map.mp member
    cases eq
  | purge later done =>
    obtain ⟨r', -, eq⟩ := List.mem_map.mp member
    cases eq
  | _ => cases member

/-- Nothing is said of an earlier time. -/
theorem news_time (step : Step lockOf s news t) {x : Nat × OutboxNotice} (member : x ∈ news) :
    s.clock ≤ x.1 := by
  cases step with
  | commit later working =>
    obtain ⟨r', -, rfl⟩ := List.mem_map.mp member
    exact later
  | claim later reading limits drawn =>
    obtain ⟨r', -, rfl⟩ := List.mem_map.mp member
    exact later
  | acknowledge later done =>
    obtain ⟨r', -, rfl⟩ := List.mem_map.mp member
    exact later
  | retry later done =>
    obtain ⟨r', -, rfl⟩ := List.mem_map.mp member
    exact later
  | purge later done =>
    obtain ⟨r', -, rfl⟩ := List.mem_map.mp member
    exact later
  | _ => cases member

theorem Removed.append {l : Letter} (removed : Removed log l) (news : List (Nat × OutboxNotice)) :
    Removed (log ++ news) l := by
  unfold Removed at removed ⊢
  rw [List.filterMap_append]
  exact List.mem_append_left _ removed

/-- **No message is lost, and none is there twice.**  In every run, the messages that were
committed are those in the table and those that were acknowledged or purged, each of them once;
and what was purged had been claimed as often as the purge asks for. -/
theorem queue_kept {start : Nat} (steps : Steps lockOf (new p c start) log s) :
    (log.filterMap queued?).Perm (s.rows.map OutboxRow.toLetter ++ log.filterMap removed?) ∧
    ((log.filterMap queued?).map Letter.sequence).Nodup ∧
    ∀ before t attempts r after, log = before ++ (t, .purged attempts r) :: after →
      1 ≤ attempts ∧ attempts ≤ before.countP (claims r.sequence) := by
  obtain ⟨-, told, -⟩ := told_steps steps
  refine ⟨told.conserved, told.once, fun before t attempts r after written => ?_⟩
  obtain ⟨log₁, u, front, back, v, log₂, earlier, here, -, rfl, -⟩ := steps.split written
  obtain ⟨sound, told', -⟩ := told_steps earlier
  obtain ⟨member, positive, tried⟩ :=
    explained_step sound here (List.mem_append_right _ List.mem_cons_self)
  rw [told'.attempts member] at tried
  rw [List.countP_append]
  exact ⟨positive, tried.trans (Nat.le_add_right _ _)⟩

theorem queue_kept_one : ∃ s : OutboxRun 1 1, s.rows = [oneRow.leased (oneToken 2) 1000000000] ∧
    [oneRow.toLetter].Perm (s.rows.map OutboxRow.toLetter ++ []) := by
  obtain ⟨s, steps, rows, -⟩ := steps_oneClaimed
  exact ⟨s, rows, (queue_kept steps).1⟩

/-- **The messages of a key are claimed in their order.**  In every run, when a message is claimed
it has not left the table, and every message of its key with an earlier place that is ever
committed has been committed and has left the table. -/
theorem queue_fifo {start : Nat}
    (steps : Steps lockOf (new p c start) (before ++ (now, .claimed r) :: after) s) :
    ¬Removed before r.toLetter ∧
    ∀ t q, (t, .queued q) ∈ before ++ (now, .claimed r) :: after → q.key = r.key →
      q.sequence < r.sequence → Removed before q.toLetter := by
  obtain ⟨log₁, u, front, back, v, log₂, earlier, here, -, rfl, rfl⟩ := steps.split rfl
  obtain ⟨sound, told, -⟩ := told_steps earlier
  have inside : (now, OutboxNotice.claimed r) ∈ front ++ (now, .claimed r) :: back :=
    List.mem_append_right _ List.mem_cons_self
  have unqueued : ∀ {t q}, (t, OutboxNotice.queued q) ∉ front ++ (now, .claimed r) :: back := by
    intro t q queued
    obtain ⟨r', eq⟩ := queued_step here queued inside
    cases eq
  obtain ⟨old, member, letter, -, leads⟩ := explained_step sound here inside
  have once := told.once
  rw [(told.conserved.map Letter.sequence).nodup_iff, List.map_append, List.nodup_append] at once
  constructor
  · intro removed
    unfold Removed at removed
    rw [List.filterMap_append] at removed
    rcases List.mem_append.mp removed with before | front'
    · refine once.2.2 _ (List.mem_map_of_mem (List.mem_map_of_mem member)) _
        (List.mem_map_of_mem before) ?_
      exact congrArg Letter.sequence letter
    · -- A step that claims removes nothing.
      obtain ⟨x, among, removes⟩ := List.mem_filterMap.mp front'
      have once' := news_once sound here
      rw [List.map_append, List.map_cons, List.nodup_append] at once'
      refine once'.2.2 _ (List.mem_map_of_mem among) _ List.mem_cons_self ?_
      obtain ⟨t, notice⟩ := x
      cases notice <;> first | cases removes | exact congrArg Letter.sequence (Option.some.inj removes)
  · intro t q queued key earlierPlace
    rcases List.mem_append.mp queued with before | later
    · rcases List.mem_append.mp before with old' | front'
      · have kept := told.conserved.mem_iff.mp
          (List.mem_filterMap.mpr ⟨_, old', (rfl : queued? (t, .queued q) = some q.toLetter)⟩)
        rcases List.mem_append.mp kept with stays | gone
        · obtain ⟨x, present, same⟩ := List.mem_map.mp stays
          have first := leads x (.inl present) ((congrArg Letter.key same).trans key)
          rw [show x.sequence = q.sequence from congrArg Letter.sequence same] at first
          exact absurd first (Nat.not_le.mpr earlierPlace)
        · exact Removed.append gone front
      · exact absurd (List.mem_append_left _ front') unqueued
    · -- Whatever is committed later has a later place.
      obtain ⟨a, b, split⟩ := List.append_of_mem later
      have written : log₁ ++ front ++ (now, .claimed r) :: (back ++ log₂) =
          (log₁ ++ front ++ a) ++ (t, .queued q) :: b := by
        rw [split, List.append_assoc _ a]
      obtain ⟨log₃, w, front', back', x, log₄, earlier', here', -, split', -⟩ := steps.split written
      obtain ⟨sound', told', ahead⟩ := told_steps earlier'
      have inside' : (t, OutboxNotice.queued q) ∈ front' ++ (t, .queued q) :: back' :=
        List.mem_append_right _ List.mem_cons_self
      obtain ⟨i, staged⟩ := explained_step sound' here' inside'
      have claimed : (now, OutboxNotice.claimed r) ∈ log₁ ++ front ++ a := by
        cases a with
        | nil => cases (List.cons_eq_cons.mp split).1
        | cons y rest =>
          rw [(List.cons_eq_cons.mp split).1]
          exact List.mem_append_right _ List.mem_cons_self
      rw [split'] at claimed
      rcases List.mem_append.mp claimed with old' | front''
      · exact absurd (ahead _ _ _ old' (.inr ⟨i, staged⟩) key) (Nat.not_le.mpr earlierPlace)
      · obtain ⟨r', eq⟩ := queued_step here' inside' (List.mem_append_left _ front'')
        cases eq

theorem queue_fifo_one : ¬Removed [(0, .queued oneRow)] oneRow.toLetter := by
  obtain ⟨s, steps, -⟩ := steps_oneClaimed
  exact (@queue_fifo 1 1 oneLock s [(0, .queued oneRow)] [] 0 _ 0 steps).1

/-- **One lease on a message at a time.**  In every run, when a message is claimed again, the lease
of every earlier claim has run out by then, or the message was returned in between. -/
theorem queue_leases {start t t' : Nat} {token : UUID} {expiry : Nat}
    (steps : Steps lockOf (new p c start)
      (before ++ (t, .claimed r) :: (between ++ (t', .claimed r') :: after)) s)
    (again : r'.sequence = r.sequence) (leased : r.lease = some (token, expiry)) :
    expiry ≤ t' ∨ ∃ time receipt x, (time, .retried receipt x) ∈ between ∧ x.sequence = r.sequence := by
  have written : before ++ (t, .claimed r) :: (between ++ (t', .claimed r') :: after) =
      (before ++ (t, .claimed r) :: between) ++ (t', .claimed r') :: after := by simp
  obtain ⟨log₁, u, front, back, v, log₂, earlier, here, -, split, -⟩ := steps.split written
  obtain ⟨sound, told, -⟩ := told_steps earlier
  have inside : (t', OutboxNotice.claimed r') ∈ front ++ (t', .claimed r') :: back :=
    List.mem_append_right _ List.mem_cons_self
  obtain ⟨old, member, letter, ready, -⟩ := explained_step sound here inside
  have same : old.sequence = r.sequence := (congrArg Letter.sequence letter).trans again
  rcases split_append split.symm with ⟨rest, first, rfl⟩ | ⟨front', -, first⟩
  · have clock : u.clock ≤ t' := news_time here inside
    rcases told.ended first member same with rfl | ⟨l, has, expired⟩ | ⟨time, receipt, x, inside', of⟩
    · exact .inl ((available_iff.mp ready).2 token expiry leased)
    · rw [leased] at has
      cases has
      exact .inl (expired.trans clock)
    · exact .inr ⟨time, receipt, x, List.mem_append_left _ inside', of.trans same⟩
  · -- One step does not say both.
    have once := news_once sound here
    rw [List.map_append, List.map_cons, List.nodup_append] at once
    have claimed : (t, OutboxNotice.claimed r) ∈ front := by
      rw [first]
      exact List.mem_append_right _ List.mem_cons_self
    refine absurd ?_ (once.2.2 _ (List.mem_map_of_mem claimed) _ List.mem_cons_self)
    exact again.symm

theorem queue_leases_one : (1000000000 : Nat) ≤ 1000000000 := by
  obtain ⟨s, steps, rows, clock, tokens⟩ := steps_oneClaimed
  have drawn : oneToken 3 ∉ s.tokens := by
    rw [tokens]
    decide
  obtain ⟨t, more, -⟩ := claim_alone 1000000000 rows (by decide) (clock.le.trans (Nat.zero_le _)) drawn
  rcases @queue_leases 1 1 oneLock t [(0, .queued oneRow)] [] [] _ _ 0 0 1000000000 (oneToken 2)
    1000000000 (steps.trans more) rfl rfl with expired | ⟨_, _, _, never, -⟩
  · exact expired
  · cases never

/-- What a notice says that a receipt was for. -/
def settled? : OutboxNotice → Option (Receipt × OutboxRow)
  | .acknowledged receipt r => some (receipt, r)
  | .retried receipt r => some (receipt, r)
  | _ => none

/-- **A receipt counts while its own lease runs.**  In every run, whatever an acknowledgement or a
retry takes effect on was claimed before, with that receipt and no other claim, nothing happened to
it since, and the lease of that claim has not run out. -/
theorem queue_receipts {start t : Nat} {notice : OutboxNotice} {receipt : Receipt}
    (steps : Steps lockOf (new p c start) (before ++ (t, notice) :: after) s)
    (settles : settled? notice = some (receipt, r)) :
    ∃ earlier t₀ quiet expiry, before = earlier ++ (t₀, .claimed r) :: quiet ∧
      (∀ x ∈ quiet, x.2.row.sequence ≠ r.sequence) ∧ r.id = receipt.id ∧
      r.lease = some (receipt.token, expiry) ∧ t < expiry ∧
      ∀ t₁ r₁ e, (t₁, .claimed r₁) ∈ before → r₁.sequence = r.sequence →
        r₁.lease = some (receipt.token, e) → r₁ = r := by
  obtain ⟨log₁, u, front, back, v, log₂, run, here, -, rfl, -⟩ := steps.split rfl
  obtain ⟨sound, told, -⟩ := told_steps run
  have explained : r ∈ u.rows ∧ r.heldBy receipt t = true := by
    have facts := explained_step sound here (List.mem_append_right _ List.mem_cons_self)
    cases notice with
    | acknowledged receipt' r' =>
      cases settles
      exact facts
    | retried receipt' r' =>
      cases settles
      exact facts
    | _ => cases settles
  have about : notice.row = r := by
    cases notice with
    | acknowledged receipt' r' =>
      cases settles
      rfl
    | retried receipt' r' =>
      cases settles
      rfl
    | _ => cases settles
  obtain ⟨member, held⟩ := explained
  obtain ⟨named, expiry, has, runs⟩ := heldBy_iff.mp held
  obtain ⟨earlier, t₀, quiet, rfl, silent⟩ := told.latest member has
  have once := news_once sound here
  rw [List.map_append, List.map_cons, List.nodup_append] at once
  have apart : ∀ x ∈ front, x.2.row.sequence ≠ r.sequence := by
    intro x inside same
    refine once.2.2 _ (List.mem_map_of_mem inside) _ List.mem_cons_self ?_
    rw [about]
    exact same
  refine ⟨earlier, t₀, quiet ++ front, expiry, by simp, fun x inside => ?_, named, has, runs,
    fun t₁ r₁ e claimed same has' => ?_⟩
  · rcases List.mem_append.mp inside with old | new'
    · exact silent x old
    · exact apart x new'
  · rcases List.mem_append.mp claimed with old | new'
    · exact told.tokens old (List.mem_append_right _ List.mem_cons_self) has' has same
    · exact absurd same (apart _ new')

theorem queue_receipts_one : ∃ earlier t₀ quiet,
    [(0, .queued oneRow), (0, .claimed (oneRow.leased (oneToken 2) 1000000000))] =
      earlier ++ (t₀, OutboxNotice.claimed (oneRow.leased (oneToken 2) 1000000000)) :: quiet := by
  obtain ⟨s, steps, rows, clock, -⟩ := steps_oneClaimed
  have settled : acknowledge s.rows ⟨oneRow.id, oneToken 2⟩ 5 =
      .ok ([], [oneRow.leased (oneToken 2) 1000000000]) := by
    rw [rows]
    decide
  have more := steps.tail (.acknowledge (clock.le.trans (Nat.zero_le 5)) settled)
  obtain ⟨earlier, t₀, quiet, _, written, -⟩ := queue_receipts more rfl
  exact ⟨earlier, t₀, quiet, written⟩

/-- **Every message in the table is on its way.**  In every run and at any later time, the message
that leads a key is ready to be claimed, or it is one of those that `Blocked` lists, and not both. -/
theorem queue_blocked {start : Nat} (steps : Steps lockOf (new p c start) log s)
    (later : s.clock ≤ now) (member : r ∈ s.rows) :
    ∃ m ∈ s.rows, m.key = r.key ∧ m.leads s.rows = true ∧
      (m.available now = true ↔ m.isBlocked s.rows now = false) := by
  obtain ⟨-, told, -⟩ := told_steps steps
  obtain ⟨m, least, first⟩ := (s.rows.filter fun x => decide (x.key = r.key)).toFinset.exists_min_image
    (fun x => x.sequence) ⟨r, List.mem_toFinset.mpr (List.mem_filter.mpr ⟨member, decide_eq_true rfl⟩)⟩
  rw [List.mem_toFinset, List.mem_filter, decide_eq_true_iff] at least
  obtain ⟨inside, key⟩ := least
  have leads : m.leads s.rows = true := by
    refine leads_iff.mpr fun other present same => first other ?_
    rw [List.mem_toFinset, List.mem_filter, decide_eq_true_iff]
    exact ⟨present, same.trans key⟩
  refine ⟨m, inside, key, leads, ?_⟩
  have waits := told.waits inside
  rw [OutboxRow.isBlocked, leads, Bool.true_and, Bool.or_eq_false_iff, Bool.and_eq_false_iff,
    decide_eq_false_iff_not, decide_eq_false_iff_not, OutboxRow.available, Bool.and_eq_true,
    decide_eq_true_iff]
  have leased : m.lease.all (fun l => decide (l.2 ≤ now)) = true ↔
      m.lease.any (fun l => decide (now < l.2)) = false := by
    cases m.lease with
    | none => exact iff_of_true rfl rfl
    | some l => simp
  rw [leased]
  constructor
  · exact fun ready => ⟨ready.2, .inr (Nat.not_lt.mpr ready.1)⟩
  · rintro ⟨free, fresh | due⟩
    · rcases waits with due | failed
      · exact ⟨due.trans later, free⟩
      · exact absurd failed fresh
    · exact ⟨Nat.not_lt.mp due, free⟩

theorem queue_blocked_one : ∃ s : OutboxRun 1 1, ∃ m ∈ s.rows, m.key = oneRow.key ∧
    m.leads s.rows = true ∧ (m.available 5 = true ↔ m.isBlocked s.rows 5 = false) := by
  obtain ⟨s, steps, rows, clock, -⟩ := steps_oneCommitted
  refine ⟨s, queue_blocked (r := oneRow) steps (clock.le.trans (Nat.zero_le 5)) ?_⟩
  rw [rows]
  exact List.mem_cons_self

end Hypershell.Outbox.OutboxRun
