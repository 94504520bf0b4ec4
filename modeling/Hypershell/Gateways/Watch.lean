import Hypershell.Foundation.Replica
import Hypershell.Gateways.Changes
import Hypershell.Gateways.Presentation

/-!
# Watching Gateways

A controller subscribes to the events of Gateways, reads all Gateways once its stream is open,
and applies the messages of the stream after that.  An event has the ID of a Gateway only; its
message has the row that is stored when the event is handled.

## Main definitions

* `gatewayEvent`, `handleEvent` — one event in the loop of `WatchGateways`
* `WatchRun`, `WatchStep` — the stream, its client, and the operations in between
* `WatchRun.copy` — what the client holds

## Main results

* `watch_converges` — the client ends with the Gateways that a controller is shown, and a
  deletion is the last message of its Gateway
-/

namespace Hypershell

open Foundation

/-! ### The loop -/

/-- `pb.EventType`. -/
inductive EventType
  | created
  | updated
  | deleted
  deriving DecidableEq, Repr

/-- `pb.WatchGatewaysResponse`. -/
structure WatchGatewaysResponse where
  type : EventType
  resourceID : String
  gateway : GatewayMessage
  deriving DecidableEq, Repr

/-- The kinds of events that a watch of Gateways does not skip, and which deletion state they
ask for. -/
def gatewayEvent (kind : String) : Option (EventType × Bool) :=
  if kind = "gateway.created" then some (.created, false)
  else if kind = "gateway.updated" then some (.updated, false)
  else if kind = "gateway.deleted" then some (.deleted, true)
  else none

section Loop

variable [Platform] [Database Gateway]

/-- One turn of the loop: the message to send, if any, or the error that ends the stream. -/
def handleEvent (svc : GatewayService) (p : Principal) (event : Notification) :
    Process (Except Err (Option WatchGatewaysResponse)) :=
  match gatewayEvent event.kind with
  | none => .ret (.ok none)
  | some (kind, deleted) => do
    let found ← eventGateway svc p event.sourceID deleted
    match found with
    | .error .notFound => .ret (.ok none)
    | .error e => .ret (.error e)
    | .ok row =>
      match present row with
      | .error e => .ret (.error e)
      | .ok gateway => .ret (.ok (some ⟨kind, event.sourceID, gateway⟩))

/-! ### Runs -/

/-- How far a stream is.  `checked` follows its first list, `subscribed` is before its header;
`next` counts the committed events before the one that the subscription delivers next. -/
inductive Stream
  | opening
  | checked
  | subscribed (next : Nat)
  | watching (next : Nat)
  | ended
  deriving DecidableEq, Repr

/-- The store with the running operations, the stream with the messages sent, and what the
client read by itself. -/
structure WatchRun where
  system : System Env Store Event (Option Err)
  stream : Stream
  sent : List WatchGatewaysResponse
  seen : String → Option (Option GatewayMessage)

namespace WatchRun

/-- The committed store. -/
abbrev store (x : WatchRun) : Store := x.system.store

/-- The run with another store, when the stream or its client used it. -/
def moved (x : WatchRun) (t : Store) : WatchRun := { x with system := { x.system with store := t } }

/-- A stream that is about to open. -/
def opening (s : Store) : WatchRun := ⟨⟨s, []⟩, .opening, [], fun _ => none⟩

/-- Apply one message: a deletion removes the copy, another message replaces it. -/
def apply (copy : String → Option GatewayMessage) (m : WatchGatewaysResponse) :
    String → Option GatewayMessage :=
  Function.update copy m.resourceID (if m.type = .deleted then none else some m.gateway)

/-- What the client holds: it applies the messages to what it read. -/
def copy (x : WatchRun) : String → Option GatewayMessage :=
  x.sent.foldl apply fun id => (x.seen id).join

end WatchRun

/-- What else happens to the store: no Gateway changes, and no event of Gateways is published. -/
def Bystander (s t : Store) : Prop :=
  t.gateways = s.gateways ∧ ∃ news, t.outbox = s.outbox ++ news ∧
    ∀ n ∈ news, gatewayEvent n.kind = none

/-- One step of a run.  The client reads when it has the header: by one list with room for all
rows, or by pages each of which shows it the rows of some IDs in one committed store. -/
inductive WatchStep (svc : GatewayService) (p : Principal) : WatchRun → WatchRun → Prop
  | work {x : WatchRun} {system : System Env Store Event (Option Err)}
      (moves : System.Moves {call | GatewayCall svc call} Bystander x.system system) :
      WatchStep svc p x { x with system := system }
  | check {x : WatchRun} {steps : List (Env × Store)} {result : ListResult Gateway}
      {l : List Event} {t : Store} (phase : x.stream = .opening)
      (list : (listGateways svc p 1 0).Exec Eq x.store steps (result, none) l t) :
      WatchStep svc p x { x.moved t with stream := .checked }
  | subscribe {x : WatchRun} (phase : x.stream = .checked) :
      WatchStep svc p x { x with stream := .subscribed x.store.outbox.length }
  | header {x : WatchRun} {next : Nat} (phase : x.stream = .subscribed next) :
      WatchStep svc p x { x with stream := .watching next }
  | handle {x : WatchRun} {next : Nat} {event : Notification} {steps : List (Env × Store)}
      {message : Option WatchGatewaysResponse} {l : List Event} {t : Store}
      (phase : x.stream = .watching next) (delivered : x.store.outbox[next]? = some event)
      (handled : (handleEvent svc p event).Exec Eq x.store steps (.ok message) l t) :
      WatchStep svc p x
        { x.moved t with stream := .watching (next + 1), sent := x.sent ++ message.toList }
  | fail {x : WatchRun} {t : Store} (used : x.store.Aside t) :
      WatchStep svc p x { x.moved t with stream := .ended }
  | list {x : WatchRun} {next : Nat} {size : Int} {steps : List (Env × Store)}
      {result : ListResult Gateway} {items : List GatewayMessage} {l : List Event} {t : Store}
      (phase : x.stream = .watching next)
      (listed : (listGateways svc p 1 size).Exec Eq x.store steps (result, none) l t)
      (whole : size ≠ 0 ∧ (result.total : Int) ≤ size)
      (shown : result.items.mapM present = .ok items) :
      WatchStep svc p x { x.moved t with
        seen := fun id => some (items.find? fun m => decide (m.metadata.id = id)) }
  | pages {x : WatchRun} {next : Nat} (ids : String → Bool)
      {items : String → Option GatewayMessage} (phase : x.stream = .watching next)
      (shown : ∀ id, ids id = true → (items id).map Except.ok = x.store.presented id) :
      WatchStep svc p x
        { x with seen := fun id => if ids id then some (items id) else x.seen id }

end Loop

/-! ### Commits and their events -/

/-- The notices that events are for a watch. -/
def notices (events : List Notification) : List (Notice String) :=
  events.filterMap fun n => (gatewayEvent n.kind).map fun kind => ⟨n.sourceID, kind.2⟩

theorem mem_notices {events : List Notification} {id : String} {removed : Bool} :
    ⟨id, removed⟩ ∈ notices events ↔
      ∃ n ∈ events, n.sourceID = id ∧ (gatewayEvent n.kind).map Prod.snd = some removed := by
  rw [notices, List.mem_filterMap]
  refine exists_congr fun n => and_congr_right fun _ => ?_
  cases gatewayEvent n.kind <;> simp

@[simp] theorem notices_append (events events' : List Notification) :
    notices (events ++ events') = notices events ++ notices events' :=
  List.filterMap_append ..

/-- Only one kind of event is a removal. -/
theorem gatewayEvent_removed {kind : String} :
    (gatewayEvent kind).map Prod.snd = some true ↔ kind = "gateway.deleted" := by
  unfold gatewayEvent
  split_ifs with created updated deleted
  · simp [created]
  · simp [updated]
  · simp [deleted]
  · simp [deleted]

theorem count_notices (id : String) (events : List Notification) :
    (notices events).count ⟨id, true⟩ = removals id events := by
  rw [notices, List.count, List.countP_filterMap, removals]
  refine List.countP_congr fun n _ => ?_
  rw [decide_eq_true_eq, ← gatewayEvent_removed]
  cases gatewayEvent n.kind <;> simp

section Commits

variable [Platform] {s t u : Store}

/-- What a commit does to what a controller is shown, it tells by events.  A finalized deletion
has one event, and stays.  The IDs of Gateways were drawn. -/
structure Tells (s t : Store) : Prop where
  events : ∃ news, t.outbox = s.outbox ++ news ∧
    (∀ id, t.presented id ≠ s.presented id → ⟨id, (t.presented id).isNone⟩ ∈ notices news) ∧
    Removals s.finalized t.finalized (notices news)
  drawn : ∀ id, (t.gateway? id).isSome = true →
    (s.gateway? id).isSome = true ∨ Platform.validID id = true

theorem Tells.refl (s : Store) : Tells s s :=
  ⟨⟨[], (List.append_nil _).symm, fun _ differs => absurd rfl differs, fun _ => Nat.zero_add _⟩,
    fun _ stored => .inl stored⟩

theorem Tells.trans (first : Tells s t) (second : Tells t u) : Tells s u := by
  obtain ⟨⟨news, outbox, told, removed⟩, drawn⟩ := first
  obtain ⟨⟨news', outbox', told', removed'⟩, drawn'⟩ := second
  refine ⟨⟨news ++ news', by rw [outbox', outbox, List.append_assoc], fun id differs => ?_,
    fun id => ?_⟩, fun id stored => ?_⟩
  · rw [notices_append]
    by_cases same : u.presented id = t.presented id
    · rw [same] at differs ⊢
      exact List.mem_append_left _ (told id differs)
    · exact List.mem_append_right _ (told' id same)
  · have one := removed id
    have other := removed' id
    rw [notices_append, List.count_append]
    omega
  · rcases drawn' id stored with earlier | valid
    · exact drawn id earlier
    · exact .inr valid

theorem RowMove.removals {id : String} {news : List Notification} (move : RowMove id news s t) :
    Hypershell.removals id news + (s.finalized id).toNat = (t.finalized id).toNat := by
  cases move with
  | kept row quiet => rw [quiet, Nat.zero_add, Store.finalized, Store.finalized, row]
  | created absent stored live unfinalized drawn told quiet =>
    rw [quiet, Store.finalized_of_stored stored, unfinalized, Store.finalized, absent]
    rfl
  | changed before after newer dead same told quiet =>
    rw [quiet, Nat.zero_add, Store.finalized_of_stored before, Store.finalized_of_stored after, same]
  | finalized before after newer dead gone unfinalized final told =>
    rw [told, Store.finalized_of_stored before, Store.finalized_of_stored after, unfinalized, final]
    rfl

/-- A move that changes what is shown is told. -/
theorem RowMove.told {id : String} {news : List Notification} (move : RowMove id news s t)
    (differs : t.presented id ≠ s.presented id) :
    ⟨id, (t.presented id).isNone⟩ ∈ notices news := by
  cases move with
  | kept row quiet => exact absurd (Store.presented_congr row) differs
  | created absent stored live unfinalized drawn told quiet =>
    obtain ⟨n, member, source, kind⟩ := told
    rw [Store.presented_isNone_of_stored stored, unfinalized]
    exact mem_notices.mpr ⟨n, member, source, by rw [kind]; rfl⟩
  | changed before after newer dead same told quiet =>
    obtain ⟨n, member, source, kind⟩ := told
    rename_i g g'
    rw [Store.presented_isNone_of_stored after]
    cases final : g'.deletionFinalizedAt with
    | none => exact mem_notices.mpr ⟨n, member, source, by rw [kind]; rfl⟩
    | some time =>
      -- A row whose deletion is finalized is shown neither before nor after.
      refine absurd ?_ differs
      rw [Store.presented_of_finalized, Store.presented_of_finalized]
      · rw [Store.finalized_of_stored before, ← same, final]
        rfl
      · rw [Store.finalized_of_stored after, final]
        rfl
  | finalized before after newer dead gone unfinalized final told =>
    rw [Store.presented_isNone_of_stored after, final, ← List.count_pos_iff, count_notices, told]
    exact Nat.one_pos

theorem GatewayCommit.tells (commit : GatewayCommit s t) : Tells s t := by
  obtain ⟨news, outbox, moves, -⟩ := commit.rows
  refine ⟨⟨news, outbox, fun id differs => (moves id).told differs, fun id => ?_⟩, fun id stored => ?_⟩
  · rw [count_notices]
    exact (moves id).removals
  · cases moves id with
    | kept row => exact .inl (row ▸ stored)
    | created absent stored live unfinalized drawn => exact .inr drawn
    | changed before => exact .inl (by rw [before]; rfl)
    | finalized before => exact .inl (by rw [before]; rfl)

theorem Bystander.tells (bystander : Bystander s t) : Tells s t := by
  obtain ⟨gateways, news, outbox, silent⟩ := bystander
  have same : ∀ id, t.gateway? id = s.gateway? id := fun id => by
    rw [Store.gateway?, gateways, Store.gateway?]
  have none : notices news = [] := by
    refine List.filterMap_eq_nil_iff.mpr fun n member => ?_
    rw [silent n member]
    rfl
  refine ⟨⟨news, outbox, fun id differs => absurd (Store.presented_congr (same id)) differs,
    fun id => ?_⟩, fun id stored => .inl (same id ▸ stored)⟩
  rw [none, Store.finalized, Store.finalized, same]
  exact Nat.zero_add _

theorem Store.Aside.tells (aside : s.Aside t) : Tells s t := by
  obtain ⟨d, rfl, -⟩ := aside
  exact Bystander.tells ⟨rfl, [], (List.append_nil _).symm, fun _ never => nomatch never⟩

/-- The IDs of all Gateways were drawn. -/
def Store.Drawn (s : Store) : Prop :=
  ∀ id, (s.gateway? id).isSome = true → Platform.validID id = true

theorem Tells.keeps (tells : Tells s t) (drawn : s.Drawn) : t.Drawn := fun id stored =>
  (tells.drawn id stored).elim (drawn id) fun valid => valid

/-- What the operations owe to a watch. -/
def watchContract : Contract Env Store Event where
  oracle _ := True
  inv := Store.Drawn
  rely := Tells
  event _ _ := True
  change _ := Tells

theorem watch_governed {svc : GatewayService} {init : Store → Prop}
    (drawn : ∀ s, init s → s.Drawn) : System.Governed watchContract (fun _ _ _ => True)
    {call | GatewayCall svc call} Bystander init where
  sound := ⟨Tells.refl, Tells.trans, fun drawn tells => ⟨tells.keeps drawn, tells⟩⟩
  oracle _ := trivial
  safe := fun _ known s _ =>
    known.safe (fun _ _ => trivial) (fun _ _ _ commit => commit.tells) [] s
  outside drawn bystander := ⟨bystander.tells.keeps drawn, bystander.tells⟩
  init := drawn

end Commits

/-! ### The run lemma -/

section Runs

variable [Platform] [Database Gateway] {svc : GatewayService} {p : Principal} {s : Store}
  {x y : WatchRun}

/-- What a controller is shown, and which deletions are finalized. -/
def Store.origin (s : Store) : (String → Option (Except Err GatewayMessage)) × (String → Bool) :=
  (s.presented, s.finalized)

namespace WatchRun

/-- What a message tells. -/
def told (m : WatchGatewaysResponse) : String × Option (Except Err GatewayMessage) :=
  (m.resourceID, if m.type = .deleted then none else some (.ok m.gateway))

/-- The stream and its client as a replica, from an event on. -/
def replica (x : WatchRun) (next : Nat) : Replica String (Except Err GatewayMessage) where
  pending := notices (x.store.outbox.drop next)
  sent := x.sent.map told
  seen id := (x.seen id).map fun m => m.map Except.ok

omit [Database Gateway] in
/-- The client holds what its replica does. -/
theorem copy_eq (x : WatchRun) (next : Nat) (id : String) :
    (x.copy id).map Except.ok = (x.replica next).copy id := by
  have folded : ∀ (sent : List WatchGatewaysResponse) (start : String → Option GatewayMessage),
      (sent.foldl apply start id).map Except.ok =
        ((Replica.last id (sent.map told)).or
          (some ((start id).map (Except.ok : GatewayMessage → Except Err GatewayMessage)))).join := by
    intro sent
    induction sent using List.reverseRecOn with
    | nil => exact fun _ => rfl
    | append_singleton sent m ih =>
      intro start
      rw [List.foldl_append, List.map_append, List.map_singleton, Replica.last_concat]
      show (apply (sent.foldl apply start) m id).map Except.ok = _
      by_cases here : m.resourceID = id
      · rw [if_pos (show (told m).1 = id from here), apply, ← here, Function.update_self, told]
        split <;> rfl
      · rw [if_neg (show ¬ (told m).1 = id from here), apply,
          Function.update_of_ne (Ne.symm here), ih]
  rw [copy, folded, Replica.copy, Replica.known]
  show _ = ((Replica.last id (x.sent.map told)).or ((x.seen id).map _)).join
  cases Replica.last id (x.sent.map told) with
  | some v => rfl
  | none => cases x.seen id <;> rfl

end WatchRun

/-- A stream that delivers events from `next` on, or will. -/
def Stream.from? : Stream → Option Nat
  | .opening | .checked | .ended => none
  | .subscribed next | .watching next => some next

/-- From an event on, the stream and its client will make up for what is not told yet, and
removals are final. -/
structure Followed (x : WatchRun) (next : Nat) : Prop where
  bound : next ≤ x.store.outbox.length
  sound : (x.replica next).Sound x.store.presented
  lasting : (x.replica next).Lasting x.store.finalized

/-- The invariant of runs. -/
structure Watched (x : WatchRun) : Prop where
  good : System.Good watchContract (fun _ _ _ => True) x.system
  early : x.stream = .opening ∨ x.stream = .checked → x.sent = [] ∧ ∀ id, x.seen id = none
  followed : ∀ next, x.stream.from? = some next → Followed x next
  last : (x.sent.map WatchRun.told).Pairwise fun m m' => m.2 = none → m'.1 ≠ m.1

omit [Database Gateway] in
theorem Store.Aside.bystander {t : Store} (aside : s.Aside t) : Bystander s t := by
  obtain ⟨d, rfl, -⟩ := aside
  exact ⟨rfl, [], (List.append_nil _).symm, fun _ never => nomatch never⟩

/-- **One turn of the loop.** -/
inductive Handled (s : Store) (event : Notification) : Option WatchGatewaysResponse → Prop
  | other (kind : gatewayEvent event.kind = none) : Handled s event none
  | missing {type : EventType} {deleted : Bool}
      (kind : gatewayEvent event.kind = some (type, deleted))
      (differs : Platform.validID event.sourceID = true →
        ∀ g, s.gateway? event.sourceID = some g → g.deletionFinalizedAt.isSome ≠ deleted) :
      Handled s event none
  | sent {type : EventType} {deleted : Bool} {g : Gateway} {m : GatewayMessage}
      (kind : gatewayEvent event.kind = some (type, deleted))
      (stored : s.gateway? event.sourceID = some g) (agrees : g.deletionFinalizedAt.isSome = deleted)
      (shown : present g.currentObservations = .ok m) :
      Handled s event (some ⟨type, event.sourceID, m⟩)

theorem exec_handleEvent (controller : svc.isControlPlane p = true) {event : Notification}
    {steps : List (Env × Store)} {message : Option WatchGatewaysResponse} {l : List Event} {t : Store}
    (exec : (handleEvent svc p event).Exec Eq s steps (.ok message) l t) :
    s.Aside t ∧ Handled s event message := by
  unfold handleEvent at exec
  cases kind : gatewayEvent event.kind with
  | none =>
    rw [kind] at exec
    obtain ⟨same, rfl, rfl, rfl⟩ := Proc.exec_ret exec
    cases same
    exact ⟨.refl _, .other kind⟩
  | some kinds =>
    obtain ⟨type, deleted⟩ := kinds
    rw [kind] at exec
    obtain ⟨steps₁, steps₂, found, l₁, l₂, u, rfl, rfl, first, rest⟩ := Proc.exec_bind exec
    obtain ⟨aside, row, missing⟩ := exec_eventGateway controller first
    cases found with
    | error e =>
      by_cases absent : e = .notFound
      · subst absent
        obtain ⟨same, rfl, rfl, rfl⟩ := Proc.exec_ret rest
        cases same
        exact ⟨aside, .missing kind (missing rfl)⟩
      · cases e <;> first
          | exact absurd rfl absent
          | (obtain ⟨never, -⟩ := Proc.exec_ret rest; cases never)
    | ok g' =>
      obtain ⟨g, stored, rfl, agrees⟩ := row g' rfl
      cases shown : present g.currentObservations with
      | error e =>
        simp only [shown] at rest
        obtain ⟨never, -⟩ := Proc.exec_ret rest
        cases never
      | ok m =>
        simp only [shown] at rest
        obtain ⟨same, rfl, rfl, rfl⟩ := Proc.exec_ret rest
        cases same
        exact ⟨aside, .sent kind stored agrees shown⟩

omit [Platform] [Database Gateway] in
/-- A removal that waits is one of a Gateway whose deletion is finalized. -/
theorem finalized_of_waiting {r : Replica String (Except Err GatewayMessage)} {id : String}
    (lasting : r.Lasting s.finalized) (waits : ⟨id, true⟩ ∈ r.pending) : s.finalized id = true := by
  have some := List.count_pos_iff.mpr waits
  have bound := lasting.once id
  cases final : s.finalized id with
  | true => rfl
  | false =>
    rw [final, Bool.toNat_false] at bound
    omega

omit [Database Gateway] in
/-- The replica after one turn of the loop. -/
theorem Handled.replica {next : Nat} {event : Notification} {message : Option WatchGatewaysResponse}
    (handled : Handled x.store event message) (drawn : x.store.Drawn)
    (delivered : x.store.outbox[next]? = some event)
    (lasting : (x.replica next).Lasting x.store.finalized) :
    WatchRun.replica { x with sent := x.sent ++ message.toList } (next + 1) = x.replica next ∨
      Replica.Step x.store.origin (x.replica next) x.store.origin
        (WatchRun.replica { x with sent := x.sent ++ message.toList } (next + 1)) := by
  obtain ⟨inside, here⟩ := List.getElem?_eq_some_iff.mp delivered
  have split : x.store.outbox.drop next = event :: x.store.outbox.drop (next + 1) := by
    rw [List.drop_eq_getElem_cons inside, here]
  have queue : (x.replica next).pending = notices (event :: x.store.outbox.drop (next + 1)) := by
    rw [← split]
    rfl
  cases handled with
  | other kind =>
    left
    have same : notices (event :: x.store.outbox.drop (next + 1)) =
        notices (x.store.outbox.drop (next + 1)) := by
      rw [notices, List.filterMap_cons, kind]
      rfl
    rw [WatchRun.replica, WatchRun.replica, split, same]
    simp
  | @missing type deleted kind differs =>
    right
    have first : (x.replica next).pending =
        ⟨event.sourceID, deleted⟩ :: notices (x.store.outbox.drop (next + 1)) := by
      rw [queue, notices, List.filterMap_cons, kind]
      rfl
    have absent : (x.store.presented event.sourceID).isNone ≠ deleted := by
      cases stored : x.store.gateway? event.sourceID with
      | some g =>
        rw [Store.presented_isNone_of_stored stored]
        exact differs (drawn _ (by rw [stored]; rfl)) g stored
      | none =>
        intro same
        have removed : deleted = true := by
          rw [← same, Store.presented, stored]
          rfl
        have waits : ⟨event.sourceID, true⟩ ∈ (x.replica next).pending := by
          rw [first, removed]
          exact List.mem_cons_self
        have final := finalized_of_waiting lasting waits
        rw [Store.finalized, stored] at final
        cases final
    rw [Option.toList_none, List.append_nil]
    exact .skip first absent
  | @sent type deleted g m kind stored agrees shown =>
    right
    have first : (x.replica next).pending =
        ⟨event.sourceID, deleted⟩ :: notices (x.store.outbox.drop (next + 1)) := by
      rw [queue, notices, List.filterMap_cons, kind]
      rfl
    have held : (x.store.presented event.sourceID).isNone = deleted :=
      (Store.presented_isNone_of_stored stored).trans agrees
    have tells : WatchRun.told ⟨type, event.sourceID, m⟩ =
        (event.sourceID, x.store.presented event.sourceID) := by
      have matching : type = .deleted ↔ deleted = true := by
        unfold gatewayEvent at kind
        split_ifs at kind <;> cases kind <;> simp
      rw [WatchRun.told]
      dsimp only
      cases deleted with
      | true => rw [if_pos (matching.mpr rfl), Option.isNone_iff_eq_none.mp held]
      | false =>
        have unfinalized : g.deletionFinalizedAt = none := by
          rw [← Option.isNone_iff_eq_none, ← Option.not_isSome, agrees]
          rfl
        rw [if_neg (fun is => Bool.false_ne_true (matching.mp is)), Store.presented_of_stored stored unfinalized,
          shown]
    have step : Replica.Step x.store.origin (x.replica next) x.store.origin _ := .send first held
    rw [← tells] at step
    simp only [Option.toList_some, WatchRun.replica, List.map_append]
    exact step

omit [Database Gateway] in
/-- A commit that is told is a change of the origin. -/
theorem Followed.tells {next : Nat} (followed : Followed x next) (tells : Tells x.store y.store)
    (sent : y.sent = x.sent) (seen : y.seen = x.seen) : Followed y next := by
  obtain ⟨⟨news, outbox, told, removed⟩, -⟩ := tells
  have after : y.replica next =
      { x.replica next with pending := (x.replica next).pending ++ notices news } := by
    rw [WatchRun.replica, outbox, List.drop_append_of_le_length followed.bound, notices_append, sent,
      seen]
    rfl
  have step := Replica.Step.change (r := x.replica next) told removed
  rw [← after] at step
  refine ⟨?_, followed.sound.step step, followed.lasting.step (fun _ => Store.presented_of_finalized) step⟩
  rw [outbox, List.length_append]
  exact Nat.le_add_right_of_le followed.bound

omit [Database Gateway] in
/-- A read of the client, of what is shown. -/
theorem Followed.reads {next : Nat} (followed : Followed x next) (ids : String → Bool)
    {items : String → Option GatewayMessage}
    (shown : ∀ id, ids id = true → (items id).map Except.ok = x.store.presented id) :
    Followed { x with seen := fun id => if ids id then some (items id) else x.seen id } next := by
  have step : Replica.Step x.store.origin (x.replica next) x.store.origin _ := .read ids
  have after : WatchRun.replica
      { x with seen := fun id => if ids id then some (items id) else x.seen id } next =
      { x.replica next with
        seen := fun id => if ids id then some (x.store.presented id) else (x.replica next).seen id } := by
    simp only [WatchRun.replica, Replica.mk.injEq, true_and]
    funext id
    split
    · rename_i asked
      rw [← shown id asked]
      rfl
    · rfl
  rw [← after] at step
  exact ⟨followed.bound, followed.sound.step step, followed.lasting.step (fun _ => Store.presented_of_finalized) step⟩

/-- What a whole list shows. -/
theorem shown_of_list (controller : svc.isControlPlane p = true) {size : Int} {t : Store}
    {steps : List (Env × Store)} {result : ListResult Gateway} {items : List GatewayMessage}
    {l : List Event} (listed : (listGateways svc p 1 size).Exec Eq s steps (result, none) l t)
    (whole : size ≠ 0 ∧ (result.total : Int) ≤ size) (shown : result.items.mapM present = .ok items)
    (id : String) :
    (items.find? fun m => decide (m.metadata.id = id)).map Except.ok = s.presented id := by
  have rows := (exec_listGateways controller listed).2 rfl whole.1 whole.2 id
  obtain ⟨forth, back⟩ := mem_of_mapM shown
  cases found : items.find? fun m => decide (m.metadata.id = id) with
  | some m =>
    have here : m.metadata.id = id := by simpa using List.find?_some found
    obtain ⟨row, inside, made⟩ := back m (List.mem_of_find?_eq_some found)
    obtain ⟨g, stored, live, rfl⟩ := (rows row).mp ⟨inside, (id_of_present made).symm.trans here⟩
    rw [Store.presented_of_stored stored live, made]
    rfl
  | none =>
    cases presented : s.presented id with
    | none => rfl
    | some shown' =>
      have stored : ∃ g, s.gateway? id = some g ∧ g.deletionFinalizedAt = none := by
        unfold Store.presented at presented
        split at presented
        · cases presented
        · rename_i g stored
          split_ifs at presented with live
          exact ⟨g, stored, Option.isNone_iff_eq_none.mp live⟩
      obtain ⟨g, stored, live⟩ := stored
      obtain ⟨inside, here⟩ := (rows _).mpr ⟨g, stored, live, rfl⟩
      obtain ⟨m, member, made⟩ := forth _ inside
      have absent := List.find?_eq_none.mp found m member
      rw [decide_eq_true_eq, id_of_present made] at absent
      exact absurd here absent

omit [Database Gateway] in
/-- What the operations do is told. -/
theorem watch_good {system system' : System Env Store Event (Option Err)}
    (good : System.Good watchContract (fun _ _ _ => True) system)
    (moves : System.Moves {call | GatewayCall svc call} Bystander system system') :
    System.Good watchContract (fun _ _ _ => True) system' ∧ Tells system.store system'.store := by
  have governed : System.Governed watchContract (fun _ _ _ => True) {call | GatewayCall svc call}
      Bystander Store.Drawn := watch_governed fun _ drawn => drawn
  obtain ⟨record, step⟩ := moves
  exact ⟨governed.step_good good step, (governed.step_rely good step).2⟩

omit [Database Gateway] in
/-- The stream or its client uses the store. -/
theorem Watched.moved_good (watched : Watched x) (svc : GatewayService) {t : Store}
    (aside : x.store.Aside t) :
    System.Good watchContract (fun _ _ _ => True) (x.moved t).system :=
  (@watch_good _ svc _ _ watched.good ⟨none, .outside aside.bystander⟩).1

/-- **Step lemma.** -/
theorem Watched.step (watched : Watched x) (controller : svc.isControlPlane p = true)
    (step : WatchStep svc p x y) : Watched y := by
  have drawn : x.store.Drawn := watched.good.inv
  cases step with
  | work moves =>
    obtain ⟨good, tells⟩ := watch_good watched.good moves
    exact ⟨good, watched.early, fun next from' => (watched.followed next from').tells tells rfl rfl,
      watched.last⟩
  | check phase list =>
    have aside := (exec_listGateways controller list).1
    exact ⟨watched.moved_good svc aside, fun _ => watched.early (.inl phase),
      fun _ never => (nomatch never), watched.last⟩
  | subscribe phase =>
    obtain ⟨silent, unread⟩ := watched.early (.inr phase)
    refine ⟨watched.good, fun never => (by rcases never with never | never <;> cases never),
      fun next from' => ?_, watched.last⟩
    cases from'
    have fresh : WatchRun.replica { x with stream := .subscribed x.store.outbox.length }
        x.store.outbox.length = Replica.start := by
      simp [WatchRun.replica, Replica.start, silent, unread, notices]
    refine ⟨le_refl _, ?_, ?_⟩
    · rw [fresh]
      exact Replica.sound_start _
    · rw [fresh]
      exact Replica.lasting_start
  | @header next phase =>
    refine ⟨watched.good, fun never => (by rcases never with never | never <;> cases never),
      fun next' from' => ?_, watched.last⟩
    cases from'
    obtain ⟨bound, sound, lasting⟩ := watched.followed next (by rw [phase]; rfl)
    exact ⟨bound, sound, lasting⟩
  | @handle next event steps message l t phase delivered handled =>
    obtain ⟨aside, turn⟩ := exec_handleEvent controller handled
    obtain ⟨bound, sound, lasting⟩ := watched.followed next (by rw [phase]; rfl)
    have followed : Followed { x with sent := x.sent ++ message.toList } (next + 1) := by
      obtain ⟨inside, -⟩ := List.getElem?_eq_some_iff.mp delivered
      rcases turn.replica drawn delivered lasting with same | step
      · exact ⟨inside, same ▸ sound, same ▸ lasting⟩
      · exact ⟨inside, sound.step step,
          lasting.step (fun _ => Store.presented_of_finalized) step⟩
    have followed' : Followed { x.moved t with
        stream := .watching (next + 1), sent := x.sent ++ message.toList } (next + 1) :=
      followed.tells aside.tells rfl rfl
    refine ⟨watched.moved_good svc aside,
      fun never => (by rcases never with never | never <;> cases never), fun next' from' => ?_,
      followed'.lasting.last⟩
    cases from'
    exact followed'
  | fail used =>
    exact ⟨watched.moved_good svc used,
      fun never => (by rcases never with never | never <;> cases never),
      fun _ never => (nomatch never), watched.last⟩
  | @list next size steps result items l t phase listed whole shown =>
    obtain ⟨aside, -⟩ := exec_listGateways controller listed
    refine ⟨watched.moved_good svc aside, fun early => ?_, fun next' from' => ?_,
      watched.last⟩
    · rw [show (x.moved t).stream = x.stream from rfl, phase] at early
      rcases early with never | never <;> cases never
    · have read := (watched.followed next' from').reads (fun _ => true)
        (fun id _ => shown_of_list controller listed whole shown id)
      exact read.tells aside.tells rfl rfl
  | @pages next ids items phase shown =>
    refine ⟨watched.good, fun early => ?_, fun next' from' => ?_, watched.last⟩
    · rw [phase] at early
      rcases early with never | never <;> cases never
    · exact (watched.followed next' from').reads ids shown

/-- Every step is told. -/
theorem Watched.tells (watched : Watched x) (controller : svc.isControlPlane p = true)
    (step : WatchStep svc p x y) : Tells x.store y.store := by
  cases step with
  | work moves => exact (watch_good watched.good moves).2
  | check phase list => exact (exec_listGateways controller list).1.tells
  | subscribe phase => exact .refl _
  | header phase => exact .refl _
  | handle phase delivered handled => exact (exec_handleEvent controller handled).1.tells
  | fail used => exact used.tells
  | list phase listed whole shown => exact (exec_listGateways controller listed).1.tells
  | pages ids phase shown => exact .refl _

/-- **Run lemma.** -/
theorem watched_of_run (drawn : s.Drawn) (controller : svc.isControlPlane p = true)
    (run : Relation.ReflTransGen (WatchStep svc p) (.opening s) x) : Watched x := by
  induction run with
  | refl =>
    exact ⟨⟨drawn, by simp [WatchRun.opening]⟩, fun _ => ⟨rfl, fun _ => rfl⟩,
      fun _ never => (nomatch never), .nil⟩
  | tail _ step watched => exact watched.step controller step

/-- **List and watch.**  Once every committed event is handled, the client holds exactly the
Gateways whose deletion is not finalized, each as it is shown now.  After a deletion the
stream sends nothing more of its Gateway.  A commit that changes what is shown of a Gateway
publishes an event of it. -/
theorem watch_converges (drawn : s.Drawn) (controller : svc.isControlPlane p = true)
    (run : Relation.ReflTransGen (WatchStep svc p) (.opening s) x) :
    (x.stream = .watching x.store.outbox.length → (∀ id, (x.seen id).isSome = true) →
      ∀ id, (x.copy id).map Except.ok = x.store.presented id) ∧
    (x.sent.Pairwise fun m m' => m.type = .deleted → m'.resourceID ≠ m.resourceID) ∧
    ∀ y, WatchStep svc p x y → ∃ news, y.store.outbox = x.store.outbox ++ news ∧
      ∀ id, y.store.presented id ≠ x.store.presented id →
        ∃ n ∈ news, n.sourceID = id ∧ (gatewayEvent n.kind).isSome = true := by
  have watched := watched_of_run drawn controller run
  refine ⟨fun phase read id => ?_, ?_, fun y step => ?_⟩
  · obtain ⟨-, sound, -⟩ := watched.followed x.store.outbox.length (by rw [phase]; rfl)
    rw [x.copy_eq x.store.outbox.length]
    refine sound.converged ?_ ?_
    · rw [WatchRun.replica, List.drop_length]
      rfl
    · simpa [WatchRun.replica] using read id
  · refine (List.pairwise_map.mp watched.last).imp fun {m m'} apart deleted => ?_
    exact apart (if_pos deleted)
  · obtain ⟨news, outbox, told, -⟩ := (watched.tells controller step).events
    refine ⟨news, outbox, fun id differs => ?_⟩
    obtain ⟨n, member, source, kind⟩ := mem_notices.mp (told id differs)
    exact ⟨n, member, source, (Option.isSome_map ..).symm.trans (by rw [kind]; rfl)⟩

/-- Operations that run one after another are steps of a run. -/
theorem WatchStep.works {system : System Env Store Event (Option Err)}
    (moves : Relation.ReflTransGen
      (System.Moves {call | GatewayCall svc call} Bystander) x.system system) :
    Relation.ReflTransGen (WatchStep svc p) x { x with system := system } := by
  induction moves with
  | refl => exact .refl
  | tail _ move ih => exact ih.tail (.work move)

end Runs

/-! ### The sample -/

namespace Sample

/-- Gateways are ordered by ID, and there is no search. -/
scoped instance sampleGateways : Database Gateway where
  compare _ := compareOn fun g : Gateway => g.id
  ordered _ := inferInstance
  distinct a b alike := Std.LawfulEqCmp.eq_of_compare (show compare a.id b.id = .eq from alike)
  parse _ := none
  examines _ _ _ := true

/-- A service to which every caller is a controller. -/
def watchService : GatewayService := ⟨fun _ => true, [], [], [], "", ""⟩

/-- What a call that runs alone without failures returns and leaves. -/
def alone {α : Type} (call : Process α) (s : Store) :
    Option (List (Env × Store) × α × List Event × Store) :=
  call.run [env drawnID] s

theorem ok_of_toOption {α : Type} {r : Except Err α} (some : r.toOption.isSome = true) :
    ∃ a, r = .ok a := by
  cases r with
  | ok a => exact ⟨a, rfl⟩
  | error e => cases some

/-- The calls of the run, one after another. -/
theorem watched_deletion_runs :
    ((placed "cluster").any fun s =>
      (s.gateways.rows.all fun g => Platform.validID g.id) &&
      (alone (listGateways watchService principal 1 0) s).any fun (_, (_, e), _, t) => e.isNone &&
        (alone (Prod.snd <$> deleteGateway watchService principal gatewayID) t).any
          fun (_, e, _, u) => e.isNone && decide (u.outbox.length = t.outbox.length + 1) &&
            (u.outbox[t.outbox.length]?).any fun event =>
              (alone (handleEvent watchService principal event) u).any fun (_, message, _, v) =>
                (message.toOption.any fun m => m.isSome) &&
                decide (v.outbox.length = u.outbox.length) &&
                (alone (listGateways watchService principal 1 500) v).any
                  fun (_, (result, e), _, w) => e.isNone && decide ((result.total : Int) ≤ 500) &&
                    decide (w.outbox.length = v.outbox.length) &&
                    (w.presented gatewayID).isSome &&
                    ((result.items.mapM present).toOption.isSome)) = true := by
  decide +kernel

/-- A deletion between the header and the list of the client. -/
theorem watched_deletion : ∃ (s : Store) (x : WatchRun), s.Drawn ∧
    Relation.ReflTransGen (WatchStep watchService principal) (.opening s) x ∧
    x.stream = .watching x.store.outbox.length ∧ (∀ id, (x.seen id).isSome = true) ∧
    (x.store.presented gatewayID).isSome = true ∧ x.sent.length = 1 := by
  have computed := watched_deletion_runs
  simp only [Option.any_eq_true, Bool.and_eq_true, Prod.exists, decide_eq_true_eq,
    Option.isNone_iff_eq_none, List.all_eq_true] at computed
  obtain ⟨s, -, drawn, steps, result, e, l, t, checks, rfl, steps', e', l', u, deletes, ⟨rfl, longer⟩,
    event, delivered, steps'', message, l'', v, handles, ⟨told, same⟩, steps₃, listed, e₃, l₃, w,
    lists, ⟨⟨⟨⟨rfl, whole⟩, same'⟩, shown⟩, presented⟩⟩ := computed
  obtain ⟨sent, made, some⟩ := told
  obtain ⟨message, rfl⟩ := ok_of_toOption (by rw [made]; rfl)
  cases made
  obtain ⟨items, presented⟩ := ok_of_toOption presented
  have still : ∀ s : Store, s = s := fun _ => rfl
  let x : WatchRun := ⟨⟨t, []⟩, .watching t.outbox.length, [], fun _ => none⟩
  have opened : Relation.ReflTransGen (WatchStep watchService principal) (.opening s) x := by
    have checked : WatchStep watchService principal (.opening s)
        ⟨⟨t, []⟩, .checked, [], fun _ => none⟩ :=
      .check (x := .opening s) rfl (Proc.exec_of_run still checks)
    have subscribed : WatchStep watchService principal ⟨⟨t, []⟩, .checked, [], fun _ => none⟩
        ⟨⟨t, []⟩, .subscribed t.outbox.length, [], fun _ => none⟩ :=
      .subscribe (x := ⟨⟨t, []⟩, .checked, [], fun _ => none⟩) rfl
    exact ((Relation.ReflTransGen.single checked).tail subscribed).tail
      (.header (x := ⟨⟨t, []⟩, .subscribed t.outbox.length, [], fun _ => none⟩) rfl)
  have deleted : Relation.ReflTransGen (WatchStep watchService principal) x
      { x with system := ⟨u, []⟩ } :=
    WatchStep.works (System.moves_of_call (.delete principal gatewayID) deletes)
  refine ⟨s, _, ?_, ((opened.trans deleted).tail (.handle rfl delivered
    (Proc.exec_of_run still handles))).tail (.list rfl (Proc.exec_of_run still lists)
    ⟨by decide, whole⟩ presented), ?_, fun _ => rfl, shown, ?_⟩
  · intro id stored
    obtain ⟨g, found⟩ := Option.isSome_iff_exists.mp stored
    rw [← Store.id_of_gateway? found]
    exact drawn g (Table.mem_of_find? found)
  · show Stream.watching (t.outbox.length + 1) = .watching w.outbox.length
    rw [same', same, longer]
  · obtain ⟨m, rfl⟩ := Option.isSome_iff_exists.mp some
    rfl

end Sample

open Sample in
/-- The client of the sample holds the Gateway, which is being deleted. -/
theorem watch_converges_sample : ∃ x : WatchRun, x.sent.length = 1 ∧
    (x.copy Sample.gatewayID).isSome = true ∧
    ∀ id, (x.copy id).map Except.ok = x.store.presented id := by
  obtain ⟨s, x, drawn, run, phase, read, shown, sent⟩ := Sample.watched_deletion
  have converged := (watch_converges drawn rfl run).1 phase read
  refine ⟨x, sent, ?_, converged⟩
  rw [← converged, Option.isSome_map] at shown
  exact shown

end Hypershell
