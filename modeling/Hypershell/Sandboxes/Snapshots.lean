import Mathlib.Data.List.AList
import Hypershell.Sandboxes.Tally

/-!
# Snapshots of pods and the events after them

The cache that events build from a snapshot is the cache of the snapshot that the events lead to.

## Main definitions

* `applied` — a snapshot after an event
* `Loads` — a cache holds the pods of a snapshot

## Main results

* `addAll_accepts` — a snapshot of few enough pods, each in one namespace, is accepted
* `consumeAll_loads` — the events that an observation takes in
-/

namespace Hypershell.Sandboxes

open Foundation

/-! ### What a snapshot says -/

/-- What an object says of a pod. -/
def describes (uid : String) (object : KubeObject) : Option SandboxPod :=
  match classify object with
  | .ok (key, pod) => if key = uid then some pod else none
  | .error _ => none

/-- The last word of a snapshot on a pod. -/
def latest (objects : List KubeObject) (uid : String) : Option SandboxPod :=
  (objects.filterMap (describes uid)).getLast?

/-- A snapshot after an event: the object takes the place of those with its UID. -/
def applied (objects : List KubeObject) (change : PodChange) : List KubeObject :=
  match classify change.object with
  | .error _ => objects
  | .ok (uid, _) =>
    let others := objects.filter fun object => (describes uid object).isNone
    if change.kind = "DELETED" then others else others ++ [change.object]

/-- Equal resource versions of one pod denote equal objects. -/
def Versioned (objects : List KubeObject) : Prop :=
  ∀ a ∈ objects, ∀ b ∈ objects, ∀ uid p q, describes uid a = some p → describes uid b = some q →
    p.version = q.version → a = b

/-- A cache holds the pods of a snapshot. -/
structure Loads (objects : List KubeObject) (pods : AList fun _ : String => SandboxPod) : Prop where
  valid : ∀ a ∈ objects, ∃ uid pod, classify a = .ok (uid, pod)
  place : ∀ a ∈ objects, ∀ b ∈ objects, ∀ uid p q, describes uid a = some p →
    describes uid b = some q → p.physical = q.physical
  lookups : ∀ uid, pods.lookup uid = latest objects uid

section Snapshots

variable {o : PodObservation} {object a b : KubeObject} {uid key kind : String}
  {pod old next : SandboxPod} {objects done rest all : List KubeObject}
  {pods : AList fun _ : String => SandboxPod} {change : PodChange}

theorem describes_iff : describes uid object = some pod ↔ classify object = .ok (uid, pod) := by
  unfold describes
  cases classified : classify object with
  | error e => simp
  | ok found =>
    obtain ⟨key, value⟩ := found
    by_cases same : key = uid
    · simp [same]
    · simp [same]

theorem latest_mem (last : latest objects uid = some pod) :
    ∃ a ∈ objects, describes uid a = some pod :=
  List.mem_filterMap.mp (List.mem_of_getLast? last)

theorem latest_append : latest (objects ++ [object]) uid =
    (describes uid object).or (latest objects uid) := by
  unfold latest
  rw [List.filterMap_append, List.getLast?_append]
  cases described : describes uid object with
  | none => simp [described]
  | some pod => simp [described]

/-- A snapshot without the objects of a UID. -/
theorem latest_without : latest (objects.filter fun a => (describes uid a).isNone) key =
    if key = uid then none else latest objects key := by
  unfold latest
  rw [List.filterMap_filter]
  split
  · rename_i same
    subst same
    rw [List.filterMap_eq_nil_iff.mpr, List.getLast?_nil]
    intro a _
    cases described : describes key a with
    | none => simp
    | some pod => simp
  · rename_i differs
    refine congrArg List.getLast? (List.filterMap_congr fun a _ => ?_)
    cases described : describes uid a with
    | none => simp
    | some pod =>
      rw [describes_iff] at described
      simp [describes, described, Ne.symm differs]

theorem mem_applied (member : a ∈ applied objects change) : a ∈ objects ∨ a = change.object := by
  unfold applied at member
  split at member
  · exact Or.inl member
  · dsimp only at member
    split at member
    · exact Or.inl (List.mem_of_mem_filter member)
    · rcases List.mem_append.mp member with among | last
      · exact Or.inl (List.mem_of_mem_filter among)
      · exact Or.inr (List.mem_singleton.mp last)

theorem mem_applied_all {events : List PodChange} (member : a ∈ events.foldl applied objects) :
    a ∈ objects ++ events.map PodChange.object := by
  induction events generalizing objects with
  | nil => exact List.mem_append_left _ member
  | cons event rest ih =>
    rw [List.map_cons, List.mem_append, List.mem_cons]
    rcases List.mem_append.mp (ih member) with before | later
    · exact (mem_applied before).imp id Or.inl
    · exact Or.inr (Or.inr later)

/-! ### The events that a cache takes in -/

theorem lookup_insert_ite (uid : String) (next : SandboxPod) (key : String) :
    (pods.insert uid next).lookup key = if key = uid then some next else pods.lookup key := by
  split
  · rename_i same
    rw [same, AList.lookup_insert]
  · rename_i differs
    exact AList.lookup_insert_ne differs

theorem not_deletes (adds : kind = "ADDED" ∨ kind = "MODIFIED") : kind ≠ "DELETED" := by
  rcases adds with rfl | rfl <;> decide

/-- An event is rejected and changes nothing, or it sets or erases the pod of its object. -/
theorem update_takes (kind : String)
    (fresh : ∀ uid next old, classify object = .ok (uid, next) → o.pods.lookup uid = some old →
      old.version = next.version → old = next) :
    ((update o kind object).1 ≠ none ∧ (update o kind object).2 = o) ∨
      ∃ uid next, classify object = .ok (uid, next) ∧
        (kind ≠ "DELETED" → ∀ old, o.pods.lookup uid = some old → old.physical = next.physical) ∧
        ∀ key, (update o kind object).2.pods.lookup key =
          if key = uid then (if kind = "DELETED" then none else some next)
          else o.pods.lookup key := by
  have cases_ := update_cases o kind object
  generalize update o kind object = r at cases_ ⊢
  cases cases_ with
  | malformed => exact Or.inl ⟨nofun, rfl⟩
  | moved => exact Or.inl ⟨nofun, rfl⟩
  | unknown => exact Or.inl ⟨nofun, rfl⟩
  | full => exact Or.inl ⟨nofun, rfl⟩
  | @gone uid next classified absent deletes =>
    refine Or.inr ⟨uid, next, classified, fun other => absurd deletes other, fun key => ?_⟩
    rw [if_pos deletes]
    split
    · rename_i same
      rw [same]
      exact absent
    · rfl
  | @repeated uid old next classified found version adds =>
    have same := fresh uid next old classified found version
    subst same
    refine Or.inr ⟨uid, old, classified, fun _ old' found' => ?_, fun key => ?_⟩
    · rw [found] at found'
      cases found'
      rfl
    rw [if_neg (not_deletes adds)]
    split
    · rename_i same
      rw [same]
      exact found
    · rfl
  | @removed uid old next classified found deletes =>
    refine Or.inr ⟨uid, next, classified, fun other => absurd deletes other, fun key => ?_⟩
    rw [if_pos deletes, settle_pods]
    split
    · rename_i same
      rw [same, AList.lookup_erase]
    · rename_i differs
      exact AList.lookup_erase_ne differs
  | @stored uid next classified same room adds =>
    refine Or.inr ⟨uid, next, classified, fun _ => same, fun key => ?_⟩
    rw [if_neg (not_deletes adds), settle_pods]
    exact lookup_insert_ite uid next key

/-- The last word on a pod is the stored one if the versions are equal. -/
theorem Loads.fresh (loads : Loads objects pods) (versioned : Versioned all)
    (within : objects ⊆ all) (member : object ∈ all) (classified : classify object = .ok (uid, next))
    (found : pods.lookup uid = some old) (version : old.version = next.version) : old = next := by
  rw [loads.lookups] at found
  obtain ⟨a, known, described⟩ := latest_mem found
  have here := describes_iff.mpr classified
  have same := versioned a (within known) object member uid old next described here version
  rw [same, here] at described
  exact (Option.some.inj described).symm

/-- **An event that is taken in leads from the cache of a snapshot to that of the next.** -/
theorem Loads.applied (loads : Loads objects pods) (classified : classify change.object = .ok (uid, next))
    {pods' : AList fun _ : String => SandboxPod}
    (lookups : ∀ key, pods'.lookup key =
      if key = uid then (if change.kind = "DELETED" then none else some next) else pods.lookup key) :
    Loads (applied objects change) pods' := by
  have split : ∀ a ∈ Sandboxes.applied objects change,
      (a ∈ objects ∧ describes uid a = none) ∨ (a = change.object ∧ change.kind ≠ "DELETED") := by
    intro a member
    unfold Sandboxes.applied at member
    rw [classified] at member
    dsimp only at member
    split at member
    · rw [List.mem_filter, Option.isNone_iff_eq_none] at member
      exact Or.inl member
    · rename_i kept
      rw [List.mem_append, List.mem_filter, Option.isNone_iff_eq_none, List.mem_singleton] at member
      exact member.imp id fun same => ⟨same, kept⟩
  have here : describes uid change.object = some next := describes_iff.mpr classified
  have other : ∀ {a key p q}, describes uid a = none → describes key a = some p →
      describes key change.object = some q → False := by
    intro a key p q absent described last
    rw [describes_iff, classified] at last
    cases last
    rw [absent] at described
    cases described
  refine ⟨fun a member => ?_, fun a first b second key p q one two => ?_, fun key => ?_⟩
  · rcases split a member with ⟨known, -⟩ | ⟨rfl, -⟩
    · exact loads.valid a known
    · exact ⟨uid, next, classified⟩
  · rcases split a first with ⟨known, absent⟩ | ⟨rfl, -⟩
    · rcases split b second with ⟨known', -⟩ | ⟨rfl, -⟩
      · exact loads.place a known b known' key p q one two
      · exact (other absent one two).elim
    · rcases split b second with ⟨-, absent⟩ | ⟨rfl, -⟩
      · exact (other absent two one).elim
      · rw [one] at two
        cases two
        rfl
  · rw [lookups key]
    unfold Sandboxes.applied
    rw [classified]
    dsimp only
    by_cases deletes : change.kind = "DELETED"
    · rw [if_pos deletes, if_pos deletes, latest_without, loads.lookups]
    · rw [if_neg deletes, if_neg deletes, latest_append, latest_without, loads.lookups]
      by_cases same : key = uid
      · rw [if_pos same, if_pos same, same, here]
        rfl
      · have silent : describes key change.object = none := by
          cases described : describes key change.object with
          | none => rfl
          | some pod =>
            rw [describes_iff, classified] at described
            cases described
            exact absurd rfl same
        rw [if_neg same, if_neg same, silent]
        rfl

/-- An object more of a snapshot. -/
theorem Loads.append (loads : Loads done pods) (classified : classify object = .ok (uid, next))
    (place : ∀ old, pods.lookup uid = some old → old.physical = next.physical)
    {pods' : AList fun _ : String => SandboxPod}
    (lookups : ∀ key, pods'.lookup key = if key = uid then some next else pods.lookup key) :
    Loads (done ++ [object]) pods' := by
  have here : describes uid object = some next := describes_iff.mpr classified
  have among : ∀ a ∈ done, ∀ key p q, describes key a = some p → describes key object = some q →
      p.physical = q.physical := by
    intro a known key p q one two
    rw [describes_iff, classified] at two
    cases two
    cases found : pods.lookup uid with
    | none =>
      rw [loads.lookups, latest, List.getLast?_eq_none_iff, List.filterMap_eq_nil_iff] at found
      rw [found a known] at one
      cases one
    | some old =>
      rw [← place old found]
      rw [loads.lookups] at found
      obtain ⟨b, known', described⟩ := latest_mem found
      exact loads.place a known b known' uid p old one described
  refine ⟨fun a member => ?_, fun a first b second key p q one two => ?_, fun key => ?_⟩
  · rcases List.mem_append.mp member with known | last
    · exact loads.valid a known
    · rw [List.mem_singleton.mp last]
      exact ⟨uid, next, classified⟩
  · rcases List.mem_append.mp first with known | last
    · rcases List.mem_append.mp second with known' | last'
      · exact loads.place a known b known' key p q one two
      · rw [List.mem_singleton.mp last'] at two
        exact among a known key p q one two
    · rw [List.mem_singleton.mp last] at one
      rcases List.mem_append.mp second with known' | last'
      · exact (among b known' key q p two one).symm
      · rw [List.mem_singleton.mp last', one] at two
        cases two
        rfl
  · rw [lookups key, latest_append, loads.lookups]
    by_cases same : key = uid
    · rw [if_pos same, same, here]
      rfl
    · have silent : describes key object = none := by
        cases described : describes key object with
        | none => rfl
        | some pod =>
          rw [describes_iff, classified] at described
          cases described
          exact absurd rfl same
      rw [if_neg same, silent]
      rfl

theorem loads_new : Loads [] newObservation.pods :=
  ⟨fun _ never => (List.not_mem_nil never).elim, fun _ never => (List.not_mem_nil never).elim,
    fun _ => rfl⟩

/-- **An accepted snapshot is loaded.** -/
theorem addAll_loads (versioned : Versioned all) (whole : done ++ rest ⊆ all)
    (loads : Loads done o.pods) (accepted : (addAll o rest).1 = none) :
    Loads (done ++ rest) (addAll o rest).2.pods := by
  induction rest generalizing o done with
  | nil =>
    rw [List.append_nil]
    exact loads
  | cons object rest ih =>
    have mine : object ∈ all := whole (List.mem_append_right _ List.mem_cons_self)
    have fresh : ∀ uid next old, classify object = .ok (uid, next) →
        o.pods.lookup uid = some old → old.version = next.version → old = next :=
      fun uid next old classified found version =>
        loads.fresh versioned (fun a known => whole (List.mem_append_left _ known)) mine
          classified found version
    have taken := update_takes "ADDED" fresh
    unfold addAll at accepted ⊢
    cases updated : update o "ADDED" object with
    | mk e next =>
      rw [updated] at taken
      cases e with
      | some e =>
        rw [updated] at accepted
        cases accepted
      | none =>
        rw [updated] at accepted
        rcases taken with ⟨failed, -⟩ | ⟨uid, pod, classified, place, lookups⟩
        · exact absurd rfl failed
        · have more : Loads (done ++ [object]) next.pods :=
            loads.append classified (place (by decide)) lookups
          have tail : (done ++ [object]) ++ rest ⊆ all := by
            rw [List.append_assoc]
            exact whole
          have built := ih tail more accepted
          rw [List.append_assoc] at built
          exact built

/-! ### Snapshots that are accepted -/

theorem latest_isSome : (latest objects uid).isSome ↔ ∃ a ∈ objects, ∃ pod, describes uid a = some pod := by
  constructor
  · intro some_
    obtain ⟨pod, last⟩ := Option.isSome_iff_exists.mp some_
    obtain ⟨a, known, described⟩ := latest_mem last
    exact ⟨a, known, pod, described⟩
  · rintro ⟨a, known, pod, described⟩
    unfold latest
    rw [List.getLast?_isSome]
    exact List.ne_nil_of_mem (List.mem_filterMap.mpr ⟨a, known, described⟩)

/-- Every changed namespace is that of a pod. -/
def Named (o : PodObservation) : Prop :=
  ∀ ns ∈ o.changed, ∃ uid pod, o.pods.lookup uid = some pod ∧ pod.nameSpace = ns

/-- A pod that is stored leaves the changed namespaces those of pods. -/
theorem Named.stored (named : Named o) (tallied : Tallied o)
    (classified : classify object = .ok (uid, next))
    (same : ∀ old, o.pods.lookup uid = some old → old.physical = next.physical) :
    Named (settle { o with pods := o.pods.insert uid next }
      ((o.pods.lookup uid).getD noPod) next).2 := by
  have after := stored_adjusted tallied classified same
  intro ns changed
  rw [after.kept]
  rcases Finset.mem_insert.mp (after.within changed) with rfl | before
  · exact ⟨uid, next, AList.lookup_insert _, rfl⟩
  · obtain ⟨key, pod, found, rfl⟩ := named ns before
    by_cases here : key = uid
    · subst here
      refine ⟨key, next, AList.lookup_insert _, ?_⟩
      rw [(tallied.canonical key pod found).1, same pod found, (classify_canonical classified).1]
    · exact ⟨key, pod, (AList.lookup_insert_ne here).trans found, rfl⟩

/-- An object that is added leaves the changed namespaces those of pods. -/
theorem update_named (named : Named o) (tallied : Tallied o) (object : KubeObject) :
    Named (update o "ADDED" object).2 := by
  have cases_ := update_cases o "ADDED" object
  generalize update o "ADDED" object = r at cases_ ⊢
  cases cases_ with
  | malformed => exact named
  | moved => exact named
  | unknown => exact named
  | full => exact named
  | gone => exact named
  | repeated => exact named
  | removed classified found deletes => exact absurd deletes (by decide)
  | stored classified same => exact named.stored tallied classified same

theorem addAll_named (named : Named o) (tallied : Tallied o) (objects : List KubeObject) :
    Named (addAll o objects).2 := by
  induction objects generalizing o with
  | nil => exact named
  | cons object rest ih =>
    have first := update_named named tallied object
    have kept := (update_keeps tallied "ADDED" object).1.tallied
    unfold addAll
    cases updated : update o "ADDED" object with
    | mk e next =>
      rw [updated] at first kept
      cases e with
      | some e => exact first
      | none => exact ih first kept

/-- **A snapshot is accepted if there is room for its pods.** -/
theorem addAll_accepts (versioned : Versioned objects) (final : Loads objects pods)
    (room : size pods ≤ maxObservedObjects) (whole : done ++ rest = objects)
    (loads : Loads done o.pods) (tallied : Tallied o) (named : Named o) :
    (addAll o rest).1 = none := by
  induction rest generalizing o done with
  | nil => rfl
  | cons object rest ih =>
    have mine : object ∈ objects := by
      rw [← whole]
      exact List.mem_append_right _ List.mem_cons_self
    have known : done ⊆ objects := by
      rw [← whole]
      exact List.subset_append_left _ _
    have fresh : ∀ uid next old, classify object = .ok (uid, next) →
        o.pods.lookup uid = some old → old.version = next.version → old = next :=
      fun uid next old classified found version =>
        loads.fresh versioned known mine classified found version
    have place : ∀ uid next old, classify object = .ok (uid, next) →
        o.pods.lookup uid = some old → old.physical = next.physical := by
      intro uid next old classified found
      rw [loads.lookups] at found
      obtain ⟨a, member, described⟩ := latest_mem found
      exact final.place a (known member) object mine uid old next described
        (describes_iff.mpr classified)
    have fits : ∀ {next : PodObservation}, Loads (done ++ [object]) next.pods →
        size next.pods ≤ maxObservedObjects := by
      intro next more
      refine (size_le_of_lookup fun key stored => ?_).trans room
      rw [more.lookups, latest_isSome] at stored
      obtain ⟨a, member, pod, described⟩ := stored
      rw [final.lookups, latest_isSome]
      refine ⟨a, ?_, pod, described⟩
      rw [← whole]
      rcases List.mem_append.mp member with before | last
      · exact List.mem_append_left _ before
      · rw [List.mem_singleton.mp last]
        exact List.mem_append_right _ List.mem_cons_self
    -- What is stored of the object is as the snapshot up to it.
    have takes : ∀ {uid next} (classified : classify object = .ok (uid, next)) (r : PodObservation),
        (∀ key, r.pods.lookup key = if key = uid then some next else o.pods.lookup key) →
          Loads (done ++ [object]) r.pods :=
      fun classified r lookups =>
        loads.append classified (fun old found => place _ _ old classified found) lookups
    have names := update_named named tallied object
    have goes : (update o "ADDED" object).1 = none ∧
        Loads (done ++ [object]) (update o "ADDED" object).2.pods := by
      have cases_ := update_cases o "ADDED" object
      generalize update o "ADDED" object = r at cases_ names ⊢
      cases cases_ with
      | malformed invalid =>
        obtain ⟨uid, pod, classified⟩ := final.valid object mine
        rw [invalid] at classified
        cases classified
      | moved classified found elsewhere => exact absurd (place _ _ _ classified found) elsewhere
      | unknown other => exact absurd rfl other.2.1
      | @full uid next e classified absent many adds =>
        have stored := fits (takes classified { o with pods := o.pods.insert uid next }
          (lookup_insert_ite uid next))
        rw [size_insert, absent] at stored
        simp only [Option.isSome_none, Bool.false_eq_true, if_false] at stored
        omega
      | gone classified absent deletes => exact absurd deletes (by decide)
      | @repeated uid old next classified found version adds =>
        refine ⟨rfl, takes classified o fun key => ?_⟩
        rw [← fresh uid next old classified found version]
        split
        · rename_i same
          rw [same]
          exact found
        · rfl
      | removed classified found deletes => exact absurd deletes (by decide)
      | @stored uid next classified same room' adds =>
        have more := takes classified
          (settle { o with pods := o.pods.insert uid next } ((o.pods.lookup uid).getD noPod) next).2
          fun key => by
            rw [settle_pods]
            exact lookup_insert_ite uid next key
        refine ⟨?_, more⟩
        by_contra failed
        have many := (stored_adjusted tallied classified same).error failed
        have few := card_le_size SandboxPod.nameSpace names
        have small := fits more
        omega
    have kept := (update_keeps tallied "ADDED" object).1.tallied
    unfold addAll
    cases updated : update o "ADDED" object with
    | mk e next =>
      rw [updated] at goes kept names
      obtain ⟨accepted, more⟩ := goes
      dsimp only at accepted
      subst accepted
      exact ih (by rw [List.append_assoc]; exact whole) more kept names

/-! ### Events after a snapshot -/

/-- What is kept of an accepted snapshot. -/
theorem replace_accepted (accepted : (consume o ⟨"REPLACE", objects, object⟩).1 = none) :
    (addAll newObservation objects).1 = none ∧
      (consume o ⟨"REPLACE", objects, object⟩).2.pods = (addAll newObservation objects).2.pods ∧
      (consume o ⟨"REPLACE", objects, object⟩).2.counts = (addAll newObservation objects).2.counts := by
  unfold consume accept at accepted ⊢
  simp only [show ("REPLACE" = "RESET") = False by decide, if_false, if_true] at accepted ⊢
  cases added : addAll newObservation objects with
  | mk e next =>
    rw [added] at accepted
    cases e with
    | some e => cases accepted
    | none =>
      by_cases fits : (next.changed ∪ o.counts.keys.toFinset ∪ o.changed).card > maxObservedObjects
      · simp only [if_pos fits] at accepted
        cases accepted
      · simp only [if_neg fits, and_self]

/-- A snapshot that is accepted first. -/
theorem replace_new (built : (addAll newObservation objects).1 = none)
    (few : (addAll newObservation objects).2.changed.card ≤ maxObservedObjects) :
    (consume newObservation ⟨"REPLACE", objects, object⟩).1 = none := by
  unfold consume accept
  simp only [show ("REPLACE" = "RESET") = False by decide, if_false, if_true]
  cases added : addAll newObservation objects with
  | mk e next =>
    rw [added] at built few
    dsimp only at built few
    subst built
    have unchanged : next.changed ∪ newObservation.counts.keys.toFinset ∪ newObservation.changed =
        next.changed := by
      rw [show newObservation.counts.keys.toFinset = ∅ from rfl,
        show newObservation.changed = ∅ from rfl, Finset.union_empty, Finset.union_empty]
    dsimp only
    rw [unchanged, if_neg (Nat.not_lt.mpr few)]

/-- A change that adds, modifies or deletes one pod, or is none that is known. -/
def PodChange.IsEvent (change : PodChange) : Prop := change.kind ≠ "RESET" ∧ change.kind ≠ "REPLACE"

/-- An observation that is not ready ignores events. -/
theorem consume_idle (idle : o.ready = false) (event : change.IsEvent) :
    (consume o change).2 = o := by
  unfold consume accept
  rw [if_neg event.1, if_neg event.2, if_pos idle]
  cases o
  cases idle
  rfl

theorem consumeAll_idle (idle : o.ready = false) {events : List PodChange}
    (kinds : ∀ e ∈ events, e.IsEvent) : consumeAll o events = o := by
  induction events with
  | nil => rfl
  | cons event rest ih =>
    rw [consumeAll, List.foldl_cons, consume_idle idle (kinds event List.mem_cons_self)]
    exact ih fun e later => kinds e (List.mem_cons_of_mem _ later)

theorem consumeAll_tallied (tallied : Tallied o) (changes : List PodChange) :
    Tallied (consumeAll o changes) := by
  induction changes generalizing o with
  | nil => exact tallied
  | cons change rest ih => exact ih (consume_keeps tallied change).1

/-- A ready observation takes an event of one object, or stops being ready. -/
theorem consume_event {event : PodChange} (ready : o.ready = true) (kind : event.IsEvent) :
    (consume o event).2 = match update o event.kind event.object with
      | (some _, next) => { next with ready := false }
      | (none, next) => next := by
  unfold consume accept
  rw [if_neg kind.1, if_neg kind.2, if_neg (by rw [ready]; decide)]
  cases update o event.kind event.object with
  | mk e next => cases e <;> rfl

/-- **The cache after events is that of the snapshot they lead to**, up to the first event that
is rejected: from there on the observation is not ready and ignores events. -/
theorem consumeAll_loads {events : List PodChange} (versioned : Versioned all)
    (within : objects ⊆ all) (among : ∀ e ∈ events, e.object ∈ all)
    (kinds : ∀ e ∈ events, e.IsEvent) (loads : Loads objects o.pods) :
    ∃ k ≤ events.length, ((consumeAll o events).ready = true → k = events.length) ∧
      Loads ((events.take k).foldl applied objects) (consumeAll o events).pods := by
  induction events generalizing o objects with
  | nil => exact ⟨0, Nat.le_refl _, fun _ => rfl, loads⟩
  | cons event rest ih =>
    have kind := kinds event List.mem_cons_self
    have later : ∀ e ∈ rest, e.IsEvent := fun e member => kinds e (List.mem_cons_of_mem _ member)
    cases ready : o.ready with
    | false =>
      rw [consumeAll_idle ready kinds]
      refine ⟨0, Nat.zero_le _, fun works => ?_, loads⟩
      rw [ready] at works
      cases works
    | true =>
      have mine : event.object ∈ all := among event List.mem_cons_self
      have consumed := consume_event ready kind
      have fresh : ∀ uid next old, classify event.object = .ok (uid, next) →
          o.pods.lookup uid = some old → old.version = next.version → old = next :=
        fun uid next old classified found version =>
          loads.fresh versioned within mine classified found version
      have takes := update_takes event.kind fresh
      rw [consumeAll, List.foldl_cons]
      cases updated : update o event.kind event.object with
      | mk e next =>
        rw [updated] at consumed takes
        rw [consumed]
        have stops : ∀ {n : PodObservation}, n.ready = false →
            consumeAll n rest = n := fun idle => consumeAll_idle idle later
        have includes : Sandboxes.applied objects event ⊆ all := by
          intro a member
          rcases mem_applied member with known | rfl
          · exact within known
          · exact mine
        cases e with
        | some e =>
          -- The event is rejected, and with it all that follow.
          have end_ : consumeAll { next with ready := false } rest = { next with ready := false } :=
            stops rfl
          have idle : ({ next with ready := false } : PodObservation).ready = true → False := Bool.false_ne_true
          rcases takes with ⟨-, same⟩ | ⟨uid, pod, classified, -, lookups⟩
          · dsimp only at same
            refine ⟨0, Nat.zero_le _, fun works => ?_, ?_⟩
            · rw [consumeAll] at end_
              rw [end_] at works
              exact (idle works).elim
            · rw [consumeAll] at end_
              rw [end_, List.take_zero, List.foldl_nil, same]
              exact loads
          · refine ⟨1, Nat.succ_le_succ (Nat.zero_le _), fun works => ?_, ?_⟩
            · rw [consumeAll] at end_
              rw [end_] at works
              exact (idle works).elim
            · rw [consumeAll] at end_
              rw [end_, List.take_succ_cons, List.take_zero, List.foldl_cons, List.foldl_nil]
              exact loads.applied classified lookups
        | none =>
          rcases takes with ⟨failed, -⟩ | ⟨uid, pod, classified, -, lookups⟩
          · exact absurd rfl failed
          · obtain ⟨k, few, whole, built⟩ := ih includes
              (fun e member => among e (List.mem_cons_of_mem _ member)) later
              (loads.applied classified lookups)
            refine ⟨k + 1, Nat.succ_le_succ few, fun works => ?_, ?_⟩
            · rw [whole works, List.length_cons]
            · rw [List.take_succ_cons, List.foldl_cons]
              exact built

end Snapshots

end Hypershell.Sandboxes
