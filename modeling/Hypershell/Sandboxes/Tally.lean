import Mathlib.Data.Finset.Card
import Hypershell.Foundation.Counting
import Hypershell.Foundation.Quoting

/-!
# The tally of sandbox pods

A watch reports the pods of a Gateway's namespace.  Each pod is cached under its UID, and the
number of active ones is kept for each canonical namespace by adding and taking away one.

## Main definitions

* `KubeObject`, `classify` — an observed object and the pod it describes
* `PodObservation`, `consume`, `update` — the cache, its counts, and what a change does to them
* `recount` — the number of active pods, counted anew
* `Tallied` — the invariant: each count is a recount

## Main results

* `adjusted` — the counts are adjusted by what one pod adds
* `update_cases` — everything that an event can do
* `consume_keeps` — a change keeps the invariant, whether it is accepted or rejected
-/

namespace Hypershell.Sandboxes

open Foundation Texts

/-! ### Objects -/

/-- A decoded value. -/
inductive JSONValue
  | text (value : String)
  | object (fields : List (String × JSONValue))
  | other

/-- An object of the cluster. -/
abbrev KubeObject : Type := List (String × JSONValue)

/-- The value at a path: `Nested`. -/
def JSONValue.nested : Option JSONValue → List String → Option JSONValue
  | value, [] => value
  | some (.object fields), key :: rest => nested (fields.lookup key) rest
  | _, _ :: _ => none

/-- `kube.String`: the empty text if there is none. -/
def kubeString (o : KubeObject) (path : List String) : String :=
  match JSONValue.nested (some (.object o)) path with
  | some (.text value) => value
  | _ => ""

/-- A pod in the cache. -/
structure SandboxPod where
  nameSpace : String
  version : String
  physical : String
  active : Bool
  deriving DecidableEq, Repr

/-- `SandboxLabel`. -/
def sandboxLabel : String := "agents.x-k8s.io/sandbox-name-hash"

/-- The regular expression `^openshell-(?:sandbox-)?([0-9a-f]{16})$`: the captured digits. -/
def namespaceDigits (ns : String) : Option (List Char) :=
  match ns.toList.dropPrefix? "openshell-".toList with
  | none => none
  | some rest =>
    let digits := (rest.dropPrefix? "sandbox-".toList).getD rest
    if digits.length = 16 ∧ ∀ c ∈ digits, c.isDigit = true ∨ 'a' ≤ c ∧ c ≤ 'f' then some digits
    else none

/-- The canonical namespace, empty if there is none. -/
def canonicalNamespace (ns : String) : String :=
  match namespaceDigits ns with
  | some digits => "openshell-" ++ String.ofList digits
  | none => ""

/-- `classify`. -/
def classify (o : KubeObject) : Except String (String × SandboxPod) :=
  let uid := kubeString o ["metadata", "uid"]
  let ns := kubeString o ["metadata", "namespace"]
  let version := kubeString o ["metadata", "resourceVersion"]
  if uid = "" ∨ ns = "" ∨ version = "" then
    .error "sandbox observation has no identity"
  else
    let canonical := canonicalNamespace ns
    let sandbox : Bool :=
      match JSONValue.nested (some (.object o)) ["metadata", "labels"] with
      | some (.object labels) => (labels.lookup sandboxLabel).isSome
      | _ => false
    let phase := kubeString o ["status", "phase"]
    .ok (uid, ⟨canonical, version, ns,
      decide (canonical ≠ "") && sandbox && decide (phase = "Pending" ∨ phase = "Running")⟩)

/-! ### The cache and its counts -/

/-- What is known of one watched namespace. -/
structure PodObservation where
  ready : Bool
  pods : AList fun _ : String => SandboxPod
  counts : AList fun _ : String => Int
  changed : Finset String

def newObservation : PodObservation := ⟨false, ∅, ∅, ∅⟩

/-- `kube.MaxObservedObjects`. -/
def maxObservedObjects : Nat := 10000

/-- A pod that is not in the cache. -/
def noPod : SandboxPod := ⟨"", "", "", false⟩

/-- The end of `update`: a pod that was `old` is now `next`. -/
def settle (o : PodObservation) (old next : SandboxPod) : Option String × PodObservation :=
  if old.active ≠ next.active then
    let ns := if old.active then old.nameSpace else next.nameSpace
    let count := (o.counts.lookup ns).getD 0 + (if old.active then -1 else 1)
    let o := { o with
      counts := if count = 0 then o.counts.erase ns else o.counts.insert ns count
      changed := insert ns o.changed }
    if o.changed.card > maxObservedObjects then
      (some "sandbox count queue exceeds its limit", o)
    else
      (none, o)
  else
    (none, o)

/-- `update`: its error and the observation. -/
def update (o : PodObservation) (kind : String) (object : KubeObject) :
    Option String × PodObservation :=
  match classify object with
  | .error e => (some e, o)
  | .ok (uid, next) =>
    let old := o.pods.lookup uid
    if old.any fun old => decide (old.physical ≠ next.physical) then
      (some "sandbox UID changed namespace", o)
    else if kind = "DELETED" then
      match old with
      | none => (none, o)
      | some old => settle { o with pods := o.pods.erase uid } old { next with active := false }
    else if kind = "ADDED" ∨ kind = "MODIFIED" then
      if old.any fun old => decide (old.version = next.version) then
        (none, o)
      else if old = none ∧ size o.pods ≥ maxObservedObjects then
        (some "sandbox cache exceeds its limit", o)
      else
        settle { o with pods := o.pods.insert uid next } (old.getD noPod) next
    else
      (some "unknown sandbox event", o)

/-- A change that the watch reports. -/
structure PodChange where
  kind : String
  objects : List KubeObject
  object : KubeObject

/-- The objects of a snapshot, added one after another. -/
def addAll : PodObservation → List KubeObject → Option String × PodObservation
  | o, [] => (none, o)
  | o, object :: rest =>
    match update o "ADDED" object with
    | (some e, o) => (some e, o)
    | (none, o) => addAll o rest

/-- `consume` without its deferred function. -/
def accept (o : PodObservation) (change : PodChange) : Option String × PodObservation :=
  if change.kind = "RESET" then
    (none, { o with ready := false })
  else if change.kind = "REPLACE" then
    match addAll newObservation change.objects with
    | (some e, _) => (some e, o)
    | (none, next) =>
      let changed := next.changed ∪ o.counts.keys.toFinset ∪ o.changed
      if changed.card > maxObservedObjects then
        (some "sandbox count queue exceeds its limit", o)
      else
        (none, ⟨true, next.pods, next.counts, changed⟩)
  else if o.ready = false then
    (some "sandbox event arrived before the baseline", o)
  else
    update o change.kind change.object

/-- `consume`: an observation is not ready after an error. -/
def consume (o : PodObservation) (change : PodChange) : Option String × PodObservation :=
  match accept o change with
  | (some e, o) => (some e, { o with ready := false })
  | (none, o) => (none, o)

/-- The observation after a sequence of changes. -/
def consumeAll (o : PodObservation) (changes : List PodChange) : PodObservation :=
  changes.foldl (fun o change => (consume o change).2) o

/-! ### The recount -/

/-- A pod counts for a namespace. -/
def SandboxPod.counts (ns : String) (pod : SandboxPod) : Bool :=
  pod.active && decide (pod.nameSpace = ns)

/-- The number of active pods of a namespace, counted anew. -/
def recount (pods : AList fun _ : String => SandboxPod) (ns : String) : Nat :=
  tally (SandboxPod.counts ns) pods

/-- Each count is a recount, and each pod is as an object was classified. -/
structure Tallied (o : PodObservation) : Prop where
  counted : ∀ ns, o.counts.lookup ns =
    if recount o.pods ns = 0 then none else some (recount o.pods ns : Int)
  canonical : ∀ uid pod, o.pods.lookup uid = some pod →
    pod.nameSpace = canonicalNamespace pod.physical ∧ (pod.active = true → pod.nameSpace ≠ "")
  bound : size o.pods ≤ maxObservedObjects

section Invariant

variable {o : PodObservation} {object : KubeObject} {uid ns : String} {pod old next : SandboxPod}

/-- What a classified pod is like. -/
theorem classify_canonical (classified : classify object = .ok (uid, pod)) :
    pod.nameSpace = canonicalNamespace pod.physical ∧ (pod.active = true → pod.nameSpace ≠ "") := by
  unfold classify at classified
  dsimp only at classified
  split at classified
  · cases classified
  · cases classified
    refine ⟨rfl, fun active => ?_⟩
    simp only [Bool.and_eq_true, decide_eq_true_eq] at active
    exact active.1.1

/-- What a pod adds to a namespace. -/
def weight (ns : String) (pod : SandboxPod) : Nat := if pod.counts ns then 1 else 0

theorem tallied_new : Tallied newObservation where
  counted _ := rfl
  canonical _ _ never := nomatch never
  bound := Nat.zero_le _

/-- A count is a recount. -/
theorem Tallied.getD (tallied : Tallied o) (ns : String) :
    (o.counts.lookup ns).getD 0 = recount o.pods ns := by
  rw [tallied.counted]
  split
  · rename_i zero
    rw [zero]
    rfl
  · rfl

/-- `settle` leaves the pods as they are. -/
theorem settle_pods : (settle o old next).2.pods = o.pods := by
  unfold settle
  dsimp only
  split_ifs <;> rfl

/-- What `settle` does to an observation whose pods are already replaced. -/
structure Adjusted (o : PodObservation) (pods : AList fun _ : String => SandboxPod) (ns : String)
    (r : Option String × PodObservation) : Prop where
  kept : r.2.pods = pods
  ready : r.2.ready = o.ready
  counted : ∀ ns, r.2.counts.lookup ns =
    if recount pods ns = 0 then none else some (recount pods ns : Int)
  grows : o.changed ⊆ r.2.changed
  within : r.2.changed ⊆ insert ns o.changed
  changed : ∀ ns, recount pods ns ≠ recount o.pods ns → ns ∈ r.2.changed
  error : r.1 ≠ none → maxObservedObjects < r.2.changed.card

/-- **The counts are adjusted by what one pod adds.** -/
theorem adjusted (tallied : Tallied o) {pods : AList fun _ : String => SandboxPod}
    (moved : ∀ ns, recount pods ns + weight ns old = recount o.pods ns + weight ns next)
    (stays : old.active = true → next.active = true → old.nameSpace = next.nameSpace) :
    Adjusted o pods next.nameSpace (settle { o with pods := pods } old next) ∨
      (old.active = true ∧ Adjusted o pods old.nameSpace (settle { o with pods := pods } old next)) := by
  by_cases flips : old.active ≠ next.active
  swap
  · rw [not_ne_iff] at flips
    have same : ∀ ns, recount pods ns = recount o.pods ns := by
      intro ns
      have weights : weight ns old = weight ns next := by
        unfold weight SandboxPod.counts
        rw [← flips]
        cases active : old.active with
        | false => rfl
        | true => rw [stays active (flips ▸ active)]
      have here := moved ns
      omega
    refine Or.inl ?_
    rw [settle, if_neg (not_not_intro flips)]
    exact
      { kept := rfl, ready := rfl, counted := fun ns => by rw [same]; exact tallied.counted ns
        grows := Finset.Subset.refl _, within := Finset.subset_insert _ _
        changed := fun ns differs => absurd (same ns) differs, error := fun never => absurd rfl never }
  · -- The pod starts or stops to count for one namespace.
    have general : ∀ (ns₀ : String) (step : Int),
        (∀ ns, (recount pods ns : Int) = recount o.pods ns + if ns = ns₀ then step else 0) →
        Adjusted o pods ns₀
          (let count := (o.counts.lookup ns₀).getD 0 + step
            let o' : PodObservation := { o with
              pods := pods
              counts := if count = 0 then o.counts.erase ns₀ else o.counts.insert ns₀ count
              changed := insert ns₀ o.changed }
            if o'.changed.card > maxObservedObjects then
              (some "sandbox count queue exceeds its limit", o')
            else (none, o')) := by
      intro ns₀ step counts
      have here : (o.counts.lookup ns₀).getD 0 + step = recount pods ns₀ := by
        rw [tallied.getD, counts, if_pos rfl]
      have others : ∀ ns, ns ≠ ns₀ → recount pods ns = recount o.pods ns := by
        intro ns other
        have unchanged := counts ns
        rw [if_neg other] at unchanged
        omega
      have stored : ∀ ns, AList.lookup ns (if (o.counts.lookup ns₀).getD 0 + step = 0 then
          o.counts.erase ns₀ else o.counts.insert ns₀ ((o.counts.lookup ns₀).getD 0 + step)) =
          if recount pods ns = 0 then none else some (recount pods ns : Int) := by
        intro ns
        rw [here]
        by_cases same : ns = ns₀
        · subst same
          by_cases zero : recount pods ns = 0
          · rw [if_pos (by rw [zero]; rfl), if_pos zero, AList.lookup_erase]
          · rw [if_neg (by exact_mod_cast zero), if_neg zero, AList.lookup_insert]
        · rw [others ns same, ← tallied.counted ns]
          split
          · exact AList.lookup_erase_ne same
          · exact AList.lookup_insert_ne same
      have differs : ∀ ns, recount pods ns ≠ recount o.pods ns → ns ∈ insert ns₀ o.changed := by
        intro ns moved
        by_cases same : ns = ns₀
        · rw [same]
          exact Finset.mem_insert_self _ _
        · exact absurd (others ns same) moved
      dsimp only
      split
      · rename_i full
        exact
          { kept := rfl, ready := rfl, counted := stored, grows := Finset.subset_insert _ _
            within := Finset.Subset.refl _, changed := differs, error := fun _ => full }
      · exact
          { kept := rfl, ready := rfl, counted := stored, grows := Finset.subset_insert _ _
            within := Finset.Subset.refl _, changed := differs
            error := fun never => absurd rfl never }
    unfold settle
    rw [if_pos flips]
    cases active : old.active with
    | true =>
      have idle : next.active = false := by
        rw [active] at flips
        exact Bool.eq_false_iff.mpr flips.symm
      refine Or.inr ⟨rfl, ?_⟩
      simp only [if_true]
      refine general old.nameSpace (-1) fun ns => ?_
      have here := moved ns
      unfold weight SandboxPod.counts at here
      rw [active, idle] at here
      by_cases same : ns = old.nameSpace
      · rw [if_pos same]
        simp [same] at here ⊢
        omega
      · rw [if_neg same]
        simp [Ne.symm same] at here ⊢
        omega
    | false =>
      have works : next.active = true := by
        rw [active] at flips
        exact Bool.eq_true_of_not_eq_false flips.symm
      refine Or.inl ?_
      simp only [Bool.false_eq_true, if_false]
      refine general next.nameSpace 1 fun ns => ?_
      have here := moved ns
      unfold weight SandboxPod.counts at here
      rw [active, works] at here
      by_cases same : ns = next.nameSpace
      · rw [if_pos same]
        simp [same] at here ⊢
        omega
      · rw [if_neg same]
        simp [Ne.symm same] at here ⊢
        omega

/-- Everything that an event can do. -/
inductive Updated (o : PodObservation) (kind : String) (object : KubeObject) :
    Option String × PodObservation → Prop
  | malformed {e : String} (invalid : classify object = .error e) : Updated o kind object (some e, o)
  | moved {uid : String} {old next : SandboxPod} {e : String}
      (classified : classify object = .ok (uid, next)) (found : o.pods.lookup uid = some old)
      (elsewhere : old.physical ≠ next.physical) : Updated o kind object (some e, o)
  | unknown {e : String} (other : kind ≠ "DELETED" ∧ kind ≠ "ADDED" ∧ kind ≠ "MODIFIED") :
      Updated o kind object (some e, o)
  | full {uid : String} {next : SandboxPod} {e : String}
      (classified : classify object = .ok (uid, next)) (absent : o.pods.lookup uid = none)
      (many : maxObservedObjects ≤ size o.pods) (adds : kind = "ADDED" ∨ kind = "MODIFIED") :
      Updated o kind object (some e, o)
  | gone {uid : String} {next : SandboxPod} (classified : classify object = .ok (uid, next))
      (absent : o.pods.lookup uid = none) (deletes : kind = "DELETED") :
      Updated o kind object (none, o)
  | repeated {uid : String} {old next : SandboxPod} (classified : classify object = .ok (uid, next))
      (found : o.pods.lookup uid = some old) (version : old.version = next.version)
      (adds : kind = "ADDED" ∨ kind = "MODIFIED") : Updated o kind object (none, o)
  | removed {uid : String} {old next : SandboxPod} (classified : classify object = .ok (uid, next))
      (found : o.pods.lookup uid = some old) (deletes : kind = "DELETED") :
      Updated o kind object
        (settle { o with pods := o.pods.erase uid } old { next with active := false })
  | stored {uid : String} {next : SandboxPod} (classified : classify object = .ok (uid, next))
      (same : ∀ old, o.pods.lookup uid = some old → old.physical = next.physical)
      (room : o.pods.lookup uid = none → size o.pods < maxObservedObjects)
      (adds : kind = "ADDED" ∨ kind = "MODIFIED") :
      Updated o kind object
        (settle { o with pods := o.pods.insert uid next } ((o.pods.lookup uid).getD noPod) next)

theorem update_cases (o : PodObservation) (kind : String) (object : KubeObject) :
    Updated o kind object (update o kind object) := by
  unfold update
  cases classified : classify object with
  | error e => exact .malformed classified
  | ok classification =>
    obtain ⟨uid, next⟩ := classification
    dsimp only
    cases found : o.pods.lookup uid with
    | none =>
      simp only [Option.any_none, Bool.false_eq_true, if_false]
      split
      · rename_i deletes
        exact .gone classified found deletes
      · rename_i other
        split
        · rename_i adds
          split
          · rename_i full
            exact .full classified found full.2 adds
          · rename_i room
            have stored : Updated o kind object _ := .stored classified
              (fun old same => by rw [found] at same; cases same)
              (fun _ => Nat.lt_of_not_le fun many => room ⟨trivial, many⟩) adds
            rw [found] at stored
            exact stored
        · rename_i strange
          exact .unknown ⟨other, fun same => strange (Or.inl same), fun same => strange (Or.inr same)⟩
    | some old =>
      simp only [Option.any_some, decide_eq_true_eq]
      split
      · rename_i elsewhere
        exact .moved classified found elsewhere
      rename_i here
      rw [not_ne_iff] at here
      split
      · rename_i deletes
        exact .removed classified found deletes
      · rename_i other
        split
        · rename_i adds
          split
          · rename_i version
            exact .repeated classified found version adds
          · rw [if_neg fun never => nomatch never.1]
            have stored : Updated o kind object _ := .stored classified
              (fun old' same => by rw [found] at same; cases same; exact here)
              (fun absent => by rw [found] at absent; cases absent) adds
            rw [found] at stored
            exact stored
        · rename_i strange
          exact .unknown ⟨other, fun same => strange (Or.inl same), fun same => strange (Or.inr same)⟩

/-- What a change keeps of an observation: the invariant, and every namespace whose count
differs is in the changed set. -/
structure Keeps (o : PodObservation) (r : PodObservation) : Prop where
  tallied : Tallied r
  grows : o.changed ⊆ r.changed
  changed : ∀ ns, r.counts.lookup ns ≠ o.counts.lookup ns → ns ∈ r.changed

theorem Keeps.refl (tallied : Tallied o) : Keeps o o :=
  ⟨tallied, Finset.Subset.refl _, fun _ differs => absurd rfl differs⟩

/-- A adjusted observation keeps the invariant. -/
theorem Adjusted.keeps (tallied : Tallied o) {pods : AList fun _ : String => SandboxPod}
    {r : Option String × PodObservation} (after : Adjusted o pods ns r)
    (canonical : ∀ uid pod, pods.lookup uid = some pod →
      pod.nameSpace = canonicalNamespace pod.physical ∧ (pod.active = true → pod.nameSpace ≠ ""))
    (bound : size pods ≤ maxObservedObjects) : Keeps o r.2 := by
  refine ⟨⟨fun ns => ?_, ?_, ?_⟩, after.grows, fun ns differs => ?_⟩
  · rw [after.kept]
    exact after.counted ns
  · rw [after.kept]
    exact canonical
  · rw [after.kept]
    exact bound
  · refine after.changed ns fun same => differs ?_
    rw [after.counted, tallied.counted, same]

theorem recount_erase (found : o.pods.lookup uid = some old) (ns : String) :
    recount (o.pods.erase uid) ns + weight ns old =
      recount o.pods ns + weight ns { next with active := false } := by
  have erased : tally (SandboxPod.counts ns) (o.pods.erase uid) + _ = _ := tally_erase
  rw [found] at erased
  exact erased

theorem recount_insert (ns : String) :
    recount (o.pods.insert uid next) ns + weight ns ((o.pods.lookup uid).getD noPod) =
      recount o.pods ns + weight ns next := by
  have inserted : tally (SandboxPod.counts ns) (o.pods.insert uid next) + _ = _ := tally_insert
  cases found : o.pods.lookup uid with
  | none =>
    rw [found] at inserted
    exact inserted
  | some old =>
    rw [found] at inserted
    exact inserted

/-- A pod that is stored changes the count of its own namespace at most. -/
theorem stored_adjusted (tallied : Tallied o) (classified : classify object = .ok (uid, next))
    (same : ∀ old, o.pods.lookup uid = some old → old.physical = next.physical) :
    Adjusted o (o.pods.insert uid next) next.nameSpace
      (settle { o with pods := o.pods.insert uid next } ((o.pods.lookup uid).getD noPod) next) := by
  have place : ((o.pods.lookup uid).getD noPod).active = true →
      ((o.pods.lookup uid).getD noPod).nameSpace = next.nameSpace := by
    intro was
    cases found : o.pods.lookup uid with
    | none =>
      rw [found] at was
      cases was
    | some old =>
      rw [Option.getD_some, (tallied.canonical uid old found).1, same old found,
        (classify_canonical classified).1]
  rcases adjusted tallied recount_insert (fun was _ => place was) with after | ⟨was, after⟩
  · exact after
  · rw [← place was]
    exact after

/-- **An event keeps the invariant, whether it is accepted or rejected.** -/
theorem update_keeps (tallied : Tallied o) (kind : String) (object : KubeObject) :
    Keeps o (update o kind object).2 ∧ (update o kind object).2.ready = o.ready := by
  have cases_ := update_cases o kind object
  generalize update o kind object = r at cases_ ⊢
  cases cases_ with
  | malformed => exact ⟨.refl tallied, rfl⟩
  | moved => exact ⟨.refl tallied, rfl⟩
  | unknown => exact ⟨.refl tallied, rfl⟩
  | full => exact ⟨.refl tallied, rfl⟩
  | gone => exact ⟨.refl tallied, rfl⟩
  | repeated => exact ⟨.refl tallied, rfl⟩
  | @removed uid old next classified found deletes =>
    have canonical : ∀ key pod, (o.pods.erase uid).lookup key = some pod →
        pod.nameSpace = canonicalNamespace pod.physical ∧ (pod.active = true → pod.nameSpace ≠ "") := by
      intro key pod left
      by_cases same : key = uid
      · rw [same, AList.lookup_erase] at left
        cases left
      · rw [AList.lookup_erase_ne same] at left
        exact tallied.canonical key pod left
    have bound : size (o.pods.erase uid) ≤ maxObservedObjects := size_erase_le.trans tallied.bound
    have stops : old.active = true → false = true → old.nameSpace = next.nameSpace :=
      fun _ works => nomatch works
    rcases adjusted tallied (recount_erase found) stops with after | ⟨-, after⟩
    · exact ⟨after.keeps tallied canonical bound, after.ready⟩
    · exact ⟨after.keeps tallied canonical bound, after.ready⟩
  | @stored uid next classified same room adds =>
    have canonical : ∀ key pod, (o.pods.insert uid next).lookup key = some pod →
        pod.nameSpace = canonicalNamespace pod.physical ∧ (pod.active = true → pod.nameSpace ≠ "") := by
      intro key pod left
      by_cases here : key = uid
      · rw [here, AList.lookup_insert] at left
        cases left
        exact classify_canonical classified
      · rw [AList.lookup_insert_ne here] at left
        exact tallied.canonical key pod left
    have bound : size (o.pods.insert uid next) ≤ maxObservedObjects := by
      rw [size_insert]
      have smaller := tallied.bound
      cases found : o.pods.lookup uid with
      | none => exact room found
      | some old => exact smaller
    have after := stored_adjusted tallied classified same
    exact ⟨after.keeps tallied canonical bound, after.ready⟩

theorem Keeps.trans {next last : PodObservation} (first : Keeps o next) (second : Keeps next last) :
    Keeps o last := by
  refine ⟨second.tallied, first.grows.trans second.grows, fun ns differs => ?_⟩
  by_cases same : last.counts.lookup ns = next.counts.lookup ns
  · rw [same] at differs
    exact second.grows (first.changed ns differs)
  · exact second.changed ns same

/-- A snapshot's objects keep the invariant. -/
theorem addAll_keeps (tallied : Tallied o) (objects : List KubeObject) :
    Keeps o (addAll o objects).2 := by
  induction objects generalizing o with
  | nil => exact .refl tallied
  | cons object rest ih =>
    have first := (update_keeps tallied "ADDED" object).1
    unfold addAll
    cases updated : update o "ADDED" object with
    | mk e next =>
      rw [updated] at first
      cases e with
      | some e => exact first
      | none => exact first.trans (ih first.tallied)

/-- **A change keeps the invariant; an accepted one puts every namespace whose count it changes
into the changed set.** -/
theorem consume_keeps (tallied : Tallied o) (change : PodChange) :
    Tallied (consume o change).2 ∧ ((consume o change).1 = none →
      ∀ ns, (consume o change).2.counts.lookup ns ≠ o.counts.lookup ns →
        ns ∈ (consume o change).2.changed) := by
  have accepted : Keeps o (accept o change).2 := by
    unfold accept
    split
    · exact ⟨⟨tallied.counted, tallied.canonical, tallied.bound⟩, Finset.Subset.refl _,
        fun ns differs => absurd rfl differs⟩
    split
    · have built := addAll_keeps tallied_new change.objects
      cases added : addAll newObservation change.objects with
      | mk e next =>
        rw [added] at built
        cases e with
        | some e => exact .refl tallied
        | none =>
          dsimp only
          split
          · exact .refl tallied
          · refine ⟨⟨built.tallied.counted, built.tallied.canonical, built.tallied.bound⟩,
              Finset.subset_union_right, fun ns differs => ?_⟩
            rw [Finset.mem_union, Finset.mem_union, List.mem_toFinset]
            by_cases counted : next.counts.lookup ns = none
            · refine Or.inl (Or.inr ?_)
              dsimp only at differs
              rw [counted] at differs
              rw [← AList.mem_keys, ← AList.lookup_isSome]
              exact Option.isSome_iff_ne_none.mpr (Ne.symm differs)
            · exact Or.inl (Or.inl (built.changed ns counted))
    split
    · exact .refl tallied
    · exact (update_keeps tallied change.kind change.object).1
  unfold consume
  cases result : accept o change with
  | mk e next =>
    rw [result] at accepted
    cases e with
    | some e =>
      exact ⟨⟨accepted.tallied.counted, accepted.tallied.canonical, accepted.tallied.bound⟩,
        fun never => nomatch never⟩
    | none => exact ⟨accepted.tallied, fun _ => accepted.changed⟩

end Invariant

end Hypershell.Sandboxes
