import Hypershell.Console.Text
import Mathlib.Logic.Function.Basic
import Mathlib.Tactic.Common

/-!
# Waiting for the console of a Gateway

A settled Gateway with an endpoint gets the address of its console later, or never.  The
views poll it for a while, counted from when they first saw it wait, and call its console
unavailable after that.

## Main definitions

* `gatewayAwaitingConsoleEligible` — a Gateway waits for its console
* `resolveConsoleWaitStart`, `observe` — since when, and the tracker that keeps this
* `gatewayNeedsStatusPolling`, `gatewayConsoleUnavailable`, `isGatewayConsolePastDeadline`
* `currentRun` — the observations in which a Gateway has been waiting without a break

## Main results

* `starts_eq` — the tracker keeps the time of the first observation of every current run
* `console_wait` — what the views are told

## Design notes

Times are whole milliseconds, so none of them is `NaN`.
-/

namespace Hypershell.Console

/-- What the views know of a Gateway. -/
structure GatewayConsoleRecord where
  phase : Option String
  status : Option String
  externalDns : Option String
  consoleUrl : Option String
  deriving DecidableEq, Repr

/-- `gatewayConsoleReadyDeadlineMilliseconds`. -/
def gatewayConsoleReadyDeadlineMilliseconds : Int := 600000

def gatewayPollingStates : List String :=
  ["pending", "provisioning", "reconciling", "updating", "degraded", "deleting"]

def gatewayFailedLifecycleStates : List String := ["error", "failed"]

section Views

variable [Locale]

/-- The states of the lifecycle that are there. -/
def gatewayLifecycleStates (gateway : GatewayConsoleRecord) : List String :=
  ([gateway.phase, gateway.status].map fun value =>
    (value.map fun text => Locale.lower (trim text)).getD "").filter fun text => decide (text ≠ "")

/-- `Boolean(value?.trim())`. -/
def present (value : Option String) : Bool := value.any fun text => decide (trim text ≠ "")

/-- No state, or one in which the Gateway changes. -/
def transitional (states : List String) : Bool :=
  states.isEmpty || states.any fun value => decide (value ∈ gatewayPollingStates)

/-- The Gateway has settled with an endpoint and has no console yet. -/
def gatewayAwaitingConsoleEligible (gateway : GatewayConsoleRecord) (states : List String) : Bool :=
  present gateway.externalDns && !present gateway.consoleUrl && !transitional states &&
    !states.any fun value => decide (value ∈ gatewayFailedLifecycleStates)

/-- Since when the Gateway waits, if it does. -/
def resolveConsoleWaitStart (gateway : GatewayConsoleRecord) (now : Int)
    (previousStart : Option Int) : Option Int :=
  if gatewayAwaitingConsoleEligible gateway (gatewayLifecycleStates gateway) = false then none
  else some (previousStart.getD now)

/-- The wait has begun, and it has not lasted too long. -/
def withinConsoleReadyDeadline (consoleWaitStartedAt : Option Int) (now : Int) : Bool :=
  match consoleWaitStartedAt with
  | none => false
  | some start => decide (now - start < gatewayConsoleReadyDeadlineMilliseconds)

def gatewayNeedsStatusPolling (gateway : GatewayConsoleRecord) (consoleWaitStartedAt : Option Int)
    (now : Int) : Bool :=
  let states := gatewayLifecycleStates gateway
  if transitional states then true
  else
    gatewayAwaitingConsoleEligible gateway states &&
      withinConsoleReadyDeadline consoleWaitStartedAt now

/-- For views that know already that the Gateway is settled. -/
def isGatewayConsolePastDeadline (consoleWaitStartedAt : Option Int) (now : Int) : Bool :=
  if consoleWaitStartedAt = none then false
  else !withinConsoleReadyDeadline consoleWaitStartedAt now

def gatewayConsoleUnavailable (gateway : GatewayConsoleRecord) (consoleWaitStartedAt : Option Int)
    (now : Int) : Bool :=
  let states := gatewayLifecycleStates gateway
  if gatewayAwaitingConsoleEligible gateway states = false then false
  else !withinConsoleReadyDeadline consoleWaitStartedAt now

/-! ### The tracker -/

/-- The Gateway as it is seen at some time. -/
structure Observation where
  gatewayId : String
  gateway : GatewayConsoleRecord
  now : Int

/-- The Gateway of an observation waits. -/
def Observation.waits (o : Observation) : Bool :=
  gatewayAwaitingConsoleEligible o.gateway (gatewayLifecycleStates o.gateway)

/-- The map of the tracker. -/
abbrev Starts : Type := String → Option Int

/-- One call of the tracker: the map after it, and what it returns. -/
def observe (starts : Starts) (o : Observation) : Starts × Option Int :=
  let next := resolveConsoleWaitStart o.gateway o.now (starts o.gatewayId)
  (Function.update starts o.gatewayId next, next)

/-- The map after some calls. -/
def observeAll (observations : List Observation) : Starts :=
  observations.foldl (fun starts o => (observe starts o).1) fun _ => none

/-- The latest observations of a Gateway, as far back as it waits in all of them. -/
def currentRun (observations : List Observation) (id : String) : List Observation :=
  (observations.filter fun o => decide (o.gatewayId = id)).rtakeWhile Observation.waits

/-! ### What the tracker keeps -/

section Tracker

variable {observations : List Observation} {starts : Starts} {o : Observation} {id : String}

theorem observe_other (other : id ≠ o.gatewayId) : (observe starts o).1 id = starts id :=
  Function.update_of_ne other _ _

theorem observe_same : (observe starts o).1 o.gatewayId = (observe starts o).2 :=
  Function.update_self ..

theorem observe_waits (waits : o.waits = true) :
    (observe starts o).2 = some ((starts o.gatewayId).getD o.now) := by
  have eligible : gatewayAwaitingConsoleEligible o.gateway (gatewayLifecycleStates o.gateway) = true :=
    waits
  simp [observe, resolveConsoleWaitStart, eligible]

theorem observe_settled (not : o.waits = false) : (observe starts o).2 = none :=
  if_pos not

theorem observeAll_concat (observations : List Observation) (o : Observation) :
    observeAll (observations ++ [o]) = (observe (observeAll observations) o).1 := by
  rw [observeAll, List.foldl_append]
  rfl

theorem currentRun_other (other : o.gatewayId ≠ id) :
    currentRun (observations ++ [o]) id = currentRun observations id := by
  rw [currentRun, List.filter_append, List.filter_cons, if_neg (by simpa using other),
    List.filter_nil, List.append_nil, currentRun]

theorem currentRun_waits (here : o.gatewayId = id) (waits : o.waits = true) :
    currentRun (observations ++ [o]) id = currentRun observations id ++ [o] := by
  rw [currentRun, List.filter_append, List.filter_cons, if_pos (by simpa using here),
    List.filter_nil, List.rtakeWhile_concat_pos _ _ _ waits, currentRun]

theorem currentRun_settled (here : o.gatewayId = id) (not : o.waits = false) :
    currentRun (observations ++ [o]) id = [] := by
  rw [currentRun, List.filter_append, List.filter_cons, if_pos (by simpa using here),
    List.filter_nil, List.rtakeWhile_concat_neg _ _ _ (by simp [not])]

/-- **The tracker** keeps the time of the first observation of every current run. -/
theorem starts_eq (observations : List Observation) (id : String) :
    observeAll observations id = (currentRun observations id).head?.map Observation.now := by
  induction observations using List.reverseRecOn with
  | nil => rfl
  | append_singleton before o ih =>
    rw [observeAll_concat]
    by_cases here : o.gatewayId = id
    · subst here
      rw [observe_same]
      cases waits : o.waits with
      | false =>
        rw [observe_settled waits, currentRun_settled rfl waits]
        rfl
      | true =>
        rw [observe_waits waits, ih, currentRun_waits rfl waits]
        cases currentRun before o.gatewayId <;> rfl
    · rw [observe_other (Ne.symm here), ih, currentRun_other here]

/-- While a Gateway waits, its run grows and its start stays. -/
theorem head_currentRun_append {later : List Observation} (begun : currentRun observations id ≠ [])
    (waits : ∀ o ∈ later, o.gatewayId = id → o.waits = true) :
    (currentRun (observations ++ later) id).head? = (currentRun observations id).head? := by
  induction later using List.reverseRecOn with
  | nil => rw [List.append_nil]
  | append_singleton before o ih =>
    have earlier := ih fun o' member => waits o' (List.mem_append_left _ member)
    rw [← List.append_assoc]
    by_cases here : o.gatewayId = id
    · have last := waits o (List.mem_append_right _ (List.mem_singleton_self o)) here
      rw [currentRun_waits here last, ← earlier]
      have some : currentRun (observations ++ before) id ≠ [] := by
        intro none
        rw [none, List.head?_nil, eq_comm, List.head?_eq_none_iff] at earlier
        exact begun earlier
      exact List.head?_append_of_ne_nil _ some
    · rw [currentRun_other here]
      exact earlier

end Tracker

/-! ### The verdicts -/

section Verdicts

variable {gateway : GatewayConsoleRecord} {start : Option Int} {now s : Int}

/-- A Gateway that waits is settled. -/
theorem transitional_of_eligible {states : List String}
    (eligible : gatewayAwaitingConsoleEligible gateway states = true) : transitional states = false := by
  simp only [gatewayAwaitingConsoleEligible, Bool.and_eq_true, Bool.not_eq_true'] at eligible
  exact eligible.1.2

theorem needsPolling_iff (waits : gatewayAwaitingConsoleEligible gateway
      (gatewayLifecycleStates gateway) = true) :
    gatewayNeedsStatusPolling gateway (some s) now = true ↔
      now < s + gatewayConsoleReadyDeadlineMilliseconds := by
  simp only [gatewayNeedsStatusPolling, transitional_of_eligible waits, waits,
    withinConsoleReadyDeadline, Bool.false_eq_true, if_false, Bool.true_and, decide_eq_true_eq]
  omega

theorem unavailable_iff (waits : gatewayAwaitingConsoleEligible gateway
      (gatewayLifecycleStates gateway) = true) :
    gatewayConsoleUnavailable gateway (some s) now = true ↔
      s + gatewayConsoleReadyDeadlineMilliseconds ≤ now := by
  simp only [gatewayConsoleUnavailable, waits, withinConsoleReadyDeadline, Bool.true_eq_false,
    if_false, Bool.not_eq_true', decide_eq_false_iff_not]
  omega

/-- **Polled and unavailable** exclude each other, whatever the start is. -/
theorem not_polled_and_unavailable : ¬ (gatewayNeedsStatusPolling gateway start now = true ∧
    gatewayConsoleUnavailable gateway start now = true) := by
  rintro ⟨polled, unavailable⟩
  unfold gatewayConsoleUnavailable at unavailable
  dsimp only at unavailable
  split_ifs at unavailable with settled
  rw [Bool.not_eq_false] at settled
  unfold gatewayNeedsStatusPolling at polled
  dsimp only at polled
  rw [if_neg (by simp [transitional_of_eligible settled]), settled, Bool.true_and] at polled
  rw [polled] at unavailable
  cases unavailable

/-- The two views agree on a Gateway that waits. -/
theorem pastDeadline_eq (waits : gatewayAwaitingConsoleEligible gateway
      (gatewayLifecycleStates gateway) = true) :
    isGatewayConsolePastDeadline (some s) now = gatewayConsoleUnavailable gateway (some s) now := by
  simp [isGatewayConsolePastDeadline, gatewayConsoleUnavailable, waits]

end Verdicts

/-- **Waiting for a console.**  The tracker returns the time of the first observation of the
current run, and nothing for a Gateway that does not wait.  With what it returns the two verdicts
exclude each other, and a Gateway that waits is polled before its deadline and unavailable
from then on, in both views.  Once it is not polled it is not polled again while it waits.
Other Gateways keep their starts. -/
theorem console_wait (before : List Observation) (o : Observation) :
    (observe (observeAll before) o).2 =
      (currentRun (before ++ [o]) o.gatewayId).head?.map Observation.now ∧
    ((observe (observeAll before) o).2 = none ↔ o.waits = false) ∧
    (∀ now, ¬ (gatewayNeedsStatusPolling o.gateway (observe (observeAll before) o).2 now = true ∧
      gatewayConsoleUnavailable o.gateway (observe (observeAll before) o).2 now = true)) ∧
    (o.waits = true → ∃ start, (observe (observeAll before) o).2 = some start ∧ ∀ now,
      (gatewayNeedsStatusPolling o.gateway (some start) now = true ↔
        now < start + gatewayConsoleReadyDeadlineMilliseconds) ∧
      (gatewayConsoleUnavailable o.gateway (some start) now = true ↔
        start + gatewayConsoleReadyDeadlineMilliseconds ≤ now) ∧
      isGatewayConsolePastDeadline (some start) now =
        gatewayConsoleUnavailable o.gateway (some start) now) ∧
    (∀ (between : List Observation) (o' : Observation), o'.gatewayId = o.gatewayId →
      (before ++ o :: between ++ [o']).Pairwise (fun a b => a.now ≤ b.now) →
      o.waits = true → o'.waits = true →
      (∀ p ∈ between, p.gatewayId = o.gatewayId → p.waits = true) →
      (observe (observeAll (before ++ o :: between)) o').2 = (observe (observeAll before) o).2 ∧
      (gatewayNeedsStatusPolling o.gateway (observe (observeAll before) o).2 o.now = false →
        gatewayNeedsStatusPolling o'.gateway
          (observe (observeAll (before ++ o :: between)) o').2 o'.now = false) ∧
      ∀ start, (observe (observeAll before) o).2 = some start →
        start + gatewayConsoleReadyDeadlineMilliseconds ≤ o'.now →
        gatewayNeedsStatusPolling o'.gateway
          (observe (observeAll (before ++ o :: between)) o').2 o'.now = false) ∧
    ∀ id, id ≠ o.gatewayId → (observe (observeAll before) o).1 id = observeAll before id := by
  have start : ∀ (before : List Observation) (o : Observation), (observe (observeAll before) o).2 =
      (currentRun (before ++ [o]) o.gatewayId).head?.map Observation.now := by
    intro before o
    rw [← starts_eq, observeAll_concat, observe_same]
  refine ⟨start before o, ?_, fun _ => not_polled_and_unavailable, fun waits => ?_, ?_,
    fun id other => observe_other other⟩
  · cases waits : o.waits with
    | false => simp [observe_settled waits]
    | true => simp [observe_waits waits]
  · exact ⟨_, observe_waits waits, fun now =>
      ⟨needsPolling_iff waits, unavailable_iff waits, pastDeadline_eq waits⟩⟩
  · intro between o' same sorted waits waits' kept
    have unchanged : (observe (observeAll (before ++ o :: between)) o').2 =
        (observe (observeAll before) o).2 := by
      have begun : currentRun (before ++ [o]) o.gatewayId ≠ [] := by
        rw [currentRun_waits rfl waits]
        simp
      have later : ∀ p ∈ between ++ [o'], p.gatewayId = o.gatewayId → p.waits = true := by
        intro p member here
        rcases List.mem_append.mp member with inside | last
        · exact kept p inside here
        · rw [List.mem_singleton.mp last]
          exact waits'
      have whole : before ++ o :: between ++ [o'] = before ++ [o] ++ (between ++ [o']) := by simp
      rw [start, start, same, whole, head_currentRun_append begun later]
    rw [unchanged, observe_waits waits]
    have ordered : o.now ≤ o'.now := by
      have pairs := (List.pairwise_append.mp sorted).2.2
      exact pairs o (by simp) o' (List.mem_singleton_self o')
    refine ⟨rfl, fun finished => ?_, fun s here finished => ?_⟩
    · rw [Bool.eq_false_iff, ne_eq, needsPolling_iff waits] at finished
      rw [Bool.eq_false_iff, ne_eq, needsPolling_iff waits']
      omega
    · cases here
      rw [Bool.eq_false_iff, ne_eq, needsPolling_iff waits']
      omega

end Views

end Hypershell.Console
