import Mathlib.Data.List.Perm.Basic
import Mathlib.Tactic.Common

/-!
# The dialog that creates a service account

The secret of a new service account is shown once, in the dialog that created it.  Until the
user has said that it is kept, the dialog asks before it goes away: on its own account when it
is closed, and for its hosts, which pass a decision to `confirmLeave` before they navigate.

## Main definitions

* `Dialog`, `Dialog.offers`, `Dialog.step` — the view, what it offers, and its handlers
* `Run` — the runs of a dialog, with the answers that the decisions got
* `Forgets` — a step after which a decision is no longer known
* `Route`, `RouteRun` — the page around it: its tabs and the blocker of the router

## Main results

* `secret_kept` — only the user gives up a secret at risk
* `Run.accounts` — every decision was answered, forgotten, or still waits
* `RouteRun.blocked` — the blockers that are blocked are those whose decision waits
* `decisions_answered` — what the runs do, and exactly when every decision is answered

## Design notes

A handler runs on the view as it was rendered last, and React renders after it; the guard's
`isProtectedRef` is written by that render.  The dialog is unmounted by `onClose`.
-/

namespace Hypershell.Console

/-- The mutation `creation`: the request runs, then the list is refreshed, then it is over. -/
inductive Creation
  | idle
  | running
  | refreshing
  | succeeded
  | failed
  deriving DecidableEq, Repr

/-- `creation.isPending`. -/
def Creation.isPending : Creation → Bool
  | .running | .refreshing => true
  | _ => false

/-- **The dialog.**  The decisions are `δ`, the one-time credentials `σ`. -/
structure Dialog (δ σ : Type) where
  creation : Creation
  handoff : Option σ
  isAcknowledged : Bool
  isConfirmingLoss : Bool
  /-- What the guard reports. -/
  isProtectedRef : Bool
  /-- `pendingLeaveRef`. -/
  pendingLeave : Option δ
  isOpen : Bool
  deriving DecidableEq, Repr

/-- What happens to a dialog. -/
inductive Event (δ σ : Type)
  /-- The form is submitted, and is valid or not. -/
  | submit (valid : Bool)
  | created (result : σ)
  | failed
  /-- The list has been refreshed, and the mutation is over. -/
  | refreshed
  | acknowledge (value : Bool)
  | finish
  | modalClose
  | cancel
  | confirmLeave (decision : δ)
  | confirmLoss
  | returnToSetup
  deriving DecidableEq, Repr

/-- A callback of a decision that the dialog has called. -/
inductive Answer (δ : Type)
  | onConfirm (decision : δ)
  | onCancel (decision : δ)
  deriving DecidableEq, Repr

/-- The decision that was answered. -/
def Answer.decision {δ : Type} : Answer δ → δ
  | .onConfirm decision => decision
  | .onCancel decision => decision

section Handlers

variable {δ σ : Type}

/-- The decision that is passed in, if one is. -/
def Event.requested : Event δ σ → List δ
  | .confirmLeave decision => [decision]
  | _ => []

namespace Dialog

/-- The dialog as it is opened. -/
def opened : Dialog δ σ := ⟨.idle, none, false, false, false, none, true⟩

/-- A credential is shown, and the user has not said that it is kept. -/
def atRisk (dialog : Dialog δ σ) : Bool := dialog.handoff.isSome && !dialog.isAcknowledged

/-- `isProtected`. -/
def isProtected (dialog : Dialog δ σ) : Bool := dialog.creation.isPending || dialog.atRisk

/-- The guard's `shouldBlock`; a dialog that is unmounted has no guard. -/
def shouldBlock (dialog : Dialog δ σ) : Bool := dialog.isOpen && dialog.isProtectedRef

/-- What the render after a handler does. -/
def rendered (dialog : Dialog δ σ) : Dialog δ σ :=
  { dialog with isProtectedRef := dialog.isProtected }

def clearAndClose (dialog : Dialog δ σ) : Dialog δ σ :=
  { dialog with
    handoff := none, isAcknowledged := false, isConfirmingLoss := false, creation := .idle
    isOpen := false }

def requestClose (dialog : Dialog δ σ) : Dialog δ σ :=
  if dialog.atRisk then { dialog with isConfirmingLoss := true } else dialog.clearAndClose

/-- The form is what the dialog shows. -/
def showsForm (dialog : Dialog δ σ) : Bool := !dialog.isConfirmingLoss && dialog.handoff.isNone

/-- The credential is what the dialog shows. -/
def showsSetup (dialog : Dialog δ σ) : Bool := !dialog.isConfirmingLoss && dialog.handoff.isSome

/-- **What can happen to a dialog:** what it offers while it is open, and the end of its own
request, which may come later. -/
def offers (dialog : Dialog δ σ) : Event δ σ → Bool
  | .submit _ => dialog.isOpen && dialog.showsForm && !dialog.creation.isPending
  | .created _ => !dialog.isOpen || dialog.creation == .running
  | .failed => !dialog.isOpen || dialog.creation == .running
  | .refreshed => !dialog.isOpen || dialog.creation == .refreshing
  | .acknowledge _ => dialog.isOpen && dialog.showsSetup
  | .finish => dialog.isOpen && dialog.showsSetup && dialog.isAcknowledged
  | .modalClose => dialog.isOpen && !dialog.creation.isPending
  | .cancel => dialog.isOpen && dialog.showsForm && !dialog.creation.isPending
  | .confirmLeave _ => dialog.shouldBlock
  | .confirmLoss => dialog.isOpen && dialog.isConfirmingLoss
  | .returnToSetup => dialog.isOpen && dialog.isConfirmingLoss

/-- What the handlers do with the state. -/
def handle (dialog : Dialog δ σ) : Event δ σ → Dialog δ σ
  | .submit valid => if valid then { dialog with creation := .running } else dialog
  | .created result => { dialog with creation := .refreshing, handoff := some result }
  | .failed => { dialog with creation := .failed }
  | .refreshed => { dialog with creation := .succeeded }
  | .acknowledge value => { dialog with isAcknowledged := value }
  | .finish => dialog.clearAndClose
  | .modalClose => dialog.requestClose
  | .cancel => dialog.requestClose
  | .confirmLeave decision => { dialog with pendingLeave := some decision, isConfirmingLoss := true }
  | .confirmLoss => { dialog with pendingLeave := none }.clearAndClose
  | .returnToSetup => { dialog with pendingLeave := none, isConfirmingLoss := false }

/-- The callbacks that the handlers call. -/
def answers (dialog : Dialog δ σ) : Event δ σ → List (Answer δ)
  | .confirmLoss => dialog.pendingLeave.toList.map .onConfirm
  | .returnToSetup => dialog.pendingLeave.toList.map .onCancel
  | _ => []

/-- **One event**, and the render after it.  A dialog that is unmounted keeps no state. -/
def step (dialog : Dialog δ σ) (event : Event δ σ) : Dialog δ σ :=
  if dialog.isOpen then (dialog.handle event).rendered else dialog

/-- The views of a dialog with the events that happen to them. -/
def views (dialog : Dialog δ σ) : List (Event δ σ) → List (Dialog δ σ × Event δ σ)
  | [] => []
  | event :: rest => (dialog, event) :: views (dialog.step event) rest

/-- The decision that a dialog still has to answer. -/
def waiting (dialog : Dialog δ σ) : List δ :=
  if dialog.isOpen then dialog.pendingLeave.toList else []

end Dialog

/-- **A step that forgets a decision.**  Another one replaces it, or the dialog is closed from
its frame while the prompt is shown and no credential is at risk (any more). -/
def Forgets (dialog : Dialog δ σ) : Event δ σ → Bool
  | .confirmLeave _ => dialog.pendingLeave.isSome
  | .modalClose => dialog.pendingLeave.isSome && !dialog.atRisk
  | _ => false

/-- The decision that a step forgets. -/
def forgotten (dialog : Dialog δ σ) (event : Event δ σ) : List δ :=
  if Forgets dialog event then dialog.pendingLeave.toList else []

/-- **The runs of a dialog**: each view with what happened to it, and the view it ends with. -/
inductive Run : List (Dialog δ σ × Event δ σ) → Dialog δ σ → Prop
  | opened : Run [] Dialog.opened
  | step {trace dialog} (event : Event δ σ) : Run trace dialog → dialog.offers event = true →
      Run (trace ++ [(dialog, event)]) (dialog.step event)

/-- The decisions passed in by a run, in order. -/
def requests (trace : List (Dialog δ σ × Event δ σ)) : List δ :=
  trace.flatMap fun step => step.2.requested

/-- The callbacks called by a run, in order. -/
def answered (trace : List (Dialog δ σ × Event δ σ)) : List (Answer δ) :=
  trace.flatMap fun step => step.1.answers step.2

/-- The decisions forgotten by a run, in order. -/
def lost (trace : List (Dialog δ σ × Event δ σ)) : List δ :=
  trace.flatMap fun step => forgotten step.1 step.2

/-- What a dialog keeps to while it is open. -/
structure Dialog.Sound (dialog : Dialog δ σ) : Prop where
  /-- A decision waits behind the prompt. -/
  prompt : dialog.pendingLeave.isSome → dialog.isConfirmingLoss = true
  /-- While the request runs there is no credential. -/
  running : dialog.creation = .running → dialog.handoff = none

end Handlers

/-! ### What the hosts do -/

/-- **The decisions of the hosts**: a tab of the page, or a blocker of the router. -/
inductive HostDecision (β τ : Type)
  | tab (tab : τ)
  | route (blocker : β)
  deriving DecidableEq, Repr

section Hosts

variable {β τ σ : Type} [DecidableEq β]

/-- The blocker that a callback moves on: `proceed` and `reset` end its state `blocked`. -/
def HostDecision.blocker : HostDecision β τ → List β
  | .tab _ => []
  | .route blocker => [blocker]

/-- The page of a Gateway: its dialog, and the blockers in the state `blocked`. -/
structure Route (β τ σ : Type) where
  dialog : Dialog (HostDecision β τ) σ
  blocked : List β

/-- What happens to the page. -/
inductive RouteEvent (β τ σ : Type)
  | dialog (event : Event (HostDecision β τ) σ)
  /-- `changeTab`, to another tab. -/
  | changeTab (tab : τ)
  /-- The router has blocked a navigation, and the effect of `GatewayRoute` runs. -/
  | blocked (blocker : β)

/-- What the page makes of it: an event of the dialog, unless the guard lets it pass, which
takes the user off the page. -/
def Route.event (route : Route β τ σ) :
    RouteEvent β τ σ → Option (Event (HostDecision β τ) σ)
  | .dialog event => if event.requested = [] then some event else none
  | .changeTab tab => if route.dialog.shouldBlock then some (.confirmLeave (.tab tab)) else none
  | .blocked blocker =>
      if route.dialog.shouldBlock then some (.confirmLeave (.route blocker)) else none

/-- **One step of the page.**  A blocker is blocked until a callback of its decision is
called. -/
def Route.step (route : Route β τ σ) (event : Event (HostDecision β τ) σ) : Route β τ σ where
  dialog := route.dialog.step event
  blocked := (route.blocked ++ event.requested.flatMap HostDecision.blocker).diff
    ((route.dialog.answers event).flatMap fun answer => answer.decision.blocker)

/-- The runs of the page, until a navigation that the guard lets pass. -/
inductive RouteRun : List (Dialog (HostDecision β τ) σ × Event (HostDecision β τ) σ) →
    Route β τ σ → Prop
  | opened : RouteRun [] ⟨Dialog.opened, []⟩
  | step {trace route} (happened : RouteEvent β τ σ) {event : Event (HostDecision β τ) σ} :
      RouteRun trace route → route.event happened = some event →
      route.dialog.offers event = true →
      RouteRun (trace ++ [(route.dialog, event)]) (route.step event)

end Hosts

/-! ### The credential -/

section Credential

variable {δ σ : Type} {dialog : Dialog δ σ} {event : Event δ σ}

namespace Dialog

theorem sound_opened : (opened : Dialog δ σ).Sound := ⟨by simp [opened], by simp [opened]⟩

@[simp] theorem step_shut (shut : dialog.isOpen = false) : dialog.step event = dialog := by
  simp [step, shut]

theorem step_open (shown : dialog.isOpen = true) :
    dialog.step event = (dialog.handle event).rendered := by
  simp [step, shown]

theorem requestClose_atRisk (risk : dialog.atRisk = true) :
    dialog.requestClose = { dialog with isConfirmingLoss := true } := by
  simp [requestClose, risk]

theorem requestClose_safe (safe : dialog.atRisk = false) :
    dialog.requestClose = dialog.clearAndClose := by
  simp [requestClose, safe]

/-- A credential at risk is one that is shown and not acknowledged. -/
theorem atRisk_of {secret : σ} (shown : dialog.handoff = some secret)
    (open' : dialog.isAcknowledged = false) : dialog.atRisk = true := by
  simp [atRisk, shown, open']

theorem Sound.requestClose (sound : dialog.Sound) (stays : dialog.requestClose.isOpen = true) :
    dialog.requestClose.Sound := by
  cases risk : dialog.atRisk with
  | false => rw [requestClose_safe risk] at stays; exact absurd stays Bool.false_ne_true
  | true => rw [requestClose_atRisk risk]; exact ⟨fun _ => rfl, sound.running⟩

/-- What is offered to an open dialog keeps it sound, or closes it. -/
theorem Sound.handle (sound : dialog.Sound) (offered : dialog.offers event = true)
    (stays : (dialog.handle event).isOpen = true) : (dialog.handle event).Sound := by
  cases event with
  | submit valid =>
    cases valid with
    | false => exact sound
    | true =>
      have form : dialog.showsForm = true := by simp_all [offers]
      exact ⟨sound.prompt, fun _ => by simp_all [showsForm, Dialog.handle]⟩
  | created result => exact ⟨sound.prompt, nofun⟩
  | failed => exact ⟨sound.prompt, nofun⟩
  | refreshed => exact ⟨sound.prompt, nofun⟩
  | acknowledge value => exact ⟨sound.prompt, sound.running⟩
  | finish => exact absurd stays Bool.false_ne_true
  | modalClose => exact sound.requestClose stays
  | cancel => exact sound.requestClose stays
  | confirmLeave decision => exact ⟨fun _ => rfl, sound.running⟩
  | confirmLoss => exact absurd stays Bool.false_ne_true
  | returnToSetup => exact ⟨nofun, sound.running⟩

/-- One step keeps a dialog sound while it is open. -/
theorem sound_step (sound : dialog.isOpen = true → dialog.Sound)
    (offered : dialog.offers event = true) (stays : (dialog.step event).isOpen = true) :
    (dialog.step event).Sound := by
  cases shown : dialog.isOpen with
  | false => rw [step_shut shown, shown] at stays; exact absurd stays Bool.false_ne_true
  | true =>
    rw [step_open shown] at stays ⊢
    obtain ⟨prompt, running⟩ := (sound shown).handle offered stays
    exact ⟨prompt, running⟩

end Dialog

/-- **Only the user gives up a secret at risk:** every other step keeps it. -/
theorem secret_kept (sound : dialog.isOpen = true → dialog.Sound)
    (offered : dialog.offers event = true) {secret : σ} (held : dialog.handoff = some secret)
    (unsaved : dialog.isAcknowledged = false)
    (gone : (dialog.step event).handoff ≠ some secret) : event = .confirmLoss := by
  have risk := Dialog.atRisk_of held unsaved
  cases shown : dialog.isOpen with
  | false => rw [Dialog.step_shut shown] at gone; exact absurd held gone
  | true =>
    rw [Dialog.step_open shown] at gone
    have notRunning : dialog.creation ≠ .running := fun runs => by
      simp [(sound shown).running runs] at held
    cases event with
    | submit valid => simp [Dialog.offers, Dialog.showsForm, held] at offered
    | created result => simp [Dialog.offers, shown, notRunning] at offered
    | finish => simp [Dialog.offers, unsaved] at offered
    | cancel => simp [Dialog.offers, Dialog.showsForm, held] at offered
    | modalClose =>
      rw [Dialog.handle, Dialog.requestClose_atRisk risk] at gone
      exact absurd held gone
    | confirmLoss => rfl
    | failed => exact absurd held gone
    | refreshed => exact absurd held gone
    | acknowledge value => exact absurd held gone
    | confirmLeave decision => exact absurd held gone
    | returnToSetup => exact absurd held gone

end Credential

/-! ### The decisions -/

section Decisions

variable {δ σ : Type} {dialog : Dialog δ σ} {event : Event δ σ}

/-- A step that forgets has something to forget. -/
theorem forgotten_eq_nil : forgotten dialog event = [] ↔ Forgets dialog event = false := by
  unfold forgotten
  cases forgets : Forgets dialog event with
  | false => simp
  | true =>
    have waits : dialog.pendingLeave.isSome = true := by
      cases event <;> simp_all [Forgets]
    obtain ⟨decision, pending⟩ := Option.isSome_iff_exists.mp waits
    simp [pending]

/-- Without the prompt no decision waits. -/
theorem Dialog.Sound.pendingLeave_eq_none (sound : dialog.Sound)
    (unasked : dialog.isConfirmingLoss = false) : dialog.pendingLeave = none := by
  by_contra waits
  have prompted := sound.prompt (Option.isSome_iff_ne_none.mpr waits)
  rw [unasked] at prompted
  exact Bool.false_ne_true prompted

/-- While it is open a dialog waits with the decision it was passed last. -/
theorem Dialog.waiting_open (shown : dialog.isOpen = true) :
    dialog.waiting = dialog.pendingLeave.toList := by
  simp [waiting, shown]

theorem Dialog.waiting_shut (shut : dialog.isOpen = false) : dialog.waiting = [] := by
  simp [waiting, shut]

/-- The render waits for what the handler left. -/
@[simp] theorem Dialog.waiting_rendered : dialog.rendered.waiting = dialog.waiting := rfl

@[simp] theorem Dialog.waiting_clearAndClose : dialog.clearAndClose.waiting = [] := rfl

/-- **One step accounts for every decision:** what waited and what comes in is answered,
forgotten, or waits. -/
theorem step_accounts (sound : dialog.isOpen = true → dialog.Sound)
    (offered : dialog.offers event = true) :
    dialog.waiting ++ event.requested =
      (dialog.answers event).map Answer.decision ++ forgotten dialog event ++
        (dialog.step event).waiting := by
  cases shown : dialog.isOpen with
  | false =>
    have asks : event.requested = [] ∧ dialog.answers event = [] ∧ Forgets dialog event = false := by
      cases event <;>
        simp_all [Dialog.offers, Dialog.shouldBlock, Event.requested, Dialog.answers, Forgets]
    rw [asks.1, asks.2.1, forgotten_eq_nil.mpr asks.2.2, Dialog.step_shut shown,
      Dialog.waiting_shut shown]
    rfl
  | true =>
    rw [Dialog.step_open shown, Dialog.waiting_rendered, Dialog.waiting_open shown]
    cases event with
    | submit valid =>
      cases valid <;>
        simp [Dialog.handle, Dialog.waiting, shown, Dialog.answers, forgotten, Forgets,
          Event.requested]
    | finish =>
      have unasked : dialog.isConfirmingLoss = false := by
        simp_all [Dialog.offers, Dialog.showsSetup]
      simp [(sound shown).pendingLeave_eq_none unasked, Dialog.handle, Dialog.answers, forgotten,
        Forgets, Event.requested]
    | cancel =>
      have unasked : dialog.isConfirmingLoss = false := by
        simp_all [Dialog.offers, Dialog.showsForm]
      have safe : dialog.atRisk = false := by
        simp_all [Dialog.offers, Dialog.showsForm, Dialog.atRisk]
      simp [(sound shown).pendingLeave_eq_none unasked, Dialog.handle,
        Dialog.requestClose_safe safe, Dialog.answers, forgotten, Forgets, Event.requested]
    | modalClose =>
      -- the frame closes the dialog only where no credential is at risk, and forgets then
      cases risk : dialog.atRisk with
      | false =>
        cases pending : dialog.pendingLeave <;>
          simp [Dialog.handle, Dialog.requestClose_safe risk, Dialog.answers, forgotten, Forgets,
            Event.requested, pending, risk]
      | true =>
        simp [Dialog.handle, Dialog.requestClose_atRisk risk, Dialog.waiting, shown,
          Dialog.answers, forgotten, Forgets, Event.requested, risk]
    | confirmLeave decision =>
      cases pending : dialog.pendingLeave <;>
        simp [Dialog.handle, Dialog.waiting, shown, Dialog.answers, forgotten, Forgets,
          Event.requested, pending]
    | confirmLoss =>
      cases pending : dialog.pendingLeave <;>
        simp [Dialog.handle, Dialog.answers, Answer.decision, forgotten, Forgets, Event.requested,
          pending]
    | returnToSetup =>
      cases pending : dialog.pendingLeave <;>
        simp [Dialog.handle, Dialog.waiting, shown, Dialog.answers, Answer.decision, forgotten,
          Forgets, Event.requested, pending]
    | created result | failed | refreshed | acknowledge value =>
      simp [Dialog.handle, Dialog.waiting, shown, Dialog.answers, forgotten, Forgets,
        Event.requested]

end Decisions

/-! ### Whole runs -/

section Runs

open scoped List

variable {δ σ : Type} {trace : List (Dialog δ σ × Event δ σ)} {dialog : Dialog δ σ}

/-- Every open dialog of a run is sound. -/
theorem Run.sound (run : Run trace dialog) : dialog.isOpen = true → dialog.Sound := by
  induction run with
  | opened => exact fun _ => Dialog.sound_opened
  | step event _ offered sound => exact Dialog.sound_step sound offered

/-- Every step of a run was offered to a sound dialog. -/
theorem Run.stepped (run : Run trace dialog) : ∀ step ∈ trace,
    (step.1.isOpen = true → step.1.Sound) ∧ step.1.offers step.2 = true := by
  induction run with
  | opened => simp
  | @step trace dialog event before offered kept =>
    intro step taken
    rcases List.mem_append.mp taken with earlier | last
    · exact kept step earlier
    · rw [List.mem_singleton.mp last]
      exact ⟨before.sound, offered⟩

/-- **A run accounts for every decision:** it was answered, it was forgotten, or it waits. -/
theorem Run.accounts (run : Run trace dialog) :
    (requests trace).Perm ((answered trace).map Answer.decision ++ lost trace ++ dialog.waiting) := by
  induction run with
  | opened => exact .refl _
  | @step trace dialog event before offered perm =>
    have stepped := step_accounts before.sound offered
    calc requests (trace ++ [(dialog, event)])
        = requests trace ++ event.requested := by simp [requests]
      _ ~ (answered trace).map Answer.decision ++ lost trace ++ dialog.waiting ++ event.requested :=
          perm.append_right _
      _ = (answered trace).map Answer.decision ++ lost trace ++
            ((dialog.answers event).map Answer.decision ++ forgotten dialog event ++
              (dialog.step event).waiting) := by rw [List.append_assoc, stepped]
      _ ~ (answered (trace ++ [(dialog, event)])).map Answer.decision ++
            lost (trace ++ [(dialog, event)]) ++ (dialog.step event).waiting := by
          simp only [answered, lost, List.flatMap_append, List.map_append, List.flatMap_cons,
            List.flatMap_nil, List.append_nil, List.append_assoc]
          refine List.Perm.append_left _ ?_
          simp only [← List.append_assoc]
          exact (List.perm_append_comm.append_right _).append_right _

/-- A run that forgets nothing has lost nothing. -/
theorem lost_eq_nil : lost trace = [] ↔ ∀ step ∈ trace, Forgets step.1 step.2 = false := by
  simp only [lost, List.flatMap_eq_nil_iff, forgotten_eq_nil]

/-- Every decision is answered or waits exactly if none was lost. -/
theorem Run.perm_iff (run : Run trace dialog) :
    (requests trace).Perm ((answered trace).map Answer.decision ++ dialog.waiting) ↔
      ∀ step ∈ trace, Forgets step.1 step.2 = false := by
  have accounts := run.accounts
  rw [← lost_eq_nil]
  constructor
  · intro perm
    have same := perm.length_eq.symm.trans accounts.length_eq
    simp only [List.length_append] at same
    exact List.eq_nil_of_length_eq_zero (by omega)
  · intro none
    rwa [none, List.append_nil] at accounts

/-- Which callback of a decision a step calls. -/
theorem answers_eq {event : Event δ σ} {answer : Answer δ}
    (called : answer ∈ dialog.answers event) :
    (event = .confirmLoss ∧ answer = .onConfirm answer.decision) ∨
      (event ≠ .confirmLoss ∧ answer = .onCancel answer.decision) := by
  cases event with
  | confirmLoss =>
    obtain ⟨decision, -, rfl⟩ := List.mem_map.mp called
    exact .inl ⟨rfl, rfl⟩
  | returnToSetup =>
    obtain ⟨decision, -, rfl⟩ := List.mem_map.mp called
    exact .inr ⟨nofun, rfl⟩
  | _ => exact absurd called List.not_mem_nil

/-- A run of events that are offered in turn. -/
theorem Run.events (run : Run trace dialog) (events : List (Event δ σ))
    (offered : ∀ step ∈ Dialog.views dialog events, step.1.offers step.2 = true) :
    Run (trace ++ Dialog.views dialog events) (events.foldl Dialog.step dialog) := by
  induction events generalizing trace dialog with
  | nil => simpa [Dialog.views] using run
  | cons event rest ih =>
    have first := offered _ List.mem_cons_self
    have := ih (run.step event first) fun step later =>
      offered step (List.mem_cons_of_mem _ later)
    simpa [Dialog.views] using this

end Runs

/-! ### The blockers of the router -/

section Blockers

variable {β τ σ : Type} [DecidableEq β]
  {trace : List (Dialog (HostDecision β τ) σ × Event (HostDecision β τ) σ)} {route : Route β τ σ}

/-- Taking away what stands in front leaves the rest. -/
theorem append_diff_left (front rest : List β) : (front ++ rest).diff front = rest := by
  induction front with
  | nil => rfl
  | cons head tail ih => simpa using ih

/-- The dialog of a page runs as dialogs do. -/
theorem RouteRun.dialog (run : RouteRun trace route) : Run trace route.dialog := by
  induction run with
  | opened => exact .opened
  | step happened _ _ offered before => exact .step _ before offered

/-- **The blockers that are blocked are those whose decision waits,** where none is forgotten. -/
theorem RouteRun.blocked (run : RouteRun trace route)
    (kept : ∀ step ∈ trace, Forgets step.1 step.2 = false) :
    route.blocked = route.dialog.waiting.flatMap HostDecision.blocker := by
  induction run with
  | opened => rfl
  | @step trace route happened event before _ offered blocked =>
    have earlier : ∀ step ∈ trace, Forgets step.1 step.2 = false := fun step taken =>
      kept step (List.mem_append_left _ taken)
    have last := kept (route.dialog, event) (List.mem_append_right _ (List.mem_singleton_self _))
    have stepped := step_accounts before.dialog.sound offered
    rw [forgotten_eq_nil.mpr last, List.append_nil] at stepped
    have blockers := congrArg (List.flatMap HostDecision.blocker) stepped
    rw [List.flatMap_append, List.flatMap_append, List.flatMap_map] at blockers
    rw [Route.step, blocked earlier, blockers]
    exact append_diff_left _ _

end Blockers

/-- **What the dialog does with secrets and decisions.**  In every run a secret at risk is given
up only on `confirmLoss`, and a decision is answered there with `onConfirm` and elsewhere with
`onCancel`; all decisions but the one that waits in an open dialog are answered, each once,
exactly if no step forgets one.  A page without such a step has no blocked blocker but the one
that waits, and none once the dialog is closed. -/
theorem decisions_answered (δ β τ σ : Type) [DecidableEq β] :
    (∀ (trace : List (Dialog δ σ × Event δ σ)) (dialog : Dialog δ σ), Run trace dialog →
      (∀ step ∈ trace, ∀ secret, step.1.handoff = some secret → step.1.isAcknowledged = false →
        (step.1.step step.2).handoff ≠ some secret → step.2 = .confirmLoss) ∧
      (∀ step ∈ trace, ∀ answer ∈ step.1.answers step.2,
        (step.2 = .confirmLoss ∧ answer = .onConfirm answer.decision) ∨
          (step.2 ≠ .confirmLoss ∧ answer = .onCancel answer.decision)) ∧
      ((requests trace).Perm ((answered trace).map Answer.decision ++ dialog.waiting) ↔
        ∀ step ∈ trace, Forgets step.1 step.2 = false)) ∧
    ∀ (trace : List (Dialog (HostDecision β τ) σ × Event (HostDecision β τ) σ))
      (route : Route β τ σ), RouteRun trace route →
      (∀ step ∈ trace, Forgets step.1 step.2 = false) →
        route.blocked = route.dialog.waiting.flatMap HostDecision.blocker ∧
          (route.dialog.isOpen = false → route.blocked = []) := by
  refine ⟨fun trace dialog run => ⟨?_, fun step _ answer called => answers_eq called,
    run.perm_iff⟩, fun trace route run kept => ⟨run.blocked kept, ?_⟩⟩
  · intro step taken secret held unsaved gone
    obtain ⟨sound, offered⟩ := run.stepped step taken
    exact secret_kept sound offered held unsaved gone
  · intro shut
    rw [run.blocked kept, Dialog.waiting_shut shut]
    rfl

/-! ### A request that fails behind the prompt -/

namespace Sample

/-- The user leaves while the request runs, and the prompt waits for an answer. -/
def askedWhileRunning : List (Event String Unit) := [.submit true, .confirmLeave "back"]

/-- The request fails, and the user closes the dialog from its frame. -/
def closedFromFrame : List (Event String Unit) := askedWhileRunning ++ [.failed, .modalClose]

/-- The user answers the prompt. -/
def answeredPrompt : List (Event String Unit) := askedWhileRunning ++ [.confirmLoss]

end Sample

/-- A decision that is passed in while the request runs is never answered if the request fails
and the dialog is closed from its frame. -/
theorem decision_forgotten : ∃ (trace : List (Dialog String Unit × Event String Unit))
    (dialog : Dialog String Unit), Run trace dialog ∧ dialog.isOpen = false ∧
      requests trace = ["back"] ∧ answered trace = [] := by
  refine ⟨Dialog.views Dialog.opened Sample.closedFromFrame, _,
    Run.opened.events Sample.closedFromFrame ?_, ?_, ?_, ?_⟩ <;> decide

/-- The prompt that the user answers leaves no decision behind. -/
theorem prompt_answered :
    (requests (Dialog.opened.views Sample.answeredPrompt)).Perm
      ((answered (Dialog.opened.views Sample.answeredPrompt)).map Answer.decision ++
        (Sample.answeredPrompt.foldl Dialog.step Dialog.opened).waiting) :=
  ((decisions_answered String Nat Nat Unit).1 _ _
    (Run.opened.events Sample.answeredPrompt (by decide))).2.2.mpr (by decide)

end Hypershell.Console
