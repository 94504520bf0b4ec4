import Mathlib.Data.List.AList
import Hypershell.Storage.Store

/-!
# The workload provider

What the provider of Gateway workloads decides from its options and from the Gateway it is shown:
the addresses that it wants published, and whether the console may be prepared.  The operations on
the cluster are given by what they end in.

## Main definitions

* `Options`, `GatewayView` — the configuration, and a Gateway as the service presents it
* `desiredEndpoint`, `desiredConsoleEndpoint` — the addresses that are to be published
* `consoleOrigin` — the origin of a console, refused while another one is published
* `ensure` — what a pass over the cluster ends in
-/

namespace Hypershell.Workload

open Foundation

/-- The functions of third-party packages that the provider's checks use. -/
class ClusterNames where
  /-- All bytes of a KSUID, in hexadecimal. -/
  idHex : String → String
  /-- `net.ParseIP` accepts the text. -/
  isIP : String → Bool
  /-- The regular expression of a pinned image. -/
  digestImage : String → Bool
  /-- `filepath.IsAbs`. -/
  isAbs : String → Bool

/-- `ConsoleOptions`. -/
structure ConsoleOptions where
  domain : String
  image : String
  imagePullConfigFile : String
  /-- There is a client for credentials. -/
  credentials : Bool
  deriving DecidableEq, Repr

/-- The options that the provider's decisions use. -/
structure Options where
  console : Option ConsoleOptions
  publicDomain : String
  publicIssuer : String
  publicRouter : String
  clusterID : String
  deriving DecidableEq, Repr

/-- The Gateway of a response. -/
structure GatewayView where
  id : String
  clusterID : String
  nameSpace : String
  releaseID : String
  status : String
  phase : String
  routeAddress : String
  consoleAddress : String
  deriving DecidableEq, Repr

/-- What an operation ends in.  Only the provider's exact pending value is expected progress. -/
inductive Outcome
  | success
  | pending
  | failed (err : String)
  deriving DecidableEq, Repr

/-- What the cluster answers to the operations of `Ensure`: those before the console, those that
the console begins with, and those that follow once its origin is settled. -/
structure Steps where
  workload : Outcome
  allocation : Outcome
  console : Outcome
  deriving DecidableEq, Repr

section Provider

variable [Platform] [ClusterNames]

/-- `Handles`. -/
def Options.handles (o : Options) (gw : GatewayView) : Bool := decide (gw.clusterID = o.clusterID)

/-- `Namespace`. -/
def namespaceOf (id : String) : Except String String :=
  if Platform.validID id then .ok ("openshell-" ++ Platform.payloadHex id)
  else .error "invalid Gateway ID"

/-- `consoleDomainLabel`. -/
def consoleDomainLabel (chars : List Char) : Bool :=
  let plain (c : Char) : Bool := decide ('a' ≤ c ∧ c ≤ 'z') || c.isDigit
  decide (1 ≤ chars.length ∧ chars.length ≤ 63) &&
    chars.all (fun c => plain c || decide (c = '-')) &&
    chars.head?.any plain && chars.getLast?.any plain

/-- `GatewayConsoleOrigin`. -/
def gatewayConsoleOrigin (id domain : String) : Except String String :=
  if ¬ Platform.validID id ∨ domain.utf8ByteSize > 197 ∨ '.' ∉ domain.toList ∨
      ClusterNames.isIP domain then
    .error "console identity requires a Gateway ID and DNS domain"
  else if (domain.toList.splitOn '.').all consoleDomainLabel then
    .ok ("https://console-" ++ ClusterNames.idHex id ++ "." ++ domain)
  else
    .error "console domain is invalid"

/-- `publicHostname`. -/
def publicHostname (ns domain : String) : String := "gw-" ++ ns ++ "." ++ domain

/-- `DesiredEndpoint`. -/
def Options.desiredEndpoint (o : Options) (gw : GatewayView) : Option String :=
  if o.publicDomain ≠ "" then some ("https://" ++ publicHostname gw.nameSpace o.publicDomain)
  else if gw.routeAddress ≠ "" then some ""
  else none

/-- `DesiredConsoleEndpoint`. -/
def Options.desiredConsoleEndpoint (o : Options) (gw : GatewayView) : Option String :=
  match o.console with
  | none => none
  | some console =>
    if o.handles gw then (gatewayConsoleOrigin gw.id console.domain).toOption else none

/-- `checkConsoleOptions`. -/
def Options.checkConsole (o : Options) : Except String Unit :=
  match o.console with
  | none => .ok ()
  | some console =>
    match gatewayConsoleOrigin o.clusterID console.domain with
    | .error e => .error e
    | .ok _ =>
      if console.credentials = false ∨ ClusterNames.digestImage console.image = false ∨
          o.publicDomain = "" ∨ o.publicIssuer = "" ∨ o.publicRouter = "" then
        .error "console requires a pinned image, credential client, and public TLS configuration"
      else if console.imagePullConfigFile ≠ "" ∧
          ClusterNames.isAbs console.imagePullConfigFile = false then
        .error "console image pull configuration requires an absolute private file path"
      else
        .ok ()

/-- `consoleOrigin`: an origin other than the published one is refused. -/
def Options.consoleOrigin (o : Options) (gw : GatewayView) (version : Int) :
    Except String String :=
  let invalid := "console does not match the observed Gateway"
  match o.console with
  | none => .error invalid
  | some console =>
    if version < 1 ∨ o.handles gw = false then .error invalid
    else
      match o.checkConsole with
      | .error e => .error e
      | .ok () =>
        if namespaceOf gw.id ≠ .ok gw.nameSpace then .error invalid
        else
          match gatewayConsoleOrigin gw.id console.domain with
          | .error _ => .error invalid
          | .ok origin =>
            if gw.consoleAddress ≠ "" ∧ origin ≠ gw.consoleAddress then .error invalid
            else .ok origin

/-- `EnsureConsole`. -/
def Options.ensureConsole (o : Options) (steps : Steps) (gw : GatewayView) (version : Int) :
    Outcome :=
  if version < 1 then .failed "console requires the observed Gateway version"
  else if o.handles gw = false then
    .failed "console requires its assigned namespace allocator"
  else if namespaceOf gw.id ≠ .ok gw.nameSpace then .failed "console placement is invalid"
  else
    match steps.allocation with
    | .success =>
      match o.consoleOrigin gw version with
      | .error e => .failed e
      | .ok _ => steps.console
    | other => other

/-- `Ensure`. -/
def Options.ensure (o : Options) (steps : Steps) (gw : GatewayView) (version : Int) : Outcome :=
  if version < 1 then .failed "Gateway workload requires its observed resource version"
  else if o.handles gw = false then .failed "Gateway belongs to a different managed cluster"
  else
    match steps.workload with
    | .success => if o.console.isSome then o.ensureConsole steps gw version else .success
    | other => other

/-- The published console address is one that the options do not lead to. -/
def Options.Foreign (o : Options) (gw : GatewayView) : Prop :=
  ∃ origin, o.desiredConsoleEndpoint gw = some origin ∧ gw.consoleAddress ≠ "" ∧
    gw.consoleAddress ≠ origin

/-! ### What the decisions depend on -/

variable {o : Options} {gw gw' : GatewayView} {version version' : Int}

/-- Two views that differ in what is observed only. -/
structure SameDesired (gw gw' : GatewayView) : Prop where
  id : gw'.id = gw.id
  cluster : gw'.clusterID = gw.clusterID
  nameSpace : gw'.nameSpace = gw.nameSpace

omit [Platform] [ClusterNames] in
theorem handles_congr (same : SameDesired gw gw') : o.handles gw' = o.handles gw := by
  unfold Options.handles
  rw [same.cluster]

theorem desiredConsoleEndpoint_congr (same : SameDesired gw gw') :
    o.desiredConsoleEndpoint gw' = o.desiredConsoleEndpoint gw := by
  unfold Options.desiredConsoleEndpoint
  rw [handles_congr same, same.id]

/-- An origin is no empty address. -/
theorem gatewayConsoleOrigin_ne_empty {id domain origin : String}
    (named : gatewayConsoleOrigin id domain = .ok origin) : origin ≠ "" := by
  unfold gatewayConsoleOrigin at named
  split_ifs at named
  cases named
  simp

theorem foreign_iff {origin : String} (desired : o.desiredConsoleEndpoint gw = some origin) :
    o.Foreign gw ↔ gw.consoleAddress ≠ "" ∧ origin ≠ gw.consoleAddress := by
  constructor
  · rintro ⟨origin', desired', published, other⟩
    rw [desired] at desired'
    cases desired'
    exact ⟨published, Ne.symm other⟩
  · rintro ⟨published, other⟩
    exact ⟨origin, desired, published, Ne.symm other⟩

/-- The origin of a console depends on the published address only as far as it is foreign. -/
theorem consoleOrigin_congr (same : SameDesired gw gw') (positive : 1 ≤ version)
    (positive' : 1 ≤ version') (foreign : o.Foreign gw' ↔ o.Foreign gw) :
    o.consoleOrigin gw' version' = o.consoleOrigin gw version := by
  unfold Options.consoleOrigin
  cases configured : o.console with
  | none => rfl
  | some console =>
    dsimp only
    rw [handles_congr same, same.id, same.nameSpace]
    by_cases handled : o.handles gw = false
    · rw [if_pos (Or.inr handled), if_pos (Or.inr handled)]
    rw [if_neg (not_or.mpr ⟨Int.not_lt.mpr positive', handled⟩),
      if_neg (not_or.mpr ⟨Int.not_lt.mpr positive, handled⟩)]
    cases o.checkConsole with
    | error e => rfl
    | ok _ =>
      dsimp only
      split
      · rfl
      cases named : gatewayConsoleOrigin gw.id console.domain with
      | error e => rfl
      | ok origin =>
        have desired : o.desiredConsoleEndpoint gw = some origin := by
          unfold Options.desiredConsoleEndpoint
          rw [configured]
          dsimp only
          rw [if_pos (Bool.eq_true_of_not_eq_false handled), named]
          rfl
        have desired' := (desiredConsoleEndpoint_congr same).trans desired
        rw [foreign_iff desired, foreign_iff desired'] at foreign
        dsimp only
        exact if_congr foreign rfl rfl

/-- **What is ensured depends on the published console address only as far as it is foreign.** -/
theorem ensure_congr (steps : Steps) (same : SameDesired gw gw') (positive : 1 ≤ version)
    (positive' : 1 ≤ version') (foreign : o.Foreign gw' ↔ o.Foreign gw) :
    o.ensure steps gw' version' = o.ensure steps gw version := by
  unfold Options.ensure Options.ensureConsole
  rw [consoleOrigin_congr same positive positive' foreign, handles_congr same, same.id,
    same.nameSpace]
  simp only [if_neg (Int.not_lt.mpr positive), if_neg (Int.not_lt.mpr positive')]

end Provider

end Hypershell.Workload
