import Hypershell.Gateways.ControllerWrites
import Hypershell.Gateways.CycleSteps

/-!
# The identity client of a Gateway

The identity controller stores the provider's configuration of a Gateway together with the
condition of its client.

## Main definitions

* `identityUpdate` — the condition that a reason stands for
* `observeIdentity` — the call
* `ClientObserved`, `IdentityObserved` — the row and the store that it leaves

## Main results

* `observeIdentity_commits` — the call commits a whole observation or nothing
* `identity_observation` — atomicity, idempotence, and what holds after a success
-/

namespace Hypershell

open Foundation

/-! ### The call -/

/-- The condition that a reason stands for.  Provider messages are mapped to fixed text. -/
def identityReason (oidc : Option String) (reason : String) : Except Err ConditionUpdate :=
  if reason = "IdentityClientReady" then
    if oidc.getD "" = "" then .error .invalid
    else .ok ⟨.true, reason, "The Gateway identity client is configured"⟩
  else if reason = "IdentityProviderUnavailable" then
    .ok ⟨.unknown, reason, "The identity provider result could not be confirmed"⟩
  else if reason = "IdentityObservationTimeout" then
    .ok ⟨.unknown, reason, "The identity observation exceeded its time limit"⟩
  else
    .error .invalid

/-- The checks of an observation: only one that the client is ready has a configuration. -/
def identityUpdate (oidc : Option String) (reason : String) : Except Err ConditionUpdate :=
  match identityReason oidc reason with
  | .error e => .error e
  | .ok update =>
    if update.status ≠ .true ∧ oidc.isSome then .error .invalid
    else if oidc.any fun value =>
        decide (value.utf8ByteSize > 8192) || value.toList.contains '\x00' then
      .error .invalid
    else
      .ok update

/-- A condition is current and as an update says. -/
def Gateway.Shows (g : Gateway) (owner : ConditionOwner) (update : ConditionUpdate) : Prop :=
  let condition := g.condition owner
  condition.current = true ∧ condition.status = update.status ∧
    condition.reason = update.reason ∧ condition.message = update.message

instance (g : Gateway) (owner : ConditionOwner) (update : ConditionUpdate) :
    Decidable (g.Shows owner update) :=
  inferInstanceAs (Decidable (_ ∧ _))

section Call

variable [Platform] {L : Type}

/-- The configuration that is written first.  It starts a new generation, of which the condition
is then observed. -/
def configureClient (id : String) (version : Int) (row : Gateway) (oidc : Option String) :
    Action L Int := do
  Action.update (Store.replaceIfVersion id version { row with oidc := oidc })
  let stored ← Action.query (Store.getGateway id)
  return stored.resourceVersion

/-- The callback of `ObserveIdentity`. -/
def observeIdentityBody (id : String) (version : Int) (oidc : Option String)
    (update : ConditionUpdate) (row : Gateway) : Action L Unit := do
  Tx.require (row.id = id) (.text "identity resource does not match")
  Tx.require ((row.resourceVersion : Int) = version) .versionConflict
  let values ← Tx.lift row.conditions
  let current := values .identity
  let changed : Bool := oidc.isSome && decide (row.oidc ≠ oidc)
  if changed = false ∧ current.current = true ∧ current.status = update.status ∧
      current.reason = update.reason ∧ current.message = update.message then
    pure ()
  else do
    let version ← if changed then configureClient id version row oidc else pure version
    Action.update (Store.observeConditionsIfVersion id version .identity update)
    notifyGateway id "Update" "gateway.updated"

/-- `Service.ObserveIdentity`. -/
def observeIdentity (svc : GatewayService) (p : Principal) (id : String) (version : Int)
    (oidc : Option String) (reason : String) : Process (Unit × Option Err) :=
  match authorizeIdentityController svc p id with
  | .error e => .ret ((), some e)
  | .ok () =>
    if version < 1 then .ret ((), some .observationRequired)
    else
      match identityUpdate oidc reason with
      | .error e => .ret ((), some e)
      | .ok update => withLockedGateway () id (observeIdentityBody id version oidc update)

end Call

/-! ### What it commits -/

/-- The row of an observation: its configuration, its condition, and what the trigger adds. -/
structure ClientObserved (g : Gateway) (oidc : Option String) (update : ConditionUpdate)
    (g' : Gateway) : Prop where
  columns : g' = { g with
    oidc := oidc <|> g.oidc
    updatedTime := g'.updatedTime
    resourceVersion := g'.resourceVersion
    resourceGeneration := g'.resourceGeneration
    conditionState := g'.conditionState
    cleanupState := g'.cleanupState
    cleanupTargetState := g'.cleanupTargetState }
  generation : g'.resourceGeneration =
    g.resourceGeneration + if (oidc <|> g.oidc) = g.oidc then 0 else 1
  version : g'.resourceVersion =
    g.resourceVersion + if (oidc <|> g.oidc) = g.oidc then 1 else 2
  users : g'.conditionState .identityUsers = g.conditionState .identityUsers
  shows : g'.Shows .identity update
  cleanup : g.Clean → g'.Clean ∧ g'.cleanupState = g.cleanupState ∧
    g'.cleanupTargetState = g.cleanupTargetState

/-- The observation is that of the stored row. -/
def Gateway.Confirms (g : Gateway) (oidc : Option String) (update : ConditionUpdate) : Prop :=
  (oidc <|> g.oidc) = g.oidc ∧ g.Shows .identity update

/-- A whole observation of one Gateway was written, with one event. -/
structure ObservationWritten (s : Store) (id : String) (oidc : Option String)
    (update : ConditionUpdate) (g g' : Gateway) (t : Store) : Prop where
  rest : ∃ gateways outbox, t = { s with gateways := gateways, outbox := outbox }
  row : t.gateway? id = some g'
  others : ∀ id' ≠ id, t.gateway? id' = s.gateway? id'
  observed : ClientObserved g oidc update g'
  outbox : t.outbox = s.outbox ++ [⟨id, "Update", "gateway.updated"⟩]

/-- An observation was accepted: it was known already, or it is written. -/
structure IdentityObserved (s : Store) (id : String) (version : Int) (oidc : Option String)
    (update : ConditionUpdate) (t : Store) : Prop where
  row : ∃ g, s.gateway? id = some g ∧ g.live = true ∧ (g.resourceVersion : Int) = version ∧
    (g.Confirms oidc update ∧ t = s ∨
      ¬ g.Confirms oidc update ∧ ∃ g', ObservationWritten s id oidc update g g' t)

/-! ### The steps -/

theorem orElse_eq_iff {oidc stored : Option String} :
    (oidc <|> stored) = stored ↔ (oidc.isSome && decide (stored ≠ oidc)) = false := by
  cases oidc with
  | none => simp
  | some value =>
    rw [Option.isSome_some, Bool.true_and, decide_eq_false_iff_not, not_not]
    exact eq_comm

section Rows

variable {g g₁ g' : Gateway} {time : Int} {update : ConditionUpdate} {oidc : Option String} {value : String}

/-- The row that a new observation of the client leaves. -/
theorem clientObserved_of_observe (live : g.live = true)
    (stored : Gateway.revise time g (g.observeCondition time .identity update) = .ok g') :
    ClientObserved g none update g' := by
  have columns := Gateway.eq_of_revise stored
  have spec : Gateway.sameSpec g (g.observeCondition time .identity update) = true := by
    simp [Gateway.sameSpec, Gateway.observeCondition]
  rw [spec] at columns
  have rewrites : g.Rewrites (g.observeCondition time .identity update) g' :=
    Gateway.rewrites_of_revise live rfl rfl stored
  have generation : g'.resourceGeneration = g.resourceGeneration := by
    rw [columns]
    rfl
  have alive : g'.live = true := by
    rw [columns]
    exact live
  have kept : g'.conditionState = (g.observeCondition time .identity update).conditionState := by
    rw [columns]
  refine ⟨?_, ?_, ?_, ?_, ?_, rewrites.cleanup⟩
  · have finalized := rewrites.finalized
    rw [columns] at finalized ⊢
    dsimp only at finalized ⊢
    rw [finalized]
    rfl
  · rw [generation]
    simp
  · rw [columns]
    simp
  · rw [kept]
    simp [Gateway.observeCondition]
  · obtain ⟨since, state⟩ := Gateway.observeCondition_self g time .identity update
    rw [← kept] at state
    simp only [Gateway.Shows, Gateway.condition, state, alive, generation, decide_true,
      Bool.and_self, and_self]

/-- The row whose configuration was replaced. -/
theorem replaced_oidc (g : Gateway) (oidc : Option String) (time : Int) :
    g.replaced { g with oidc := oidc } time = { g with oidc := oidc, updatedTime := time } := rfl

/-- **A configuration and then its condition** are one observation. -/
theorem clientObserved_of_configure (live : g.live = true) (changes : g.oidc ≠ some value)
    (configured : Gateway.revise time g { g with oidc := some value, updatedTime := time } = .ok g₁)
    (observed : ClientObserved g₁ none update g') : ClientObserved g (some value) update g' := by
  have first := Gateway.eq_of_revise configured
  have spec : Gateway.sameSpec g { g with oidc := some value, updatedTime := time } = false := by
    simp [Gateway.sameSpec, Ne.symm changes]
  rw [spec] at first
  have rewrites : g.Rewrites { g with oidc := some value, updatedTime := time } g₁ :=
    Gateway.rewrites_of_revise live rfl rfl configured
  have columns := observed.columns
  have same : ¬ (some value <|> g.oidc) = g.oidc := Ne.symm changes
  refine ⟨?_, ?_, ?_, ?_, observed.shows, fun clean => ?_⟩
  · rw [rewrites.finalized] at first
    refine columns.trans ?_
    rw [first]
    rfl
  · rw [observed.generation, if_neg same]
    have none_ : (none <|> g₁.oidc) = g₁.oidc := rfl
    rw [if_pos none_, first]
    rfl
  · rw [observed.version, if_neg same]
    have none_ : (none <|> g₁.oidc) = g₁.oidc := rfl
    rw [if_pos none_, first]
  · rw [observed.users, first]
  · obtain ⟨clean₁, states₁, targets₁⟩ := rewrites.cleanup clean
    obtain ⟨clean₂, states₂, targets₂⟩ := observed.cleanup clean₁
    exact ⟨clean₂, states₂.trans states₁, targets₂.trans targets₁⟩

end Rows

section Steps

variable [Platform] {svc : GatewayService} {p : Principal} {id : String} {version : Int}
  {oidc : Option String} {reason : String} {update : ConditionUpdate}

/-- The condition of a stored row is observed. -/
theorem wp_observeClient {L : Type} {ω : Env} {c : Context Store Event L} {g : Gateway}
    {ok : Unit → Context Store Event L → Prop} {fails : Err → Context Store Event L → Prop}
    (here : c.store.gateway? id = some g) (failed : ∀ e n t, fails e (c.put n t))
    (written : ∀ n g' t, ObservationWritten c.store id none update g g' t → ok () (c.put n t)) :
    Tx.wp ω (do
      Action.update (Store.observeConditionsIfVersion id version .identity update)
      notifyGateway id "Update" "gateway.updated") ok fails c := by
  rw [Tx.wp_bind]
  refine Action.wp_update (fun _ => failed _ _ c.store) (fun _ _ => failed _ _ c.store) ?_
  intro t wrote
  unfold Store.observeConditionsIfVersion at wrote
  split_ifs at wrote
  obtain ⟨old, g', -, rewritten⟩ := Store.writeIfVersion_ok wrote
  obtain rfl : old = g := by
    have same := rewritten.stored
    rw [here] at same
    exact (Option.some.inj same).symm
  obtain ⟨gateways, rfl⟩ := rewritten.same
  refine Action.wp_update (fun _ => failed _ _ _) (fun _ _ => failed _ _ _) fun u published => ?_
  cases published
  exact written _ g' _ ⟨⟨gateways, _, rfl⟩, rewritten.gateway?, fun _ => rewritten.others,
    clientObserved_of_observe rewritten.live rewritten.revise, rfl⟩

/-- **The call commits a whole observation or nothing.** -/
theorem observeIdentity_commits :
    Commits (fun s t => ∃ update, identityUpdate oidc reason = .ok update ∧
      IdentityObserved s id version oidc update t)
      (observeIdentity svc p id version oidc reason) := by
  unfold observeIdentity
  split
  · exact .refused
  split
  · exact .refused
  split
  · exact .refused
  rename_i update accepted
  refine .transaction fun ω s n => ?_
  rw [Tx.wp_bind]
  refine Action.wp_query (fun _ => rfl) (fun _ _ => rfl) fun g read => ?_
  obtain ⟨here, live⟩ := Store.getGateway_ok read
  simp only [observeIdentityBody, Tx.wp_bind, Tx.wp_require]
  by_cases named : g.id = id
  swap
  · rw [if_neg named]
    rfl
  rw [if_pos named]
  by_cases current : (g.resourceVersion : Int) = version
  swap
  · rw [if_neg current]
    rfl
  rw [if_pos current]
  refine Tx.wp_lift (fun _ _ => rfl) fun values read => ?_
  rw [Gateway.conditions_ok read, Tx.wp_ite]
  split
  · rename_i known
    rw [← orElse_eq_iff] at known
    exact ⟨rfl, update, accepted, g, here, live, current, Or.inl ⟨⟨known.1, known.2⟩, rfl⟩⟩
  rename_i unknown
  have unconfirmed : ¬ g.Confirms oidc update := by
    rintro ⟨same, shows⟩
    rw [orElse_eq_iff] at same
    exact unknown ⟨same, shows⟩
  have done : ∀ {t : Store} {g' : Gateway}, ObservationWritten s id oidc update g g' t →
      ∃ update, identityUpdate oidc reason = .ok update ∧
        IdentityObserved s id version oidc update t :=
    fun written => ⟨update, accepted, g, here, live, current, Or.inr ⟨unconfirmed, _, written⟩⟩
  rw [Tx.wp_ite]
  split
  · rename_i changed
    obtain ⟨value, rfl⟩ : ∃ value, oidc = some value := by
      rw [Bool.and_eq_true, Option.isSome_iff_exists] at changed
      exact changed.1
    have changes : g.oidc ≠ some value := by
      rw [Option.isSome_some, Bool.true_and, decide_eq_true_eq] at changed
      exact changed
    simp only [configureClient, Tx.wp_bind]
    refine Action.wp_update (fun _ => rfl) (fun _ _ => rfl) fun t wrote => ?_
    obtain ⟨old, g₁, -, rewritten⟩ := Store.replaceIfVersion_ok wrote
    obtain rfl : old = g := Option.some.inj (rewritten.stored.symm.trans here)
    obtain ⟨gateways, rfl⟩ := rewritten.same
    refine Action.wp_query (fun _ => rfl) (fun _ _ => rfl) fun stored read => ?_
    obtain ⟨found, -⟩ := Store.getGateway_ok read
    obtain rfl : stored = g₁ := Option.some.inj (found.symm.trans rewritten.gateway?)
    rw [Tx.wp_pure, ← Tx.wp_bind]
    apply wp_observeClient rewritten.gateway?
    · exact fun _ _ _ => rfl
    intro n g' t written
    obtain ⟨gateways', outbox, rfl⟩ := written.rest
    refine ⟨rfl, done ⟨⟨gateways', outbox, rfl⟩, written.row, fun id' other => ?_, ?_,
      written.outbox⟩⟩
    · exact (written.others id' other).trans (rewritten.others other)
    · exact clientObserved_of_configure live changes rewritten.revise written.observed
  · rename_i same
    have same := orElse_eq_iff.mpr (Bool.eq_false_iff.mpr same)
    rw [Tx.wp_bind, Tx.wp_pure]
    refine wp_observeClient here (fun _ _ _ => rfl) fun n g' t written => ?_
    refine ⟨rfl, done ⟨written.rest, written.row, written.others, ?_, written.outbox⟩⟩
    have observed := written.observed
    refine ⟨?_, ?_, ?_, observed.users, observed.shows, observed.cleanup⟩
    · rw [same]
      exact observed.columns
    · rw [if_pos same]
      exact observed.generation.trans (by simp)
    · rw [if_pos same]
      exact observed.version.trans (by simp)

/-! ### Observations of identities -/

omit [Platform] in
/-- Only a reason with a configuration stands for a ready client. -/
theorem identityUpdate_ready (accepted : identityUpdate oidc reason = .ok update)
    (ready : update.status = .true) : ∃ value, oidc = some value ∧ value ≠ "" := by
  unfold identityUpdate at accepted
  cases mapped : identityReason oidc reason with
  | error e =>
    rw [mapped] at accepted
    cases accepted
  | ok mapped' =>
    rw [mapped] at accepted
    dsimp only at accepted
    split_ifs at accepted
    cases accepted
    unfold identityReason at mapped
    split_ifs at mapped with _ empty
    · cases oidc with
      | none => exact absurd rfl empty
      | some value => exact ⟨value, rfl, empty⟩
    · cases mapped
      cases ready
    · cases mapped
      cases ready

omit [Platform] in
/-- The row of an accepted observation shows it. -/
theorem IdentityObserved.shown {s t : Store}
    (observed : IdentityObserved s id version oidc update t) :
    ∃ g', t.gateway? id = some g' ∧ g'.Shows .identity update ∧
      ∀ value, oidc = some value → g'.oidc = some value := by
  obtain ⟨g, here, -, -, ⟨⟨same, shows⟩, rfl⟩ | ⟨-, g', written⟩⟩ := observed.row
  · refine ⟨g, here, shows, fun value given => ?_⟩
    rw [given] at same
    exact same.symm
  · refine ⟨g', written.row, written.observed.shows, fun value given => ?_⟩
    rw [written.observed.columns, given]
    rfl

/-- **Identity observation is atomic and idempotent.**  The configuration, the condition of the
client and one event are committed together, or nothing is.  A stale revision changes nothing, and
neither does an observation that is known.  After a success the condition is current for the
generation that the configuration leads to, and the client is ready only together with a stored
configuration that was part of the observation. -/
theorem identity_observation {s t : Store} {steps : List (Env × Store)} {r : Unit × Option Err}
    {l : List Event}
    (exec : (observeIdentity svc p id version oidc reason).Exec Eq s steps r l t) :
    (t = s ∨ ∃ update g g', identityUpdate oidc reason = .ok update ∧
      s.gateway? id = some g ∧ ObservationWritten s id oidc update g g' t) ∧
    ((∀ g, s.gateway? id = some g → (g.resourceVersion : Int) ≠ version) →
      t = s ∧ r.2 ≠ none) ∧
    (∀ g update, s.gateway? id = some g → identityUpdate oidc reason = .ok update →
      g.Confirms oidc update → t = s) ∧
    (r.2 = none → ∃ g' update, identityUpdate oidc reason = .ok update ∧
      t.gateway? id = some g' ∧ g'.Shows .identity update ∧
      (∀ value, oidc = some value → g'.oidc = some value) ∧
      ((g'.condition .identity).status = .true →
        ∃ value, value ≠ "" ∧ oidc = some value ∧ g'.oidc = some value)) := by
  have ended := observeIdentity_commits.exec exec
  have success : r.2 = none → ∃ update, identityUpdate oidc reason = .ok update ∧
      IdentityObserved s id version oidc update t := by
    intro none_
    obtain ⟨vars, e⟩ := r
    dsimp only at none_
    subst none_
    exact observeIdentity_commits.exec_ok exec
  refine ⟨?_, fun stale => ?_, fun g update here accepted confirms => ?_, fun none_ => ?_⟩
  · rcases ended with same | ⟨update, accepted, observed⟩
    · exact Or.inl same
    · obtain ⟨g, here, -, -, ⟨-, same⟩ | ⟨-, g', written⟩⟩ := observed.row
      · exact Or.inl same
      · exact Or.inr ⟨update, g, g', accepted, here, written⟩
  · have never : ∀ {update}, ¬ IdentityObserved s id version oidc update t := by
      rintro update observed
      obtain ⟨g, here, -, known, -⟩ := observed.row
      exact stale g here known
    refine ⟨ended.resolve_right fun ⟨_, _, observed⟩ => never observed, fun none_ => ?_⟩
    obtain ⟨update, -, observed⟩ := success none_
    exact never observed
  · rcases ended with same | ⟨update', accepted', observed⟩
    · exact same
    · obtain rfl : update' = update := by
        rw [accepted] at accepted'
        exact (Except.ok.inj accepted').symm
      obtain ⟨g', here', -, -, ⟨-, same⟩ | ⟨unconfirmed, -⟩⟩ := observed.row
      · exact same
      · obtain rfl : g' = g := Option.some.inj (here'.symm.trans here)
        exact absurd confirms unconfirmed
  · obtain ⟨update, accepted, observed⟩ := success none_
    obtain ⟨g', row, shows, stored⟩ := observed.shown
    refine ⟨g', update, accepted, row, shows, stored, fun ready => ?_⟩
    obtain ⟨value, given, shown⟩ := identityUpdate_ready accepted (shows.2.1 ▸ ready)
    exact ⟨value, shown, given, stored value given⟩

end Steps

/-! ### The sample -/

namespace Sample

/-- A controller of identity clients. -/
def clientService : GatewayService :=
  ⟨fun subject => decide (subject = "controller"), [], [],
    [⟨"https://issuer.example", "controller", "Gateway", "configure.identity", ""⟩], "", ""⟩

/-- The client is ready. -/
def observeClient : Process (Unit × Option Err) :=
  observeIdentity clientService observer gatewayID 1 (some oidcText) "IdentityClientReady"

theorem observeClient_succeeds : (placedGateway.any fun s =>
    (observeClient.run [env drawnID] s).any fun (_, r, _, _) =>
      decide (r.2 = none)) = true := by
  decide +kernel

end Sample

open Sample in
/-- The sample's Gateway shows that its client is ready. -/
theorem identity_observation_sample : ∃ (t : Store) (g : Gateway),
    t.gateway? Sample.gatewayID = some g ∧ g.oidc = some Sample.oidcText ∧
      (g.condition .identity).status = .true := by
  have computed := Sample.observeClient_succeeds
  simp only [Option.any_eq_true, Prod.exists, decide_eq_true_eq] at computed
  obtain ⟨s, -, steps, vars, e, l, t, run, none_⟩ := computed
  obtain ⟨-, -, -, success⟩ := identity_observation (Proc.exec_of_run (fun _ => rfl) run)
  obtain ⟨g, update, accepted, row, shows, stored, -⟩ := success none_
  refine ⟨t, g, row, stored _ rfl, ?_⟩
  rw [shows.2.1]
  have known : identityUpdate (some Sample.oidcText) "IdentityClientReady" = .ok
      ⟨.true, "IdentityClientReady", "The Gateway identity client is configured"⟩ := by
    decide +kernel
  rw [known] at accepted
  cases accepted
  rfl

end Hypershell
