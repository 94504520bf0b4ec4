import Hypershell.Storage.Conditions

/-!
# Writes of a live Gateway's columns

The desired columns of a Gateway are replaced as a whole; what a controller observes of it is
written group by group.

## Main definitions

* `Gateway.replaced` — the row with other desired columns
* `Observation`, `Gateway.observing` — the row with one observed group
* `Store.replaceGateway`, `Store.replaceIfVersion`, `Store.observeIfVersion`
-/

namespace Hypershell

open Foundation

/-- One complete observation: the fields of a group. -/
inductive Observation
  | workload (phase status : String)
  | endpoint (routeAddress : String)
  | console (consoleAddress : String)
  deriving DecidableEq, Repr

/-- The group of an observation. -/
def Observation.group : Observation → ObservationGroup
  | .workload _ _ => .workload
  | .endpoint _ => .endpoint
  | .console _ => .console

namespace Gateway

/-- The row whose desired columns are those of another one. -/
def replaced (old new : Gateway) (time : Int) : Gateway :=
  { old with
    name := new.name
    clusterID := new.clusterID
    releaseID := new.releaseID
    nameSpace := new.nameSpace
    externalDNS := new.externalDNS
    tlsMode := new.tlsMode
    serviceType := new.serviceType
    image := new.image
    supervisorImage := new.supervisorImage
    serverDNSNames := new.serverDNSNames
    oidc := new.oidc
    route := new.route
    credentialDriver := new.credentialDriver
    activeSandboxCount := new.activeSandboxCount
    updatedTime := time }

/-- The row with the fields of an observation. -/
def withObservation (g : Gateway) : Observation → Gateway
  | .workload phase status => { g with phase := some phase, status := some status }
  | .endpoint routeAddress => { g with routeAddress := some routeAddress }
  | .console consoleAddress => { g with consoleAddress := some consoleAddress }

/-- The row with an observation of its desired generation. -/
def observing (g : Gateway) (observation : Observation) (time : Int) : Gateway :=
  { g.withObservation observation with
    observedGenerations :=
      Function.update g.observedGenerations observation.group g.resourceGeneration
    updatedTime := time }

end Gateway

namespace Store

/-- `Replace(ctx, "Gateway", id, row)`. -/
def replaceGateway (id : String) (row : Gateway) (s : Store) : Except Err Store :=
  match s.getGateway id with
  | .error e => .error e
  | .ok old => s.updateGateway old (old.replaced row s.time)

/-- `ReplaceIfVersion(ctx, "Gateway", id, version, row)`. -/
def replaceIfVersion (id : String) (version : Int) (row : Gateway) (s : Store) :
    Except Err Store :=
  if id = "" ∨ version < 1 then
    .error (.text "conditional write requires an identity and positive version")
  else
    s.writeIfVersion id version fun old => old.replaced row s.time

/-- `ObserveIfVersion(ctx, "Gateway", id, version, group, values)`. -/
def observeIfVersion (id : String) (version : Int) (observation : Observation) (s : Store) :
    Except Err Store :=
  if id = "" ∨ version < 1 then
    .error (.text "observation requires a context, store, identity, and positive revision")
  else
    s.writeIfVersion id version fun old => old.observing observation s.time

section Spec

variable {s t : Store} {id : String} {row : Gateway} {version : Int}

theorem replaceGateway_ok (written : s.replaceGateway id row = .ok t) :
    ∃ old g, Rewritten s id old (old.replaced row s.time) g t := by
  unfold replaceGateway at written
  split at written
  · cases written
  · rename_i old read
    obtain ⟨stored, live⟩ := getGateway_ok read
    have key : old.id = id := id_of_gateway? stored
    obtain ⟨g, revised, becomes, same⟩ :=
      updateGateway_revise (by rw [key]; exact stored) written
    exact ⟨old, g, same, stored, live, revised, becomes⟩

theorem replaceIfVersion_ok (written : s.replaceIfVersion id version row = .ok t) :
    ∃ old g, (old.resourceVersion : Int) = version ∧
      Rewritten s id old (old.replaced row s.time) g t := by
  unfold replaceIfVersion at written
  split_ifs at written
  exact writeIfVersion_ok written

theorem observeIfVersion_ok {observation : Observation}
    (written : s.observeIfVersion id version observation = .ok t) :
    ∃ old g, (old.resourceVersion : Int) = version ∧
      Rewritten s id old (old.observing observation s.time) g t := by
  unfold observeIfVersion at written
  split_ifs at written
  exact writeIfVersion_ok written

end Spec

end Store

end Hypershell
