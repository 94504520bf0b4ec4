import Hypershell.Foundation.Transaction
import Hypershell.Keycloak.Clients

/-!
# Deleting the accounts of a Gateway

The provider's clients of a Gateway are listed, then closed in three loops: the intent to close
each is saved, each is disabled, each is deleted.  The caller is another process, so an error
is translated twice on its way.

## Main definitions

* `Answers`, `ProviderCall`, `ProviderAnswer` — the results of the provider's operations, and the
  calls of a run with their failures
* `listManagedClients`, `deleteGatewayServiceAccounts` — the inventory and its closure
* `providerError`, `terminalError`, `rpcDeleteGateway` — the two translations
* `Misread` — the run is ended by a not-found that does not tell of every client

## Main results

* `wp_closeAll` — how the three loops end
* `deletion_complete_iff` — a reported success is complete unless a not-found is misread

## Design notes

* A call's answer is taken from the number of calls before it, so each answer is arbitrary and
  clients come and go between any two calls.
* Opening a journal is part of the call that uses it.
-/

namespace Hypershell

open Foundation

/-- The answers of the provider and of the journals to the calls of a run. -/
structure Answers where
  /-- The IDs on a page of the search. -/
  page : Nat → Except Failure (List String)
  client : Nat → Except Failure ClientRepresentation
  /-- `PrepareCloseExisting` saves the intent to close. -/
  prepare : Nat → Except Failure Unit
  /-- `DisableClient`. -/
  disable : Nat → Except Failure Unit
  /-- `CloseExisting` deletes a client, or observes that it is absent. -/
  close : Nat → Except Failure Unit

/-- A call to the provider or to a journal. -/
inductive ProviderCall
  | list (first : Nat)
  /-- The inventory reads a candidate. -/
  | inspect (id : String)
  | prepare (id : String)
  /-- A client's owner is checked before it is disabled. -/
  | recheck (id : String)
  | disable (id : String)
  | close (id : String)
  deriving DecidableEq, Repr

/-- A call and its failure, if it failed. -/
structure ProviderAnswer where
  call : ProviderCall
  failure : Option Failure
  deriving DecidableEq, Repr

/-- The failure of an answer. -/
def failureOf {α : Type} : Except Failure α → Option Failure
  | .error e => some e
  | .ok _ => none

/-- A computation of the provisioner, with the calls it made. -/
abbrev Calls (α : Type) : Type := Tx Answers Unit ProviderAnswer Unit Failure α

/-- Make a call. -/
def ask {α : Type} (call : ProviderCall) (answer : Answers → Nat → Except Failure α) : Calls α :=
  fun ω c =>
    (answer ω c.tick,
      { c with tick := c.tick + 1, log := c.log ++ [⟨call, failureOf (answer ω c.tick)⟩] })

/-- Return or fail. -/
def given {α : Type} : Except Failure α → Calls α
  | .ok a => pure a
  | .error e => Tx.raise e

/-- The checks of `GetClient` on what it reads. -/
def checkedClient (id : String) : Except Failure ClientRepresentation →
    Except Failure ClientRepresentation
  | .error e => .error e
  | .ok value =>
    if value.id ≠ id ∨ textValue value.clientID 255 = false then .error [.response] else .ok value

/-- `GetClient`. -/
def getClient (call : String → ProviderCall) (id : String) : Calls ClientRepresentation :=
  if identifier id = false then
    Tx.raise [.text "invalid Keycloak client identifier"]
  else
    ask (call id) fun ω n => checkedClient id (ω.client n)

/-! ### The inventory -/

/-- A client that an account owns. -/
structure ManagedClient where
  uuid : String
  clientID : String
  gatewayID : String
  serviceAccountID : String
  deriving DecidableEq, Repr

section Inventory

variable [Platform]

/-- The candidates of a page: each is read, and one that is gone by then is passed over. -/
def inspectPage (gatewayID : String) : List String → List String → List ManagedClient →
    Calls (List String × List ManagedClient)
  | [], seen, result => pure (seen, result)
  | id :: rest, seen, result =>
    if id ∈ seen then
      Tx.raise [.text "managed client inventory repeats an ID"]
    else do
      let read ← Tx.attempt (getClient .inspect id)
      match read with
      | .error e =>
        if .notFound ∈ e then inspectPage gatewayID rest (id :: seen) result else Tx.raise e
      | .ok client => do
        let owner ← given (managedInventoryAccount client gatewayID)
        match owner with
        | none => inspectPage gatewayID rest (id :: seen) result
        | some (parent, account) =>
          inspectPage gatewayID rest (id :: seen)
            (result ++ [⟨client.id, client.clientID, parent, account⟩])

/-- `MaxPageSize`. -/
def maxPageSize : Nat := 100

/-- `MaxInventory` / `MaxPageSize`. -/
def maxPages : Nat := 100

/-- One page after another; a short one is the last. -/
def inspectPages (gatewayID : String) : Nat → Nat → List String → List ManagedClient →
    Calls (List ManagedClient)
  | 0, _, _, _ => Tx.raise [.text "managed client scan exceeds limit"]
  | pages + 1, first, seen, result => do
    let page ← ask (.list first) fun ω n => ω.page n
    let (seen, result) ← inspectPage gatewayID page seen result
    if page.length < maxPageSize then
      return result
    else
      inspectPages gatewayID pages (first + maxPageSize) seen result

/-- `ListManagedClients` of one Gateway. -/
def listManagedClients (gatewayID : String) : Calls (List ManagedClient) :=
  if Platform.validID gatewayID = false then
    Tx.raise errNotManaged
  else
    inspectPages gatewayID maxPages 0 [] []

/-! ### The closure -/

/-- `PrepareCloseExisting` of a client's lifecycle. -/
def prepareClient (gatewayID : String) (client : ManagedClient) : Calls Unit := do
  let _ ← given (accountIdentity gatewayID client.serviceAccountID)
  ask (.prepare client.uuid) fun ω n => ω.prepare n

/-- `DisableServiceAccount`: a client that is gone needs none of it. -/
def disableServiceAccount (gatewayID : String) (client : ManagedClient) : Calls Unit := do
  let _ ← given (accountIdentity gatewayID client.serviceAccountID)
  let read ← Tx.attempt (getClient .recheck client.uuid)
  match read with
  | .error e => if .notFound ∈ e then pure () else Tx.raise e
  | .ok value => do
    let _ ← given (accountBinding value gatewayID client.serviceAccountID)
    ask (.disable client.uuid) fun ω n => ω.disable n

/-- `DeleteServiceAccount`. -/
def deleteServiceAccount (gatewayID : String) (client : ManagedClient) : Calls Unit := do
  let _ ← given (accountIdentity gatewayID client.serviceAccountID)
  ask (.close client.uuid) fun ω n => ω.close n

/-- One client after another, up to the first failure. -/
def eachClient (close : ManagedClient → Calls Unit) : List ManagedClient → Calls Unit
  | [] => pure ()
  | client :: rest => do
    close client
    eachClient close rest

/-- The three loops.  Every discovered target is saved before a provider error can stop them. -/
def closeAll (gatewayID : String) (clients : List ManagedClient) : Calls Unit := do
  eachClient (prepareClient gatewayID) clients
  eachClient (disableServiceAccount gatewayID) clients
  eachClient (deleteServiceAccount gatewayID) clients

/-- `DeleteGatewayServiceAccounts`. -/
def deleteGatewayServiceAccounts (gatewayID : String) : Calls Unit :=
  if Platform.validID gatewayID = false then
    Tx.raise errNotManaged
  else do
    let clients ← listManagedClients gatewayID
    closeAll gatewayID clients

/-! ### The two translations -/

/-- `status.Code` of an error that is not nil: the first status in its tree. -/
def statusCode (e : Failure) : Code :=
  (e.findSome? fun cause => match cause with
    | .status code => some code
    | _ => none).getD .unknown

/-- `providerError`: the code of the response. -/
def providerError (e : Failure) : Code :=
  if .canceled ∈ e then .canceled
  else if .deadlineExceeded ∈ e then .deadlineExceeded
  else if .notFound ∈ e then .notFound
  else if .ownership ∈ e then .permissionDenied
  else
    match statusCode e with
    | .aborted => .aborted
    | .unavailable => .unavailable
    | .resourceExhausted => .resourceExhausted
    | .deadlineExceeded => .deadlineExceeded
    | .canceled => .canceled
    | _ => .internal

/-- `terminalError`: an absent client is as good as a deleted one. -/
def terminalError : Option Failure → Option Err
  | none => none
  | some e =>
    if statusCode e = .notFound then none
    else if .canceled ∈ e then some .unavailable
    else if .deadlineExceeded ∈ e then some .retryableCleanup
    else if statusCode e ∈ [.aborted, .unavailable, .resourceExhausted, .deadlineExceeded] then
      some .retryableCleanup
    else some .unavailable

/-- The server, as far as it answers a caller: whether it allows the caller and whether its
provider is configured. -/
structure ProvisionerServer where
  allowed : Bool
  configured : Bool

/-- `Server.DeleteGateway`: the code of its response, if it is an error. -/
def serverDeleteGateway (server : ProvisionerServer) (gatewayID : String) : Calls (Option Code) :=
  if server.allowed = false then pure (some .permissionDenied)
  else if server.configured = false then pure (some .unavailable)
  else if gatewayID = "" then pure (some .invalidArgument)
  else do
    let ended ← Tx.attempt (deleteGatewayServiceAccounts gatewayID)
    match ended with
    | .error e => return some (providerError e)
    | .ok () => return none

/-- The RPC between the two processes.  The library has no failure of its own with the code
`NotFound`. -/
inductive Transport
  | delivered
  /-- The request was handled and the response did not arrive. -/
  | lost (e : Failure) (documented : statusCode e ≠ .notFound)
  | unsent (e : Failure) (documented : statusCode e ≠ .notFound)

/-- `rpcProvisioner.DeleteGateway`. -/
def rpcDeleteGateway (transport : Transport) (server : ProvisionerServer) (gatewayID : String) :
    Calls (Option Err) :=
  match transport with
  | .unsent e _ => pure (terminalError (some e))
  | .lost e _ => do
    let _ ← serverDeleteGateway server gatewayID
    return terminalError (some e)
  | .delivered => do
    let response ← serverDeleteGateway server gatewayID
    return terminalError (response.map fun code => [.status code])

end Inventory

/-! ### The calls of the loops -/

section Calls

variable {ω : Answers} {c : Context Unit ProviderAnswer Unit} {fails : Failure → Context Unit ProviderAnswer Unit → Prop}

theorem wp_ask {α : Type} {call : ProviderCall} {answer : Answers → Nat → Except Failure α}
    {ok : α → Context Unit ProviderAnswer Unit → Prop}
    (failed : ∀ e c', c'.log = c.log ++ [⟨call, some e⟩] → fails e c')
    (returned : ∀ a c', c'.log = c.log ++ [⟨call, none⟩] → ok a c') :
    Tx.wp ω (ask call answer) ok fails c := by
  unfold Tx.wp ask
  cases answered : answer ω c.tick with
  | error e => exact failed e _ rfl
  | ok a => exact returned a _ rfl

theorem wp_given {α : Type} {result : Except Failure α}
    {ok : α → Context Unit ProviderAnswer Unit → Prop} (failed : ∀ e, result = .error e → fails e c)
    (returned : ∀ a, result = .ok a → ok a c) : Tx.wp ω (given result) ok fails c := by
  cases result with
  | error e => exact failed e rfl
  | ok a => exact returned a rfl

/-- A read makes at most one call. -/
theorem wp_getClient {call : String → ProviderCall} {id : String}
    {ok : ClientRepresentation → Context Unit ProviderAnswer Unit → Prop}
    (refused : fails [.text "invalid Keycloak client identifier"] c)
    (failed : ∀ e c', c'.log = c.log ++ [⟨call id, some e⟩] → fails e c')
    (returned : ∀ value c', c'.log = c.log ++ [⟨call id, none⟩] → ok value c') :
    Tx.wp ω (getClient call id) ok fails c := by
  unfold getClient
  rw [Tx.wp_ite]
  split
  · exact refused
  · exact wp_ask failed returned

/-- An error that the two translations take for an absence. -/
def ReadAsAbsent (e : Failure) : Prop := providerError e = .notFound

instance (e : Failure) : Decidable (ReadAsAbsent e) := inferInstanceAs (Decidable (_ = _))

theorem ReadAsAbsent.notFound {e : Failure} (absent : ReadAsAbsent e) : .notFound ∈ e := by
  by_contra missing
  unfold ReadAsAbsent providerError at absent
  rw [if_neg missing] at absent
  split_ifs at absent
  split at absent <;> cases absent

/-- The calls of a loop for each of some clients. -/
inductive Walk (each : ManagedClient → List ProviderAnswer → Prop) :
    List ManagedClient → List ProviderAnswer → Prop
  | nil : Walk each [] []
  | cons {client : ManagedClient} {rest : List ManagedClient} {first later : List ProviderAnswer}
      (here : each client first) (there : Walk each rest later) :
      Walk each (client :: rest) (first ++ later)

/-- **A loop over the clients** visits each of them, or stops at one. -/
theorem wp_eachClient {close : ManagedClient → Calls Unit} {clients : List ManagedClient}
    {visits : ManagedClient → List ProviderAnswer → Prop}
    {stops : ManagedClient → List ProviderAnswer → Failure → Prop}
    (each : ∀ client ∈ clients, ∀ c, Tx.wp ω (close client)
      (fun _ c' => ∃ l, c'.log = c.log ++ l ∧ visits client l)
      (fun e c' => ∃ l, c'.log = c.log ++ l ∧ stops client l e) c) :
    Tx.wp ω (eachClient close clients)
      (fun _ c' => ∃ l, c'.log = c.log ++ l ∧ Walk visits clients l)
      (fun e c' => ∃ done client rest l last, clients = done ++ client :: rest ∧
        c'.log = c.log ++ (l ++ last) ∧ Walk visits done l ∧ stops client last e) c := by
  induction clients generalizing c with
  | nil => exact ⟨[], (List.append_nil _).symm, .nil⟩
  | cons client rest ih =>
    rw [eachClient, Tx.wp_bind]
    refine Tx.wp_mono (each client List.mem_cons_self c) ?_ ?_
    · rintro - c₁ ⟨first, log₁, visited⟩
      refine Tx.wp_mono (ih (c := c₁) fun client member => each client (List.mem_cons_of_mem _ member))
        ?_ ?_
      · rintro - c₂ ⟨later, log₂, walk⟩
        refine ⟨first ++ later, ?_, .cons visited walk⟩
        rw [log₂, log₁, List.append_assoc]
      · rintro e c₂ ⟨done, stopped, rest', l, last, rfl, log₂, walk, stop⟩
        refine ⟨client :: done, stopped, rest', first ++ l, last, rfl, ?_, .cons visited walk, stop⟩
        rw [log₂, log₁, List.append_assoc, List.append_assoc]
    · rintro e c₁ ⟨last, log₁, stop⟩
      exact ⟨[], client, rest, [], last, rfl, log₁, .nil, stop⟩

section Steps

variable [Platform] {gatewayID : String} {client : ManagedClient}

theorem notFound_of_accountIdentity {accountID : String} {e : Failure}
    (failed : accountIdentity gatewayID accountID = .error e) : .notFound ∉ e := by
  unfold accountIdentity at failed
  split at failed
  · cases failed
    decide
  · cases failed

omit [Platform] in
theorem notFound_of_checkOwnership {binding : ClientBinding} {value : ClientRepresentation}
    {e : Failure} (failed : binding.checkOwnership value = .error e) : .notFound ∉ e := by
  unfold ClientBinding.checkOwnership ClientBinding.validate at failed
  split at failed
  · rename_i invalid
    cases failed
    split_ifs at invalid <;> cases invalid <;> simp
  · split_ifs at failed
    cases failed
    decide

theorem notFound_of_accountBinding {value : ClientRepresentation} {accountID : String}
    {e : Failure} (failed : accountBinding value gatewayID accountID = .error e) :
    .notFound ∉ e := by
  unfold accountBinding at failed
  split at failed
  · rename_i e' refused
    cases failed
    exact notFound_of_accountIdentity refused
  · dsimp only at failed
    split_ifs at failed
    · cases failed
      decide
    · cases failed
      decide
    all_goals
      split at failed
      · rename_i e' refused
        cases failed
        exact notFound_of_checkOwnership refused
      · cases failed

theorem notFound_of_managedInventoryAccount {value : ClientRepresentation} {e : Failure}
    (failed : managedInventoryAccount value gatewayID = .error e) : .notFound ∉ e := by
  unfold managedInventoryAccount at failed
  dsimp only at failed
  split_ifs at failed
  all_goals
    split at failed
    · rename_i e' refused
      cases failed
      exact notFound_of_accountBinding refused
    · cases failed

/-- The call that saves the intent to close a client. -/
def Prepared (client : ManagedClient) (l : List ProviderAnswer) : Prop :=
  l = [⟨.prepare client.uuid, none⟩]

/-- The calls that disable a client, or find it absent. -/
def Disabled (client : ManagedClient) (l : List ProviderAnswer) : Prop :=
  (∃ f, .notFound ∈ f ∧ l = [⟨.recheck client.uuid, some f⟩]) ∨
    l = [⟨.recheck client.uuid, none⟩, ⟨.disable client.uuid, none⟩]

/-- The call that deletes a client. -/
def Deleted (client : ManagedClient) (l : List ProviderAnswer) : Prop :=
  l = [⟨.close client.uuid, none⟩]

/-- A loop stops with an error that is not read as an absence. -/
def StopsLoud (l : List ProviderAnswer) (e : Failure) : Prop :=
  ¬ ReadAsAbsent e ∧ ∀ a ∈ l, ∃ id, a.call = .recheck id

/-- A loop stops at a call that fails. -/
def StopsAt (call : ProviderCall) (l : List ProviderAnswer) (e : Failure) : Prop :=
  ∃ l', l = l' ++ [⟨call, some e⟩] ∧ ∀ a ∈ l', ∃ id, a = ⟨.recheck id, none⟩

theorem wp_prepareClient (c : Context Unit ProviderAnswer Unit) :
    Tx.wp ω (prepareClient gatewayID client)
      (fun _ c' => ∃ l, c'.log = c.log ++ l ∧ Prepared client l)
      (fun e c' => ∃ l, c'.log = c.log ++ l ∧
        (StopsLoud l e ∨ StopsAt (.prepare client.uuid) l e)) c := by
  simp only [prepareClient, Tx.wp_bind]
  refine wp_given (fun e refused => ?_) fun _ _ => ?_
  · refine ⟨[], (List.append_nil _).symm, Or.inl ⟨fun absent => ?_, fun _ never => nomatch never⟩⟩
    exact notFound_of_accountIdentity refused absent.notFound
  · refine wp_ask (fun e c' log => ?_) fun _ c' log => ⟨_, log, rfl⟩
    exact ⟨_, log, Or.inr ⟨[], rfl, fun _ never => nomatch never⟩⟩

theorem wp_deleteServiceAccount (c : Context Unit ProviderAnswer Unit) :
    Tx.wp ω (deleteServiceAccount gatewayID client)
      (fun _ c' => ∃ l, c'.log = c.log ++ l ∧ Deleted client l)
      (fun e c' => ∃ l, c'.log = c.log ++ l ∧
        (StopsLoud l e ∨ StopsAt (.close client.uuid) l e)) c := by
  simp only [deleteServiceAccount, Tx.wp_bind]
  refine wp_given (fun e refused => ?_) fun _ _ => ?_
  · refine ⟨[], (List.append_nil _).symm, Or.inl ⟨fun absent => ?_, fun _ never => nomatch never⟩⟩
    exact notFound_of_accountIdentity refused absent.notFound
  · refine wp_ask (fun e c' log => ?_) fun _ c' log => ⟨_, log, rfl⟩
    exact ⟨_, log, Or.inr ⟨[], rfl, fun _ never => nomatch never⟩⟩

theorem wp_disableServiceAccount (c : Context Unit ProviderAnswer Unit) :
    Tx.wp ω (disableServiceAccount gatewayID client)
      (fun _ c' => ∃ l, c'.log = c.log ++ l ∧ Disabled client l)
      (fun e c' => ∃ l, c'.log = c.log ++ l ∧
        (StopsLoud l e ∨ StopsAt (.disable client.uuid) l e)) c := by
  have quiet : ∀ f : Option Failure, ∀ a ∈ [(⟨.recheck client.uuid, f⟩ : ProviderAnswer)],
      ∃ id, a.call = .recheck id := by
    intro f a member
    rw [List.mem_singleton.mp member]
    exact ⟨_, rfl⟩
  simp only [disableServiceAccount, Tx.wp_bind, Tx.wp_attempt]
  refine wp_given (fun e refused => ?_) fun _ _ => ?_
  · refine ⟨[], (List.append_nil _).symm, Or.inl ⟨fun absent => ?_, fun _ never => nomatch never⟩⟩
    exact notFound_of_accountIdentity refused absent.notFound
  refine wp_getClient ?_ (fun e c' log => ?_) fun value c' log => ?_
  · exact ⟨[], (List.append_nil _).symm, Or.inl ⟨by decide, fun _ never => nomatch never⟩⟩
  · rw [Tx.wp_ite]
    split
    · rename_i gone
      exact ⟨_, log, Or.inl ⟨e, gone, rfl⟩⟩
    · rename_i other
      exact ⟨_, log, Or.inl ⟨fun absent => other absent.notFound, quiet _⟩⟩
  · refine wp_given (fun e refused => ?_) fun _ _ => ?_
    · exact ⟨_, log, Or.inl ⟨fun absent => notFound_of_accountBinding refused absent.notFound,
        quiet _⟩⟩
    · refine wp_ask (fun e c'' log' => ?_) fun _ c'' log' => ?_
      · refine ⟨[⟨.recheck client.uuid, none⟩, ⟨.disable client.uuid, some e⟩], ?_,
          Or.inr ⟨[⟨.recheck client.uuid, none⟩], rfl, fun a member => ?_⟩⟩
        · rw [log', log, List.append_assoc]
          rfl
        · exact ⟨_, List.mem_singleton.mp member⟩
      · refine ⟨[⟨.recheck client.uuid, none⟩, ⟨.disable client.uuid, none⟩], ?_, Or.inr rfl⟩
        rw [log', log, List.append_assoc]
        rfl

/-! ### The calls of an inventory -/

/-- Reads of candidates. -/
def Inspections (l : List ProviderAnswer) : Prop := ∀ a ∈ l, ∃ id, a.call = .inspect id

/-- Every page is answered. -/
structure ListEnds (l : List ProviderAnswer) : Prop where
  calls : ∀ a ∈ l, (∃ first, a = ⟨.list first, none⟩) ∨ ∃ id, a.call = .inspect id

/-- An inventory that fails with an error that is read as an absence was refused a page. -/
structure ListStops (l : List ProviderAnswer) (e : Failure) : Prop where
  calls : ∀ a ∈ l, (∃ first, a = ⟨.list first, none⟩) ∨ (∃ first, a = ⟨.list first, some e⟩) ∨
    ∃ id, a.call = .inspect id
  absent : ReadAsAbsent e → ∃ first, ⟨.list first, some e⟩ ∈ l

omit [Platform] in
theorem Inspections.append {l l' : List ProviderAnswer} (first : Inspections l)
    (later : Inspections l') : Inspections (l ++ l') := by
  intro a member
  exact (List.mem_append.mp member).elim (first a) (later a)

/-- **A page** is read without an error that is read as an absence. -/
theorem wp_inspectPage {page seen : List String} {result : List ManagedClient} :
    Tx.wp ω (inspectPage gatewayID page seen result)
      (fun _ c' => ∃ l, c'.log = c.log ++ l ∧ Inspections l)
      (fun e c' => ∃ l, c'.log = c.log ++ l ∧ Inspections l ∧ ¬ ReadAsAbsent e) c := by
  have none : Inspections [] := fun _ never => nomatch never
  induction page generalizing c seen result with
  | nil => exact ⟨[], (List.append_nil _).symm, none⟩
  | cons id rest ih =>
    have continues : ∀ (c₁ : Context Unit ProviderAnswer Unit) (l : List ProviderAnswer) seen result,
        c₁.log = c.log ++ l → Inspections l →
        Tx.wp ω (inspectPage gatewayID rest seen result)
          (fun _ c' => ∃ l, c'.log = c.log ++ l ∧ Inspections l)
          (fun e c' => ∃ l, c'.log = c.log ++ l ∧ Inspections l ∧ ¬ ReadAsAbsent e) c₁ := by
      intro c₁ l seen result log here
      refine Tx.wp_mono (ih (c := c₁)) ?_ ?_
      · rintro - c₂ ⟨l', log', there⟩
        exact ⟨l ++ l', by rw [log', log, List.append_assoc], here.append there⟩
      · rintro e c₂ ⟨l', log', there, loud⟩
        exact ⟨l ++ l', by rw [log', log, List.append_assoc], here.append there, loud⟩
    have one : ∀ f : Option Failure, Inspections [⟨.inspect id, f⟩] := by
      intro f a member
      rw [List.mem_singleton.mp member]
      exact ⟨_, rfl⟩
    rw [inspectPage, Tx.wp_ite]
    split
    · exact ⟨[], (List.append_nil _).symm, none, by decide⟩
    simp only [Tx.wp_bind, Tx.wp_attempt]
    refine wp_getClient ?_ (fun e c₁ log => ?_) fun value c₁ log => ?_
    · rw [Tx.wp_ite, if_neg (by decide)]
      exact ⟨[], (List.append_nil _).symm, none, by decide⟩
    · rw [Tx.wp_ite]
      split
      · exact continues c₁ _ _ _ log (one _)
      · rename_i other
        exact ⟨_, log, one _, fun absent => other absent.notFound⟩
    · refine wp_given (fun e refused => ?_) fun owner _ => ?_
      · exact ⟨_, log, one _, fun absent =>
          notFound_of_managedInventoryAccount refused absent.notFound⟩
      · cases owner with
        | none => exact continues c₁ _ _ _ log (one _)
        | some owner => exact continues c₁ _ _ _ log (one _)

/-- **The pages** of an inventory. -/
theorem wp_inspectPages {pages first : Nat} {seen : List String} {result : List ManagedClient} :
    Tx.wp ω (inspectPages gatewayID pages first seen result)
      (fun _ c' => ∃ l, c'.log = c.log ++ l ∧ ListEnds l)
      (fun e c' => ∃ l, c'.log = c.log ++ l ∧ ListStops l e) c := by
  induction pages generalizing c first seen result with
  | zero =>
    exact ⟨[], (List.append_nil _).symm, fun _ never => (nomatch never),
      fun absent => absurd absent (by decide)⟩
  | succ pages ih =>
    rw [inspectPages, Tx.wp_bind]
    refine wp_ask (fun e c₁ log => ?_) fun page c₁ log => ?_
    · refine ⟨_, log, fun a member => Or.inr (Or.inl ⟨first, List.mem_singleton.mp member⟩),
        fun _ => ⟨first, List.mem_singleton_self _⟩⟩
    · rw [Tx.wp_bind]
      refine Tx.wp_mono (wp_inspectPage (c := c₁)) ?_ ?_
      · rintro ⟨seen', result'⟩ c₂ ⟨l, log', inspections⟩
        have here : ListEnds ([⟨.list first, none⟩] ++ l) := by
          refine ⟨fun a member => ?_⟩
          rcases List.mem_append.mp member with isPage | read
          · exact Or.inl ⟨first, List.mem_singleton.mp isPage⟩
          · exact Or.inr (inspections a read)
        have log₂ : c₂.log = c.log ++ ([⟨.list first, none⟩] ++ l) := by
          rw [log', log, List.append_assoc]
        rw [Tx.wp_ite]
        split
        · exact ⟨_, log₂, here⟩
        · refine Tx.wp_mono (ih (c := c₂)) ?_ ?_
          · rintro - c₃ ⟨l', log₃, there⟩
            refine ⟨([⟨.list first, none⟩] ++ l) ++ l', by rw [log₃, log₂, List.append_assoc],
              ⟨fun a member => ?_⟩⟩
            exact (List.mem_append.mp member).elim (here.calls a) (there.calls a)
          · rintro e c₃ ⟨l', log₃, there⟩
            refine ⟨([⟨.list first, none⟩] ++ l) ++ l', by rw [log₃, log₂, List.append_assoc],
              fun a member => ?_, fun absent => ?_⟩
            · rcases List.mem_append.mp member with earlier | later
              · exact (here.calls a earlier).imp_right Or.inr
              · exact there.calls a later
            · obtain ⟨n, member⟩ := there.absent absent
              exact ⟨n, List.mem_append_right _ member⟩
      · rintro e c₂ ⟨l, log', inspections, loud⟩
        refine ⟨[⟨.list first, none⟩] ++ l, by rw [log', log, List.append_assoc],
          fun a member => ?_, fun absent => absurd absent loud⟩
        rcases List.mem_append.mp member with isPage | read
        · exact Or.inl ⟨first, List.mem_singleton.mp isPage⟩
        · exact Or.inr (Or.inr (inspections a read))

/-- **The inventory** of a Gateway. -/
theorem wp_listManagedClients :
    Tx.wp ω (listManagedClients gatewayID)
      (fun _ c' => ∃ l, c'.log = c.log ++ l ∧ ListEnds l)
      (fun e c' => ∃ l, c'.log = c.log ++ l ∧ ListStops l e) c := by
  unfold listManagedClients
  rw [Tx.wp_ite]
  split
  · exact ⟨[], (List.append_nil _).symm, fun _ never => (nomatch never),
      fun absent => absurd absent (by decide)⟩
  · exact wp_inspectPages

/-! ### How a closure ends -/

/-- A client is disabled or deleted by a call. -/
def ProviderCall.Mutates : ProviderCall → Prop
  | .disable _ | .close _ => True
  | _ => False

/-- A call whose failure ends the run. -/
def ProviderCall.Ends : ProviderCall → Prop
  | .inspect _ | .recheck _ => False
  | _ => True

/-- The answer tells that a client was deleted or is absent. -/
def Closes (id : String) (a : ProviderAnswer) : Prop :=
  a = ⟨.close id, none⟩ ∨ ∃ f, .notFound ∈ f ∧
    (a = ⟨.recheck id, some f⟩ ∨ a = ⟨.disable id, some f⟩ ∨ a = ⟨.close id, some f⟩)

/-- The intent to close a client was saved, and then the client was deleted or observed to be
absent. -/
def ClosureSeen (log : List ProviderAnswer) (id : String) : Prop :=
  ∃ before a after, log = before ++ a :: after ∧ ⟨.prepare id, none⟩ ∈ before ∧ Closes id a

/-- A client's absence was observed before it was to be disabled. -/
def Missing (log : List ProviderAnswer) (id : String) : Prop :=
  ∃ f, .notFound ∈ f ∧ ⟨.recheck id, some f⟩ ∈ log

/-- How a closure ended. -/
inductive ClosureEnds (clients : List ManagedClient) (log : List ProviderAnswer) :
    Except Failure Unit → Prop
  | closed (all : ∀ client ∈ clients, ClosureSeen log client.uuid) : ClosureEnds clients log (.ok ())
  | loud {e : Failure} (error : ¬ ReadAsAbsent e) : ClosureEnds clients log (.error e)
  | unsaved {client : ManagedClient} {e : Failure} (member : client ∈ clients)
      (failed : ⟨.prepare client.uuid, some e⟩ ∈ log) (none : ∀ id, ∀ a ∈ log, ¬ Closes id a) :
      ClosureEnds clients log (.error e)
  | stopped {call : ProviderCall} {id : String} {e : Failure} (failed : ⟨call, some e⟩ ∈ log)
      (names : call = .disable id ∨ call = .close id)
      (only : ∀ a ∈ log, a.call.Ends → ∀ f, a.failure = some f → a = ⟨call, some e⟩)
      (ready : ∀ client ∈ clients, ∀ a ∈ log, Closes client.uuid a → ClosureSeen log client.uuid) :
      ClosureEnds clients log (.error e)

/-- The calls of a closure that ended. -/
structure ClosureRan (clients : List ManagedClient) (log : List ProviderAnswer)
    (r : Except Failure Unit) : Prop where
  /-- No client is changed before the intents of all are saved. -/
  order : ∀ before a after, log = before ++ a :: after → a.call.Mutates →
    ∀ client ∈ clients, ⟨.prepare client.uuid, none⟩ ∈ before
  /-- Only the last call fails. -/
  only : ∀ a ∈ log, a.call.Ends → ∀ f, a.failure = some f → r = .error f
  ends : ClosureEnds clients log r

/-- A call before the first change of a client. -/
def Quiet (a : ProviderAnswer) : Prop :=
  (∃ first, a = ⟨.list first, none⟩) ∨ (∃ id, a.call = .inspect id) ∨
    ∃ id, a = ⟨.prepare id, none⟩

/-- A call that did not end the run. -/
def Passed (a : ProviderAnswer) : Prop := a.call.Ends → a.failure = none

section Ends

variable {clients : List ManagedClient} {log quiet later l : List ProviderAnswer}
  {a : ProviderAnswer} {id : String}

omit [Platform] in
theorem Quiet.passed (isQuiet : Quiet a) : Passed a := by
  rcases isQuiet with ⟨first, rfl⟩ | ⟨id, isRead⟩ | ⟨id, rfl⟩
  · exact fun _ => rfl
  · intro ends
    rw [isRead] at ends
    exact ends.elim
  · exact fun _ => rfl

omit [Platform] in
theorem Quiet.not_mutates (isQuiet : Quiet a) : ¬ a.call.Mutates := by
  rcases isQuiet with ⟨first, rfl⟩ | ⟨id, isRead⟩ | ⟨id, rfl⟩
  · exact id
  · rw [isRead]
    exact fun never => never
  · exact fun never => never

omit [Platform] in
theorem Quiet.not_closes (isQuiet : Quiet a) : ¬ Closes id a := by
  rintro (rfl | ⟨f, -, rfl | rfl | rfl⟩)
  all_goals
    rcases isQuiet with ⟨first, same⟩ | ⟨id', isRead⟩ | ⟨id', same⟩
    · cases same
    · cases isRead
    · cases same

omit [Platform] in
/-- What comes after the quiet part of a log has the quiet part before it. -/
theorem mem_before {before after : List ProviderAnswer} {e : ProviderAnswer}
    (split : quiet ++ later = before ++ a :: after) (outside : a ∉ quiet) (inside : e ∈ quiet) :
    e ∈ before := by
  rcases List.append_eq_append_iff.mp split with ⟨mid, isBefore, -⟩ | ⟨mid, isQuiet, rest⟩
  · rw [isBefore]
    exact List.mem_append_left _ inside
  · cases mid with
    | nil =>
      rw [List.append_nil] at isQuiet
      rw [← isQuiet]
      exact inside
    | cons first mid =>
      rw [List.cons_append, List.cons.injEq] at rest
      rw [rest.1, isQuiet] at outside
      exact absurd (List.mem_append_right _ List.mem_cons_self) outside

omit [Platform] in
/-- Once every intent is saved, changes are in order and absences count. -/
theorem ordered_of_prepared (later : List ProviderAnswer) (isQuiet : ∀ a ∈ quiet, Quiet a)
    (prepared : ∀ client ∈ clients, ⟨.prepare client.uuid, none⟩ ∈ quiet) :
    (∀ before a after, quiet ++ later = before ++ a :: after → a.call.Mutates →
      ∀ client ∈ clients, ⟨.prepare client.uuid, none⟩ ∈ before) ∧
    ∀ client ∈ clients, ∀ a ∈ quiet ++ later, Closes client.uuid a →
      ClosureSeen (quiet ++ later) client.uuid := by
  constructor
  · intro before a after split mutates client member
    exact mem_before split (fun inside => (isQuiet a inside).not_mutates mutates)
      (prepared client member)
  · intro client member a inside closes
    obtain ⟨before, after, split⟩ := List.append_of_mem inside
    exact ⟨before, a, after, split,
      mem_before split (fun quietly => (isQuiet a quietly).not_closes closes)
        (prepared client member), closes⟩

omit [Platform] in
/-- Each call of a walk is one of a client's. -/
theorem Walk.forall {each : ManagedClient → List ProviderAnswer → Prop} {p : ProviderAnswer → Prop}
    (walk : Walk each clients l) (visit : ∀ client l, each client l → ∀ a ∈ l, p a) :
    ∀ a ∈ l, p a := by
  induction walk with
  | nil => exact fun _ never => nomatch never
  | cons here _ ih =>
    intro a member
    exact (List.mem_append.mp member).elim (visit _ _ here a) (ih a)

omit [Platform] in
/-- Each client of a walk was visited. -/
theorem Walk.exists {each : ManagedClient → List ProviderAnswer → Prop} {client : ManagedClient}
    (walk : Walk each clients l) (member : client ∈ clients) :
    ∃ visit, each client visit ∧ ∀ a ∈ visit, a ∈ l := by
  induction walk with
  | nil => cases member
  | cons here _ ih =>
    rcases List.mem_cons.mp member with rfl | later
    · exact ⟨_, here, fun a inside => List.mem_append_left _ inside⟩
    · obtain ⟨visit, visited, inside⟩ := ih later
      exact ⟨visit, visited, fun a member => List.mem_append_right _ (inside a member)⟩

omit [Platform] in
theorem Walk.quiet_prepared (walk : Walk Prepared clients l) :
    (∀ a ∈ l, Quiet a) ∧ ∀ client ∈ clients, ⟨.prepare client.uuid, none⟩ ∈ l := by
  constructor
  · refine walk.forall fun client l prepared a member => ?_
    rw [prepared, List.mem_singleton] at member
    exact Or.inr (Or.inr ⟨_, member⟩)
  · intro client member
    obtain ⟨visit, prepared, inside⟩ := walk.exists member
    refine inside _ ?_
    rw [prepared]
    exact List.mem_singleton_self _

omit [Platform] in
theorem Walk.passed_disabled (walk : Walk Disabled clients l) : ∀ a ∈ l, Passed a := by
  refine walk.forall fun client l disabled a member => ?_
  rcases disabled with ⟨f, -, rfl⟩ | rfl
  · rw [List.mem_singleton.mp member]
    exact fun never => never.elim
  · rcases List.mem_pair.mp member with rfl | rfl
    · exact fun never => never.elim
    · exact fun _ => rfl

omit [Platform] in
theorem Walk.passed_deleted (walk : Walk Deleted clients l) : ∀ a ∈ l, Passed a := by
  refine walk.forall fun client l deleted a member => ?_
  rw [deleted, List.mem_singleton] at member
  rw [member]
  exact fun _ => rfl

end Ends

omit [Platform] in
/-- The last calls of a loop that stops. -/
theorem stops_cases {call : ProviderCall} {last : List ProviderAnswer} {e : Failure}
    (stops : StopsLoud last e ∨ StopsAt call last e) :
    (∀ a ∈ last, a.call.Ends → ∀ f, a.failure = some f → a = ⟨call, some e⟩) ∧
      (¬ ReadAsAbsent e ∨ ⟨call, some e⟩ ∈ last) := by
  rcases stops with ⟨loud, rechecks⟩ | ⟨l, rfl, rechecks⟩
  · refine ⟨fun a member ends => ?_, Or.inl loud⟩
    obtain ⟨id, isRecheck⟩ := rechecks a member
    rw [isRecheck] at ends
    exact ends.elim
  · refine ⟨fun a member ends f failed => ?_, Or.inr (List.mem_append_right _ (List.mem_singleton_self _))⟩
    rcases List.mem_append.mp member with earlier | isLast
    · obtain ⟨id, rfl⟩ := rechecks a earlier
      exact ends.elim
    · exact List.mem_singleton.mp isLast

omit [Platform] in
/-- The loop that saves the intents stops: no client was changed or observed. -/
theorem closureRan_of_unsaved {clients : List ManagedClient} {quiet last : List ProviderAnswer}
    {client : ManagedClient} {e : Failure} (isQuiet : ∀ a ∈ quiet, Quiet a)
    (member : client ∈ clients)
    (stops : StopsLoud last e ∨ StopsAt (.prepare client.uuid) last e) :
    ClosureRan clients (quiet ++ last) (.error e) := by
  obtain ⟨only, ends⟩ := stops_cases stops
  have idle : ∀ a ∈ quiet ++ last, ¬ a.call.Mutates := by
    intro a inside
    rcases List.mem_append.mp inside with quietly | isLast
    · exact (isQuiet a quietly).not_mutates
    · rcases stops with ⟨-, rechecks⟩ | ⟨l, rfl, rechecks⟩
      · obtain ⟨id, isRecheck⟩ := rechecks a isLast
        rw [isRecheck]
        exact fun never => never
      · rcases List.mem_append.mp isLast with earlier | isEnd
        · obtain ⟨id, rfl⟩ := rechecks a earlier
          exact fun never => never
        · rw [List.mem_singleton.mp isEnd]
          exact fun never => never
  refine ⟨fun before a after split mutates => ?_, fun a inside ending f failed => ?_, ?_⟩
  · exact absurd mutates (idle a (by rw [split]; exact List.mem_append_right _ List.mem_cons_self))
  · rcases List.mem_append.mp inside with quietly | isLast
    · rw [(isQuiet a quietly).passed ending] at failed
      cases failed
    · have same := only a isLast ending f failed
      rw [same] at failed
      cases failed
      rfl
  · rcases stops with ⟨loud, -⟩ | ⟨l, rfl, rechecks⟩
    · exact .loud loud
    · refine .unsaved member (e := e) ?_ fun id a inside closes => ?_
      · exact List.mem_append_right _ (List.mem_append_right _ (List.mem_singleton_self _))
      · rcases List.mem_append.mp inside with quietly | isLast
        · exact (isQuiet a quietly).not_closes closes
        · rcases List.mem_append.mp isLast with earlier | isEnd
          · obtain ⟨id', rfl⟩ := rechecks a earlier
            rcases closes with never | ⟨f, -, never | never | never⟩ <;> cases never
          · rw [List.mem_singleton.mp isEnd] at closes
            rcases closes with never | ⟨f, -, never | never | never⟩ <;> cases never

omit [Platform] in
/-- A loop after the intents were saved stops: the last call alone fails. -/
theorem closureRan_of_stop {clients : List ManagedClient} {quiet passed last : List ProviderAnswer}
    {call : ProviderCall} {id : String} {e : Failure} (isQuiet : ∀ a ∈ quiet, Quiet a)
    (prepared : ∀ client ∈ clients, ⟨.prepare client.uuid, none⟩ ∈ quiet)
    (smooth : ∀ a ∈ passed, Passed a) (names : call = .disable id ∨ call = .close id)
    (stops : StopsLoud last e ∨ StopsAt call last e) :
    ClosureRan clients (quiet ++ (passed ++ last)) (.error e) := by
  obtain ⟨order, ready⟩ := ordered_of_prepared (passed ++ last) isQuiet prepared
  obtain ⟨only, ends⟩ := stops_cases stops
  have alone : ∀ a ∈ quiet ++ (passed ++ last), a.call.Ends → ∀ f, a.failure = some f →
      a = ⟨call, some e⟩ := by
    intro a member ending f failed
    rcases List.mem_append.mp member with quietly | later
    · rw [(isQuiet a quietly).passed ending] at failed
      cases failed
    · rcases List.mem_append.mp later with pass | isLast
      · rw [smooth a pass ending] at failed
        cases failed
      · exact only a isLast ending f failed
  refine ⟨order, fun a member ending f failed => ?_, ?_⟩
  · have same := alone a member ending f failed
    rw [same] at failed
    cases failed
    rfl
  · rcases ends with loud | failed
    · exact .loud loud
    · exact .stopped (List.mem_append_right _ (List.mem_append_right _ failed)) names alone ready

/-- **The three loops** end as a closure does. -/
theorem wp_closeAll {clients : List ManagedClient} (isQuiet : ∀ a ∈ c.log, Quiet a) :
    Tx.wp ω (closeAll gatewayID clients) (fun _ c' => ClosureRan clients c'.log (.ok ()))
      (fun e c' => ClosureRan clients c'.log (.error e)) c := by
  simp only [closeAll, Tx.wp_bind]
  refine Tx.wp_mono (wp_eachClient fun client _ => wp_prepareClient) ?_ ?_
  swap
  · -- The intent to close some client is not saved.
    rintro e c₁ ⟨done, client, rest, l, last, rfl, log, walk, stops⟩
    obtain ⟨saved, -⟩ := walk.quiet_prepared
    rw [log, ← List.append_assoc]
    refine closureRan_of_unsaved (fun a member => ?_) ?_ stops
    · exact (List.mem_append.mp member).elim (isQuiet a) (saved a)
    · exact List.mem_append_right _ List.mem_cons_self
  rintro - c₁ ⟨p, log₁, walk⟩
  obtain ⟨saved, prepared⟩ := walk.quiet_prepared
  have quietly : ∀ a ∈ c.log ++ p, Quiet a := fun a member =>
    (List.mem_append.mp member).elim (isQuiet a) (saved a)
  have ready : ∀ client ∈ clients, ⟨.prepare client.uuid, none⟩ ∈ c.log ++ p :=
    fun client member => List.mem_append_right _ (prepared client member)
  refine Tx.wp_mono (wp_eachClient fun client _ => wp_disableServiceAccount) ?_ ?_
  swap
  · rintro e c₂ ⟨done, client, rest, l, last, rfl, log₂, walk₂, stops⟩
    rw [log₂, log₁]
    exact closureRan_of_stop quietly ready walk₂.passed_disabled (Or.inl rfl) stops
  rintro - c₂ ⟨d, log₂, walk₂⟩
  refine Tx.wp_mono (wp_eachClient fun client _ => wp_deleteServiceAccount) ?_ ?_
  · rintro - c₃ ⟨k, log₃, walk₃⟩
    have log : c₃.log = (c.log ++ p) ++ (d ++ k) := by
      rw [log₃, log₂, log₁, List.append_assoc (c.log ++ p)]
    obtain ⟨order, absences⟩ := ordered_of_prepared (d ++ k) quietly ready
    rw [log]
    refine ⟨order, fun a member ending f failed => ?_, .closed fun client member => ?_⟩
    · rcases List.mem_append.mp member with quiet | later
      · rw [(quietly a quiet).passed ending] at failed
        cases failed
      · rcases List.mem_append.mp later with disabled | deleted
        · rw [walk₂.passed_disabled a disabled ending] at failed
          cases failed
        · rw [walk₃.passed_deleted a deleted ending] at failed
          cases failed
    · obtain ⟨visit, deleted, inside⟩ := walk₃.exists member
      refine absences client member ⟨.close client.uuid, none⟩ ?_ (Or.inl rfl)
      refine List.mem_append_right _ (List.mem_append_right _ (inside _ ?_))
      rw [deleted]
      exact List.mem_singleton_self _
  · rintro e c₃ ⟨done, client, rest, l, last, rfl, log₃, walk₃, stops⟩
    have log : c₃.log = (c.log ++ p) ++ ((d ++ l) ++ last) := by
      rw [log₃, log₂, log₁, List.append_assoc, List.append_assoc]
      simp only [List.append_assoc]
    rw [log]
    refine closureRan_of_stop quietly ready (fun a member => ?_) (Or.inr rfl) stops
    exact (List.mem_append.mp member).elim (walk₂.passed_disabled a) (walk₃.passed_deleted a)

/-! ### The result of a deletion -/

/-- The clients that the inventory of a run discovers. -/
def discovered (ω : Answers) (gatewayID : String) : Except Failure (List ManagedClient) :=
  (listManagedClients gatewayID ω (Context.start () ())).1

/-- A run is ended by an error that is read as an absence although it does not tell of every
discovered client: a page of the inventory or the save of an intent is refused, or one client
is gone while another one is there and is not deleted. -/
inductive Misread (log : List ProviderAnswer) (found : Except Failure (List ManagedClient)) : Prop
  | page {first : Nat} {e : Failure} (failed : ⟨.list first, some e⟩ ∈ log)
      (absent : ReadAsAbsent e)
  | intent {id : String} {e : Failure} (failed : ⟨.prepare id, some e⟩ ∈ log)
      (absent : ReadAsAbsent e)
  | client {call : ProviderCall} {id : String} {e : Failure} {clients : List ManagedClient}
      {other : ManagedClient} (failed : ⟨call, some e⟩ ∈ log)
      (names : call = .disable id ∨ call = .close id) (absent : ReadAsAbsent e)
      (listed : found = .ok clients) (member : other ∈ clients) (apart : other.uuid ≠ id)
      (kept : ⟨.close other.uuid, none⟩ ∉ log) (there : ¬ Missing log other.uuid)

omit [Platform] in
/-- A run is misread at a call that ends it. -/
theorem Misread.exists {log : List ProviderAnswer} {found : Except Failure (List ManagedClient)}
    (misread : Misread log found) :
    ∃ a ∈ log, a.call.Ends ∧ ∃ e, a.failure = some e ∧ ReadAsAbsent e := by
  cases misread with
  | page failed absent => exact ⟨_, failed, trivial, _, rfl, absent⟩
  | intent failed absent => exact ⟨_, failed, trivial, _, rfl, absent⟩
  | client failed names absent =>
    refine ⟨_, failed, ?_, _, rfl, absent⟩
    rcases names with rfl | rfl <;> trivial

/-- A run ends without an error, or with one that is read as an absence. -/
def Reported (r : Except Failure Unit) : Prop := r = .ok () ∨ ∃ e, r = .error e ∧ ReadAsAbsent e

omit [Platform] in
/-- **A closure that is reported is complete** exactly unless it is misread. -/
theorem ClosureRan.complete_iff {clients : List ManagedClient} {log : List ProviderAnswer}
    {r : Except Failure Unit} (ran : ClosureRan clients log r) :
    (Reported r → ∀ client ∈ clients, ClosureSeen log client.uuid) ↔
      ¬ Misread log (.ok clients) := by
  have absentEnd : Misread log (.ok clients) → ∃ e, r = .error e ∧ ReadAsAbsent e := by
    intro misread
    obtain ⟨a, member, ending, e, failed, absent⟩ := misread.exists
    exact ⟨e, ran.only a member ending e failed, absent⟩
  cases ran.ends with
  | closed all =>
    refine iff_of_true (fun _ => all) fun misread => ?_
    obtain ⟨e, never, -⟩ := absentEnd misread
    cases never
  | @loud e error =>
    refine iff_of_true ?_ fun misread => ?_
    · rintro (never | ⟨e', same, absent⟩)
      · cases never
      · cases same
        exact absurd absent error
    · obtain ⟨e', same, absent⟩ := absentEnd misread
      cases same
      exact error absent
  | @unsaved client e member failed none =>
    by_cases absent : ReadAsAbsent e
    · refine iff_of_false (fun complete => ?_) fun fine => fine (.intent failed absent)
      obtain ⟨before, a, after, split, -, closes⟩ := complete (Or.inr ⟨e, rfl, absent⟩) client member
      refine none client.uuid a ?_ closes
      rw [split]
      exact List.mem_append_right _ List.mem_cons_self
    · refine iff_of_true ?_ fun misread => ?_
      · rintro (never | ⟨e', same, absent'⟩)
        · cases never
        · cases same
          exact absurd absent' absent
      · obtain ⟨e', same, absent'⟩ := absentEnd misread
        cases same
        exact absent absent'
  | @stopped call id e failed names only ready =>
    by_cases absent : ReadAsAbsent e
    swap
    · refine iff_of_true ?_ fun misread => ?_
      · rintro (never | ⟨e', same, absent'⟩)
        · cases never
        · cases same
          exact absurd absent' absent
      · obtain ⟨e', same, absent'⟩ := absentEnd misread
        cases same
        exact absent absent'
    constructor
    · intro complete misread
      have all := complete (Or.inr ⟨e, rfl, absent⟩)
      cases misread with
      | page failed' =>
        have same := only _ failed' trivial _ rfl
        rcases names with rfl | rfl <;> cases same
      | intent failed' =>
        have same := only _ failed' trivial _ rfl
        rcases names with rfl | rfl <;> cases same
      | @client call' id' e' clients' other failed' names' absent' listed member apart kept there =>
        cases listed
        have ends : call'.Ends := by
          rcases names' with rfl | rfl <;> trivial
        have same := only _ failed' ends _ rfl
        rw [ProviderAnswer.mk.injEq] at same
        have sameID : id' = id := by
          rw [same.1] at names'
          rcases names with rfl | rfl <;> rcases names' with named | named <;> cases named
          all_goals rfl
        obtain ⟨before, a, after, split, -, closes⟩ := all other member
        have inside : a ∈ log := by
          rw [split]
          exact List.mem_append_right _ List.mem_cons_self
        rcases closes with rfl | ⟨f, gone, rfl | rfl | rfl⟩
        · exact kept inside
        · exact there ⟨f, gone, inside⟩
        · have here := only _ inside trivial _ rfl
          rw [ProviderAnswer.mk.injEq] at here
          rw [← here.1] at names
          rcases names with named | named <;> cases named
          exact apart sameID.symm
        · have here := only _ inside trivial _ rfl
          rw [ProviderAnswer.mk.injEq] at here
          rw [← here.1] at names
          rcases names with named | named <;> cases named
          exact apart sameID.symm
    · intro fine _ client member
      by_cases same : client.uuid = id
      · refine ready client member ⟨call, some e⟩ failed (Or.inr ⟨e, absent.notFound, ?_⟩)
        rw [same]
        rcases names with rfl | rfl
        · exact Or.inr (Or.inl rfl)
        · exact Or.inr (Or.inr rfl)
      · by_contra opened
        refine fine (.client failed names absent rfl member same (fun deleted => opened ?_)
          fun ⟨f, gone, missing⟩ => opened ?_)
        · exact ready client member _ deleted (Or.inl rfl)
        · exact ready client member _ missing (Or.inr ⟨f, gone, Or.inl rfl⟩)

omit [Platform] in
/-- A computation ends as it is. -/
theorem wp_self {α : Type} (m : Calls α) : Tx.wp ω m (fun a c' => m ω c = (.ok a, c'))
    (fun e c' => m ω c = (.error e, c')) c := by
  unfold Tx.wp
  generalize m ω c = ended
  obtain ⟨result, c'⟩ := ended
  cases result <;> rfl

/-- How a deletion runs: its inventory fails, or the discovered clients are closed. -/
inductive DeletionRan (ω : Answers) (gatewayID : String) (log : List ProviderAnswer) :
    Except Failure Unit → Prop
  | unlisted {e : Failure} (failed : discovered ω gatewayID = .error e) (stops : ListStops log e) :
      DeletionRan ω gatewayID log (.error e)
  | listed {clients : List ManagedClient} {r : Except Failure Unit}
      (found : discovered ω gatewayID = .ok clients) (ran : ClosureRan clients log r) :
      DeletionRan ω gatewayID log r

theorem wp_deleteGatewayServiceAccounts : Tx.wp ω (deleteGatewayServiceAccounts gatewayID)
    (fun _ c => DeletionRan ω gatewayID c.log (.ok ()))
    (fun e c => DeletionRan ω gatewayID c.log (.error e)) (Context.start () ()) := by
  unfold deleteGatewayServiceAccounts
  rw [Tx.wp_ite]
  split
  · rename_i invalid
    refine .unlisted ?_ ⟨fun _ never => (nomatch never), fun absent => absurd absent (by decide)⟩
    rw [discovered, listManagedClients, if_pos invalid]
    rfl
  · rw [Tx.wp_bind]
    refine Tx.wp_mono (Tx.wp_and wp_listManagedClients (wp_self _)) ?_ ?_
    · rintro clients c ⟨⟨l, log, ends⟩, listed⟩
      rw [Context.start_log, List.nil_append] at log
      rw [← log] at ends
      have found : discovered ω gatewayID = .ok clients := congrArg Prod.fst listed
      have quiet : ∀ a ∈ c.log, Quiet a := fun a member => (ends.calls a member).imp_right Or.inl
      exact Tx.wp_mono (wp_closeAll quiet) (fun _ c' ran => .listed found ran)
        fun e c' ran => .listed found ran
    · rintro e c ⟨⟨l, log, stops⟩, listed⟩
      rw [Context.start_log, List.nil_append] at log
      rw [← log] at stops
      exact .unlisted (congrArg Prod.fst listed) stops

/-- No client is changed before the intents of all discovered ones are saved. -/
theorem DeletionRan.order {log : List ProviderAnswer} {r : Except Failure Unit}
    (ran : DeletionRan ω gatewayID log r) {before after : List ProviderAnswer}
    {a : ProviderAnswer} (split : log = before ++ a :: after) (mutates : a.call.Mutates) :
    ∃ clients, discovered ω gatewayID = .ok clients ∧
      ∀ client ∈ clients, ⟨.prepare client.uuid, none⟩ ∈ before := by
  cases ran with
  | unlisted failed stops =>
    have member : a ∈ log := by
      rw [split]
      exact List.mem_append_right _ List.mem_cons_self
    exfalso
    rcases stops.calls a member with ⟨n, rfl⟩ | ⟨n, rfl⟩ | ⟨id, isRead⟩
    · exact mutates
    · exact mutates
    · rw [isRead] at mutates
      exact mutates
  | listed found ran => exact ⟨_, found, ran.order before a after split mutates⟩

/-- **A deletion that is reported is complete** exactly unless it is misread. -/
theorem DeletionRan.complete_iff {log : List ProviderAnswer} {r : Except Failure Unit}
    (ran : DeletionRan ω gatewayID log r) :
    (Reported r → ∃ clients, discovered ω gatewayID = .ok clients ∧
      ∀ client ∈ clients, ClosureSeen log client.uuid) ↔ ¬ Misread log (discovered ω gatewayID) := by
  cases ran with
  | @unlisted e failed stops =>
    have incomplete : ¬ ∃ clients, discovered ω gatewayID = .ok clients ∧
        ∀ client ∈ clients, ClosureSeen log client.uuid := by
      rintro ⟨clients, found, -⟩
      rw [failed] at found
      cases found
    by_cases absent : ReadAsAbsent e
    · obtain ⟨first, refused⟩ := stops.absent absent
      exact iff_of_false (fun complete => incomplete (complete (Or.inr ⟨e, rfl, absent⟩)))
        fun fine => fine (.page refused absent)
    · refine iff_of_true ?_ fun misread => ?_
      · rintro (never | ⟨e', same, absent'⟩)
        · cases never
        · cases same
          exact absurd absent' absent
      · obtain ⟨a, member, ending, e', failure, absent'⟩ := misread.exists
        rcases stops.calls a member with ⟨n, rfl⟩ | ⟨n, rfl⟩ | ⟨id, isRead⟩
        · cases failure
        · cases failure
          exact absent absent'
        · rw [isRead] at ending
          exact ending
  | @listed clients r found ran =>
    have complete := ran.complete_iff
    rw [← found] at complete
    rw [← complete]
    refine imp_congr_right fun _ => ⟨?_, fun all => ⟨clients, found, all⟩⟩
    rintro ⟨clients', found', all⟩
    rw [found] at found'
    cases found'
    exact all

/-- What the server responds. -/
inductive Responded (ω : Answers) (gatewayID : String) : Option Code → List ProviderAnswer → Prop
  | refused {code : Code} (error : code ≠ .notFound) : Responded ω gatewayID (some code) []
  | ran {log : List ProviderAnswer} {r : Except Failure Unit}
      (ran : DeletionRan ω gatewayID log r) :
      Responded ω gatewayID ((failureOf r).map providerError) log

theorem wp_serverDeleteGateway {server : ProvisionerServer} :
    Tx.wp ω (serverDeleteGateway server gatewayID)
      (fun response c => Responded ω gatewayID response c.log) (fun _ _ => False)
      (Context.start () ()) := by
  unfold serverDeleteGateway
  rw [Tx.wp_ite]
  split
  · exact .refused (by decide)
  rw [Tx.wp_ite]
  split
  · exact .refused (by decide)
  rw [Tx.wp_ite]
  split
  · exact .refused (by decide)
  rw [Tx.wp_bind, Tx.wp_attempt]
  exact Tx.wp_mono wp_deleteGatewayServiceAccounts (fun _ c ran => .ran ran) fun e c ran => .ran ran

omit [Platform] in
/-- The two translations drop exactly an error that is read as an absence. -/
theorem terminalError_providerError (r : Except Failure Unit) :
    terminalError (((failureOf r).map providerError).map fun code => [.status code]) = none ↔
      Reported r := by
  cases r with
  | ok _ => exact iff_of_true rfl (Or.inl rfl)
  | error e =>
    have code : statusCode [.status (providerError e)] = providerError e := rfl
    show (if statusCode [.status (providerError e)] = .notFound then none else _) = none ↔ _
    rw [code]
    constructor
    · intro dropped
      refine Or.inr ⟨e, rfl, ?_⟩
      by_contra other
      unfold ReadAsAbsent at other
      rw [if_neg other] at dropped
      split_ifs at dropped
    · rintro (never | ⟨e', same, absent⟩)
      · cases never
      · cases same
        exact if_pos absent

omit [Platform] in
/-- A failure of the RPC itself is reported. -/
theorem terminalError_ne_none {e : Failure} (documented : statusCode e ≠ .notFound) :
    terminalError (some e) ≠ none := by
  show (if statusCode e = .notFound then none else _) ≠ none
  rw [if_neg documented]
  split_ifs <;> simp

/-- **Deleting the accounts of a Gateway.**  In every run, no client is disabled or deleted
before the intent to close each discovered client was saved.  A run that reports success is
complete, that is, its inventory succeeded, and after the intent to close it was saved each
discovered client was deleted or observed to be absent; exactly unless the response arrives and
a not-found was misread. -/
theorem deletion_complete_iff (ω : Answers) (transport : Transport) (server : ProvisionerServer)
    (gatewayID : String) :
    let run := rpcDeleteGateway transport server gatewayID ω (Context.start () ())
    ((run.1 = .ok none → ∃ clients, discovered ω gatewayID = .ok clients ∧
          ∀ client ∈ clients, ClosureSeen run.2.log client.uuid) ∧
      ∀ before a after, run.2.log = before ++ a :: after → a.call.Mutates →
        ∃ clients, discovered ω gatewayID = .ok clients ∧
          ∀ client ∈ clients, ⟨.prepare client.uuid, none⟩ ∈ before) ↔
      ¬ (transport = .delivered ∧ Misread run.2.log (discovered ω gatewayID)) := by
  have run : Tx.wp ω (rpcDeleteGateway transport server gatewayID)
      (fun result c => ((result = none → ∃ clients, discovered ω gatewayID = .ok clients ∧
          ∀ client ∈ clients, ClosureSeen c.log client.uuid) ∧
        ∀ before a after, c.log = before ++ a :: after → a.call.Mutates →
          ∃ clients, discovered ω gatewayID = .ok clients ∧
            ∀ client ∈ clients, ⟨.prepare client.uuid, none⟩ ∈ before) ↔
        ¬ (transport = .delivered ∧ Misread c.log (discovered ω gatewayID)))
      (fun _ _ => False) (Context.start () ()) := by
    have ordered : ∀ {response log}, Responded ω gatewayID response log →
        ∀ before a after, log = before ++ a :: after → a.call.Mutates →
          ∃ clients, discovered ω gatewayID = .ok clients ∧
            ∀ client ∈ clients, ⟨.prepare client.uuid, none⟩ ∈ before := by
      intro response log responded before a after split mutates
      cases responded with
      | refused => exact absurd split.symm (by simp)
      | ran ran => exact ran.order split mutates
    cases transport with
    | unsent e documented =>
      refine iff_of_true ⟨fun reported => ?_, fun before a after split => ?_⟩
        fun never => nomatch never.1
      · exact absurd reported (terminalError_ne_none documented)
      · exact absurd split.symm (by simp)
    | lost e documented =>
      rw [rpcDeleteGateway, Tx.wp_bind]
      refine Tx.wp_mono wp_serverDeleteGateway (fun response c responded => ?_) fun _ _ never => never
      exact iff_of_true ⟨fun reported => absurd reported (terminalError_ne_none documented),
        ordered responded⟩ fun never => nomatch never.1
    | delivered =>
      rw [rpcDeleteGateway, Tx.wp_bind]
      refine Tx.wp_mono wp_serverDeleteGateway (fun response c responded => ?_) fun _ _ never => never
      rw [Tx.wp_pure, and_iff_left (ordered responded), and_iff_right rfl]
      generalize c.log = log at responded ⊢
      cases responded with
      | @refused code error =>
        have reported : terminalError (some [.status code]) ≠ none := terminalError_ne_none error
        refine iff_of_true (fun dropped => absurd dropped reported) fun misread => ?_
        obtain ⟨_, never, -⟩ := misread.exists
        cases never
      | ran ran => rw [terminalError_providerError, ran.complete_iff]
  show (((rpcDeleteGateway transport server gatewayID ω (Context.start () ())).1 = _ → _) ∧ _) ↔ _
  unfold Tx.wp at run
  generalize rpcDeleteGateway transport server gatewayID ω (Context.start () ()) = ended at run ⊢
  obtain ⟨result, c⟩ := ended
  cases result with
  | ok result =>
    dsimp only at run ⊢
    rw [Except.ok.injEq]
    exact run
  | error e => exact run.elim

end Steps

end Calls

namespace Sample

/-- Another client of the sample's Gateway. -/
def otherClient : ClientRepresentation :=
  ⟨"other", "hs-sa-" ++ gatewayID ++ "-" ++ auditID, ⟨[⟨managedAttribute, "true"⟩,
    ⟨gatewayIDAttribute, gatewayID⟩, ⟨serviceAccountIDAttribute, auditID⟩],
    by show (List.keys _).Nodup; decide⟩⟩

/-- Two clients are listed.  The first is gone when it is to be disabled. -/
def vanishing : Answers where
  page _ := .ok ["client", "other"]
  client n := if n = 2 then .ok otherClient else .ok legacyClient
  prepare _ := .ok ()
  disable _ := .error [.notFound]
  close _ := .ok ()

def vanishingClients : List ManagedClient :=
  [⟨"client", publicID, gatewayID, accountID⟩,
    ⟨"other", otherClient.clientID, gatewayID, auditID⟩]

theorem vanishing_discovered : discovered vanishing gatewayID = .ok vanishingClients := by
  decide +kernel

/-- The run of the deletion. -/
def vanishingRun : Except Failure (Option Err) × Context Unit ProviderAnswer Unit :=
  rpcDeleteGateway .delivered ⟨true, true⟩ gatewayID vanishing (Context.start () ())

theorem vanishingRun_eq : vanishingRun.1 = .ok none ∧ vanishingRun.2.log = [⟨.list 0, none⟩, ⟨.inspect "client", none⟩,
      ⟨.inspect "other", none⟩, ⟨.prepare "client", none⟩, ⟨.prepare "other", none⟩,
      ⟨.recheck "client", none⟩, ⟨.disable "client", some [.notFound]⟩] := by
  decide +kernel

end Sample

open Sample in
/-- One client vanishes between the check of its owner and its disabling: the deletion is
reported as a success, and the other client is neither deleted nor absent. -/
theorem deletion_misread :
    ¬ (Sample.vanishingRun.1 = .ok none →
      ∃ clients, discovered Sample.vanishing Sample.gatewayID = .ok clients ∧
        ∀ client ∈ clients, ClosureSeen Sample.vanishingRun.2.log client.uuid) := by
  obtain ⟨reported, log⟩ := Sample.vanishingRun_eq
  intro complete
  obtain ⟨clients, found, closed⟩ := complete reported
  rw [Sample.vanishing_discovered] at found
  cases found
  obtain ⟨before, a, after, split, -, closes⟩ :=
    closed ⟨"other", Sample.otherClient.clientID, Sample.gatewayID, Sample.auditID⟩
      (List.mem_cons_of_mem _ List.mem_cons_self)
  have member : a ∈ Sample.vanishingRun.2.log := by
    rw [split]
    exact List.mem_append_right _ List.mem_cons_self
  rw [log] at member
  simp only [List.mem_cons, List.not_mem_nil, or_false] at member
  rcases member with rfl | rfl | rfl | rfl | rfl | rfl | rfl <;>
    simp [Closes] at closes

end Hypershell
