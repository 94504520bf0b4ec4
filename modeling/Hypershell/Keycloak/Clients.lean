import Mathlib.Data.List.AList
import Hypershell.ServiceAccounts.Sample

/-!
# Provider clients

The inventory of a Gateway's accounts is read from the identity provider.  A client is one of
them if its public ID is derived from its resource IDs and its attributes name them, either
under legacy keys or under the reserved ones.

## Main definitions

* `Cause`, `Failure` — the error of a provider call
* `ClientRepresentation`, `ClientBinding` — a client, and what is expected of it
* `accountIdentity`, `accountBinding`, `managedInventoryAccount` — ownership

## Main results

* `accountBinding_ok_iff` — the binding of an account is checked exactly
* `inventory_classified_iff` — the classification is sound and complete; it fails closed unless
  the two generations of attributes name different Gateways

## Design notes

* A client that is read has passed the checks of `GetClient`, see `Read`.
* Attributes are a map: a missing one reads as the empty text.
-/

namespace Hypershell

open Foundation

/-! ### Errors -/

/-- The codes of a gRPC status. -/
inductive Code
  | canceled
  | unknown
  | invalidArgument
  | deadlineExceeded
  | notFound
  | permissionDenied
  | resourceExhausted
  | aborted
  | unimplemented
  | internal
  | unavailable
  | unauthenticated
  | other (code : Nat)
  deriving DecidableEq, Repr

/-- What `errors.Is` and `status.Code` find in an error. -/
inductive Cause
  /-- `context.Canceled`. -/
  | canceled
  /-- `context.DeadlineExceeded`. -/
  | deadlineExceeded
  /-- `ErrNotFound`. -/
  | notFound
  /-- `ErrOwnership`, which is `ErrNotManaged`. -/
  | ownership
  /-- `ErrResponse`. -/
  | response
  /-- `runtime.ErrScanContract`. -/
  | scanContract
  /-- `runtime.ErrScanWindowLimit`. -/
  | windowLimit
  /-- `serviceaccounts.ErrUnavailable`. -/
  | unavailable
  /-- The marker of `retryableCleanupFailure`. -/
  | retryableCleanup
  | status (code : Code)
  | text (message : String)
  deriving DecidableEq, Repr

/-- An error as the causes of its tree. -/
abbrev Failure : Type := List Cause

/-- `ErrNotManaged`. -/
def errNotManaged : Failure := [.ownership]

/-! ### Clients -/

/-- A client of the provider. -/
structure ClientRepresentation where
  id : String
  clientID : String
  attributes : AList fun _ : String => String
  deriving DecidableEq

/-- `client.Attributes[key]`. -/
def ClientRepresentation.attribute (client : ClientRepresentation) (key : String) : String :=
  (client.attributes.lookup key).getD ""

/-- The expected identity of a client. -/
structure ClientBinding where
  id : String
  clientID : String
  attributes : List (String × String)
  deriving DecidableEq, Repr

/-- The identity of a client under both generations of keys. -/
structure ClientIdentity where
  clientID : String
  ownership : List (String × String)
  legacyAttributes : List (String × String)
  legacyRenames : List (String × String)
  deriving DecidableEq, Repr

def managedAttribute : String := "hypershell.service-account"

def gatewayIDAttribute : String := "hypershell.gateway-id"

def serviceAccountIDAttribute : String := "hypershell.service-account-id"

/-- What a reserved key starts with. -/
def ownerPrefix : String := "stego.owner."

/-- The regular expression `^[A-Za-z0-9_-]{1,255}$`. -/
def identifier (text : String) : Bool :=
  decide (1 ≤ text.toList.length ∧ text.toList.length ≤ 255) &&
    text.toList.all fun c => c.isAlphanum || decide (c = '_') || decide (c = '-')

/-- `textValue`. -/
def textValue (text : String) (max : Nat) : Bool :=
  decide (text ≠ "" ∧ text.utf8ByteSize ≤ max) &&
    text.toList.all fun c => decide (32 ≤ c.toNat ∧ c.toNat ≠ 127)

/-- The checks of `GetClient`. -/
def ClientRepresentation.Read (client : ClientRepresentation) : Prop :=
  identifier client.id = true ∧ textValue client.clientID 255 = true

instance (client : ClientRepresentation) : Decidable client.Read :=
  inferInstanceAs (Decidable (_ ∧ _))

namespace ClientBinding

/-- `validate`. -/
def validate (b : ClientBinding) : Except Failure Unit :=
  if identifier b.id = false ∨ textValue b.clientID 255 = false ∨ b.attributes.length = 0 ∨
      b.attributes.length > 16 then
    .error [.text "invalid Keycloak client binding"]
  else if ∃ entry ∈ b.attributes, textValue entry.1 128 = false ∨ textValue entry.2 1024 = false then
    .error [.text "invalid Keycloak ownership attribute"]
  else
    .ok ()

/-- `matches`.  Every reserved key must be declared. -/
def accepts (b : ClientBinding) (c : ClientRepresentation) : Bool :=
  decide (c.id = b.id ∧ c.clientID = b.clientID) &&
    (b.attributes.all fun entry => decide (c.attribute entry.1 = entry.2)) &&
    c.attributes.keys.all fun key =>
      !decide (ownerPrefix.toList <+: key.toList) || decide (key ∈ b.attributes.map Prod.fst)

/-- `CheckOwnership`. -/
def checkOwnership (b : ClientBinding) (value : ClientRepresentation) : Except Failure Unit :=
  match b.validate with
  | .error e => .error e
  | .ok () => if b.accepts value then .ok () else .error errNotManaged

end ClientBinding

/-! ### Accounts -/

section Accounts

variable [Platform]

/-- `accountIdentity`. -/
def accountIdentity (gatewayID accountID : String) : Except Failure ClientIdentity :=
  if Platform.validID gatewayID = false ∨ Platform.validID accountID = false then
    .error errNotManaged
  else
    let legacy := [(managedAttribute, "true"), (gatewayIDAttribute, gatewayID),
      (serviceAccountIDAttribute, accountID)]
    .ok
      { clientID := "hs-sa-" ++ gatewayID ++ "-" ++ accountID
        ownership := legacy.map fun entry => (ownerPrefix ++ entry.1, entry.2)
        legacyAttributes := legacy
        legacyRenames := legacy.map fun entry => (entry.1, ownerPrefix ++ entry.1) }

/-- `accountBinding`. -/
def accountBinding (client : ClientRepresentation) (gatewayID accountID : String) :
    Except Failure ClientBinding :=
  match accountIdentity gatewayID accountID with
  | .error e => .error e
  | .ok identity =>
    if client.clientID ≠ identity.clientID then
      .error errNotManaged
    else
      let current := identity.ownership.any fun entry => decide (entry.1 ∈ client.attributes)
      if current = true ∧ ∃ entry ∈ identity.legacyAttributes, entry.1 ∈ client.attributes then
        .error errNotManaged
      else
        let binding : ClientBinding :=
          ⟨client.id, identity.clientID,
            if current then identity.ownership else identity.legacyAttributes⟩
        match binding.checkOwnership client with
        | .error e => .error e
        | .ok () => .ok binding

/-- `managedInventoryAccount`: the Gateway and the account that own a client, if any. -/
def managedInventoryAccount (client : ClientRepresentation) (gatewayID : String) :
    Except Failure (Option (String × String)) :=
  let (parent, account) :=
    if client.attribute (ownerPrefix ++ managedAttribute) = "true" then
      (client.attribute (ownerPrefix ++ gatewayIDAttribute),
        client.attribute (ownerPrefix ++ serviceAccountIDAttribute))
    else
      (client.attribute gatewayIDAttribute, client.attribute serviceAccountIDAttribute)
  if client.attribute managedAttribute ≠ "true" ∧
      client.attribute (ownerPrefix ++ managedAttribute) ≠ "true" then
    .ok none
  else if gatewayID ≠ "" ∧ parent ≠ gatewayID then
    .ok none
  else
    match accountBinding client parent account with
    | .error e => .error e
    | .ok _ => .ok (some (parent, account))

end Accounts

/-! ### What makes a client an account's -/

/-- The legacy keys name a Gateway and an account, and no key is reserved. -/
structure LegacySet (client : ClientRepresentation) (gatewayID accountID : String) : Prop where
  managed : client.attributes.lookup managedAttribute = some "true"
  gateway : client.attributes.lookup gatewayIDAttribute = some gatewayID
  account : client.attributes.lookup serviceAccountIDAttribute = some accountID
  unreserved : ∀ key ∈ client.attributes, ¬ ownerPrefix.toList <+: key.toList

/-- The reserved keys are the ones of an account, name a Gateway and the account, and no key is
a legacy one. -/
structure CurrentSet (client : ClientRepresentation) (gatewayID accountID : String) : Prop where
  managed : client.attributes.lookup (ownerPrefix ++ managedAttribute) = some "true"
  gateway : client.attributes.lookup (ownerPrefix ++ gatewayIDAttribute) = some gatewayID
  account : client.attributes.lookup (ownerPrefix ++ serviceAccountIDAttribute) = some accountID
  only : ∀ key ∈ client.attributes, ownerPrefix.toList <+: key.toList →
    key ∈ [managedAttribute, gatewayIDAttribute, serviceAccountIDAttribute].map (ownerPrefix ++ ·)
  noLegacy : ∀ key ∈ [managedAttribute, gatewayIDAttribute, serviceAccountIDAttribute],
    key ∉ client.attributes

section Ownership

variable [Platform] {client : ClientRepresentation} {gatewayID accountID : String}

/-- A client is the one of an account: it has the account's public ID and exactly one complete
set of its attributes. -/
structure AccountClient (client : ClientRepresentation) (gatewayID accountID : String) :
    Prop where
  gateway : Platform.validID gatewayID = true
  account : Platform.validID accountID = true
  clientID : client.clientID = "hs-sa-" ++ gatewayID ++ "-" ++ accountID
  set : LegacySet client gatewayID accountID ∨ CurrentSet client gatewayID accountID

omit [Platform] in
/-- A value that is not empty is only read from an attribute that is there. -/
theorem attribute_eq_iff {key value : String} (nonempty : value ≠ "") :
    client.attribute key = value ↔ client.attributes.lookup key = some value := by
  unfold ClientRepresentation.attribute
  cases client.attributes.lookup key with
  | none =>
    constructor
    · exact fun empty => absurd empty.symm nonempty
    · exact fun never => nomatch never
  | some found => exact ⟨congrArg some, Option.some.inj⟩

theorem ne_empty_of_validID {id : String} (valid : Platform.validID id = true) : id ≠ "" := by
  rintro rfl
  rw [Platform.validID_empty] at valid
  cases valid

omit [Platform] in
/-- A part of a text without control characters has none. -/
theorem textValue_of_part {before part after : String} {max limit : Nat}
    (whole : textValue (before ++ part ++ after) max = true) (nonempty : part ≠ "")
    (shorter : max ≤ limit) : textValue part limit = true := by
  unfold textValue at whole ⊢
  simp only [Bool.and_eq_true, decide_eq_true_eq, List.all_eq_true, String.toList_append,
    String.utf8ByteSize_append, List.mem_append] at whole ⊢
  obtain ⟨⟨-, bound⟩, each⟩ := whole
  exact ⟨⟨nonempty, by omega⟩, fun c member => each c (Or.inl (Or.inr member))⟩

/-- What an account's binding expects is well formed if its client was read. -/
theorem validate_of_read (read : client.Read) (gateway : Platform.validID gatewayID = true)
    (account : Platform.validID accountID = true)
    (clientID : client.clientID = "hs-sa-" ++ gatewayID ++ "-" ++ accountID)
    {attributes : List (String × String)}
    (keys : attributes = [(managedAttribute, "true"), (gatewayIDAttribute, gatewayID),
        (serviceAccountIDAttribute, accountID)] ∨
      attributes = [(ownerPrefix ++ managedAttribute, "true"),
        (ownerPrefix ++ gatewayIDAttribute, gatewayID),
        (ownerPrefix ++ serviceAccountIDAttribute, accountID)]) :
    (ClientBinding.mk client.id client.clientID attributes).validate = .ok () := by
  have named : textValue gatewayID 1024 = true := by
    have whole := read.2
    rw [clientID, String.append_assoc] at whole
    exact textValue_of_part whole (ne_empty_of_validID gateway) (by decide)
  have named' : textValue accountID 1024 = true := by
    have whole := read.2
    rw [clientID, ← String.append_empty (s := accountID), ← String.append_assoc] at whole
    exact textValue_of_part whole (ne_empty_of_validID account) (by decide)
  have constants : ∀ key ∈ ["true", managedAttribute, gatewayIDAttribute,
      serviceAccountIDAttribute, ownerPrefix ++ managedAttribute,
      ownerPrefix ++ gatewayIDAttribute, ownerPrefix ++ serviceAccountIDAttribute],
      textValue key 128 = true ∧ textValue key 1024 = true := by
    decide
  have length : attributes.length = 3 := by
    rcases keys with rfl | rfl <;> rfl
  have each : ∀ entry ∈ attributes, textValue entry.1 128 = true ∧ textValue entry.2 1024 = true := by
    intro entry member
    rcases keys with rfl | rfl
    all_goals
      simp only [List.mem_cons, List.not_mem_nil, or_false] at member
      rcases member with rfl | rfl | rfl
      · exact ⟨(constants _ (by simp)).1, (constants "true" (by simp)).2⟩
      · exact ⟨(constants _ (by simp)).1, named⟩
      · exact ⟨(constants _ (by simp)).1, named'⟩
  have fine : ¬ (identifier client.id = false ∨ textValue client.clientID 255 = false ∨
      attributes.length = 0 ∨ attributes.length > 16) := by
    rw [read.1, read.2, length]
    decide
  have fine' : ¬ ∃ entry ∈ attributes, textValue entry.1 128 = false ∨
      textValue entry.2 1024 = false := by
    rintro ⟨entry, member, broken⟩
    rw [(each entry member).1, (each entry member).2] at broken
    simp at broken
  rw [ClientBinding.validate, if_neg fine, if_neg fine']

omit [Platform] in
/-- What a binding accepts. -/
theorem accepts_iff {b : ClientBinding} (nonempty : ∀ entry ∈ b.attributes, entry.2 ≠ "") :
    b.accepts client = true ↔ client.id = b.id ∧ client.clientID = b.clientID ∧
      (∀ entry ∈ b.attributes, client.attributes.lookup entry.1 = some entry.2) ∧
      ∀ key ∈ client.attributes, ownerPrefix.toList <+: key.toList →
        key ∈ b.attributes.map Prod.fst := by
  unfold ClientBinding.accepts
  simp only [Bool.and_eq_true, decide_eq_true_eq, List.all_eq_true, Bool.or_eq_true,
    Bool.not_eq_true', decide_eq_false_iff_not, and_assoc]
  refine and_congr_right fun _ => and_congr_right fun _ => and_congr ?_ ?_
  · exact forall₂_congr fun entry member => attribute_eq_iff (nonempty entry member)
  · refine forall₂_congr fun key _ => ?_
    rw [imp_iff_not_or]

omit [Platform] in
/-- An attribute that is read is there. -/
theorem mem_of_lookup {key value : String}
    (found : client.attributes.lookup key = some value) : key ∈ client.attributes := by
  rw [← AList.lookup_isSome, found]
  rfl

/-- The three keys of a generation, with the values that an account's client has. -/
def accountAttributes (start gatewayID accountID : String) : List (String × String) :=
  [(start ++ managedAttribute, "true"), (start ++ gatewayIDAttribute, gatewayID),
    (start ++ serviceAccountIDAttribute, accountID)]

/-- **The identity of an account** is defined for canonical IDs. -/
theorem accountIdentity_eq (gateway : Platform.validID gatewayID = true)
    (account : Platform.validID accountID = true) : ∃ renames,
    accountIdentity gatewayID accountID = .ok
      ⟨"hs-sa-" ++ gatewayID ++ "-" ++ accountID, accountAttributes ownerPrefix gatewayID accountID,
        accountAttributes "" gatewayID accountID, renames⟩ := by
  rw [accountIdentity, if_neg (by simp [gateway, account])]
  exact ⟨_, rfl⟩

/-- The reserved keys of an account's client. -/
def hasCurrent (client : ClientRepresentation) : Prop :=
  ∃ key ∈ [managedAttribute, gatewayIDAttribute, serviceAccountIDAttribute],
    ownerPrefix ++ key ∈ client.attributes

omit [Platform] in
/-- The attributes that are expected of a client are the reserved ones if it has any of them. -/
theorem any_ownership :
    ((accountAttributes ownerPrefix gatewayID accountID).any fun entry =>
      decide (entry.1 ∈ client.attributes)) = true ↔ hasCurrent client := by
  simp [accountAttributes, hasCurrent]

/-- What an account's binding expects is not empty. -/
theorem accountAttributes_ne_empty (start : String) (gateway : Platform.validID gatewayID = true)
    (account : Platform.validID accountID = true) :
    ∀ entry ∈ accountAttributes start gatewayID accountID, entry.2 ≠ "" := by
  intro entry member
  simp only [accountAttributes, List.mem_cons, List.not_mem_nil, or_false] at member
  rcases member with rfl | rfl | rfl
  · exact fun never => absurd never (by decide : ¬ "true" = "")
  · exact ne_empty_of_validID gateway
  · exact ne_empty_of_validID account

/-- The ownership check of an account's client under one generation of keys. -/
theorem checkOwnership_account (read : client.Read) (gateway : Platform.validID gatewayID = true)
    (account : Platform.validID accountID = true)
    (clientID : client.clientID = "hs-sa-" ++ gatewayID ++ "-" ++ accountID) {start : String}
    (generation : start = "" ∨ start = ownerPrefix) :
    (ClientBinding.mk client.id client.clientID
        (accountAttributes start gatewayID accountID)).checkOwnership client = .ok () ↔
      (client.attributes.lookup (start ++ managedAttribute) = some "true" ∧
        client.attributes.lookup (start ++ gatewayIDAttribute) = some gatewayID ∧
        client.attributes.lookup (start ++ serviceAccountIDAttribute) = some accountID) ∧
      ∀ key ∈ client.attributes, ownerPrefix.toList <+: key.toList →
        key ∈ [managedAttribute, gatewayIDAttribute, serviceAccountIDAttribute].map (start ++ ·) := by
  have keys : accountAttributes start gatewayID accountID = [(managedAttribute, "true"),
        (gatewayIDAttribute, gatewayID), (serviceAccountIDAttribute, accountID)] ∨
      accountAttributes start gatewayID accountID = [(ownerPrefix ++ managedAttribute, "true"),
        (ownerPrefix ++ gatewayIDAttribute, gatewayID),
        (ownerPrefix ++ serviceAccountIDAttribute, accountID)] :=
    generation.imp (fun same => by rw [same]; rfl) fun same => by rw [same]; rfl
  have fine := validate_of_read read gateway account clientID keys
  have accepted := @accepts_iff client ⟨client.id, client.clientID,
    accountAttributes start gatewayID accountID⟩ (accountAttributes_ne_empty start gateway account)
  rw [and_iff_right rfl, and_iff_right rfl] at accepted
  have expected : (∀ entry ∈ accountAttributes start gatewayID accountID,
      client.attributes.lookup entry.1 = some entry.2) ↔
      client.attributes.lookup (start ++ managedAttribute) = some "true" ∧
        client.attributes.lookup (start ++ gatewayIDAttribute) = some gatewayID ∧
        client.attributes.lookup (start ++ serviceAccountIDAttribute) = some accountID := by
    simp [accountAttributes]
  rw [ClientBinding.checkOwnership, fine, ← expected]
  refine Iff.trans ?_ accepted
  dsimp only
  cases ClientBinding.accepts _ client with
  | true => simp
  | false => simp

/-- **The binding of an account's client** is checked exactly. -/
theorem accountBinding_ok_iff (read : client.Read) :
    (∃ binding, accountBinding client gatewayID accountID = .ok binding) ↔
      AccountClient client gatewayID accountID := by
  have reserved : ∀ key, ownerPrefix.toList <+: (ownerPrefix ++ key).toList := by
    intro key
    rw [String.toList_append]
    exact List.prefix_append _ _
  have legacy : ∀ key ∈ [managedAttribute, gatewayIDAttribute, serviceAccountIDAttribute],
      ¬ ownerPrefix.toList <+: key.toList := by
    decide
  unfold accountBinding
  by_cases valid : Platform.validID gatewayID = true ∧ Platform.validID accountID = true
  swap
  · rw [accountIdentity, if_pos (by simpa [imp_iff_not_or] using valid)]
    exact ⟨fun ⟨_, never⟩ => (nomatch never), fun client => absurd ⟨client.gateway, client.account⟩ valid⟩
  obtain ⟨gateway, account⟩ := valid
  obtain ⟨renames, identity⟩ := accountIdentity_eq gateway account
  rw [identity]
  dsimp only
  by_cases clientID : client.clientID = "hs-sa-" ++ gatewayID ++ "-" ++ accountID
  swap
  · rw [if_pos clientID]
    exact ⟨fun ⟨_, never⟩ => (nomatch never), fun client => absurd client.clientID clientID⟩
  rw [if_neg (not_not_intro clientID), ← clientID]
  have answered : ∀ b : ClientBinding, (∃ binding, (match b.checkOwnership client with
      | .error e => .error e
      | .ok () => .ok b : Except Failure ClientBinding) = .ok binding) ↔
      b.checkOwnership client = .ok () := by
    intro b
    cases b.checkOwnership client with
    | error e => simp
    | ok _ => simp
  have present : (∃ entry ∈ accountAttributes "" gatewayID accountID,
      entry.1 ∈ client.attributes) ↔
      ∃ key ∈ [managedAttribute, gatewayIDAttribute, serviceAccountIDAttribute],
        key ∈ client.attributes := by
    simp [accountAttributes]
  have generations := @any_ownership client gatewayID accountID
  cases current : (accountAttributes ownerPrefix gatewayID accountID).any fun entry =>
    decide (entry.1 ∈ client.attributes) with
  | true =>
    obtain ⟨key, isKey, member⟩ := generations.mp current
    by_cases mixed : ∃ entry ∈ accountAttributes "" gatewayID accountID,
        entry.1 ∈ client.attributes
    · rw [if_pos ⟨rfl, mixed⟩]
      refine ⟨fun ⟨_, never⟩ => (nomatch never), fun client => ?_⟩
      rcases client.set with old | new
      · exact absurd (reserved key) (old.unreserved _ member)
      · obtain ⟨key', isKey', member'⟩ := present.mp mixed
        exact absurd member' (new.noLegacy key' isKey')
    · rw [if_neg fun both => mixed both.2, if_pos rfl, answered,
        checkOwnership_account read gateway account clientID (Or.inr rfl)]
      rw [present] at mixed
      push Not at mixed
      constructor
      · rintro ⟨⟨managed, names, named⟩, only⟩
        exact ⟨gateway, account, clientID, Or.inr ⟨managed, names, named, only, mixed⟩⟩
      · intro client
        rcases client.set with old | new
        · exact absurd (reserved key) (old.unreserved _ member)
        · exact ⟨⟨new.managed, new.gateway, new.account⟩, new.only⟩
  | false =>
    have absent : ¬ hasCurrent client := fun present => by
      rw [generations.mpr present] at current
      cases current
    simp only [Bool.false_eq_true, false_and, if_false]
    have checked := checkOwnership_account read gateway account clientID
      (Or.inl rfl : "" = "" ∨ "" = ownerPrefix)
    simp only [String.empty_append, List.map_id'] at checked
    rw [answered, checked]
    constructor
    · rintro ⟨⟨managed, names, named⟩, only⟩
      refine ⟨gateway, account, clientID, Or.inl ⟨managed, names, named, fun key member start => ?_⟩⟩
      exact legacy key (only key member start) start
    · intro client
      rcases client.set with old | new
      · exact ⟨⟨old.managed, old.gateway, old.account⟩,
          fun key member start => absurd start (old.unreserved key member)⟩
      · exact absurd ⟨_, List.mem_cons_self, mem_of_lookup new.managed⟩ absent

/-! ### The classification -/

/-- The owner that a client's marked generation names, the current one first. -/
def namedOwner (client : ClientRepresentation) : String × String :=
  if client.attribute (ownerPrefix ++ managedAttribute) = "true" then
    (client.attribute (ownerPrefix ++ gatewayIDAttribute),
      client.attribute (ownerPrefix ++ serviceAccountIDAttribute))
  else
    (client.attribute gatewayIDAttribute, client.attribute serviceAccountIDAttribute)

/-- A generation of attributes is marked and names a Gateway. -/
def MarkedFor (client : ClientRepresentation) (gatewayID start : String) : Prop :=
  client.attribute (start ++ managedAttribute) = "true" ∧
    client.attribute (start ++ gatewayIDAttribute) = gatewayID

/-- Both generations are marked, the legacy one names a Gateway and the current one does not. -/
def NamesAnother (client : ClientRepresentation) (gatewayID : String) : Prop :=
  MarkedFor client gatewayID "" ∧
    client.attribute (ownerPrefix ++ managedAttribute) = "true" ∧
    client.attribute (ownerPrefix ++ gatewayIDAttribute) ≠ gatewayID

omit [Platform] in
/-- An attribute that is not there reads as the empty text. -/
theorem attribute_of_absent {key : String} (absent : key ∉ client.attributes) :
    client.attribute key = "" := by
  rw [ClientRepresentation.attribute, AList.lookup_eq_none.mpr absent]
  rfl

/-- An account's client names its owner. -/
theorem AccountClient.namedOwner (client' : AccountClient client gatewayID accountID) :
    namedOwner client = (gatewayID, accountID) ∧
      (client.attribute managedAttribute = "true" ∨
        client.attribute (ownerPrefix ++ managedAttribute) = "true") := by
  have filled : ("true" : String) ≠ "" := by decide
  unfold Hypershell.namedOwner
  rcases client'.set with old | new
  · have absent : client.attribute (ownerPrefix ++ managedAttribute) ≠ "true" := by
      rw [attribute_of_absent fun member => old.unreserved _ member ?_]
      · exact filled.symm
      · rw [String.toList_append]
        exact List.prefix_append _ _
    rw [if_neg absent, (attribute_eq_iff (ne_empty_of_validID client'.gateway)).mpr old.gateway,
      (attribute_eq_iff (ne_empty_of_validID client'.account)).mpr old.account]
    exact ⟨rfl, Or.inl ((attribute_eq_iff filled).mpr old.managed)⟩
  · have marked := (attribute_eq_iff filled).mpr new.managed
    rw [if_pos marked, (attribute_eq_iff (ne_empty_of_validID client'.gateway)).mpr new.gateway,
      (attribute_eq_iff (ne_empty_of_validID client'.account)).mpr new.account]
    exact ⟨rfl, Or.inr marked⟩

/-- The classification of a client by its named owner. -/
theorem managedInventoryAccount_eq (nonempty : gatewayID ≠ "") :
    managedInventoryAccount client gatewayID =
      if client.attribute managedAttribute ≠ "true" ∧
          client.attribute (ownerPrefix ++ managedAttribute) ≠ "true" ∨
          (namedOwner client).1 ≠ gatewayID then
        .ok none
      else
        match accountBinding client (namedOwner client).1 (namedOwner client).2 with
        | .error e => .error e
        | .ok _ => .ok (some (namedOwner client)) := by
  have body : managedInventoryAccount client gatewayID =
      if client.attribute managedAttribute ≠ "true" ∧
          client.attribute (ownerPrefix ++ managedAttribute) ≠ "true" then .ok none
      else if gatewayID ≠ "" ∧ (namedOwner client).1 ≠ gatewayID then .ok none
      else
        match accountBinding client (namedOwner client).1 (namedOwner client).2 with
        | .error e => .error e
        | .ok _ => .ok (some ((namedOwner client).1, (namedOwner client).2)) := rfl
  rw [body]
  by_cases unmarked : client.attribute managedAttribute ≠ "true" ∧
      client.attribute (ownerPrefix ++ managedAttribute) ≠ "true"
  · rw [if_pos unmarked, if_pos (Or.inl unmarked)]
  · rw [if_neg unmarked]
    by_cases other : (namedOwner client).1 ≠ gatewayID
    · rw [if_pos ⟨nonempty, other⟩, if_pos (Or.inr other)]
    · rw [if_neg fun both => other both.2, if_neg (not_or_intro unmarked other)]

/-- **A client is reported as owned exactly if it is an account's.** -/
theorem managedInventoryAccount_owned_iff (read : client.Read) (nonempty : gatewayID ≠ "")
    {owner : String × String} : managedInventoryAccount client gatewayID = .ok (some owner) ↔
      owner.1 = gatewayID ∧ AccountClient client gatewayID owner.2 := by
  rw [managedInventoryAccount_eq nonempty]
  constructor
  · intro returned
    split at returned
    · cases returned
    · rename_i marked
      push Not at marked
      cases checked : accountBinding client (namedOwner client).1 (namedOwner client).2 with
      | error e =>
        rw [checked] at returned
        cases returned
      | ok binding =>
        rw [checked] at returned
        cases returned
        refine ⟨marked.2, ?_⟩
        rw [← marked.2]
        exact (accountBinding_ok_iff read).mp ⟨binding, checked⟩
  · rintro ⟨same, client'⟩
    obtain ⟨named, marked⟩ := client'.namedOwner
    obtain ⟨binding, checked⟩ := (accountBinding_ok_iff read).mpr client'
    rw [named, if_neg (by simpa [or_iff_not_imp_left] using marked), checked, ← same]

/-- **The inventory's classification** is sound and complete.  A client that is marked for a
Gateway but is not an account's is an error, exactly unless both generations of its attributes
are marked and only the legacy one names that Gateway. -/
theorem inventory_classified_iff (read : client.Read) (nonempty : gatewayID ≠ "") :
    ((∀ owner, managedInventoryAccount client gatewayID = .ok (some owner) →
        owner.1 = gatewayID ∧ AccountClient client gatewayID owner.2) ∧
      (∀ accountID, AccountClient client gatewayID accountID →
        managedInventoryAccount client gatewayID = .ok (some (gatewayID, accountID))) ∧
      (MarkedFor client gatewayID "" ∨ MarkedFor client gatewayID ownerPrefix →
        (∀ accountID, ¬ AccountClient client gatewayID accountID) →
        ∃ e, managedInventoryAccount client gatewayID = .error e)) ↔
      ¬ NamesAnother client gatewayID := by
  have filled : ("true" : String) ≠ "" := by decide
  constructor
  · rintro ⟨sound, -, closed⟩ ⟨legacy, current, other⟩
    have another : (namedOwner client).1 ≠ gatewayID := by
      rw [namedOwner, if_pos current]
      exact other
    have skipped : managedInventoryAccount client gatewayID = .ok none := by
      rw [managedInventoryAccount_eq nonempty, if_pos (Or.inr another)]
    obtain ⟨e, failed⟩ := closed (Or.inl legacy) fun accountID client' => by
      rw [client'.namedOwner.1] at another
      exact another rfl
    rw [skipped] at failed
    cases failed
  · intro agrees
    refine ⟨fun owner => (managedInventoryAccount_owned_iff read nonempty).mp,
      fun accountID client' => (managedInventoryAccount_owned_iff read nonempty).mpr ⟨rfl, client'⟩,
      fun marked foreign => ?_⟩
    have named : (namedOwner client).1 = gatewayID := by
      unfold namedOwner
      split
      · rename_i current
        by_contra other
        rcases marked with legacy | reserved
        · exact agrees ⟨legacy, current, other⟩
        · exact other reserved.2
      · rename_i absent
        rcases marked with legacy | reserved
        · exact legacy.2
        · exact absurd reserved.1 absent
    cases classified : managedInventoryAccount client gatewayID with
    | error e => exact ⟨e, rfl⟩
    | ok result =>
      exfalso
      cases result with
      | some owner =>
        exact foreign _ ((managedInventoryAccount_owned_iff read nonempty).mp classified).2
      | none =>
        rw [managedInventoryAccount_eq nonempty] at classified
        split at classified
        · rename_i skipped
          rcases skipped with unmarked | other
          · rcases marked with legacy | reserved
            · exact unmarked.1 legacy.1
            · exact unmarked.2 reserved.1
          · exact other named
        · split at classified
          · cases classified
          · cases classified

end Ownership

namespace Sample

/-- The public ID of the sample's account. -/
def publicID : String := "hs-sa-" ++ gatewayID ++ "-" ++ accountID

/-- A client with legacy attributes. -/
def legacyClient : ClientRepresentation :=
  ⟨"client", publicID, ⟨[⟨managedAttribute, "true"⟩, ⟨gatewayIDAttribute, gatewayID⟩,
    ⟨serviceAccountIDAttribute, accountID⟩], by show (List.keys _).Nodup; decide⟩⟩

/-- A client whose legacy attributes name the Gateway and whose current ones name another. -/
def mixedClient : ClientRepresentation :=
  ⟨"client", publicID, ⟨[⟨managedAttribute, "true"⟩, ⟨gatewayIDAttribute, gatewayID⟩,
    ⟨serviceAccountIDAttribute, accountID⟩, ⟨ownerPrefix ++ managedAttribute, "true"⟩,
    ⟨ownerPrefix ++ gatewayIDAttribute, auditID⟩,
    ⟨ownerPrefix ++ serviceAccountIDAttribute, accountID⟩], by show (List.keys _).Nodup; decide⟩⟩

theorem legacyClient_read : legacyClient.Read := by decide

theorem mixedClient_read : mixedClient.Read := by decide

end Sample

open Sample in
/-- A client with one complete set of attributes is reported with its account. -/
theorem inventory_classified_sample :
    managedInventoryAccount Sample.legacyClient Sample.gatewayID =
      .ok (some (Sample.gatewayID, Sample.accountID)) := by
  have agrees : ¬ NamesAnother Sample.legacyClient Sample.gatewayID := fun names =>
    absurd names.2.1 (by decide)
  obtain ⟨-, complete, -⟩ := (inventory_classified_iff Sample.legacyClient_read
    (by decide : Sample.gatewayID ≠ "")).mpr agrees
  refine complete Sample.accountID ⟨by decide, by decide, by decide, Or.inl ⟨by decide, by decide,
    by decide, ?_⟩⟩
  intro key member
  have keys : ∀ key ∈ Sample.legacyClient.attributes.keys, ¬ ownerPrefix.toList <+: key.toList := by
    decide
  exact keys key member

open Sample in
/-- A client that is marked for a Gateway under its legacy keys, and for another one under the
current keys, is taken for a client of the other one only. -/
theorem inventory_mixed_skipped :
    ¬ ((MarkedFor Sample.mixedClient Sample.gatewayID "" ∨
          MarkedFor Sample.mixedClient Sample.gatewayID ownerPrefix) →
        (∀ accountID, ¬ AccountClient Sample.mixedClient Sample.gatewayID accountID) →
        ∃ e, managedInventoryAccount Sample.mixedClient Sample.gatewayID = .error e) := by
  intro closed
  have skipped : managedInventoryAccount Sample.mixedClient Sample.gatewayID = .ok none := by
    decide
  have marked : MarkedFor Sample.mixedClient Sample.gatewayID "" := by
    constructor <;> decide
  obtain ⟨e, failed⟩ := closed (Or.inl marked) fun accountID client => by
    have named := client.namedOwner.1
    have other : (namedOwner Sample.mixedClient).1 ≠ Sample.gatewayID := by decide
    rw [named] at other
    exact other rfl
  rw [skipped] at failed
  cases failed

end Hypershell
