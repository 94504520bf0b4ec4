import Hypershell.Storage.Checkpoints

/-!
# Resource states

One sealed record for each resource and scope, such as the journal of a provider, with a
version that a writer must know.  A scope counts its records until it is sealed.

## Main definitions

* `ResourceState`, `checkStateEnvelope`
* `Store.loadResourceState`, `Store.saveResourceState`
* `StateSaved` — a record that became its next version

## Main results

* `Store.saveResourceState_ok` — a save replaces the version it names, and nothing else
-/

namespace Hypershell

open Foundation

/-- A record and its version.  An absent one has version zero. -/
structure ResourceState where
  data : List UInt8
  version : Nat
  deriving DecidableEq, Repr

/-- The zero value. -/
def ResourceState.absent : ResourceState := ⟨[], 0⟩

/-- `MaxResourceStateBytes`, which is also `MaxProtectedStateBytes`. -/
def maxResourceStateBytes : Nat := 65536

/-- `CheckStateEnvelope`: the header and the tag of a sealed text of the first format. -/
def checkStateEnvelope (envelope : List UInt8) : Bool :=
  decide (49 + 28 ≤ envelope.length) && decide (envelope.length ≤ maxResourceStateBytes) &&
    decide (envelope.head? = some 1)

namespace Store

/-- The stored record of a scope. -/
def state? (s : Store) (id scope : String) : Option ResourceStateRow := s.states.find? (id, scope)

/-- The version of a scope's record. -/
def stateVersion (s : Store) (id scope : String) : Nat :=
  match s.state? id scope with
  | some row => row.version
  | none => 0

/-- `LoadResourceState`. -/
def loadResourceState (id scope : String) (s : Store) : Except Err ResourceState :=
  if validCheckpointKey id scope = false then
    .error .resourceState
  else
    match s.state? id scope with
    | none => .ok .absent
    | some row =>
      if row.version < 1 ∨ row.data.length > maxResourceStateBytes then
        .error .resourceState
      else
        .ok ⟨row.data, row.version⟩

/-- The trigger of a new record: it is counted under its scope unless that is sealed. -/
def trackStateKey (scope : String) (s : Store) : Except Err (Table ScopeRow) :=
  match s.scopes.find? scope with
  | none =>
    match s.scopes.insert? ⟨scope, 1, false⟩ with
    | some scopes => .ok scopes
    | none => .error .storage
  | some row =>
    if row.sealed then
      .error .resourceStateConflict
    else if (row.revision : Int) = maxInt64 then
      .error .storage
    else
      match s.scopes.replace? { row with revision := row.revision + 1 } with
      | some scopes => .ok scopes
      | none => .error .storage

/-- `INSERT … ON CONFLICT DO NOTHING`, of which one row must be affected. -/
def insertState (id scope : String) (data : List UInt8) (s : Store) : Except Err Store :=
  match s.state? id scope with
  | some _ => .error .resourceStateConflict
  | none =>
    match s.trackStateKey scope with
    | .error e => .error e
    | .ok scopes =>
      match s.states.insert? ⟨id, scope, 1, data⟩ with
      | some states => .ok { s with states := states, scopes := scopes }
      | none => .error .resourceStateConflict

/-- `UPDATE … WHERE version = expected`, of which one row must be affected. -/
def updateState (id scope : String) (expected : Int) (data : List UInt8) (s : Store) :
    Except Err Store :=
  match s.state? id scope with
  | none => .error .resourceStateConflict
  | some row =>
    if (row.version : Int) ≠ expected then
      .error .resourceStateConflict
    else
      match s.states.replace? { row with version := row.version + 1, data := data } with
      | some states => .ok { s with states := states }
      | none => .error .resourceStateConflict

/-- `SaveResourceState`: a writer must know the version it replaces. -/
def saveResourceState (id scope : String) (expected : Int) (data : List UInt8) (s : Store) :
    Except Err Store :=
  if validCheckpointKey id scope = false ∨ expected < 0 ∨ expected = maxInt64 ∨
      data.length > maxResourceStateBytes then
    .error .resourceState
  else if expected = 0 then
    s.insertState id scope data
  else
    s.updateState id scope expected data

end Store

/-! ### What a save does -/

/-- The record of a scope has become the next version. -/
structure StateSaved (s : Store) (id scope : String) (expected : Int) (data : List UInt8)
    (t : Store) : Prop where
  rest : ∃ states scopes, t = { s with states := states, scopes := scopes }
  known : (s.stateVersion id scope : Int) = expected
  stored : t.state? id scope = some ⟨id, scope, s.stateVersion id scope + 1, data⟩
  others : ∀ id' scope', (id', scope') ≠ (id, scope) → t.state? id' scope' = s.state? id' scope'
  scopes : ∀ scope', scope' ≠ scope → t.scopes.find? scope' = s.scopes.find? scope'

@[simp] theorem key_resourceState (row : ResourceStateRow) :
    Relation.key row = (row.resourceID, row.scope) := rfl

@[simp] theorem key_scope (row : ScopeRow) : Relation.key row = row.scope := rfl

namespace Store

section Spec

variable {s t : Store} {id scope : String} {expected : Int} {data : List UInt8}
  {state : ResourceState}

/-- A record is read as it is stored. -/
theorem loadResourceState_ok (loaded : s.loadResourceState id scope = .ok state) :
    state = .absent ∧ s.state? id scope = none ∨
      s.state? id scope = some ⟨id, scope, state.version, state.data⟩ := by
  unfold loadResourceState at loaded
  split at loaded
  · cases loaded
  · split at loaded
    · rename_i missing
      cases loaded
      exact Or.inl ⟨rfl, missing⟩
    · rename_i row found
      split_ifs at loaded
      cases loaded
      have key : (row.resourceID, row.scope) = (id, scope) := Table.key_of_find? found
      obtain ⟨resourceID, scope', version, data⟩ := row
      cases key
      exact Or.inr found

/-- Counting a record touches no other scope. -/
theorem trackStateKey_ok {scopes : Table ScopeRow} (tracked : s.trackStateKey scope = .ok scopes)
    {scope' : String} (other : scope' ≠ scope) : scopes.find? scope' = s.scopes.find? scope' := by
  unfold trackStateKey at tracked
  split at tracked
  · split at tracked
    · rename_i inserted
      cases tracked
      exact (Table.find?_insert? inserted _).trans (if_neg other)
    · cases tracked
  · rename_i row found
    have key : row.scope = scope := Table.key_of_find? found
    split_ifs at tracked
    split at tracked
    · rename_i replaced
      cases tracked
      have becomes := Table.becomes_of_replace? replaced ((congrArg _ key).trans found)
      exact (becomes.find? _).trans (if_neg (key ▸ other))
    · cases tracked

theorem insertState_ok (saved : s.insertState id scope data = .ok t) :
    StateSaved s id scope 0 data t := by
  unfold insertState at saved
  split at saved
  · cases saved
  rename_i missing
  have version : s.stateVersion id scope = 0 := by
    rw [stateVersion, missing]
  split at saved
  · cases saved
  rename_i scopes tracked
  split at saved
  · rename_i states inserted
    cases saved
    refine ⟨⟨_, _, rfl⟩, by rw [version]; rfl, ?_, ?_, fun _ => trackStateKey_ok tracked⟩
    · rw [version]
      exact (Table.find?_insert? inserted _).trans (if_pos rfl)
    · intro id' scope' other
      exact (Table.find?_insert? inserted _).trans (if_neg other)
  · cases saved

theorem updateState_ok (saved : s.updateState id scope expected data = .ok t) :
    StateSaved s id scope expected data t := by
  unfold updateState at saved
  split at saved
  · cases saved
  rename_i row found
  have key : (row.resourceID, row.scope) = (id, scope) := Table.key_of_find? found
  obtain ⟨rfl, rfl⟩ : row.resourceID = id ∧ row.scope = scope := by simpa using key
  have version : s.stateVersion row.resourceID row.scope = row.version := by
    rw [stateVersion, found]
  split_ifs at saved with current
  rw [not_not] at current
  split at saved
  · rename_i states replaced
    cases saved
    have becomes := Table.becomes_of_replace? replaced found
    refine ⟨⟨_, _, rfl⟩, by rw [version]; exact current, ?_, ?_, fun _ _ => rfl⟩
    · rw [version]
      exact becomes.find?_new
    · intro id' scope' other
      exact (becomes.find? _).trans (if_neg other)
  · cases saved

/-- **A save** replaces the version it names. -/
theorem saveResourceState_ok (saved : s.saveResourceState id scope expected data = .ok t) :
    StateSaved s id scope expected data t := by
  unfold saveResourceState at saved
  split_ifs at saved with invalid zero
  · rw [zero]
    exact insertState_ok saved
  · exact updateState_ok saved

end Spec

end Store

/-- The version of a saved record. -/
theorem StateSaved.version {s t : Store} {id scope : String} {expected : Int} {data : List UInt8}
    (saved : StateSaved s id scope expected data t) :
    (t.stateVersion id scope : Int) = expected + 1 := by
  have known := saved.known
  rw [Store.stateVersion, saved.stored]
  dsimp only
  omega

end Hypershell
