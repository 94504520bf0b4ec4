import Hypershell.Controller.Cycle

/-!
# Scan checkpoints

One saved cursor for each resource and scope, with a version that a writer must know.

## Main definitions

* `Store.loadCheckpoint`, `Store.saveCheckpoint`

## Main results

* `Store.saveCheckpoint_ok` — a save replaces the version it names, and nothing else
-/

namespace Hypershell

open Foundation

/-- A cursor and its version.  An absent one has version zero. -/
structure ScanCheckpoint where
  after : String
  version : Nat
  deriving DecidableEq, Repr

namespace Store

/-- The stored checkpoint of a scope. -/
def checkpoint? (s : Store) (id scope : String) : Option CheckpointRow :=
  s.checkpoints.find? (id, scope)

/-- The version of a scope's checkpoint. -/
def checkpointVersion (s : Store) (id scope : String) : Nat :=
  match s.checkpoint? id scope with
  | some row => row.version
  | none => 0

/-- The cursor of a scope's checkpoint. -/
def checkpointCursor (s : Store) (id scope : String) : String :=
  match s.checkpoint? id scope with
  | some row => row.afterCursor
  | none => ""

/-- `validCheckpointKey`. -/
def validCheckpointKey (id scope : String) : Bool :=
  checkpointText id 256 false && checkpointText scope 128 false

/-- `LoadCheckpoint`. -/
def loadCheckpoint (id scope : String) (s : Store) : Except Err ScanCheckpoint :=
  if validCheckpointKey id scope = false then
    .error .checkpoint
  else
    match s.checkpoint? id scope with
    | none => .ok ⟨"", 0⟩
    | some row =>
      if row.version < 1 ∨ checkpointText row.afterCursor 1024 true = false then
        .error .checkpoint
      else
        .ok ⟨row.afterCursor, row.version⟩

/-- The largest version. -/
def maxInt64 : Int := 9223372036854775807

/-- `SaveCheckpoint`: a writer must know the version it replaces. -/
def saveCheckpoint (id scope : String) (expected : Int) (after : String) (s : Store) :
    Except Err Store :=
  if validCheckpointKey id scope = false ∨ expected < 0 ∨ expected = maxInt64 ∨
      checkpointText after 1024 true = false then
    .error .checkpoint
  else if expected = 0 then
    match s.checkpoints.insert? ⟨id, scope, 1, after⟩ with
    | some checkpoints => .ok { s with checkpoints := checkpoints }
    | none => .error .checkpointConflict
  else
    match s.checkpoint? id scope with
    | none => .error .checkpointConflict
    | some row =>
      if (row.version : Int) ≠ expected then
        .error .checkpointConflict
      else
        match s.checkpoints.replace? { row with version := row.version + 1, afterCursor := after } with
        | some checkpoints => .ok { s with checkpoints := checkpoints }
        | none => .error .checkpointConflict

/-! ### What a save does -/

/-- The checkpoint of a scope has become the next version, with another cursor. -/
structure Saved (s : Store) (id scope : String) (version : Nat) (after : String) (t : Store) :
    Prop where
  same : ∃ checkpoints, t = { s with checkpoints := checkpoints }
  before : s.checkpointVersion id scope = version
  stored : t.checkpoint? id scope = some ⟨id, scope, version + 1, after⟩
  others : ∀ id' scope', (id', scope') ≠ (id, scope) →
    t.checkpoint? id' scope' = s.checkpoint? id' scope'

section Spec

variable {s t : Store} {id scope after : String} {expected : Int} {checkpoint : ScanCheckpoint}

theorem loadCheckpoint_ok (loaded : s.loadCheckpoint id scope = .ok checkpoint) :
    checkpoint = ⟨s.checkpointCursor id scope, s.checkpointVersion id scope⟩ := by
  unfold loadCheckpoint at loaded
  unfold checkpointCursor checkpointVersion
  split at loaded
  · cases loaded
  · split at loaded
    · rename_i missing
      cases loaded
      rw [missing]
    · rename_i row found
      split_ifs at loaded
      cases loaded
      rw [found]

@[simp] theorem key_checkpoint (row : CheckpointRow) :
    Relation.key row = (row.resourceID, row.scope) := rfl

/-- **A save** replaces the version it names. -/
theorem saveCheckpoint_ok (saved : s.saveCheckpoint id scope expected after = .ok t) :
    ∃ version : Nat, expected = version ∧ Saved s id scope version after t := by
  unfold saveCheckpoint at saved
  split_ifs at saved with invalid zero
  · split at saved
    · rename_i checkpoints inserted
      cases saved
      have missing : s.checkpoint? id scope = none := Table.absent_of_insert? inserted
      refine ⟨0, zero, ⟨_, rfl⟩, ?_, ?_, ?_⟩
      · rw [checkpointVersion, missing]
      · exact (Table.find?_insert? inserted _).trans (if_pos rfl)
      · intro id' scope' other
        exact (Table.find?_insert? inserted _).trans (if_neg other)
    · cases saved
  · split at saved
    · cases saved
    · rename_i row found
      have key : (row.resourceID, row.scope) = (id, scope) := Table.key_of_find? found
      obtain ⟨rfl, rfl⟩ : row.resourceID = id ∧ row.scope = scope := by simpa using key
      split_ifs at saved with current
      split at saved
      · rename_i checkpoints replaced
        cases saved
        rw [not_not] at current
        have becomes := Table.becomes_of_replace? replaced found
        refine ⟨row.version, current.symm, ⟨_, rfl⟩, ?_, becomes.find?_new, ?_⟩
        · rw [checkpointVersion, found]
        · intro id' scope' other
          exact (becomes.find? _).trans (if_neg other)
      · cases saved

theorem Saved.version (saved : Saved s id scope n after t) :
    t.checkpointVersion id scope = n + 1 := by
  rw [checkpointVersion, saved.stored]

theorem Saved.cursor (saved : Saved s id scope n after t) :
    t.checkpointCursor id scope = after := by
  rw [checkpointCursor, saved.stored]

end Spec

end Store

end Hypershell
