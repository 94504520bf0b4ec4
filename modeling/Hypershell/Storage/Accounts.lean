import Hypershell.Storage.Store

/-!
# Account and audit tables

What the generated store does for `ServiceAccount` and `ServiceAccountAudit`:
`Get`, `Create`, `Replace`, `Delete` and a counting `List`.  A read or write
addresses live rows only, a replacement keeps identity, creation time and
deletion, and every change goes through the unique indexes.
-/

namespace Hypershell

open Foundation

namespace Store

/-- The account row, live or deleted. -/
def account? (s : Store) (id : String) : Option ServiceAccount := s.accounts.find? id

/-- `Get(ctx, "ServiceAccount", id)`. -/
def getAccount (id : String) (s : Store) : Except Err ServiceAccount :=
  match s.account? id with
  | some row => if row.live then .ok row else .error .notFound
  | none => .error .notFound

/-- `Create(ctx, "ServiceAccount", row)`. -/
def createAccount (row : ServiceAccount) (s : Store) : Except Err Store :=
  match s.accounts.insert?
      { row with createdTime := s.time, updatedTime := s.time, deletedAt := none } with
  | some accounts => .ok { s with accounts := accounts }
  | none => .error .conflict

/-- The row that `Replace` stores over `old`. -/
def replacement (s : Store) (old row : ServiceAccount) : ServiceAccount :=
  { row with
    id := old.id
    createdTime := old.createdTime
    updatedTime := s.time
    deletedAt := old.deletedAt }

/-- `Replace(ctx, "ServiceAccount", id, row)`. -/
def replaceAccount (id : String) (row : ServiceAccount) (s : Store) : Except Err Store :=
  match s.getAccount id with
  | .error e => .error e
  | .ok old =>
    match s.accounts.replace? (s.replacement old row) with
    | some accounts => .ok { s with accounts := accounts }
    | none => .error .conflict

/-- `Delete(ctx, "ServiceAccount", id)`. -/
def deleteAccount (id : String) (s : Store) : Except Err Store :=
  match s.getAccount id with
  | .error e => .error e
  | .ok old =>
    match s.accounts.replace? { old with deletedAt := some s.time } with
    | some accounts => .ok { s with accounts := accounts }
    | none => .error .conflict

/-- The live, active accounts of a Gateway, of one creator unless that is empty. -/
def holdsSlot (gatewayID creator : String) (a : ServiceAccount) : Bool :=
  a.live && decide (a.gatewayID = gatewayID) && a.active &&
    (decide (creator = "") || decide (a.createdByUserID = creator))

/-- The total of the counting `List` that the quota check reads. -/
def countActive (gatewayID creator : String) (s : Store) : Nat :=
  s.accounts.rows.countP (holdsSlot gatewayID creator)

/-- `Create(ctx, "ServiceAccountAudit", entry)`. -/
def createAudit (entry : ServiceAccountAudit) (s : Store) : Except Err Store :=
  match s.audits.insert?
      { entry with createdTime := s.time, updatedTime := s.time, deletedAt := none } with
  | some audits => .ok { s with audits := audits }
  | none => .error .conflict

/-! ### What the operations do -/

section Spec

variable {s t : Store} {id : String} {row old : ServiceAccount}

theorem getAccount_ok (found : s.getAccount id = .ok row) :
    s.account? id = some row ∧ row.live = true := by
  unfold getAccount at found
  cases stored : s.account? id with
  | none => simp [stored] at found
  | some r =>
    by_cases alive : r.live = true
    · simp only [stored, alive, if_true] at found
      cases found
      exact ⟨rfl, alive⟩
    · simp [stored, alive] at found

theorem getAccount_of_live (stored : s.account? id = some row) (alive : row.live = true) :
    s.getAccount id = .ok row := by
  simp [getAccount, stored, alive]

/-- A live row is missing only when there is none under its ID. -/
theorem getAccount_error {e : Err} (failed : s.getAccount id = .error e) :
    e = .notFound ∧ ∀ r, s.account? id = some r → r.live = false := by
  unfold getAccount at failed
  cases stored : s.account? id with
  | none =>
    simp only [stored] at failed
    cases failed
    exact ⟨rfl, by simp⟩
  | some r =>
    by_cases alive : r.live = true
    · simp [stored, alive] at failed
    · simp only [stored, alive] at failed
      cases failed
      refine ⟨rfl, ?_⟩
      intro r' same
      cases same
      simpa using alive

theorem id_of_account? (stored : s.account? id = some row) : row.id = id :=
  Table.key_of_find? stored

/-- **Create** adds one live row under a new ID. -/
theorem createAccount_ok (created : createAccount row s = .ok t) :
    ∃ accounts, t = { s with accounts := accounts } ∧ s.account? row.id = none ∧
      s.accounts.insert?
        { row with createdTime := s.time, updatedTime := s.time, deletedAt := none } =
          some accounts := by
  unfold createAccount at created
  split at created
  · rename_i accounts inserted
    cases created
    have absent := Table.absent_of_insert? inserted
    exact ⟨accounts, rfl, absent, inserted⟩
  · cases created

/-- **Replace** changes one live row and keeps its identity and times. -/
theorem replaceAccount_ok (replaced : replaceAccount id row s = .ok t) :
    ∃ accounts old, t = { s with accounts := accounts } ∧ s.account? id = some old ∧
      old.live = true ∧ s.accounts.replace? (s.replacement old row) = some accounts := by
  unfold replaceAccount at replaced
  split at replaced
  · cases replaced
  · rename_i old found
    obtain ⟨stored, alive⟩ := getAccount_ok found
    split at replaced
    · rename_i accounts swapped
      cases replaced
      exact ⟨accounts, old, rfl, stored, alive, swapped⟩
    · cases replaced

/-- **Delete** marks one live row. -/
theorem deleteAccount_ok (deleted : deleteAccount id s = .ok t) :
    ∃ accounts old, t = { s with accounts := accounts } ∧ s.account? id = some old ∧
      old.live = true ∧
      s.accounts.replace? { old with deletedAt := some s.time } = some accounts := by
  unfold deleteAccount at deleted
  split at deleted
  · cases deleted
  · rename_i old found
    obtain ⟨stored, alive⟩ := getAccount_ok found
    split at deleted
    · rename_i accounts swapped
      cases deleted
      exact ⟨accounts, old, rfl, stored, alive, swapped⟩
    · cases deleted

theorem createAudit_ok {entry : ServiceAccountAudit} (created : createAudit entry s = .ok t) :
    ∃ audits, t = { s with audits := audits } ∧
      s.audits.insert?
        { entry with createdTime := s.time, updatedTime := s.time, deletedAt := none } =
          some audits := by
  unfold createAudit at created
  split at created
  · rename_i audits inserted
    cases created
    exact ⟨audits, rfl, inserted⟩
  · cases created

end Spec

end Store

end Hypershell
