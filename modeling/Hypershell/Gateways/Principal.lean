import Mathlib.Data.List.DropRight
import Hypershell.Storage.Store

/-!
# Principals and their users

A principal comes from a verified access token.  Its stored user is found by
issuer and subject, created on first use and kept in step with the token's
profile.

## Main definitions

* `Principal`, `validatePrincipal`
* `syncUser`, `resolvePrincipal` — the stored user of a principal
-/

namespace Hypershell

open Foundation

/-- A verified access token's claims. -/
structure Principal where
  issuer : String
  subject : String
  username : String
  email : String
  name : String
  roles : List String
  deriving DecidableEq, Repr

/-- `unicode.IsSpace`. -/
def isSpace (c : Char) : Bool :=
  decide (c.val ∈ ([0x09, 0x0A, 0x0B, 0x0C, 0x0D, 0x20, 0x85, 0xA0, 0x1680, 0x2028, 0x2029,
    0x202F, 0x205F, 0x3000] : List UInt32)) || decide (0x2000 ≤ c.val ∧ c.val ≤ 0x200A)

/-- The characters between the first and the last that is not a space. -/
def trimSpaces (cs : List Char) : List Char :=
  (cs.dropWhile isSpace).rdropWhile isSpace

/-- `strings.TrimSpace`. -/
def trimSpace (s : String) : String := String.ofList (trimSpaces s.toList)

theorem dropWhile_trimmed {α : Type} (p : α → Bool) (l : List α) :
    ((l.dropWhile p).rdropWhile p).dropWhile p = (l.dropWhile p).rdropWhile p := by
  cases kept : l.dropWhile p with
  | nil => rfl
  | cons a rest =>
    have start : p a = false := by
      have first := List.head?_dropWhile_not p l
      simpa [kept] using first
    cases ends : (a :: rest).rdropWhile p with
    | nil => rfl
    | cons b rest' =>
      have initial : b :: rest' <+: a :: rest := by
        rw [← ends]
        exact List.rdropWhile_prefix p (a :: rest)
      rw [(List.cons_prefix_cons.mp initial).1, List.dropWhile_cons_of_neg (by simp [start])]

/-- A trimmed text has no spaces around it. -/
theorem trimSpace_trimSpace (s : String) : trimSpace (trimSpace s) = trimSpace s := by
  simp only [trimSpace, trimSpaces, String.toList_ofList, dropWhile_trimmed,
    List.rdropWhile_idempotent]

/-- A text of at most `max` bytes without NUL.  Texts are valid Unicode here. -/
def validText (value : String) (max : Nat) : Bool :=
  decide (value.utf8ByteSize ≤ max) && decide (Char.ofNat 0 ∉ value.toList)

/-- Reject claims that cannot identify a user. -/
def validatePrincipal (p : Principal) : Except Err Unit :=
  if trimSpace p.issuer = "" ∨ p.issuer.utf8ByteSize > 1024 ∨ p.subject.utf8ByteSize > 255 ∨
      trimSpace p.subject = "" ∨ trimSpace p.username = "" ∨ p.username.utf8ByteSize > 255 ∨
      p.email.utf8ByteSize > 320 ∨ p.name.utf8ByteSize > 255 ∨
      Char.ofNat 0 ∈ (p.issuer ++ p.subject ++ p.username ++ p.email ++ p.name).toList then
    .error .identity
  else
    .ok ()

namespace Directory

/-- `Get(ctx, "User", id)`. -/
def getUser (id : String) (d : Directory) : Except Err User :=
  match d.users.find? id with
  | some user => if user.live then .ok user else .error .notFound
  | none => .error .notFound

/-- The users that one page of size one finds by subject and issuer. -/
def listUsers (issuer subject : String) (d : Directory) : List User :=
  (d.users.rows.filter fun u => u.live && decide (u.subject = some subject) &&
    decide (u.issuer = some issuer)).take 1

end Directory

namespace Store

/-- The directory with other users.  A row without ID is none that the creation hook
leaves. -/
def putUsers (users : Table User) (s : Store) : Except Err Store :=
  if named : users.find? "" = none then
    .ok { s with directory := { s.directory with users := users, named := named } }
  else
    .error .storage

/-- `Create(ctx, "User", user)`. -/
def createUser (user : User) (s : Store) : Except Err Store :=
  match s.directory.users.insert?
      { user with createdTime := s.time, updatedTime := s.time, deletedAt := none } with
  | some users => s.putUsers users
  | none => .error .conflict

/-- `Replace(ctx, "User", id, user)`. -/
def replaceUser (id : String) (user : User) (s : Store) : Except Err Store :=
  match s.directory.getUser id with
  | .error e => .error e
  | .ok old =>
    match s.directory.users.replace? { user with
        id := old.id, createdTime := old.createdTime, updatedTime := s.time,
        deletedAt := old.deletedAt } with
    | some users => s.putUsers users
    | none => .error .conflict

theorem putUsers_ok {users : Table User} {s t : Store} (put : s.putUsers users = .ok t) :
    ∃ named, t = { s with directory := { s.directory with users := users, named := named } } := by
  unfold putUsers at put
  split at put
  · cases put; exact ⟨_, rfl⟩
  · cases put

/-- **A created user** is stored under its ID. -/
theorem createUser_ok {user : User} {s t : Store} (created : s.createUser user = .ok t) :
    ∃ users named, t = { s with directory := { s.directory with users := users, named := named } } ∧
      users.find? user.id =
        some { user with createdTime := s.time, updatedTime := s.time, deletedAt := none } := by
  unfold createUser at created
  split at created
  · rename_i users inserted
    obtain ⟨named, rfl⟩ := putUsers_ok created
    exact ⟨users, named, rfl, (Table.find?_insert? inserted _).trans (if_pos rfl)⟩
  · cases created

/-- **A replaced user** is stored under the same ID, with the same deletion. -/
theorem replaceUser_ok {id : String} {user : User} {s t : Store}
    (replaced : s.replaceUser id user = .ok t) :
    ∃ users named row, t = { s with directory := { s.directory with users := users, named := named } } ∧
      users.find? id = some row ∧ row.live = true ∧ row.issuer = user.issuer ∧
      row.subject = user.subject := by
  unfold replaceUser at replaced
  split at replaced
  · cases replaced
  · rename_i old found
    have stored : s.directory.users.find? id = some old ∧ old.live = true := by
      unfold Directory.getUser at found
      split at found
      · rename_i row stored
        split_ifs at found with live
        cases found
        exact ⟨stored, live⟩
      · cases found
    have key : old.id = id := Table.key_of_find? stored.1
    split at replaced
    · rename_i users written
      obtain ⟨named, rfl⟩ := putUsers_ok replaced
      have becomes := Table.becomes_of_replace? written (a := old) (by
        rw [key_user, key]
        exact stored.1)
      have found' := becomes.find?_new
      rw [key_user, key] at found'
      exact ⟨users, named, _, rfl, found', stored.2, rfl, rfl⟩
    · cases replaced

end Store

namespace Directory

/-- Only users differ. -/
def SameGrants (d d' : Directory) : Prop := d'.roles = d.roles ∧ d'.bindings = d.bindings

theorem SameGrants.refl (d : Directory) : d.SameGrants d := ⟨rfl, rfl⟩

/-- A live user with an ID has the identity of a principal. -/
def Identified (d : Directory) (p : Principal) (id : String) : Prop :=
  ∃ row, d.users.find? id = some row ∧ row.live = true ∧ row.issuer = some p.issuer ∧
    row.subject = some p.subject

theorem mem_listUsers {d : Directory} {issuer subject : String} {user : User}
    (member : user ∈ d.listUsers issuer subject) :
    d.users.find? user.id = some user ∧ user.live = true ∧ user.issuer = some issuer ∧
      user.subject = some subject := by
  have listed := List.mem_of_mem_take member
  rw [List.mem_filter] at listed
  obtain ⟨stored, kept⟩ := listed
  simp only [Bool.and_eq_true, decide_eq_true_eq] at kept
  exact ⟨Table.find?_of_mem stored, kept.1.1, kept.2, kept.1.2⟩

end Directory

variable [Platform] {L : Type}

/-- Find, create or update the user of a verified principal. -/
def syncUser (p : Principal) : Action L User := do
  let rows ← Action.query fun s => .ok (s.directory.listUsers p.issuer p.subject)
  match rows with
  | [] =>
    let id ← Action.random
    let user : User :=
      { id := id.val, createdTime := 0, updatedTime := 0, deletedAt := none,
        issuer := some p.issuer, subject := some p.subject, username := p.username,
        email := p.email, name := p.name }
    Action.update (Store.createUser user)
    return user
  | user :: _ =>
    -- Identity comparison stays exact even if a database collation is broader.
    if user.issuer ≠ some p.issuer ∨ user.subject ≠ some p.subject then
      Tx.raise .identity
    else if user.username ≠ p.username ∨ user.email ≠ p.email ∨ user.name ≠ p.name then
      let user := { user with username := p.username, email := p.email, name := p.name }
      Action.update (Store.replaceUser user.id user)
      return user
    else
      return user

/-- The stored user of a principal, once its claims are valid. -/
def resolvePrincipal (p : Principal) : Action L User :=
  match validatePrincipal p with
  | .error e => Tx.raise e
  | .ok () => syncUser p

/-! ### What resolving a principal leaves alone -/

variable {ω : Env} {c : Context Store Event L} {fails : Err → Context Store Event L → Prop}

/-- **Finding the user of a principal** changes nothing but users, and the one that is
found is the principal's. -/
theorem wp_syncUser_known {p : Principal} {ok : User → Context Store Event L → Prop}
    (failed : ∀ e n d, c.store.directory.SameGrants d →
      fails e (c.put n { c.store with directory := d }))
    (resolved : ∀ user n d, c.store.directory.SameGrants d → d.Identified p user.id →
      ok user (c.put n { c.store with directory := d })) :
    Tx.wp ω (syncUser p) ok fails c := by
  have failedAt : ∀ e n, fails e (c.at n) :=
    fun e n => failed e n c.store.directory (.refl _)
  simp only [syncUser, Tx.wp_bind]
  refine Action.wp_query (fun _ => failedAt _ _) (fun _ _ => failedAt _ _) fun rows listed => ?_
  rw [Except.ok.injEq] at listed
  cases rows with
  | nil =>
    simp only [Tx.wp_bind]
    refine Action.wp_random (fun _ => failedAt _ _) fun id _ => ?_
    refine Action.wp_update (fun _ => failedAt _ _) (fun _ _ => failedAt _ _) fun s created => ?_
    obtain ⟨users, named, rfl, found⟩ := Store.createUser_ok created
    exact resolved _ _ _ ⟨rfl, rfl⟩ ⟨_, found, rfl, rfl, rfl⟩
  | cons user rest =>
    have known := @Directory.mem_listUsers c.store.directory p.issuer p.subject user
      (by rw [listed]; exact List.mem_cons_self)
    dsimp only
    split
    · exact failedAt _ _
    split
    · simp only [Tx.wp_bind]
      refine Action.wp_update (fun _ => failedAt _ _) (fun _ _ => failedAt _ _)
        fun s replaced => ?_
      obtain ⟨users, named, row, rfl, found, live, issuer, subject⟩ := Store.replaceUser_ok replaced
      exact resolved _ _ _ ⟨rfl, rfl⟩
        ⟨row, found, live, issuer.trans known.2.2.1, subject.trans known.2.2.2⟩
    · exact resolved _ _ c.store.directory (.refl _) ⟨user, known⟩

/-- Finding the user of a principal changes nothing but the directory. -/
theorem wp_syncUser {p : Principal} {ok : User → Context Store Event L → Prop}
    (failed : ∀ e n d, fails e (c.put n { c.store with directory := d }))
    (resolved : ∀ user n d, ok user (c.put n { c.store with directory := d })) :
    Tx.wp ω (syncUser p) ok fails c :=
  wp_syncUser_known (fun e n d _ => failed e n d) fun user n d _ _ => resolved user n d

/-- Resolving a principal changes nothing but users. -/
theorem wp_resolvePrincipal {p : Principal} {ok : User → Context Store Event L → Prop}
    (failed : ∀ e n d, fails e (c.put n { c.store with directory := d }))
    (resolved : ∀ user n d, ok user (c.put n { c.store with directory := d })) :
    Tx.wp ω (resolvePrincipal p) ok fails c := by
  unfold resolvePrincipal
  cases validatePrincipal p with
  | error e => exact failed e c.tick c.store.directory
  | ok _ => exact wp_syncUser failed resolved

end Hypershell
