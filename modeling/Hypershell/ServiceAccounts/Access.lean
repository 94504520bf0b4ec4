import Hypershell.Gateways.Principal
import Hypershell.Storage.Accounts

/-!
# Access to the accounts of a Gateway

An account operation needs a stored grant on the Gateway itself; platform roles
supply none.  An owner may use both account roles and see every account, a viewer
only the user role and the accounts it created.

## Main definitions

* `Access`, `allowed`
* `Directory.access` — the access a user's grants give on a Gateway
* `accessForUser`, `resolveAccess` — the reads that find it in a transaction
-/

namespace Hypershell

open Foundation

/-- The grant of a user on a Gateway. -/
structure Access where
  userID : String
  owner : Bool
  deriving DecidableEq, Repr

/-- The roles a grant permits. -/
def allowed (access : Access) (role : AccountRole) : Bool :=
  decide (role = .user) || access.owner && decide (role = .admin)

@[simp] theorem allowed_user (access : Access) : allowed access .user = true := rfl

@[simp] theorem allowed_admin (access : Access) : allowed access .admin = access.owner := by
  simp [allowed]

/-- An absent or empty text. -/
def blank (text : Option String) : Bool :=
  decide (text.getD "" = "")

namespace Directory

/-- The roles that one page of size one finds by name. -/
def listRoles (name : String) (d : Directory) : List Role :=
  (d.roles.rows.filter fun r => r.live && decide (r.name = name)).take 1

/-- The total of the counting `List` over a user's grants of one role. -/
def countBindings (gatewayID userID roleID : String) (d : Directory) : Nat :=
  d.bindings.rows.countP fun b => b.live && decide (b.gatewayID = some gatewayID) &&
    decide (b.userID = userID) && decide (b.roleID = roleID) && decide (b.scope = "gateway")

/-- The first of the named roles that the user holds on the Gateway. -/
def firstGrant (gatewayID userID : String) (d : Directory) :
    List String → Except Err Access
  | [] => .error .notFound
  | name :: rest =>
    match d.listRoles name with
    | [role] =>
      if d.countBindings gatewayID userID role.id > 0 then
        .ok ⟨userID, decide (name = "gateway:owner")⟩
      else
        d.firstGrant gatewayID userID rest
    | _ => .error (.text "required Gateway role is absent")

/-- The access that the directory gives a user on a Gateway. -/
def access (gatewayID userID : String) (d : Directory) : Except Err Access :=
  match d.getUser userID with
  | .error e => .error e
  | .ok user =>
    if blank user.issuer || blank user.subject then
      .error .notFound
    else
      d.firstGrant gatewayID userID ["gateway:owner", "gateway:viewer"]

theorem firstGrant_userID {gatewayID userID : String} {d : Directory} {names : List String}
    {access : Access} (granted : d.firstGrant gatewayID userID names = .ok access) :
    access.userID = userID := by
  induction names with
  | nil => cases granted
  | cons name rest ih =>
    unfold firstGrant at granted
    split at granted
    · split_ifs at granted
      · cases granted; rfl
      · exact ih granted
    · cases granted

theorem firstGrant_error {gatewayID userID : String} {d : Directory} {names : List String}
    {e : Err} (denied : d.firstGrant gatewayID userID names = .error e) :
    e ≠ .recursionLimit := by
  induction names with
  | nil =>
    cases denied
    simp
  | cons name rest ih =>
    unfold firstGrant at denied
    split at denied
    · split_ifs at denied
      exact ih denied
    · cases denied
      simp

theorem access_error {gatewayID userID : String} {d : Directory} {e : Err}
    (denied : d.access gatewayID userID = .error e) : e ≠ .recursionLimit := by
  unfold Directory.access at denied
  split at denied
  · rename_i e' missing
    cases denied
    unfold getUser at missing
    split at missing
    · split_ifs at missing
      cases missing
      simp
    · cases missing
      simp
  · split_ifs at denied
    · cases denied
      simp
    · exact firstGrant_error denied

/-- A grant names the user it was asked for, who has an ID. -/
theorem access_userID {gatewayID userID : String} {d : Directory} {access : Access}
    (granted : d.access gatewayID userID = .ok access) :
    access.userID = userID ∧ userID ≠ "" := by
  unfold Directory.access at granted
  split at granted
  · cases granted
  · rename_i user found
    split_ifs at granted
    refine ⟨firstGrant_userID granted, ?_⟩
    rintro rfl
    simp [getUser, d.named] at found

end Directory

variable [Platform] {L : Type}

/-- Look for a grant of each named role in turn. -/
def findGrant (gatewayID userID : String) : List String → Action L Access
  | [] => Tx.raise .notFound
  | name :: rest => do
    let roles ← Action.query fun s => .ok (s.directory.listRoles name)
    match roles with
    | [role] =>
      let total ← Action.query fun s => .ok (s.directory.countBindings gatewayID userID role.id)
      if total > 0 then
        return ⟨userID, decide (name = "gateway:owner")⟩
      else
        findGrant gatewayID userID rest
    | _ => Tx.raise (.text "required Gateway role is absent")

/-- The grant of a stored user. -/
def accessForUser (gatewayID userID : String) : Action L Access := do
  let user ← Action.query fun s => s.directory.getUser userID
  if blank user.issuer || blank user.subject then
    Tx.raise .notFound
  else
    findGrant gatewayID userID ["gateway:owner", "gateway:viewer"]

/-- The grant of a principal. -/
def resolveAccess (p : Principal) (gatewayID : String) : Action L Access := do
  let user ← resolvePrincipal p
  accessForUser gatewayID user.id

/-! ### Rules -/

section Rules

variable {ω : Env} {c : Context Store Event L} {fails : Err → Context Store Event L → Prop}
  {ok : Access → Context Store Event L → Prop} {gatewayID userID : String}

theorem wp_findGrant {names : List String}
    (fault : ω.Faulty → ∀ n, fails .storage (c.at n))
    (denied : ∀ e n, c.store.directory.firstGrant gatewayID userID names = .error e →
      fails e (c.at n))
    (granted : ∀ access n, c.store.directory.firstGrant gatewayID userID names = .ok access →
      ok access (c.at n)) :
    Tx.wp ω (findGrant gatewayID userID names) ok fails c := by
  induction names generalizing c with
  | nil => exact denied .notFound c.tick rfl
  | cons name rest ih =>
    simp only [findGrant, Tx.wp_bind]
    refine Action.wp_query (fun faulty => fault ⟨_, faulty⟩ _) (fun _ never => nomatch never) ?_
    rintro roles ⟨⟩
    unfold Directory.firstGrant at denied granted
    cases found : c.store.directory.listRoles name with
    | nil =>
      simp only [found] at denied
      exact denied _ _ rfl
    | cons role more =>
      cases more with
      | cons _ _ =>
        simp only [found] at denied
        exact denied _ _ rfl
      | nil =>
        simp only [found] at denied granted
        dsimp only
        rw [Tx.wp_bind]
        refine Action.wp_query (fun faulty => fault ⟨_, faulty⟩ _) (fun _ never => nomatch never) ?_
        rintro total ⟨⟩
        by_cases held : c.store.directory.countBindings gatewayID userID role.id > 0
        · simp only [if_pos held] at granted
          rw [Context.at_store, if_pos held]
          exact granted _ _ rfl
        · simp only [if_neg held] at denied granted
          rw [Context.at_store, if_neg held]
          exact ih fault denied granted

/-- **The access found in a transaction is the one the directory gives**, unless a
read fails by itself. -/
theorem wp_accessForUser
    (fault : ω.Faulty → ∀ n, fails .storage (c.at n))
    (denied : ∀ e n, c.store.directory.access gatewayID userID = .error e → fails e (c.at n))
    (granted : ∀ access n, c.store.directory.access gatewayID userID = .ok access →
      ok access (c.at n)) :
    Tx.wp ω (accessForUser gatewayID userID) ok fails c := by
  simp only [accessForUser, Tx.wp_bind]
  unfold Directory.access at denied granted
  refine Action.wp_query (fun faulty => fault ⟨_, faulty⟩ _) ?_ ?_
  · intro e absent
    simp only [absent] at denied
    exact denied _ _ rfl
  · intro user found
    simp only [found] at denied granted
    by_cases unknown : (blank user.issuer || blank user.subject) = true
    · simp only [if_pos unknown] at denied
      rw [if_pos unknown]
      exact denied _ _ rfl
    · simp only [if_neg unknown] at denied granted
      rw [if_neg unknown]
      exact wp_findGrant fault denied granted

/-- Resolving the access of a principal changes nothing but users. -/
theorem wp_resolveAccess {p : Principal}
    (failed : ∀ e n d, fails e (c.put n { c.store with directory := d }))
    (granted : ∀ access n d, d.access gatewayID access.userID = .ok access →
      ok access (c.put n { c.store with directory := d })) :
    Tx.wp ω (resolveAccess p gatewayID) ok fails c := by
  simp only [resolveAccess, Tx.wp_bind]
  refine wp_resolvePrincipal failed fun user n d => ?_
  exact wp_accessForUser (fun _ m => failed _ m d) (fun _ m _ => failed _ m d)
    fun access m found => granted access m d (by rw [(Directory.access_userID found).1]; exact found)

end Rules

end Hypershell
