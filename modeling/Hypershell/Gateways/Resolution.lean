import Hypershell.Foundation.Agreement
import Hypershell.Gateways.Creation

/-!
# Requests that are served

What a principal's request finds when no storage operation fails by itself: its user, as
the grants name it, and the roles of the catalog.

## Main definitions

* `Catalogued` — what the schema, its constraints and its bootstrap promise of the directory
* `Serves` — an environment without failures, in which drawn IDs are new

## Main results

* `wp_syncUser_served` — the user of a principal is the one that the grants name
* `wp_findRole_served` — the role of a name
* `answer_withTransaction` — a served transaction answers as its body ends

## Design notes

Roles are inserted by the bootstrap of the schema.  No code creates, changes or deletes one,
and no code deletes a user.
-/

namespace Hypershell

open Foundation

variable [Platform]

/-- The rows that the schema's constraints and its bootstrap allow. -/
structure Catalogued (d : Directory) : Prop where
  /-- The check `role_bindings_gateway_scope`. -/
  scopes : ∀ b ∈ d.bindings.rows, b.scope = "gateway" ∧ b.gatewayID ≠ none ∨
    b.scope = "global" ∧ b.gatewayID = none
  /-- The foreign key of a grant's role, whose name is not empty. -/
  role : ∀ b ∈ d.bindings.rows, b.live = true →
    ∃ r ∈ d.roles.rows, r.id = b.roleID ∧ r.live = true ∧ r.name ≠ ""
  /-- The bootstrap inserts the roles of Gateways. -/
  owner : ∃ r, d.rolesNamed "gateway:owner" = [r]
  viewer : ∃ r, d.rolesNamed "gateway:viewer" = [r]
  /-- The IDs of grants were drawn. -/
  canonical : ∀ b ∈ d.bindings.rows, Platform.validID b.id = true
  /-- No code deletes a user. -/
  users : ∀ u ∈ d.users.rows, u.live = true

/-- No operation fails by itself, and the IDs that are drawn are in no row of the directory. -/
structure Serves (ω : Env) (d : Directory) : Prop where
  fault : ∀ n, ω.fault n = false
  entropy : ∀ n, ∃ id, ω.entropy n = some id ∧ d.users.find? id.val = none ∧
    ∀ b ∈ d.bindings.rows, b.userID ≠ id.val
  commit : ω.commit = .committed

variable {L : Type} {ω : Env} {c : Context Store Event L} {p : Principal}
  {fails : Err → Context Store Event L → Prop}

omit [Platform] in
/-- A principal has one live user. -/
theorem Directory.Identified.unique {d : Directory} {a b : String} (first : d.Identified p a)
    (second : d.Identified p b) : a = b := by
  obtain ⟨u, foundU, -, issuerU, subjectU⟩ := first
  obtain ⟨v, foundV, -, issuerV, subjectV⟩ := second
  by_contra apart
  have separate := Table.clash_of_find? foundU foundV apart
  simp [Relation.clash, sameEntry, issuerU, issuerV, subjectU, subjectV] at separate

omit [Platform] in
/-- The principal's user, if it has one, is the only row of the list. -/
theorem Directory.listUsers_of_identified {d : Directory} {id : String}
    (known : d.Identified p id) :
    ∃ user rest, d.listUsers p.issuer p.subject = user :: rest ∧ user.id = id := by
  cases listed : d.listUsers p.issuer p.subject with
  | nil =>
    obtain ⟨row, found, live, issuer, subject⟩ := known
    rw [Directory.listUsers, List.take_eq_nil_iff] at listed
    rcases listed with never | none
    · cases never
    · have kept := List.filter_eq_nil_iff.mp none row (Table.mem_of_find? found)
      simp [live, issuer, subject] at kept
  | cons user rest =>
    refine ⟨user, rest, rfl, ?_⟩
    have here := @Directory.mem_listUsers d p.issuer p.subject user
      (by rw [listed]; exact List.mem_cons_self)
    exact Directory.Identified.unique (p := p) ⟨user, here⟩ known

omit [Platform] in
/-- Users can be stored if each has an ID. -/
theorem Store.putUsers_of_named {s : Store} {users : Table User} (named : users.find? "" = none) :
    ∃ t, s.putUsers users = .ok t :=
  ⟨_, dif_pos named⟩

omit [Platform] in
/-- A stored user can be given another profile. -/
theorem Store.replaceUser_of_identity {s : Store} {user row : User}
    (found : s.directory.users.find? row.id = some row) (live : row.live = true)
    (same : user.issuer = row.issuer ∧ user.subject = row.subject) :
    ∃ t, s.replaceUser row.id user = .ok t := by
  have read : s.directory.getUser row.id = .ok row := by
    rw [Directory.getUser, found]
    exact if_pos live
  have entries : ∀ a : User, Relation.clash a { user with
      id := row.id, createdTime := row.createdTime, updatedTime := s.time,
      deletedAt := row.deletedAt } = true → Relation.clash a row = true := by
    intro a clashes
    simpa [Relation.clash, same.1, same.2] using clashes
  obtain ⟨users, replaced⟩ := Table.replace?_of_clash (t := s.directory.users) (r := { user with
      id := row.id, createdTime := row.createdTime, updatedTime := s.time,
      deletedAt := row.deletedAt }) found entries
  have becomes := Table.becomes_of_replace? replaced found
  have nonempty : "" ≠ row.id := by
    intro empty
    rw [← empty, s.directory.named] at found
    cases found
  have named : users.find? "" = none := by
    rw [becomes.find?, key_user, if_neg nonempty, s.directory.named]
  obtain ⟨t, put⟩ := Store.putUsers_of_named (s := s) named
  refine ⟨t, ?_⟩
  rw [Store.replaceUser, read]
  dsimp only
  rw [replaced]
  exact put

/-- A user with a new ID and identity can be stored. -/
theorem Store.createUser_of_fresh {s : Store} {user : User}
    (valid : Platform.validID user.id = true)
    (fresh : s.directory.users.find? user.id = none)
    (identity : ∀ u ∈ s.directory.users.rows, u.issuer = user.issuer → u.subject = user.subject →
      user.issuer = none ∨ user.subject = none) : ∃ t, s.createUser user = .ok t := by
  have separate : ∀ a ∈ s.directory.users.rows, Separate a
      { user with createdTime := s.time, updatedTime := s.time, deletedAt := none } := by
    intro a member
    refine ⟨fun same => ?_, ?_⟩
    · have found := Table.find?_of_mem member
      rw [same] at found
      exact absurd (found.symm.trans fresh) (by simp)
    · rw [Bool.eq_false_iff]
      intro clashes
      simp only [Relation.clash, sameEntry, Bool.and_eq_true, decide_eq_true_eq,
        Option.isSome_iff_ne_none] at clashes
      obtain ⟨⟨issuer, some⟩, subject, some'⟩ := clashes
      rcases identity a member issuer subject with none | none
      · exact some (issuer.trans none)
      · exact some' (subject.trans none)
  obtain ⟨users, inserted⟩ := Table.insert?_of_separate separate
  have nonempty : "" ≠ user.id := by
    intro empty
    rw [← empty, Platform.validID_empty] at valid
    cases valid
  have named : users.find? "" = none := by
    rw [Table.find?_insert? inserted, key_user, if_neg nonempty, s.directory.named]
  obtain ⟨t, put⟩ := Store.putUsers_of_named (s := s) named
  refine ⟨t, ?_⟩
  rw [Store.createUser, inserted]
  exact put

/-- **A known user** is found and brought up to date. -/
theorem wp_syncUser_identified {id : String} {ok : User → Context Store Event L → Prop}
    (smooth : ∀ n, ω.fault n = false) (known : c.store.directory.Identified p id)
    (found : ∀ user n d, user.id = id → c.store.directory.SameGrants d → d.Identified p id →
      ok user (c.put n { c.store with directory := d })) :
    Tx.wp ω (syncUser p) ok fails c := by
  obtain ⟨user, rest, listed, isUser⟩ := Directory.listUsers_of_identified known
  have here := @Directory.mem_listUsers c.store.directory p.issuer p.subject user
    (by rw [listed]; exact List.mem_cons_self)
  simp only [syncUser, Tx.wp_bind]
  refine Action.wp_query_answer (smooth _) (by rintro _ ⟨⟩) fun rows read => ?_
  rw [Except.ok.injEq, listed] at read
  subst read
  have identity : ¬ (user.issuer ≠ some p.issuer ∨ user.subject ≠ some p.subject) := by
    simp [here.2.2.1, here.2.2.2]
  dsimp only
  rw [if_neg identity]
  split
  · simp only [Tx.wp_bind]
    have written : ∃ t, c.store.replaceUser user.id
        { user with username := p.username, email := p.email, name := p.name } = .ok t :=
      Store.replaceUser_of_identity here.1 here.2.1 ⟨rfl, rfl⟩
    obtain ⟨t, wrote⟩ := written
    refine Action.wp_update_answer (smooth _) (fun e declined => ?_) fun t written => ?_
    · rw [Context.at_store, wrote] at declined
      cases declined
    · obtain ⟨users, named, row, rfl, stored, live, issuer, subject⟩ := Store.replaceUser_ok written
      refine found _ _ _ isUser ⟨rfl, rfl⟩ ⟨row, ?_, live, issuer.trans here.2.2.1,
        subject.trans here.2.2.2⟩
      rw [← isUser]
      exact stored
  · exact found user _ c.store.directory isUser (.refl _) known

/-- **The user of a principal** is the one that its grants name. -/
theorem wp_syncUser_served {ok : User → Context Store Event L → Prop}
    (users : ∀ u ∈ c.store.directory.users.rows, u.live = true)
    (serves : Serves ω c.store.directory)
    (found : ∀ user n d, c.store.directory.SameGrants d → d.Identified p user.id →
      (∀ b ∈ c.store.directory.bindings.rows,
        b.userID = user.id ↔ c.store.directory.Identified p b.userID) →
      ok user (c.put n { c.store with directory := d })) :
    Tx.wp ω (syncUser p) ok fails c := by
  by_cases known : ∃ id, c.store.directory.Identified p id
  · obtain ⟨id, known⟩ := known
    refine wp_syncUser_identified serves.fault known fun user n d isUser same later => ?_
    subst isUser
    refine found user n d same later fun b _ => ⟨fun own => ?_, fun own => own.unique known⟩
    rw [own]
    exact known
  · have unknown : ∀ u ∈ c.store.directory.users.rows, u.issuer = some p.issuer →
        u.subject = some p.subject → False := fun u member issuer subject =>
      known ⟨u.id, u, Table.find?_of_mem member, users u member, issuer, subject⟩
    have listed : c.store.directory.listUsers p.issuer p.subject = [] := by
      refine List.eq_nil_iff_forall_not_mem.mpr fun u member => ?_
      have here := Directory.mem_listUsers member
      exact unknown u (Table.mem_of_find? here.1) here.2.2.1 here.2.2.2
    simp only [syncUser, Tx.wp_bind]
    refine Action.wp_query_answer (serves.fault _) (by rintro _ ⟨⟩) fun rows read => ?_
    rw [Except.ok.injEq, listed] at read
    subst read
    simp only [Tx.wp_bind]
    obtain ⟨drawn, answer, fresh, unnamed⟩ := serves.entropy (c.tick + 1)
    refine Action.wp_random (fun refused => ?_) fun id draws => ?_
    · exact absurd (refused.symm.trans answer) (by simp)
    obtain rfl : drawn = id := Option.some.inj (answer.symm.trans draws)
    refine Action.wp_update_answer (serves.fault _) (fun e declined => ?_) fun t written => ?_
    · have written : ∃ t, c.store.createUser ⟨⟨drawn.val, 0, 0, none⟩, p.username, some p.issuer,
          some p.subject, p.email, p.name⟩ = .ok t :=
        Store.createUser_of_fresh drawn.property fresh fun u member issuer subject =>
          (unknown u member issuer subject).elim
      obtain ⟨t, wrote⟩ := written
      exact absurd (declined.symm.trans wrote) (by simp)
    · obtain ⟨users', named, rfl, stored⟩ := Store.createUser_ok written
      refine found _ _ _ ⟨rfl, rfl⟩ ⟨_, stored, rfl, rfl, rfl⟩ fun b member => ?_
      exact ⟨fun own => absurd own (unnamed b member), fun own => absurd ⟨_, own⟩ known⟩

/-- **The role of a name.** -/
theorem wp_findRole_served {name : String} {role : Role} {ok : Role → Context Store Event L → Prop}
    (smooth : ∀ n, ω.fault n = false) (named : c.store.directory.rolesNamed name = [role])
    (found : ∀ n, ok role (c.at n)) : Tx.wp ω (findRole name) ok fails c := by
  simp only [findRole, Tx.wp_bind]
  refine Action.wp_query_answer (smooth _) (by rintro _ ⟨⟩) fun roles read => ?_
  rw [Except.ok.injEq, ← Directory.rolesNamed, named] at read
  subst read
  exact found _

/-- **A served transaction** answers as its body ends. -/
theorem answer_withTransaction {init : L} {body : Action L Unit} {s : Store} {ok : L → Prop}
    {failed : L → Err → Prop} (smooth : ω.fault 0 = false) (committed : ω.commit = .committed)
    (run : Tx.wp ω body (fun _ c => ok c.locals) (fun e c => failed c.locals e)
      ((Context.start s init).at 1)) :
    (∃ r, (withTransaction init body).answer [ω] s = some (r, none) ∧ ok r) ∨
      ∃ r e, (withTransaction init body).answer [ω] s = some (r, some e) ∧ failed r e := by
  have whole : Tx.wp ω (do Action.query fun _ => .ok (); body) (fun _ c => ok c.locals)
      (fun e c => failed c.locals e) (Context.start s init) := by
    rw [Tx.wp_bind]
    exact Action.wp_query_answer smooth (by rintro _ ⟨⟩) fun _ _ => run
  have concluded := @concluded_of_wp Env Store Event L Err ω.commit .storage ω init _ s _ _ whole
  rw [withTransaction, transact, Proc.answer_once_cons]
  generalize (conclude ω.commit Err.storage _ : Outcome Store Event (L × Option Err)) = o at concluded ⊢
  obtain ⟨store, log, result⟩ := o
  cases concluded with
  | committed ended => exact Or.inl ⟨_, rfl, ended⟩
  | replyLost ended lost => rw [committed] at lost; cases lost
  | rolledBack ended lost => rw [committed] at lost; cases lost
  | failed ended => exact Or.inr ⟨_, _, rfl, ended⟩

end Hypershell
