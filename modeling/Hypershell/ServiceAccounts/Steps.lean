import Hypershell.ServiceAccounts.Cleanup
import Hypershell.ServiceAccounts.Ledger

/-!
# Rules for the steps of an account transaction

One rule for each step that the account transactions are made of.  Until a
transaction writes, it is `Underway`: neither its working copy nor what a rollback
would leave differs in the account table from the committed store.  After its
writes the working copy has one account row replaced and audit entries added, which
is what `Wrote` says.

## Main definitions

* `Underway`, `Wrote` — a transaction before and after its writes
* `Broke` — a transaction that failed
* `Smooth`, `Env.Quiet` — an environment in which no storage operation fails by
  itself, and one in which nothing moves during the transaction
* `wp_account`, `wp_save`, `wp_audit`, … — the rules
-/

namespace Hypershell

open Foundation

namespace Store.Idle

variable {s t : Store}

theorem clock (idle : s.Idle t) {now : Int} (later : t.time ≤ now) :
    s.Idle { t with time := now } :=
  { idle with time := idle.time.trans later }

theorem putDirectory (idle : s.Idle t) (d : Directory) : s.Idle { t with directory := d } :=
  { idle with }

theorem call (idle : s.Idle t) (event : Event) (others : Directory → Directory) :
    s.Idle (Action.afterCall t event others) :=
  { idle with history := idle.history.trans (List.prefix_append _ _) }

end Store.Idle

variable [Platform] {L : Type}

/-- No storage operation fails by itself and every drawn ID is new to the audit
trail. -/
structure Smooth (ω : Env) (s : Store) : Prop where
  fault : ∀ n, ω.fault n = false
  entropy : ∀ n, ∃ id, ω.entropy n = some id ∧ s.audits.find? id.val = none

theorem Smooth.not_faulty {ω : Env} {s : Store} (smooth : Smooth ω s) : ¬ ω.Faulty := by
  rintro ⟨n, faulty⟩
  rw [smooth.fault n] at faulty
  cases faulty

/-- No time passes and nobody uses the directory during the transaction. -/
structure Env.Quiet (ω : Env) : Prop where
  elapsed : ∀ n, ω.elapsed n = 0
  during : ∀ n d, ω.during n d = d

/-- The transaction has not written.  If it is `alone`, clock and directory did not
move either. -/
structure Underway (ω : Env) (alone : Prop) (s : Store) (c : Context Store Event L) : Prop where
  store : s.Idle c.store
  base : s.Idle c.base
  clock : c.base.time = c.store.time
  alone : alone → ω.Quiet ∧ c.store.directory = s.directory ∧ c.store.time = s.time

/-- The transaction replaced the row `a` by `b` and added audit entries. -/
structure Wrote (ω : Env) (alone : Prop) (s : Store) (c : Context Store Event L)
    (a b : ServiceAccount) (entries : List ServiceAccountAudit) : Prop where
  frame : s.Frame c.store
  base : s.Idle c.base
  accounts : s.accounts.Becomes c.store.accounts a b
  audits : c.store.audits.rows = s.audits.rows ++ entries
  alone : alone → ω.Quiet ∧ c.store.directory = s.directory ∧ c.store.time = s.time

/-- The context `c'` has the events, the variables, the clock and the directory of
`c`. -/
structure Beside (c c' : Context Store Event L) : Prop where
  log : c'.log = c.log
  locals : c'.locals = c.locals
  time : c'.store.time = c.store.time
  directory : c'.store.directory = c.store.directory

/-- The transaction failed after the events of `c` and its base is as idle as
before. -/
structure Broke (s : Store) (c c' : Context Store Event L) : Prop where
  base : s.Idle c'.base
  log : c'.log = c.log
  locals : c'.locals = c.locals

section Contexts

variable {ω : Env} {alone : Prop} {s : Store} {c c' c'' : Context Store Event L}
  {a b : ServiceAccount} {entries : List ServiceAccountAudit}

theorem Underway.start (s : Store) (init : L) (quiet : alone → ω.Quiet) :
    Underway ω alone s (Context.start s init) :=
  ⟨Store.Idle.refl s, Store.Idle.refl s, rfl, fun is => ⟨quiet is, rfl, rfl⟩⟩

theorem Underway.at (underway : Underway ω alone s c) (n : Nat) :
    Underway ω alone s (c.at n) :=
  ⟨underway.store, underway.base, underway.clock, underway.alone⟩

theorem Underway.capture (underway : Underway ω alone s c) (locals : L) :
    Underway ω alone s { c with locals := locals } :=
  ⟨underway.store, underway.base, underway.clock, underway.alone⟩

theorem Wrote.capture (wrote : Wrote ω alone s c a b entries) (locals : L) :
    Wrote ω alone s { c with locals := locals } a b entries :=
  ⟨wrote.frame, wrote.base, wrote.accounts, wrote.audits, wrote.alone⟩

theorem Underway.broke (underway : Underway ω alone s c) (n : Nat) : Broke s c (c.at n) :=
  ⟨underway.base, rfl, rfl⟩

theorem Underway.account? (underway : Underway ω alone s c) (id : String) :
    c.store.account? id = s.account? id :=
  underway.store.account? id

omit [Platform] in
theorem Beside.trans (first : Beside c c') (second : Beside c' c'') : Beside c c'' :=
  ⟨second.log.trans first.log, second.locals.trans first.locals, second.time.trans first.time,
    second.directory.trans first.directory⟩

omit [Platform] in
theorem Broke.after (broke : Broke s c' c'') (beside : Beside c c') : Broke s c c'' :=
  ⟨broke.base, broke.log.trans beside.log, broke.locals.trans beside.locals⟩

end Contexts

section Rules

variable {ω : Env} {alone : Prop} {s : Store} {c : Context Store Event L}
  {fails : Err → Context Store Event L → Prop}

/-- The account of a Gateway is found, or there is none. -/
theorem wp_account_answer {gatewayID id : String}
    {ok : ServiceAccount → Context Store Event L → Prop} (smooth : ω.fault c.tick = false)
    (missing : ∀ n, (∀ row, ¬ c.store.Owns gatewayID id row) → fails .notFound (c.at n))
    (found : ∀ row n, c.store.Owns gatewayID id row → ok row (c.at n)) :
    Tx.wp ω (account gatewayID id) ok fails c := by
  unfold account
  split_ifs with valid
  · rw [Tx.wp_bind]
    refine Action.wp_query_answer smooth ?_ ?_
    · intro e absent
      obtain ⟨rfl, dead⟩ := Store.getAccount_error absent
      refine missing _ fun row owns => ?_
      have alive := dead row owns.stored
      rw [owns.live] at alive
      cases alive
    · intro row stored
      obtain ⟨stored, alive⟩ := Store.getAccount_ok stored
      rw [Tx.wp_ite]
      split_ifs with foreign
      · refine missing _ fun other owns => foreign ?_
        have same : other = row := Option.some.inj (owns.stored.symm.trans stored)
        rw [← same]
        exact owns.gateway
      · exact found row _ ⟨valid, stored, alive, by simpa using foreign⟩
  · exact missing c.tick fun row owns => valid owns.valid

/-- The read of an account may fail by itself, too. -/
theorem wp_account {gatewayID id : String} {ok : ServiceAccount → Context Store Event L → Prop}
    (fault : ω.Faulty → ∀ n, fails .storage (c.at n))
    (missing : ∀ n, (∀ row, ¬ c.store.Owns gatewayID id row) → fails .notFound (c.at n))
    (found : ∀ row n, c.store.Owns gatewayID id row → ok row (c.at n)) :
    Tx.wp ω (account gatewayID id) ok fails c := by
  cases reads : ω.fault c.tick with
  | false => exact wp_account_answer reads missing found
  | true =>
    unfold account
    split_ifs with valid
    · rw [Tx.wp_bind]
      exact Action.wp_query_fault reads (fault ⟨_, reads⟩ _)
    · exact missing c.tick fun row owns => valid owns.valid

/-- The row keeps its unique entries, or gives up its reserved name. -/
def KeepsEntries (old row : ServiceAccount) : Prop :=
  row.clientID = old.clientID ∧ row.gatewayID = old.gatewayID ∧
    (row.activeName = old.activeName ∨ row.activeName = none)

omit [Platform] in
theorem KeepsEntries.clash {old row : ServiceAccount} (keeps : KeepsEntries old row)
    (a : ServiceAccount) (clash : Relation.clash a row = true) :
    Relation.clash a old = true := by
  obtain ⟨client, gateway, name | name⟩ := keeps
  · simpa only [Relation.clash, client, gateway, name] using clash
  · have none_shared : sameEntry a.activeName none = false := by
      cases a.activeName <;> rfl
    simp only [Relation.clash, client, gateway, name, none_shared, Bool.and_false,
      Bool.or_false] at clash
    simp only [Relation.clash, clash, Bool.true_or]

/-- The row that replaces `old` at a time. -/
def ServiceAccount.over (row old : ServiceAccount) (time : Int) : ServiceAccount :=
  { row with
    id := old.id
    createdTime := old.createdTime
    updatedTime := time
    deletedAt := old.deletedAt }

/-- The row takes its place and is read back, by two operations that do not fail. -/
theorem wp_save_exact {row old : ServiceAccount}
    {ok : ServiceAccount → Context Store Event L → Prop}
    (underway : Underway ω alone s c) (stored : s.account? row.id = some old)
    (live : old.live = true) (keeps : KeepsEntries old row)
    (fault : ω.fault c.tick = true ∨ ω.fault (c.tick + 1) = true →
      ∀ c', Broke s c c' → fails .storage c')
    (saved : ω.fault c.tick = false → ω.fault (c.tick + 1) = false → ∀ c',
      c'.tick = c.tick + 2 → Wrote ω alone s c' old (row.over old c.store.time) [] →
      Beside c c' → ok (row.over old c.store.time) c') :
    Tx.wp ω (save row) ok fails c := by
  have here : c.store.account? row.id = some old := (underway.account? _).trans stored
  have sameID : old.id = row.id := Store.id_of_account? stored
  have present : c.store.accounts.find? (Relation.key (row.over old c.store.time)) = some old := by
    have found := here
    rw [← sameID] at found
    exact found
  simp only [save, Tx.wp_bind]
  cases writes : ω.fault c.tick with
  | true => exact Action.wp_update_fault writes (fault (Or.inl writes) _ (underway.broke _))
  | false =>
    refine Action.wp_update_answer writes ?_ ?_
    · intro e declined
      unfold Store.replaceAccount at declined
      rw [Store.getAccount_of_live here live] at declined
      obtain ⟨accounts, replaced⟩ := Table.replace?_of_clash present fun a clash =>
        keeps.clash a clash
      have stored_replacement :
          c.store.accounts.replace? (c.store.replacement old row) = some accounts := replaced
      simp only [stored_replacement] at declined
      cases declined
    · intro t replaced
      obtain ⟨accounts, old', rfl, stored', live', swapped⟩ := Store.replaceAccount_ok replaced
      have same : old' = old := Option.some.inj (stored'.symm.trans here)
      subst same
      have becomes := Table.becomes_of_replace? swapped present
      have reread : ({ c.store with accounts := accounts } : Store).getAccount row.id =
          .ok (row.over old' c.store.time) := by
        refine Store.getAccount_of_live ?_ live'
        have found := becomes.find?_new
        rw [← sameID]
        exact found
      cases reads : ω.fault (c.tick + 1) with
      | true =>
        refine Action.wp_query_fault reads ?_
        exact fault (Or.inr reads) _ ⟨underway.base, rfl, rfl⟩
      | false =>
        refine Action.wp_query_answer reads ?_ ?_
        · intro e absent
          simp only [Context.put_store] at absent
          rw [reread] at absent
          cases absent
        · intro value found
          simp only [Context.put_store] at found
          rw [reread] at found
          cases found
          refine saved writes reads _ rfl
            ⟨{ underway.store.toFrame with }, underway.base, ?_, ?_, underway.alone⟩
            ⟨rfl, rfl, rfl, rfl⟩
          · refine ⟨?_, ?_⟩
            · rw [← underway.store.accounts]
              exact becomes.stored
            · rw [← underway.store.accounts]
              exact becomes.rows
          · show c.store.audits.rows = s.audits.rows ++ []
            rw [underway.store.audits, List.append_nil]

/-- The row takes its place and is read back. -/
theorem wp_save {row old : ServiceAccount} {ok : ServiceAccount → Context Store Event L → Prop}
    (underway : Underway ω alone s c) (stored : s.account? row.id = some old)
    (live : old.live = true) (keeps : KeepsEntries old row)
    (fault : ω.Faulty → ∀ c', Broke s c c' → fails .storage c')
    (saved : ∀ c', Wrote ω alone s c' old (row.over old c.store.time) [] → Beside c c' →
      ok (row.over old c.store.time) c') :
    Tx.wp ω (save row) ok fails c := by
  refine wp_save_exact underway stored live keeps ?_ fun _ _ c' _ => saved c'
  rintro (faulty | faulty)
  · exact fault ⟨_, faulty⟩
  · exact fault ⟨_, faulty⟩

/-- The entry is a report of the account. -/
structure Reports (entry : ServiceAccountAudit) (row : ServiceAccount)
    (actor action outcome : String) : Prop where
  account : entry.serviceAccountID = row.id
  gateway : entry.gatewayID = row.gatewayID
  actor : entry.actorUserID = actor
  action : entry.action = action
  outcome : entry.outcome = outcome

/-- The ID that is drawn is new to the audit trail, and the entry is stored. -/
structure Draws (ω : Env) (tick : Nat) (s : Store) : Prop where
  fault : ω.fault (tick + 1) = false
  entropy : ∃ id, ω.entropy tick = some id ∧ s.audits.find? id.val = none

theorem Smooth.draws (smooth : Smooth ω s) (tick : Nat) : Draws ω tick s :=
  ⟨smooth.fault _, smooth.entropy _⟩

/-- An entry is added to the audit trail exactly if its ID is drawn and it is stored. -/
theorem wp_createAudit {row : ServiceAccount} {actor action outcome : String}
    {ok : Unit → Context Store Event L → Prop}
    (failed : ∀ e n, e ≠ .recursionLimit → ¬ Draws ω c.tick c.store → fails e (c.at n))
    (added : Draws ω c.tick c.store → ∀ audits entry,
      c.store.audits.insert? entry = some audits →
      Reports entry row actor action outcome →
      ok () (c.put (c.tick + 2) { c.store with audits := audits })) :
    Tx.wp ω (audit row actor action outcome) ok fails c := by
  simp only [audit, Tx.wp_bind]
  refine Action.wp_random ?_ ?_
  · intro refused
    refine failed _ _ (by simp) fun draws => ?_
    obtain ⟨id, drawn, -⟩ := draws.entropy
    rw [refused] at drawn
    cases drawn
  · intro id drawn
    cases writes : ω.fault (c.tick + 1) with
    | true =>
      refine Action.wp_update_fault writes (failed _ _ (by simp) fun draws => ?_)
      rw [draws.fault] at writes
      cases writes
    | false =>
      refine Action.wp_update_answer writes ?_ ?_
      · intro e declined
        unfold Store.createAudit at declined
        split at declined
        · cases declined
        · rename_i refused
          cases declined
          refine failed _ _ (by simp) fun draws => ?_
          obtain ⟨id', drawn', fresh⟩ := draws.entropy
          rw [drawn] at drawn'
          cases drawn'
          -- An insertion is declined only for a key that the trail has already.
          refine absurd refused (Option.ne_none_iff_exists'.mpr (Table.insert?_of_separate ?_))
          intro a member
          refine ⟨?_, rfl⟩
          intro same
          have stored := Table.find?_of_mem member
          rw [same] at stored
          exact absurd (fresh.symm.trans stored) (by simp)
      · intro t created
        obtain ⟨audits, rfl, inserted⟩ := Store.createAudit_ok created
        refine added ⟨writes, id, drawn, ?_⟩ audits _ inserted ⟨rfl, rfl, rfl, rfl, rfl⟩
        exact Table.absent_of_insert? inserted

/-- The written row is reported exactly if the entry's ID is drawn and it is stored. -/
theorem wp_audit_exact {a b : ServiceAccount} {actor action outcome : String}
    {ok : Unit → Context Store Event L → Prop} (wrote : Wrote ω alone s c a b [])
    (broke : ∀ e c', e ≠ .recursionLimit → ¬ Draws ω c.tick s → Broke s c c' → fails e c')
    (added : Draws ω c.tick s → ∀ entry c', Reports entry b actor action outcome →
      Wrote ω alone s c' a b [entry] → Beside c c' → ok () c') :
    Tx.wp ω (audit b actor action outcome) ok fails c := by
  have untouched : c.store.audits.rows = s.audits.rows := by
    rw [wrote.audits, List.append_nil]
  have find : ∀ id, c.store.audits.find? id = s.audits.find? id := by
    intro id
    rw [Table.find?, untouched]
    rfl
  refine wp_createAudit ?_ ?_
  · intro e n bounded rough
    refine broke e _ bounded (fun draws => rough ⟨draws.fault, ?_⟩) ⟨wrote.base, rfl, rfl⟩
    obtain ⟨id, drawn, fresh⟩ := draws.entropy
    exact ⟨id, drawn, (find _).trans fresh⟩
  · intro draws audits entry inserted reports
    have drawn : Draws ω c.tick s := by
      obtain ⟨id, drawn, fresh⟩ := draws.entropy
      exact ⟨draws.fault, id, drawn, (find _).symm.trans fresh⟩
    refine added drawn entry _ reports ⟨{ wrote.frame with }, wrote.base, wrote.accounts, ?_,
      wrote.alone⟩ ⟨rfl, rfl, rfl, rfl⟩
    show audits.rows = s.audits.rows ++ [entry]
    rw [Table.rows_of_insert? inserted, untouched]

/-- The written row is reported. -/
theorem wp_audit {a b : ServiceAccount} {actor action outcome : String}
    {ok : Unit → Context Store Event L → Prop} (wrote : Wrote ω alone s c a b [])
    (broke : ∀ e c', e ≠ .recursionLimit → ¬ Smooth ω s → Broke s c c' → fails e c')
    (added : ∀ entry c', Reports entry b actor action outcome →
      Wrote ω alone s c' a b [entry] → Beside c c' → ok () c') :
    Tx.wp ω (audit b actor action outcome) ok fails c :=
  wp_audit_exact wrote
    (fun e c' bounded rough => broke e c' bounded fun smooth => rough (smooth.draws _))
    fun _ => added

/-- The written row is marked as deleted. -/
theorem wp_delete {a b : ServiceAccount} {entries : List ServiceAccountAudit}
    {ok : Unit → Context Store Event L → Prop} (wrote : Wrote ω alone s c a b entries)
    (live : b.live = true)
    (fault : ω.Faulty → ∀ c', Broke s c c' → fails .storage c')
    (deleted : ∀ c', Wrote ω alone s c' a { b with deletedAt := some c.store.time } entries →
      Beside c c' → ok () c') :
    Tx.wp ω (Action.update (Store.deleteAccount b.id)) ok fails c := by
  have stored : c.store.account? b.id = some b := wrote.accounts.find?_new
  have present : c.store.accounts.find?
      (Relation.key { b with deletedAt := some c.store.time }) = some b := stored
  refine Action.wp_update (fun faulty => fault ⟨_, faulty⟩ _ ⟨wrote.base, rfl, rfl⟩) ?_ ?_
  · intro e declined
    unfold Store.deleteAccount at declined
    rw [Store.getAccount_of_live stored live] at declined
    obtain ⟨accounts, replaced⟩ := Table.replace?_of_clash present fun a clash => clash
    simp only [replaced] at declined
    cases declined
  · intro t done
    obtain ⟨accounts, old, rfl, stored', -, swapped⟩ := Store.deleteAccount_ok done
    have same : old = b := Option.some.inj (stored'.symm.trans stored)
    subst same
    exact deleted _ ⟨{ wrote.frame with }, wrote.base,
      wrote.accounts.trans (Table.becomes_of_replace? swapped present) rfl, wrote.audits,
      wrote.alone⟩ ⟨rfl, rfl, rfl, rfl⟩

/-- The clock is read by one operation: nothing but time passes, and none if the
transaction is alone. -/
theorem wp_clock_exact {ok : Int → Context Store Event L → Prop}
    (underway : Underway ω alone s c)
    (read : ∀ t c', Underway ω alone s c' → c.store.time ≤ t → c'.store.time = t →
      c'.store.directory = c.store.directory → c'.log = c.log → c'.locals = c.locals →
      c'.tick = c.tick + 1 → ok t c') :
    Tx.wp ω Action.now ok fails c := by
  refine Action.wp_now fun t passed => ?_
  have later : c.store.time ≤ t := by omega
  have baseLater : c.base.time ≤ t := by rw [underway.clock]; exact later
  refine read t _ ⟨underway.store.clock later, underway.base.clock baseLater, rfl, ?_⟩ later rfl
    rfl rfl rfl rfl
  intro is
  obtain ⟨quiet, directory, time⟩ := underway.alone is
  refine ⟨quiet, directory, ?_⟩
  rw [quiet.elapsed] at passed
  show t = s.time
  omega

theorem wp_clock {ok : Int → Context Store Event L → Prop} (underway : Underway ω alone s c)
    (read : ∀ t c', Underway ω alone s c' → c.store.time ≤ t → c'.store.time = t →
      c'.store.directory = c.store.directory → c'.log = c.log → c'.locals = c.locals →
      ok t c') :
    Tx.wp ω Action.now ok fails c :=
  wp_clock_exact underway fun t c' underway' later now directory log locals _ =>
    read t c' underway' later now directory log locals

/-- The provider answers one operation; other requests use the directory meanwhile, unless
the transaction is alone. -/
theorem wp_call_exact {α : Type} {call : Call} {reply : Env → Nat → Except Err α}
    {ok : Except Err α → Context Store Event L → Prop} (underway : Underway ω alone s c)
    (answered : ∀ answer c', answer = reply ω c.tick → Underway ω alone s c' →
      c'.store.time = c.store.time → c'.locals = c.locals →
      c'.log = c.log ++ [⟨call, c.store.time, answer.isOk⟩] → c'.tick = c.tick + 1 →
      ok answer c') :
    Tx.wp ω (Action.contact call reply) ok fails c := by
  refine Action.wp_contact fun answer replied => ?_
  refine answered answer _ replied
    ⟨underway.store.call _ _, underway.base.call _ _, underway.clock, ?_⟩ rfl rfl rfl rfl
  intro is
  obtain ⟨quiet, directory, time⟩ := underway.alone is
  exact ⟨quiet, (quiet.during _ _).trans directory, time⟩

theorem wp_call {α : Type} {call : Call} {reply : Env → Nat → Except Err α}
    {ok : Except Err α → Context Store Event L → Prop} (underway : Underway ω alone s c)
    (answered : ∀ answer c', answer = reply ω c.tick → Underway ω alone s c' →
      c'.store.time = c.store.time → c'.locals = c.locals →
      c'.log = c.log ++ [⟨call, c.store.time, answer.isOk⟩] → ok answer c') :
    Tx.wp ω (Action.contact call reply) ok fails c :=
  wp_call_exact underway fun answer c' replied underway' time locals log _ =>
    answered answer c' replied underway' time locals log

/-- The access of a principal is resolved: nothing but its user changes.  A
transaction that does so is never taken as alone. -/
theorem wp_resolve {p : Principal} {gatewayID : String}
    {ok : Access → Context Store Event L → Prop} (underway : Underway ω False s c)
    (failed : ∀ e c', Underway ω False s c' → c'.store.time = c.store.time →
      c'.log = c.log → c'.locals = c.locals → fails e c')
    (granted : ∀ access c', Underway ω False s c' → c'.store.time = c.store.time →
      c'.log = c.log → c'.locals = c.locals → access.userID ≠ "" → ok access c') :
    Tx.wp ω (resolveAccess p gatewayID) ok fails c := by
  have step : ∀ n d, Underway ω False s (c.put n { c.store with directory := d }) := fun n d =>
    ⟨underway.store.putDirectory d, underway.base, underway.clock, False.elim⟩
  refine wp_resolveAccess ?_ ?_
  · intro e n d
    exact failed e _ (step n d) rfl rfl rfl
  · intro access n d found
    exact granted access _ (step n d) rfl rfl rfl (Directory.access_userID found).2

/-- A transaction under the Gateway lock runs its body on a live Gateway, after two
operations that did not fail. -/
theorem wp_underGateway {gatewayID : String} {body : Gateway → Action L Unit} {init : L}
    {done : Context Store Event L → Prop} (quiet : alone → ω.Quiet)
    (broke : ∀ e c, e ≠ .recursionLimit →
      ω.fault 0 = true ∨ ω.fault 1 = true ∨
        (∀ g, s.gateway? gatewayID = some g → g.live = false) →
      Broke s (Context.start s init) c → fails e c)
    (run : ∀ g c, s.gateway? gatewayID = some g → g.live = true → Underway ω alone s c →
      Beside (Context.start s init) c → ω.fault 0 = false → ω.fault 1 = false → c.tick = 2 →
      Tx.wp ω (body g) (fun _ => done) fails c) :
    Tx.wp ω (underGateway gatewayID body) (fun _ => done) fails (Context.start s init) := by
  have start : Underway ω alone s (Context.start s init) := .start s init quiet
  simp only [underGateway, Tx.wp_bind]
  cases begun : ω.fault 0 with
  | true =>
    refine Action.wp_query_fault begun ?_
    exact broke _ _ (by simp) (Or.inl begun) (start.broke _)
  | false =>
    refine Action.wp_query_answer begun (fun _ never => nomatch never) fun _ _ => ?_
    cases locks : ω.fault 1 with
    | true =>
      refine Action.wp_query_fault locks ?_
      exact broke _ _ (by simp) (Or.inr (Or.inl locks)) (start.broke _)
    | false =>
      refine Action.wp_query_answer locks ?_ ?_
      · intro e absent
        obtain ⟨rfl, missing⟩ := Store.getGateway_error absent
        exact broke _ _ (by simp) (Or.inr (Or.inr missing)) (start.broke _)
      · intro g found
        obtain ⟨stored, live⟩ := Store.getGateway_ok found
        exact run g _ stored live (start.at _) ⟨rfl, rfl, rfl, rfl⟩ begun locks rfl

/-- The first two operations of a transaction under the Gateway lock fail only in a
rough environment or without a live Gateway. -/
theorem rough_of_fault {gatewayID : String}
    (cause : ω.fault 0 = true ∨ ω.fault 1 = true ∨
      (∀ g, s.gateway? gatewayID = some g → g.live = false)) :
    ¬ Smooth ω s ∨ ∀ g, s.gateway? gatewayID = some g → g.live = false := by
  rcases cause with faulty | faulty | missing
  · exact Or.inl fun smooth => smooth.not_faulty ⟨_, faulty⟩
  · exact Or.inl fun smooth => smooth.not_faulty ⟨_, faulty⟩
  · exact Or.inr missing

end Rules

end Hypershell
