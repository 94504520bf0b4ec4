import Hypershell.Storage.Store

/-!
# Effect bindings

A binding registers the digest of an external effect of a Gateway before the effect
is used.  It is never replaced, and once it is closed no digest can be registered.

## Main definitions

* `EffectBinding`, `Store.loadEffectBinding`
* `bindEffect`, `closeEffectBinding` — the two writes, each with its rule

## Main results

* `insertEffect_ok`, `closeEffect_ok` — a write keeps the digest and the closure of a
  binding and touches no other
-/

namespace Hypershell

open Foundation

/-- What `LoadEffectBinding` reports. -/
structure EffectBinding where
  present : Bool
  digest : String
  closed : Bool
  deriving DecidableEq, Repr

/-- The zero value: no binding. -/
def EffectBinding.absent : EffectBinding := ⟨false, "", false⟩

/-- A digest has 64 lower-case hexadecimal digits. -/
def validEffectDigest (value : String) : Bool :=
  decide (value.utf8ByteSize = 64) &&
    value.toList.all fun ch => decide ('0' ≤ ch ∧ ch ≤ '9' ∨ 'a' ≤ ch ∧ ch ≤ 'f')

theorem validEffectDigest_empty : validEffectDigest "" = false := by decide

/-- A text that a key of an effect may have as a part. -/
def validKeyPart (value : String) (limit : Nat) : Bool :=
  decide (value ≠ "") && decide (value.utf8ByteSize ≤ limit) &&
    decide (Char.ofNat 0 ∉ value.toList)

/-- The key of a Gateway's effect. -/
def validEffectKey (id scope : String) : Bool := validKeyPart id 256 && validKeyPart scope 128

namespace Store

/-- The registration of an effect, if there is one. -/
def effect? (s : Store) (id scope : String) : Option EffectRow := s.effects.find? (id, scope)

/-- `readEffectBinding`. -/
def readEffectBinding (id scope : String) (s : Store) : Except Err EffectBinding :=
  match s.effect? id scope with
  | none => .ok .absent
  | some row =>
    if validEffectDigest row.digest = false ∧ ¬ (row.closed = true ∧ row.digest = "") then
      .error .effectBinding
    else
      .ok ⟨true, row.digest, row.closed⟩

/-- `LoadEffectBinding(ctx, "Gateway", id, scope)`. -/
def loadEffectBinding (id scope : String) (s : Store) : Except Err EffectBinding :=
  if validEffectKey id scope = false then .error .effectBinding else s.readEffectBinding id scope

/-- `INSERT … ON CONFLICT DO NOTHING` of an open binding. -/
def insertEffect (id scope digest : String) (s : Store) : Except Err Store :=
  match s.effect? id scope with
  | some _ => .ok s
  | none =>
    match s.effects.insert? ⟨id, scope, digest, false⟩ with
    | some effects => .ok { s with effects := effects }
    | none => .error .storage

/-- `INSERT … ON CONFLICT DO UPDATE SET closed=true`: an absent binding is closed
without a digest. -/
def closeEffect (id scope : String) (s : Store) : Except Err Store :=
  match s.effect? id scope with
  | some row =>
    if row.closed then
      .ok s
    else
      match s.effects.replace? { row with closed := true } with
      | some effects => .ok { s with effects := effects }
      | none => .error .storage
  | none =>
    match s.effects.insert? ⟨id, scope, "", true⟩ with
    | some effects => .ok { s with effects := effects }
    | none => .error .storage

end Store

variable [Platform] {L : Type}

/-- `BindEffect(ctx, "Gateway", id, scope, digest)`. -/
def bindEffect (id scope digest : String) : Action L EffectBinding := do
  Tx.require (validEffectKey id scope = true ∧ validEffectDigest digest = true) .effectBinding
  Action.update (Store.insertEffect id scope digest)
  let result ← Action.query (Store.readEffectBinding id scope)
  Tx.require (result.present = true ∧ result.closed = false ∧ result.digest = digest)
    .effectBindingConflict
  return result

/-- `CloseEffectBinding(ctx, "Gateway", id, scope)`. -/
def closeEffectBinding (id scope : String) : Action L EffectBinding := do
  Tx.require (validEffectKey id scope = true) .effectBinding
  Action.update (Store.closeEffect id scope)
  let result ← Action.query (Store.readEffectBinding id scope)
  Tx.require (result.present = true ∧ result.closed = true) .effectBinding
  return result

/-! ### What the writes keep -/

section Spec

variable {s t u : Store} {id scope digest : String}

omit [Platform] in
theorem Store.readEffectBinding_ok {binding : EffectBinding}
    (read : s.readEffectBinding id scope = .ok binding) :
    (binding = .absent ∧ s.effect? id scope = none) ∨
    (binding.present = true ∧
      s.effect? id scope = some ⟨id, scope, binding.digest, binding.closed⟩) := by
  unfold Store.readEffectBinding at read
  split at read
  · rename_i missing
    cases read
    exact Or.inl ⟨rfl, missing⟩
  · rename_i row found
    split_ifs at read
    cases read
    have key : Relation.key row = (id, scope) := Table.key_of_find? found
    obtain ⟨resourceID, scope', digest, closed⟩ := row
    cases key
    exact Or.inr ⟨rfl, found⟩

omit [Platform] in
/-- A binding is read as it is stored. -/
theorem Store.loadEffectBinding_ok {binding : EffectBinding}
    (read : s.loadEffectBinding id scope = .ok binding) :
    (binding = .absent ∧ s.effect? id scope = none) ∨
    (binding.present = true ∧
      s.effect? id scope = some ⟨id, scope, binding.digest, binding.closed⟩) := by
  unfold loadEffectBinding at read
  split_ifs at read
  exact readEffectBinding_ok read

/-- A digest is never replaced and a closed binding is never opened. -/
structure Store.EffectsLater (s t : Store) : Prop where
  kept : ∀ id scope row, s.effect? id scope = some row →
    ∃ row', t.effect? id scope = some row' ∧ row'.digest = row.digest ∧
      (row.closed = true → row'.closed = true)

/-- A write of one binding. -/
structure Store.Touches (s : Store) (id scope : String) (t : Store) : Prop
    extends Store.EffectsLater s t where
  only : ∃ effects, t = { s with effects := effects }
  others : ∀ id' scope', (id', scope') ≠ (id, scope) → t.effect? id' scope' = s.effect? id' scope'

omit [Platform] in
theorem Store.EffectsLater.refl (s : Store) : s.EffectsLater s :=
  ⟨fun _ _ row found => ⟨row, found, rfl, fun closed => closed⟩⟩

omit [Platform] in
theorem Store.EffectsLater.trans (first : s.EffectsLater t) (second : t.EffectsLater u) :
    s.EffectsLater u := by
  refine ⟨fun id scope row found => ?_⟩
  obtain ⟨row', found', same, closed⟩ := first.kept id scope row found
  obtain ⟨row'', found'', same', closed'⟩ := second.kept id scope row' found'
  exact ⟨row'', found'', same'.trans same, fun is => closed' (closed is)⟩

omit [Platform] in
theorem Store.Touches.refl (s : Store) (id scope : String) : s.Touches id scope s :=
  ⟨.refl s, ⟨s.effects, rfl⟩, fun _ _ _ => rfl⟩

omit [Platform] in
theorem Store.Touches.trans (first : s.Touches id scope t) (second : t.Touches id scope u) :
    s.Touches id scope u := by
  obtain ⟨effects, rfl⟩ := first.only
  obtain ⟨effects', rfl⟩ := second.only
  refine ⟨first.toEffectsLater.trans second.toEffectsLater, ⟨effects', rfl⟩, ?_⟩
  intro id' scope' other
  exact (second.others id' scope' other).trans (first.others id' scope' other)

omit [Platform] in
/-- A write of one row touches its binding, if it keeps what was registered there. -/
theorem Store.touches_of_find {effects : Table EffectRow} {row : EffectRow}
    (find : ∀ key, effects.find? key = if key = (id, scope) then some row
      else s.effects.find? key)
    (keeps : ∀ old, s.effect? id scope = some old →
      row.digest = old.digest ∧ (old.closed = true → row.closed = true)) :
    s.Touches id scope { s with effects := effects } := by
  refine ⟨⟨fun id' scope' old found => ?_⟩, ⟨effects, rfl⟩, fun id' scope' other => ?_⟩
  · by_cases here : (id', scope') = (id, scope)
    · cases here
      obtain ⟨same, closed⟩ := keeps old found
      exact ⟨row, (find _).trans (if_pos rfl), same, closed⟩
    · exact ⟨old, ((find _).trans (if_neg here)).trans found, rfl, fun closed => closed⟩
  · exact (find _).trans (if_neg other)

omit [Platform] in
/-- **Registration**: a binding that is there stays as it is. -/
theorem Store.insertEffect_ok (inserted : s.insertEffect id scope digest = .ok t) :
    s.Touches id scope t := by
  unfold insertEffect at inserted
  split at inserted
  · cases inserted
    exact .refl s id scope
  · rename_i missing
    split at inserted
    · rename_i effects insertion
      cases inserted
      refine touches_of_find (Table.find?_insert? insertion) fun old found => ?_
      cases found.symm.trans missing
    · cases inserted

omit [Platform] in
/-- **Closure**: a closed binding stays as it is. -/
theorem Store.closeEffect_ok (closed : s.closeEffect id scope = .ok t) :
    s.Touches id scope t ∧
      (∃ row, t.effect? id scope = some row ∧ row.closed = true ∧
        ((s.effect? id scope).isNone = true → row.digest = "")) ∧
      (∀ row, s.effect? id scope = some row → row.closed = true → t = s) := by
  unfold closeEffect at closed
  split at closed
  · rename_i row found
    split_ifs at closed with before
    · cases closed
      refine ⟨.refl s id scope, ⟨row, found, before, fun missing => ?_⟩, fun _ _ _ => rfl⟩
      rw [found] at missing
      cases missing
    · split at closed
      · rename_i effects replaced
        cases closed
        have key : Relation.key row = (id, scope) := Table.key_of_find? found
        have becomes := Table.becomes_of_replace? replaced (by
          show s.effects.find? (Relation.key row) = some row
          rw [key]
          exact found)
        have find : ∀ k, effects.find? k = if k = (id, scope) then some { row with closed := true }
            else s.effects.find? k := by
          intro k
          rw [becomes.find?, ← key]
          rfl
        refine ⟨touches_of_find find ?_, ⟨_, (find _).trans (if_pos rfl), rfl, ?_⟩, ?_⟩
        · intro old stored
          cases found.symm.trans stored
          exact ⟨rfl, fun _ => rfl⟩
        · intro missing
          rw [found] at missing
          cases missing
        · intro old stored is
          cases found.symm.trans stored
          exact absurd is before
      · cases closed
  · rename_i missing
    split at closed
    · rename_i effects insertion
      cases closed
      have find := Table.find?_insert? insertion
      refine ⟨touches_of_find find ?_, ⟨_, (find _).trans (if_pos rfl), rfl, fun _ => rfl⟩, ?_⟩
      · intro old found
        cases found.symm.trans missing
      · intro old found
        cases found.symm.trans missing
    · cases closed

variable {ω : Env} {c : Context Store Event L} {ok : EffectBinding → Context Store Event L → Prop}
  {fails : Err → Context Store Event L → Prop}

/-- A registration ends with an open binding of the digest. -/
theorem wp_bindEffect (failed : ∀ e n t, fails e (c.put n t))
    (bound : ∀ n t, c.store.Touches id scope t →
      t.effect? id scope = some ⟨id, scope, digest, false⟩ → ok ⟨true, digest, false⟩ (c.put n t)) :
    Tx.wp ω (bindEffect id scope digest) ok fails c := by
  simp only [bindEffect, Tx.wp_bind]
  rw [Tx.wp_require]
  split_ifs
  swap
  · exact failed _ c.tick c.store
  refine Action.wp_update (fun _ => failed _ _ c.store) (fun _ _ => failed _ _ c.store) ?_
  intro t inserted
  refine Action.wp_query (fun _ => failed _ _ t) (fun _ _ => failed _ _ t) fun binding read => ?_
  rw [Tx.wp_require]
  by_cases held : binding.present = true ∧ binding.closed = false ∧ binding.digest = digest
  swap
  · rw [if_neg held]
    exact failed _ _ t
  rw [if_pos held]
  obtain ⟨present, digest', closed⟩ := binding
  obtain ⟨rfl, rfl, rfl⟩ := held
  rcases Store.readEffectBinding_ok read with ⟨never, -⟩ | ⟨-, found⟩
  · cases never
  · exact bound _ t (Store.insertEffect_ok inserted) found

/-- A closure ends with a closed binding. -/
theorem wp_closeEffectBinding (failed : ∀ e n t, fails e (c.put n t))
    (closed : ∀ binding n t, c.store.closeEffect id scope = .ok t → ok binding (c.put n t)) :
    Tx.wp ω (closeEffectBinding id scope) ok fails c := by
  simp only [closeEffectBinding, Tx.wp_bind]
  rw [Tx.wp_require]
  split_ifs
  swap
  · exact failed _ c.tick c.store
  refine Action.wp_update (fun _ => failed _ _ c.store) (fun _ _ => failed _ _ c.store) ?_
  intro t updated
  refine Action.wp_query (fun _ => failed _ _ t) (fun _ _ => failed _ _ t) fun binding _ => ?_
  rw [Tx.wp_require]
  split_ifs
  · exact closed _ _ t updated
  · exact failed _ _ t

end Spec

end Hypershell
