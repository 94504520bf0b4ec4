import Mathlib.Data.List.Nodup
import Mathlib.Tactic.Common

/-!
# The payload of a message

A payload is one JSON object.  Before it is queued it is read token by token: no object
in it may name a member twice, and containers may be nested 32 levels deep.

## Main definitions

* `Json`, `tokens` — a value, and what the decoder makes of its text
* `validateJSONContainer` — the recursion over the tokens, as the source has it
* `Json.height`, `Json.Distinct` — the levels of a value, and that no member is named twice

## Main results

* `validateObject_tokens` — accepted are the objects with distinct names and at most 32 levels

## Design notes

* A decoder makes tokens of well-formed text only, so the errors of the decoder are those at the
  end of the tokens.
-/

namespace Hypershell.Outbox

/-- `null`, a number or a truth value. -/
inductive Scalar
  | null
  | truth (value : Bool)
  | number (text : String)
  deriving DecidableEq, Repr

mutual

/-- A JSON value. -/
inductive Json
  | scalar (value : Scalar)
  | text (value : String)
  | array (items : Items)
  | object (members : Members)

inductive Items
  | nil
  | cons (head : Json) (tail : Items)

/-- The members of an object, in the order of the text. -/
inductive Members
  | nil
  | cons (name : String) (value : Json) (tail : Members)

end

/-- The two kinds of containers. -/
inductive Container
  | object
  | array
  deriving DecidableEq, Repr

/-- `json.Token`.  Commas and colons are none. -/
inductive Token
  | opening (container : Container)
  | closing (container : Container)
  | text (value : String)
  | scalar (value : Scalar)
  deriving DecidableEq, Repr

mutual

/-- The tokens of a value. -/
def Json.tokens : Json → List Token
  | .scalar value => [.scalar value]
  | .text value => [.text value]
  | .array items => .opening .array :: (items.tokens ++ [.closing .array])
  | .object members => .opening .object :: (members.tokens ++ [.closing .object])

def Items.tokens : Items → List Token
  | .nil => []
  | .cons head tail => head.tokens ++ tail.tokens

def Members.tokens : Members → List Token
  | .nil => []
  | .cons name value tail => .text name :: (value.tokens ++ tail.tokens)

end

/-- The names of the members. -/
def Members.names : Members → List String
  | .nil => []
  | .cons name _ tail => name :: tail.names

mutual

/-- The levels of containers in a value. -/
def Json.height : Json → Nat
  | .array items => items.height + 1
  | .object members => members.height + 1
  | _ => 0

def Items.height : Items → Nat
  | .nil => 0
  | .cons head tail => max head.height tail.height

def Members.height : Members → Nat
  | .nil => 0
  | .cons _ value tail => max value.height tail.height

end

mutual

/-- No object within a value names a member twice. -/
def Json.Distinct : Json → Prop
  | .array items => items.Distinct
  | .object members => members.names.Nodup ∧ members.Distinct
  | _ => True

def Items.Distinct : Items → Prop
  | .nil => True
  | .cons head tail => head.Distinct ∧ tail.Distinct

def Members.Distinct : Members → Prop
  | .nil => True
  | .cons _ value tail => value.Distinct ∧ tail.Distinct

end

/-! ### The recursion of the source -/

/-- `Decoder.More`. -/
def more : List Token → Bool
  | .closing _ :: _ => false
  | [] => false
  | _ => true

/-- The end of a container. -/
def closeContainer (opener : Container) : List Token → Except String (List Token)
  | .closing container :: rest =>
    if container = opener then .ok rest else .error "invalid outbox JSON closing delimiter"
  | _ :: _ => .error "invalid outbox JSON closing delimiter"
  | [] => .error "EOF"

mutual

/-- `validateJSONContainer`: the tokens after the container.  The first number bounds the calls. -/
def validateJSONContainer : Nat → Container → Nat → List Token → Except String (List Token)
  | 0, _, _, _ => .error "EOF"
  | fuel + 1, opener, depth, tokens =>
    if 32 < depth then .error "outbox payload nesting exceeds 32 levels"
    else validateMembers fuel opener depth [] tokens

/-- Its loop, with the names that were read. -/
def validateMembers : Nat → Container → Nat → List String → List Token → Except String (List Token)
  | 0, _, _, _, _ => .error "EOF"
  | fuel + 1, opener, depth, keys, tokens =>
    if more tokens = true then
      match opener with
      | .object =>
        match tokens with
        | .text key :: rest =>
          if key ∈ keys then .error "outbox payload has a duplicate or invalid JSON member"
          else validateValue fuel opener depth (key :: keys) rest
        | _ => .error "outbox payload has a duplicate or invalid JSON member"
      | .array => validateValue fuel opener depth keys tokens
    else closeContainer opener tokens

/-- The value of a turn of the loop, and the turns after it. -/
def validateValue : Nat → Container → Nat → List String → List Token → Except String (List Token)
  | 0, _, _, _, _ => .error "EOF"
  | fuel + 1, opener, depth, keys, tokens =>
    match tokens with
    | .opening container :: rest =>
      match validateJSONContainer fuel container (depth + 1) rest with
      | .error e => .error e
      | .ok rest => validateMembers fuel opener depth keys rest
    | .closing _ :: _ => .error "invalid outbox JSON delimiter"
    | _ :: rest => validateMembers fuel opener depth keys rest
    | [] => .error "EOF"

end

/-- The checks of `validateMessage` that read the tokens of a payload. -/
def validateObject (tokens : List Token) : Except String Unit :=
  match tokens with
  | .opening .object :: rest =>
    match validateJSONContainer (3 * tokens.length + 3) .object 1 rest with
    | .error e => .error e
    | .ok [] => .ok ()
    | .ok (_ :: _) => .error "outbox payload has trailing data"
  | _ => .error "outbox payload must be a JSON object"

/-! ### What is accepted is proper -/

section

variable {fuel depth : Nat} {opener : Container} {keys : List String} {rest out : List Token}

/-- A container checks its depth first. -/
theorem container_ok {tokens : List Token}
    (ok : validateJSONContainer fuel opener depth tokens = .ok out) :
    depth ≤ 32 ∧ ∃ fuel', validateMembers fuel' opener depth [] tokens = .ok out := by
  cases fuel with
  | zero => cases ok
  | succ fuel =>
    rw [validateJSONContainer] at ok
    split_ifs at ok with deep
    exact ⟨Nat.le_of_not_lt deep, fuel, ok⟩

/-- A turn of the loop reads a container and goes on after it. -/
theorem value_container {container : Container} {tokens : List Token}
    (ok : validateValue fuel opener depth keys (.opening container :: tokens) = .ok out) :
    ∃ fuel' after, validateJSONContainer fuel' container (depth + 1) tokens = .ok after ∧
      validateMembers fuel' opener depth keys after = .ok out := by
  cases fuel with
  | zero => cases ok
  | succ fuel =>
    rw [validateValue] at ok
    cases inner : validateJSONContainer fuel container (depth + 1) tokens with
    | error e =>
      rw [inner] at ok
      cases ok
    | ok after =>
      rw [inner] at ok
      exact ⟨fuel, after, inner, ok⟩

/-- The loop ends at the end of its container. -/
theorem members_closing (ok : validateMembers fuel opener depth keys
    (.closing opener :: rest) = .ok out) : out = rest := by
  cases fuel with
  | zero => cases ok
  | succ fuel =>
    have closed : (Except.ok rest : Except String (List Token)) = .ok out := by
      rw [← ok, validateMembers.eq_def]
      dsimp only
      rw [if_neg (show ¬more (.closing opener :: rest) = true from Bool.false_ne_true),
        closeContainer, if_pos rfl]
    cases closed
    rfl

theorem more_text (key : String) (rest : List Token) : more (.text key :: rest) = true := rfl

theorem more_tokens (v : Json) (rest : List Token) : more (v.tokens ++ rest) = true := by
  cases v <;> rfl

mutual

/-- Whatever value is accepted is proper, and the loop goes on after it. -/
theorem value_sound {fuel depth : Nat} {opener : Container} {keys : List String}
    {rest out : List Token} (v : Json) (shallow : depth ≤ 32)
    (ok : validateValue fuel opener depth keys (v.tokens ++ rest) = .ok out) :
    depth + v.height ≤ 32 ∧ v.Distinct ∧
      ∃ fuel', validateMembers fuel' opener depth keys rest = .ok out := by
  match v with
  | .scalar value =>
    cases fuel with
    | zero => cases ok
    | succ fuel => exact ⟨shallow, trivial, fuel, ok⟩
  | .text value =>
    cases fuel with
    | zero => cases ok
    | succ fuel => exact ⟨shallow, trivial, fuel, ok⟩
  | .array items =>
    rw [Json.tokens, List.cons_append, List.append_assoc] at ok
    obtain ⟨fuel', after, inner, later⟩ := value_container ok
    obtain ⟨deep, fuel'', loop⟩ := container_ok inner
    obtain ⟨height, distinct, rfl⟩ := items_sound items deep loop
    rw [Json.height]
    exact ⟨by omega, distinct, fuel', later⟩
  | .object members =>
    rw [Json.tokens, List.cons_append, List.append_assoc] at ok
    obtain ⟨fuel', after, inner, later⟩ := value_container ok
    obtain ⟨deep, fuel'', loop⟩ := container_ok inner
    obtain ⟨height, distinct, once, -, rfl⟩ := members_sound members deep loop
    rw [Json.height]
    exact ⟨by omega, ⟨once, distinct⟩, fuel', later⟩

theorem items_sound {fuel depth : Nat} {keys : List String} {rest out : List Token}
    (items : Items) (shallow : depth ≤ 32)
    (ok : validateMembers fuel .array depth keys (items.tokens ++ .closing .array :: rest) = .ok out) :
    depth + items.height ≤ 32 ∧ items.Distinct ∧ out = rest := by
  match items with
  | .nil => exact ⟨shallow, trivial, members_closing ok⟩
  | .cons head tail =>
    cases fuel with
    | zero => cases ok
    | succ fuel =>
      rw [Items.tokens, List.append_assoc, validateMembers, if_pos (more_tokens head _)] at ok
      obtain ⟨height, distinct, fuel', later⟩ := value_sound head shallow ok
      obtain ⟨height', distinct', same⟩ := items_sound tail shallow later
      rw [Items.height]
      exact ⟨by omega, ⟨distinct, distinct'⟩, same⟩

theorem members_sound {fuel depth : Nat} {keys : List String} {rest out : List Token}
    (members : Members) (shallow : depth ≤ 32)
    (ok : validateMembers fuel .object depth keys (members.tokens ++ .closing .object :: rest) =
      .ok out) :
    depth + members.height ≤ 32 ∧ members.Distinct ∧ members.names.Nodup ∧
      (∀ name ∈ members.names, name ∉ keys) ∧ out = rest := by
  match members with
  | .nil => exact ⟨shallow, trivial, List.nodup_nil, fun _ never => absurd never List.not_mem_nil,
      members_closing ok⟩
  | .cons name value tail =>
    cases fuel with
    | zero => cases ok
    | succ fuel =>
      rw [Members.tokens, List.cons_append, List.append_assoc, validateMembers,
        if_pos (more_text name _)] at ok
      split_ifs at ok with twice
      obtain ⟨height, distinct, fuel', later⟩ := value_sound value shallow ok
      obtain ⟨height', distinct', once, apart, same⟩ := members_sound tail shallow later
      have new' : name ∉ tail.names := fun again => apart name again List.mem_cons_self
      refine ⟨by rw [Members.height]; omega, ⟨distinct, distinct'⟩,
        List.nodup_cons.mpr ⟨new', once⟩, fun other member => ?_, same⟩
      rcases List.mem_cons.mp member with rfl | inside
      · exact twice
      · exact fun known => apart other inside (List.mem_cons_of_mem _ known)

end

/-! ### What is proper is accepted -/

mutual

/-- The calls that a value takes. -/
def Json.calls : Json → Nat
  | .array items => items.calls + 1
  | .object members => members.calls + 1
  | _ => 0

def Items.calls : Items → Nat
  | .nil => 1
  | .cons head tail => max head.calls tail.calls + 2

def Members.calls : Members → Nat
  | .nil => 1
  | .cons _ value tail => max value.calls tail.calls + 2

end

mutual

theorem Json.calls_lt (v : Json) : v.calls + 1 ≤ 3 * v.tokens.length := by
  match v with
  | .scalar value => exact Nat.le_add_left 1 2
  | .text value => exact Nat.le_add_left 1 2
  | .array items =>
    have inner := items.calls_le
    simp only [Json.calls, Json.tokens, List.length_cons, List.length_append, List.length_nil]
    omega
  | .object members =>
    have inner := members.calls_le
    simp only [Json.calls, Json.tokens, List.length_cons, List.length_append, List.length_nil]
    omega

theorem Items.calls_le (items : Items) : items.calls ≤ 3 * items.tokens.length + 1 := by
  match items with
  | .nil => exact Nat.le_refl _
  | .cons head tail =>
    have first := head.calls_lt
    have others := tail.calls_le
    simp only [Items.calls, Items.tokens, List.length_append]
    omega

theorem Members.calls_le (members : Members) : members.calls ≤ 3 * members.tokens.length + 1 := by
  match members with
  | .nil => exact Nat.le_refl _
  | .cons name value tail =>
    have first := value.calls_lt
    have others := tail.calls_le
    simp only [Members.calls, Members.tokens, List.length_cons, List.length_append]
    omega

end

mutual

/-- A proper value is accepted, and the loop goes on after it. -/
theorem value_complete {fuel depth : Nat} {opener : Container} {keys : List String}
    {rest : List Token} (v : Json) (proper : depth + v.height ≤ 32) (distinct : v.Distinct)
    (enough : v.calls ≤ fuel) : validateValue (fuel + 1) opener depth keys (v.tokens ++ rest) =
      validateMembers fuel opener depth keys rest := by
  match v with
  | .scalar value => rfl
  | .text value => rfl
  | .array items =>
    cases fuel with
    | zero => cases enough
    | succ fuel =>
      rw [Json.height] at proper
      have inner : validateJSONContainer (fuel + 1) .array (depth + 1)
          (items.tokens ++ .closing .array :: rest) = .ok rest := by
        rw [validateJSONContainer, if_neg (by omega)]
        exact items_complete items (by omega) distinct (Nat.le_of_succ_le_succ enough)
      rw [Json.tokens, List.cons_append, List.append_assoc, validateValue]
      dsimp only [List.cons_append, List.nil_append]
      rw [inner]
  | .object members =>
    cases fuel with
    | zero => cases enough
    | succ fuel =>
      rw [Json.height] at proper
      have inner : validateJSONContainer (fuel + 1) .object (depth + 1)
          (members.tokens ++ .closing .object :: rest) = .ok rest := by
        rw [validateJSONContainer, if_neg (by omega)]
        exact members_complete members (by omega) distinct.2 distinct.1
          (fun _ _ never => absurd never List.not_mem_nil) (Nat.le_of_succ_le_succ enough)
      rw [Json.tokens, List.cons_append, List.append_assoc, validateValue]
      dsimp only [List.cons_append, List.nil_append]
      rw [inner]

theorem items_complete {fuel depth : Nat} {keys : List String} {rest : List Token}
    (items : Items) (proper : depth + items.height ≤ 32)
    (distinct : items.Distinct) (enough : items.calls ≤ fuel) :
    validateMembers fuel .array depth keys (items.tokens ++ .closing .array :: rest) = .ok rest := by
  match items with
  | .nil =>
    cases fuel with
    | zero => cases enough
    | succ fuel => rfl
  | .cons head tail =>
    rw [Items.height] at proper
    rw [Items.calls] at enough
    obtain ⟨fuel, rfl⟩ : ∃ k, fuel = k + 2 := ⟨fuel - 2, by omega⟩
    rw [Items.tokens, List.append_assoc, validateMembers, if_pos (more_tokens head _)]
    rw [value_complete head (by omega) distinct.1 (by omega)]
    exact items_complete tail (by omega) distinct.2 (by omega)

theorem members_complete {fuel depth : Nat} {keys : List String} {rest : List Token}
    (members : Members) (proper : depth + members.height ≤ 32)
    (distinct : members.Distinct) (once : members.names.Nodup)
    (apart : ∀ name ∈ members.names, name ∉ keys) (enough : members.calls ≤ fuel) :
    validateMembers fuel .object depth keys (members.tokens ++ .closing .object :: rest) =
      .ok rest := by
  match members with
  | .nil =>
    cases fuel with
    | zero => cases enough
    | succ fuel => rfl
  | .cons name value tail =>
    rw [Members.height] at proper
    rw [Members.calls] at enough
    obtain ⟨fuel, rfl⟩ : ∃ k, fuel = k + 2 := ⟨fuel - 2, by omega⟩
    rw [Members.tokens, List.cons_append, List.append_assoc, validateMembers, if_pos (more_text name _)]
    rw [if_neg (apart name List.mem_cons_self), value_complete value (by omega) distinct.1 (by omega)]
    refine members_complete tail (by omega) distinct.2 (List.nodup_cons.mp once).2
      (fun other member known => ?_) (by omega)
    rcases List.mem_cons.mp known with rfl | earlier
    · exact (List.nodup_cons.mp once).1 member
    · exact apart other (List.mem_cons_of_mem _ member) earlier

end

end

/-- **What a payload may be.**  The tokens of a JSON value are accepted if and only if the value is
an object, no object in it names a member twice, and it has at most 32 levels of containers. -/
theorem validateObject_tokens (v : Json) : validateObject v.tokens = .ok () ↔
    (∃ members, v = .object members) ∧ v.height ≤ 32 ∧ v.Distinct := by
  constructor
  · intro ok
    match v with
    | .scalar value => cases ok
    | .text value => cases ok
    | .array items => cases ok
    | .object members =>
      rw [Json.tokens, validateObject] at ok
      split at ok
      · cases ok
      · next inner =>
        obtain ⟨shallow, fuel, loop⟩ := container_ok inner
        obtain ⟨height, distinct, once, -, -⟩ := members_sound members shallow loop
        rw [Json.height]
        exact ⟨⟨members, rfl⟩, by omega, once, distinct⟩
      · cases ok
  · rintro ⟨⟨members, rfl⟩, height, once, distinct⟩
    rw [Json.height] at height
    have calls := members.calls_le
    have inner : ∀ fuel, members.calls ≤ fuel → validateJSONContainer (fuel + 1) .object 1
        (members.tokens ++ [.closing .object]) = .ok [] := by
      intro fuel enough
      rw [validateJSONContainer, if_neg (by omega)]
      exact members_complete members (by omega) distinct once
        (fun _ _ never => absurd never List.not_mem_nil) enough
    rw [Json.tokens, validateObject]
    rw [inner _ (by simp only [List.length_cons, List.length_append, List.length_nil]; omega)]

end Hypershell.Outbox
