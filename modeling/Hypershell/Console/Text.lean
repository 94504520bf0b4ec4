import Mathlib.Data.List.Basic
import Mathlib.Data.List.DropRight

/-!
# Texts of the web console

## Main definitions

* `isSpace`, `trim` — `String.prototype.trim`
* `join`, `replaceAll` — `Array.prototype.join`, `String.prototype.replaceAll`
* `Locale` — what the host's language decides
-/

namespace Hypershell.Console

/-- What `String.prototype.trim` takes off: white space and line terminators of ECMAScript. -/
def isSpace (c : Char) : Bool :=
  decide (c.val ∈ [0x9, 0xA, 0xB, 0xC, 0xD, 0x20, 0xA0, 0x1680, 0x2028, 0x2029, 0x202F, 0x205F,
    0x3000, 0xFEFF]) || decide (0x2000 ≤ c.val ∧ c.val ≤ 0x200A)

/-- The characters of a trimmed text. -/
def trimChars (cs : List Char) : List Char := (cs.dropWhile isSpace).rdropWhile isSpace

/-- `String.prototype.trim`. -/
def trim (value : String) : String := String.ofList (trimChars value.toList)

/-- `Array.prototype.join`. -/
def join (separator : String) : List String → String
  | [] => ""
  | [part] => part
  | part :: rest => part ++ separator ++ join separator rest

/-- Parts are joined one after the other. -/
theorem join_append (separator : String) {first rest : List String} (some' : first ≠ [])
    (more : rest ≠ []) :
    join separator (first ++ rest) = join separator first ++ separator ++ join separator rest := by
  induction first with
  | nil => exact absurd rfl some'
  | cons part parts ih =>
    cases parts with
    | nil =>
      obtain ⟨next, others, rfl⟩ := List.exists_cons_of_ne_nil more
      rfl
    | cons next others =>
      have joined := ih (List.cons_ne_nil _ _)
      simp only [List.cons_append, join] at joined ⊢
      simp only [joined, String.append_assoc]

/-- `String.prototype.replaceAll` of one character. -/
def replaceAll (value : String) (pattern : Char) (replacement : String) : String :=
  String.ofList (value.toList.flatMap fun c =>
    if c = pattern then replacement.toList else [c])

/-- What the language of the host decides. -/
class Locale where
  /-- `String.prototype.toLocaleLowerCase`. -/
  lower : String → String

end Hypershell.Console
