import Hypershell.Foundation.Quoting
import Mathlib.Tactic.Common

/-!
# Query strings

Names and values in one line of bytes.  A serializer writes each byte that has a meaning there by
its number; a parser cuts the line at the ampersands, each part at its first equals sign, and
reads the bytes back.

## Main definitions

* `percentEncode`, `serialize` — the `application/x-www-form-urlencoded` serializer
* `unescape`, `parse` — the parser
* `utf8`, `text?` — the bytes of a text, and the text of bytes that are UTF-8

## Main results

* `unescape_percentEncode` — the bytes of a part are read back
* `parse_serialize` — the names and values are read back, in their order
-/

namespace Hypershell.Foundation.Query

set_option maxRecDepth 2000

/-- `&`, `=`, `;`, `+`, `%` and the space. -/
def ampersand : UInt8 := 38

def equals : UInt8 := 61

def semicolon : UInt8 := 59

def plus : UInt8 := 43

def percent : UInt8 := 37

def space : UInt8 := 32

/-! ### Writing -/

/-- The bytes that are written as they are: letters, digits, and `*`, `-`, `.` and `_`. -/
def unreserved (b : UInt8) : Bool :=
  decide (48 ≤ b ∧ b ≤ 57 ∨ 65 ≤ b ∧ b ≤ 90 ∨ 97 ≤ b ∧ b ≤ 122) ||
    decide (b = 42 ∨ b = 45 ∨ b = 46 ∨ b = 95)

/-- An upper-case hexadecimal digit. -/
def upperDigit (n : Nat) : UInt8 := UInt8.ofNat (if n < 10 then 48 + n else 55 + n)

/-- One byte. -/
def percentByte (b : UInt8) : List UInt8 :=
  if unreserved b then [b]
  else if b = space then [plus]
  else [percent, upperDigit (b.toNat / 16), upperDigit (b.toNat % 16)]

/-- The bytes of a name or a value. -/
def percentEncode (bytes : List UInt8) : List UInt8 := bytes.flatMap percentByte

/-- A name with its value. -/
def segment (entry : List UInt8 × List UInt8) : List UInt8 :=
  percentEncode entry.1 ++ equals :: percentEncode entry.2

/-- **The serializer.** -/
def serialize (entries : List (List UInt8 × List UInt8)) : List UInt8 :=
  [ampersand].intercalate (entries.map segment)

/-! ### Reading -/

/-- `unhex`, of a digit. -/
def unhex (b : UInt8) : Option Nat :=
  if 48 ≤ b ∧ b ≤ 57 then some (b.toNat - 48)
  else if 65 ≤ b ∧ b ≤ 70 then some (b.toNat - 55)
  else if 97 ≤ b ∧ b ≤ 102 then some (b.toNat - 87)
  else none

/-- `url.QueryUnescape`. -/
def unescape : List UInt8 → Option (List UInt8)
  | [] => some []
  | b :: rest =>
    if b = percent then
      match rest with
      | high :: low :: rest =>
        match unhex high, unhex low with
        | some x, some y => (unescape rest).map (UInt8.ofNat (x * 16 + y) :: ·)
        | _, _ => none
      | _ => none
    else
      (unescape rest).map ((if b = plus then space else b) :: ·)

/-- A part of a query: `none` is an error. -/
def readSegment (part : List UInt8) : Option (List UInt8 × List UInt8) :=
  if semicolon ∈ part then none
  else
    match unescape (part.takeWhile fun b => decide (b ≠ equals)),
      unescape ((part.dropWhile fun b => decide (b ≠ equals)).drop 1) with
    | some name, some value => some (name, value)
    | _, _ => none

/-- **`url.ParseQuery`**, with the values of all names in their order.  Empty parts are none. -/
def parse (query : List UInt8) : Option (List (List UInt8 × List UInt8)) :=
  ((query.splitOn ampersand).filter fun part => decide (part ≠ [])).mapM readSegment

/-! ### The way back -/

theorem unhex_upperDigit {n : Nat} (small : n < 16) : unhex (upperDigit n) = some n := by
  have all : ∀ i : Fin 16, unhex (upperDigit i) = some (i : Nat) := by decide
  exact all ⟨n, small⟩

theorem unescape_cons {b : UInt8} (other : b ≠ percent) (rest : List UInt8) :
    unescape (b :: rest) = (unescape rest).map ((if b = plus then space else b) :: ·) := by
  rw [unescape.eq_def]
  exact if_neg other

/-- A byte is read back, whatever follows. -/
theorem unescape_percentByte (b : UInt8) (rest : List UInt8) :
    unescape (percentByte b ++ rest) = (unescape rest).map (b :: ·) := by
  unfold percentByte
  split_ifs with plain blank
  · have other : b ≠ percent ∧ b ≠ plus := by
      constructor <;> rintro rfl <;> revert plain <;> decide
    rw [List.singleton_append, unescape_cons other.1, if_neg other.2]
  · rw [List.singleton_append, unescape_cons (by decide), if_pos rfl, blank]
  · have small : b.toNat < 256 := b.toNat_lt
    have whole : b.toNat / 16 * 16 + b.toNat % 16 = b.toNat := by omega
    show unescape (percent :: upperDigit (b.toNat / 16) :: upperDigit (b.toNat % 16) :: rest) = _
    rw [unescape, if_pos rfl]
    simp only [unhex_upperDigit (show b.toNat / 16 < 16 by omega),
      unhex_upperDigit (show b.toNat % 16 < 16 by omega), whole, UInt8.ofNat_toNat]

/-- **The bytes are read back.** -/
theorem unescape_percentEncode (bytes : List UInt8) :
    unescape (percentEncode bytes) = some bytes := by
  induction bytes with
  | nil => rfl
  | cons b bytes ih =>
    have first : percentEncode (b :: bytes) = percentByte b ++ percentEncode bytes := rfl
    rw [first, unescape_percentByte, ih]
    rfl

theorem upperDigit_plain {n : Nat} (small : n < 16) :
    ∀ b ∈ [ampersand, equals, semicolon], upperDigit n ≠ b := by
  have all : ∀ i : Fin 16, ∀ b ∈ [ampersand, equals, semicolon], upperDigit i ≠ b := by decide
  exact all ⟨n, small⟩

/-- No separator is written for a byte. -/
theorem percentEncode_plain {separator : UInt8}
    (separates : separator ∈ [ampersand, equals, semicolon]) (bytes : List UInt8) :
    separator ∉ percentEncode bytes := by
  intro inside
  obtain ⟨b, -, written⟩ := List.mem_flatMap.mp inside
  unfold percentByte at written
  have small : b.toNat < 256 := b.toNat_lt
  split_ifs at written with plain blank
  · obtain rfl := List.mem_singleton.mp written
    have reserved : ∀ b ∈ [ampersand, equals, semicolon], unreserved b = false := by decide
    rw [reserved _ separates] at plain
    cases plain
  · rw [List.mem_singleton.mp written] at separates
    exact absurd separates (by decide)
  · rcases List.mem_cons.mp written with rfl | digit
    · exact absurd separates (by decide)
    rcases List.mem_cons.mp digit with high | digit
    · exact upperDigit_plain (by omega) _ separates high.symm
    · exact upperDigit_plain (by omega) _ separates (List.mem_singleton.mp digit).symm

theorem takeWhile_append_cons {α : Type} {p : α → Bool} {l : List α} {a : α} (rest : List α)
    (all : ∀ b ∈ l, p b = true) (stop : p a = false) :
    (l ++ a :: rest).takeWhile p = l ∧ (l ++ a :: rest).dropWhile p = a :: rest := by
  constructor
  · rw [List.takeWhile_append_of_pos all, List.takeWhile_cons_of_neg (by simp [stop]),
      List.append_nil]
  · rw [List.dropWhile_append_of_pos all, List.dropWhile_cons_of_neg (by simp [stop])]

/-- A name and its value are read back. -/
theorem readSegment_segment (entry : List UInt8 × List UInt8) :
    readSegment (segment entry) = some entry := by
  have known : ∀ b ∈ percentEncode entry.1, decide (b ≠ equals) = true := by
    intro b inside
    rw [decide_eq_true_eq]
    rintro rfl
    exact percentEncode_plain (by decide) entry.1 inside
  obtain ⟨name, value⟩ := takeWhile_append_cons (percentEncode entry.2) known
    (show decide (equals ≠ equals) = false by decide)
  have plain : semicolon ∉ segment entry := by
    intro inside
    rcases List.mem_append.mp inside with first | second
    · exact percentEncode_plain (by decide) entry.1 first
    · rcases List.mem_cons.mp second with same | second
      · exact absurd same (by decide)
      · exact percentEncode_plain (by decide) entry.2 second
  unfold readSegment
  rw [if_neg plain]
  unfold segment
  rw [name, value, List.drop_succ_cons, List.drop_zero, unescape_percentEncode,
    unescape_percentEncode]

/-- **The names and values are read back.** -/
theorem parse_serialize (entries : List (List UInt8 × List UInt8)) :
    parse (serialize entries) = some entries := by
  cases entries with
  | nil => rfl
  | cons first others =>
    have apart : ∀ part ∈ (first :: others).map segment, ampersand ∉ part := by
      intro part member inside
      obtain ⟨entry, -, rfl⟩ := List.mem_map.mp member
      rcases List.mem_append.mp inside with name | value
      · exact percentEncode_plain (by decide) entry.1 name
      · rcases List.mem_cons.mp value with same | value
        · exact absurd same (by decide)
        · exact percentEncode_plain (by decide) entry.2 value
    have whole : ∀ part ∈ (first :: others).map segment, decide (part ≠ []) = true := by
      intro part member
      obtain ⟨entry, -, rfl⟩ := List.mem_map.mp member
      simp [segment]
    unfold parse serialize
    rw [List.splitOn_intercalate ampersand apart (by simp), List.filter_eq_self.mpr whole]
    induction first :: others with
    | nil => rfl
    | cons entry rest ih => simp [List.mapM_cons, readSegment_segment, ih]

/-! ### Texts -/

/-- The bytes of a text. -/
def utf8 (text : String) : List UInt8 := text.toByteArray.data.toList

/-- The text of some bytes. -/
def text? (bytes : List UInt8) : Option String := String.fromUTF8? ⟨bytes.toArray⟩

/-- A text is read back. -/
@[simp] theorem text?_utf8 (text : String) : text? (utf8 text) = some text := by
  show String.fromUTF8? text.toByteArray = some text
  rw [String.fromUTF8?, dif_pos text.isValidUTF8]
  rfl

end Hypershell.Foundation.Query
