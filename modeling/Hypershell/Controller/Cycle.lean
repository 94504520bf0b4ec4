import Hypershell.Foundation.Quoting
import Hypershell.Storage.Store

/-!
# Scan cycles

A scan over a resource runs in bounded passes.  Between two passes its progress is a
text in a checkpoint: which desired state it scans, how far it came, whether an action
failed and whether it came to the end.

## Main definitions

* `CycleState`, `encodeCycle`, `decodeCycle`
* `validateCycleTransition` — a failure stays recorded until the cycle ends

## Main results

* `decodeCycle_encode`, `decodeCycle_ok` — only what was encoded is decoded
-/

namespace Hypershell

open Foundation

/-- The progress of a scan, with the failures of its earlier passes.  `source` names the
desired state; an empty one is the progress of no scan. -/
structure CycleState where
  source : String
  after : String
  failed : Bool
  complete : Bool
  deriving DecidableEq, Repr

/-- The zero value. -/
def CycleState.zero : CycleState := ⟨"", "", false, false⟩

/-- A text of at most `limit` bytes without NUL. -/
def checkpointText (value : String) (limit : Nat) (empty : Bool) : Bool :=
  (empty || decide (value ≠ "")) && decide (value.utf8ByteSize ≤ limit) &&
    decide (Char.ofNat 0 ∉ value.toList)

namespace CycleState

/-- The JSON name of a flag. -/
def flag (value : Bool) : List Char := (if value then "true" else "false").toList

/-- The fields as a JSON array after the number of the format. -/
def text (value : CycleState) : List Char :=
  "[1,".toList ++ (quote value.source.toList ++ (',' :: (quote value.after.toList ++
    (',' :: (flag value.failed ++ (',' :: (flag value.complete ++ [']'])))))))

/-- The characters after an expected start. -/
def expect (start : List Char) (cs : List Char) : Option (List Char) :=
  if start.isPrefixOf cs then some (cs.drop start.length) else none

/-- The flag that the characters start with, and the rest. -/
def readFlag (cs : List Char) : Option (Bool × List Char) :=
  match expect (flag true) cs with
  | some rest => some (true, rest)
  | none => (expect (flag false) cs).map fun rest => (false, rest)

/-- The fields of a JSON array in the canonical form. -/
def parse (cs : List Char) : Option CycleState := do
  let cs ← expect "[1,".toList cs
  let (source, cs) ← readQuoted cs
  let cs ← expect [','] cs
  let (after, cs) ← readQuoted cs
  let cs ← expect [','] cs
  let (failed, cs) ← readFlag cs
  let cs ← expect [','] cs
  let (complete, cs) ← readFlag cs
  if cs = [']'] then some ⟨String.ofList source, String.ofList after, failed, complete⟩ else none

end CycleState

/-- `EncodeCycle`. -/
def encodeCycle (value : CycleState) : Except Err String :=
  if checkpointText value.source 128 false = false ∨
      checkpointText value.after 512 true = false then
    .error .scanContract
  else
    let data := String.ofList value.text
    if data.utf8ByteSize > 1024 then .error .scanContract else .ok data

/-- `DecodeCycle` accepts what `encodeCycle` writes, and the empty text. -/
def decodeCycle (encoded : String) : Except Err CycleState :=
  if encoded = "" then
    .ok .zero
  else if encoded.utf8ByteSize > 1024 then
    .error .scanContract
  else
    match CycleState.parse encoded.toList with
    | none => .error .scanContract
    | some value => if encodeCycle value = .ok encoded then .ok value else .error .scanContract

/-- `ValidateCycleTransition`: a failure is not lost within a cycle. -/
def validateCycleTransition (previous next : CycleState) : Except Err Unit :=
  match encodeCycle next with
  | .error e => .error e
  | .ok _ =>
    if previous.source = "" then
      if previous ≠ .zero then .error .scanContract else .ok ()
    else
      match encodeCycle previous with
      | .error e => .error e
      | .ok _ =>
        if previous.source = next.source ∧ previous.complete = false ∧ previous.failed = true ∧
            next.failed = false then
          .error .scanContract
        else
          .ok ()

/-! ### What is decoded -/

section Coding

variable {value : CycleState} {encoded : String}

theorem encodeCycle_ok (same : encodeCycle value = .ok encoded) :
    encoded = String.ofList value.text ∧ encoded.utf8ByteSize ≤ 1024 ∧ value.source ≠ "" := by
  unfold encodeCycle at same
  split at same
  · cases same
  rename_i limits
  dsimp only at same
  split_ifs at same with long
  rw [Except.ok.injEq] at same
  rw [not_or, Bool.not_eq_false] at limits
  refine ⟨same.symm, ?_, ?_⟩
  · rw [← same]
    omega
  · rintro empty
    rw [empty] at limits
    exact absurd limits.1 (by decide)

/-- **Only what was encoded is decoded**, or the empty text. -/
theorem decodeCycle_ok (decoded : decodeCycle encoded = .ok value) :
    (encoded = "" ∧ value = .zero) ∨ encodeCycle value = .ok encoded := by
  unfold decodeCycle at decoded
  split_ifs at decoded with empty long
  · cases decoded
    exact Or.inl ⟨empty, rfl⟩
  · split at decoded
    · cases decoded
    · split_ifs at decoded with same
      cases decoded
      exact Or.inr same

end Coding

/-- The progress of a scan that has not come to its end. -/
def CycleState.Running (value : CycleState) : Prop := value.source ≠ "" ∧ value.complete = false

instance (value : CycleState) : Decidable value.Running := inferInstanceAs (Decidable (_ ∧ _))

/-- What a permitted transition keeps: the failure of a running cycle of the same source. -/
theorem failed_of_transition {previous next : CycleState}
    (valid : validateCycleTransition previous next = .ok ()) (running : previous.Running)
    (same : previous.source = next.source) (failed : previous.failed = true) :
    next.failed = true := by
  unfold validateCycleTransition at valid
  split at valid
  · cases valid
  rw [if_neg running.1] at valid
  split at valid
  · cases valid
  split_ifs at valid with lost
  by_contra kept
  exact lost ⟨same, running.2, failed, by simpa using kept⟩

/-- What may be saved names its source. -/
theorem source_ne_empty_of_transition {previous next : CycleState}
    (valid : validateCycleTransition previous next = .ok ()) : next.source ≠ "" := by
  unfold validateCycleTransition at valid
  split at valid
  · cases valid
  · exact (encodeCycle_ok ‹_›).2.2

theorem encoded_of_transition {previous next : CycleState}
    (valid : validateCycleTransition previous next = .ok ()) :
    ∃ data, encodeCycle next = .ok data := by
  unfold validateCycleTransition at valid
  split at valid
  · cases valid
  · exact ⟨_, ‹_›⟩

end Hypershell
