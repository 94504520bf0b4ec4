import Hypershell.Foundation.Quoting
import Mathlib.Data.List.Basic
import Mathlib.Tactic.Common

/-!
# Token recognition of the shell

What a POSIX shell reads from the text of a program: its words, with the quoting of every
character and the expansions in them, and the operators between them.  Characters are read one
at a time, so what a text does is what its parts do in turn.

## Main definitions

* `Piece`, `Token` — words and operators; a command substitution has tokens of its own
* `State`, `step`, `run` — the reader
* `tokenize` — the tokens of a program
* `Token.literal` — the text of a word in which nothing is expanded

## Main results

* `run_append` — a text is read part by part
* `run_ordinary` — characters without a meaning become part of the word
* `run_single` — so does everything between single quotes

## Design notes

Here-documents, backquotes, `$((`, `$'` and quoting inside `${…}` are not read: a program that
has them has no tokens.  A `case` pattern inside a command substitution is not recognized.
-/

namespace Hypershell.Foundation.Shell

mutual

/-- A part of a word, after quote removal. -/
inductive Piece
  /-- A character of the text, and whether it was quoted. -/
  | char (c : Char) (quoted : Bool)
  /-- `$name` or `${…}`. -/
  | parameter (expression : List Char) (quoted : Bool)
  /-- `$(…)`. -/
  | command (tokens : List Token) (quoted : Bool)

/-- What a program consists of. -/
inductive Token
  | word (pieces : List Piece)
  | operator (chars : List Char)

end

/-- The apostrophe. -/
def apostrophe : Char := Char.ofNat 0x27

/-- The grave accent. -/
def backquote : Char := Char.ofNat 0x60

def newline : Char := Char.ofNat 0x0A

/-- A space or a tab. -/
def isBlank (c : Char) : Bool := decide (c = ' ' ∨ c = Char.ofNat 0x09)

/-- The characters that begin an operator, parentheses and newlines apart. -/
def isOperator (c : Char) : Bool := decide (c ∈ ['&', '|', ';', '<', '>'])

/-- The operators of more than one character. -/
def longOperators : List (List Char) :=
  [['&', '&'], ['|', '|'], [';', ';'], ['<', '<'], ['>', '>'], ['<', '&'], ['>', '&'],
    ['<', '>'], ['>', '|']]

/-- The first character of a name. -/
def isNameStart (c : Char) : Bool := c.isAlpha || decide (c = '_')

def isNameChar (c : Char) : Bool := c.isAlphanum || decide (c = '_')

/-- The parameters with a name of one character that is not a letter. -/
def isSpecialParameter (c : Char) : Bool :=
  c.isDigit || decide (c ∈ ['@', '*', '#', '?', '-', '$', '!'])

/-- How the reader takes the next character. -/
inductive Mode
  | plain
  | single
  | double
  | comment
  /-- After a dollar sign. -/
  | dollar (quoted : Bool)
  | name (quoted : Bool) (chars : List Char)
  | brace (quoted : Bool) (chars : List Char)
  | operator (chars : List Char)
  /-- After the parenthesis that begins a command substitution. -/
  | opened
  /-- After a backslash. -/
  | escaped (before : Mode)
  /-- What is not read. -/
  | failed

/-- A word in which a command substitution stands. -/
structure Frame where
  tokens : List Token
  word : List Piece
  depth : Nat
  quoted : Bool

/-- What has been read: the tokens, the word that goes on, and the parentheses that are open. -/
@[ext]
structure Context where
  tokens : List Token
  word : Option (List Piece)
  depth : Nat
  stack : List Frame

/-- **The reader.** -/
structure State where
  mode : Mode
  context : Context

namespace Context

/-- Nothing has been read. -/
def empty : Context := ⟨[], none, 0, []⟩

/-- The word goes on, or begins. -/
def push (k : Context) (pieces : List Piece) : Context :=
  { k with word := some (k.word.getD [] ++ pieces) }

/-- The word is over, if there is one. -/
def endWord (k : Context) : Context :=
  match k.word with
  | none => k
  | some pieces => { k with tokens := k.tokens ++ [.word pieces], word := none }

/-- An operator stands after the words. -/
def emit (k : Context) (chars : List Char) : Context :=
  { k.endWord with tokens := k.endWord.tokens ++ [.operator chars] }

/-- A command substitution begins. -/
def enter (k : Context) (quoted : Bool) : Context :=
  ⟨[], none, 0, ⟨k.tokens, k.word.getD [], k.depth, quoted⟩ :: k.stack⟩

end Context

namespace State

/-- Quoted or not, the text goes on. -/
def base (quoted : Bool) : Mode := if quoted then .double else .plain

/-- The end of a subshell, or of a command substitution. -/
def close (k : Context) : State :=
  if 0 < k.depth then
    ⟨.plain, { k.emit [')'] with depth := k.depth - 1 }⟩
  else
    match k.stack with
    | [] => ⟨.failed, k⟩
    | frame :: rest =>
      ⟨base frame.quoted,
        { tokens := frame.tokens
          word := some (frame.word ++ [.command k.endWord.tokens frame.quoted])
          depth := frame.depth, stack := rest }⟩

/-- One character outside quotes. -/
def plain (k : Context) (c : Char) : State :=
  if c = backslash then ⟨.escaped .plain, k⟩
  else if c = apostrophe then ⟨.single, k.push []⟩
  else if c = quotation then ⟨.double, k.push []⟩
  else if c = '$' then ⟨.dollar false, k⟩
  else if c = backquote then ⟨.failed, k⟩
  else if c = newline then ⟨.plain, k.emit [newline]⟩
  else if isBlank c then ⟨.plain, k.endWord⟩
  else if isOperator c then ⟨.operator [c], k.endWord⟩
  else if c = '(' then ⟨.plain, { k.emit ['('] with depth := k.depth + 1 }⟩
  else if c = ')' then close k
  else if c = '#' ∧ k.word.isNone then ⟨.comment, k⟩
  else ⟨.plain, k.push [.char c false]⟩

/-- One character between quotation marks. -/
def double (k : Context) (c : Char) : State :=
  if c = backslash then ⟨.escaped .double, k⟩
  else if c = quotation then ⟨.plain, k⟩
  else if c = '$' then ⟨.dollar true, k⟩
  else if c = backquote then ⟨.failed, k⟩
  else ⟨.double, k.push [.char c true]⟩

/-- One character, quoted or not. -/
def read (k : Context) (quoted : Bool) (c : Char) : State :=
  if quoted then double k c else plain k c

/-- What was begun and does not go on is over. -/
def settle (k : Context) : Mode → Context
  | .dollar quoted => k.push [.char '$' quoted]
  | .name quoted chars => k.push [.parameter chars quoted]
  | .operator chars => k.emit chars
  | _ => k

/-- Whether a mode stands between quotation marks. -/
def inQuotes : Mode → Bool
  | .double => true
  | .dollar quoted => quoted
  | .name quoted _ => quoted
  | _ => false

/-- The character after a backslash.  Between quotation marks the backslash stays unless the
character has a meaning there. -/
def escape (k : Context) (before : Mode) (c : Char) : State :=
  if inQuotes before ∧ c ∉ ['$', backquote, quotation, backslash] then
    ⟨.double, (settle k before).push [.char backslash true, .char c true]⟩
  else
    ⟨base (inQuotes before), (settle k before).push [.char c true]⟩

/-- The character after a dollar sign. -/
def dollar (k : Context) (quoted : Bool) (c : Char) : State :=
  if c = '{' then ⟨.brace quoted [], k⟩
  else if c = '(' then ⟨.opened, k.enter quoted⟩
  else if isNameStart c then ⟨.name quoted [c], k⟩
  else if isSpecialParameter c then ⟨base quoted, k.push [.parameter [c] quoted]⟩
  else if quoted = false ∧ (c = apostrophe ∨ c = quotation) then ⟨.failed, k⟩
  else read (settle k (.dollar quoted)) quoted c

/-- **One character.** -/
def step (s : State) (c : Char) : State :=
  match s.mode with
  | .plain => plain s.context c
  | .double => double s.context c
  | .single =>
    if c = apostrophe then ⟨.plain, s.context⟩ else ⟨.single, s.context.push [.char c true]⟩
  | .comment => if c = newline then ⟨.plain, s.context.emit [newline]⟩ else s
  | .dollar quoted =>
    if c = backslash then ⟨.escaped s.mode, s.context⟩ else dollar s.context quoted c
  | .name quoted chars =>
    if c = backslash then ⟨.escaped s.mode, s.context⟩
    else if isNameChar c then ⟨.name quoted (chars ++ [c]), s.context⟩
    else read (settle s.context s.mode) quoted c
  | .brace quoted chars =>
    if c = '}' then ⟨base quoted, s.context.push [.parameter chars quoted]⟩
    else if c ∈ [backslash, apostrophe, quotation, backquote, '$'] then ⟨.failed, s.context⟩
    else ⟨.brace quoted (chars ++ [c]), s.context⟩
  | .operator chars =>
    if c = backslash then ⟨.escaped s.mode, s.context⟩
    else if chars ++ [c] = ['<', '<'] then ⟨.failed, s.context⟩
    else if chars ++ [c] ∈ longOperators then ⟨.operator (chars ++ [c]), s.context⟩
    else plain (settle s.context s.mode) c
  | .opened => if c = '(' then ⟨.failed, s.context⟩ else plain s.context c
  | .escaped before =>
    if c = newline then ⟨before, s.context⟩ else escape s.context before c
  | .failed => s

/-- The tokens at the end of a program, unless something is still open. -/
def finish (s : State) : Option (List Token) :=
  match s.mode, s.context.stack, s.context.depth with
  | .plain, [], 0 => some s.context.endWord.tokens
  | .comment, [], 0 => some s.context.endWord.tokens
  | .dollar false, [], 0 => some (settle s.context s.mode).endWord.tokens
  | .name false _, [], 0 => some (settle s.context s.mode).endWord.tokens
  | .operator _, [], 0 => some (settle s.context s.mode).endWord.tokens
  | _, _, _ => none

end State

/-- What the reader makes of a text. -/
def run (s : State) (text : List Char) : State := text.foldl State.step s

/-- **The tokens of a program.** -/
def tokenize (program : List Char) : Option (List Token) := (run ⟨.plain, .empty⟩ program).finish

/-! ### Words in which nothing is expanded -/

/-- The characters that an expansion, a pattern or a reserved word gives a meaning to in a word
unless they are quoted. -/
def isSpecial (c : Char) : Bool :=
  decide (c ∈ ['~', '*', '?', '[', ']', '{', '}', '!', '#', '$', '^'])

/-- The character that a piece stands for, if nothing can be expanded there. -/
def Piece.literal : Piece → Option Char
  | .char c quoted => if quoted || !isSpecial c then some c else none
  | _ => none

/-- **The text of a word in which nothing is expanded.** -/
def Token.literal : Token → Option (List Char)
  | .word pieces => pieces.mapM Piece.literal
  | .operator _ => none

/-- The pieces of a text that stands there as it is. -/
def chars (quoted : Bool) (text : List Char) : List Piece := text.map fun c => .char c quoted

/-- A quoted text is literal. -/
theorem literal_quoted (text : List Char) : (Token.word (chars true text)).literal = some text := by
  induction text with
  | nil => rfl
  | cons c rest ih =>
    simp only [Token.literal, chars] at ih
    simp [Token.literal, chars, Piece.literal, ih]

/-- So is a text of characters without a meaning. -/
theorem literal_bare {text : List Char} (bare : ∀ c ∈ text, isSpecial c = false) :
    (Token.word (chars false text)).literal = some text := by
  induction text with
  | nil => rfl
  | cons c rest ih =>
    have later := ih fun c inside => bare c (List.mem_cons_of_mem _ inside)
    simp only [Token.literal, chars] at later
    simp [Token.literal, chars, Piece.literal, later, bare c List.mem_cons_self]

/-! ### What a text does -/

/-- **The reader comes out of `text` as it went in,** outside quotes, and has done `effect` with
what it had read. -/
def Reads (text : List Char) (effect : Context → Context) : Prop :=
  ∀ k : Context, run ⟨.plain, k⟩ text = ⟨.plain, effect k⟩

theorem run_append (s : State) (first rest : List Char) :
    run s (first ++ rest) = run (run s first) rest := List.foldl_append

theorem run_cons (s : State) (c : Char) (rest : List Char) :
    run s (c :: rest) = run (s.step c) rest := rfl

/-- A text is read part by part. -/
theorem Reads.append {first rest : List Char} {f g : Context → Context} (reads : Reads first f)
    (then' : Reads rest g) : Reads (first ++ rest) (g ∘ f) := by
  intro k
  rw [run_append, reads, then']
  rfl

/-- A text that does nothing in between. -/
theorem Reads.congr {text : List Char} {f g : Context → Context} (reads : Reads text f)
    (same : f = g) : Reads text g := same ▸ reads

namespace Context

@[simp] theorem push_push (k : Context) (first rest : List Piece) :
    (k.push first).push rest = k.push (first ++ rest) := by
  simp [push]

@[simp] theorem endWord_push (k : Context) (pieces : List Piece) : (k.push pieces).endWord =
    { k with tokens := k.tokens ++ [.word (k.word.getD [] ++ pieces)], word := none } := rfl

theorem word_endWord (k : Context) : k.endWord.word = none := by
  unfold endWord
  split
  · assumption
  · rfl

/-- There is no word left to end. -/
@[simp] theorem endWord_endWord (k : Context) : k.endWord.endWord = k.endWord := by
  rw [endWord, word_endWord]

@[simp] theorem emit_endWord (k : Context) (chars : List Char) :
    k.endWord.emit chars = k.emit chars := by
  simp [emit]

end Context

/-- Two parts of one word. -/
theorem Reads.push {first rest : List Char} {pieces others : List Piece}
    (reads : Reads first fun k => k.push pieces) (then' : Reads rest fun k => k.push others) :
    Reads (first ++ rest) fun k => k.push (pieces ++ others) :=
  (reads.append then').congr (funext fun k => k.push_push pieces others)

/-- After an operator there is no word. -/
@[simp] theorem Context.endWord_emit (k : Context) (chars : List Char) :
    (k.emit chars).endWord = k.emit chars := by
  have none' : (k.emit chars).word = none := k.word_endWord
  rw [Context.endWord, none']

/-- A character that is part of a word and nothing else. -/
def isOrdinary (c : Char) : Bool :=
  decide (c ∉ [backslash, apostrophe, quotation, '$', backquote, newline, '(', ')', '#']) &&
    !isBlank c && !isOperator c

theorem plain_ordinary (k : Context) {c : Char} (ordinary : isOrdinary c = true) :
    State.plain k c = ⟨.plain, k.push [.char c false]⟩ := by
  simp only [isOrdinary, List.mem_cons, List.not_mem_nil, or_false, not_or, Bool.and_eq_true,
    decide_eq_true_eq, Bool.not_eq_true'] at ordinary
  simp [State.plain, ordinary]

/-- **Ordinary characters become part of the word.** -/
theorem reads_ordinary {text : List Char} (some' : text ≠ [])
    (ordinary : ∀ c ∈ text, isOrdinary c = true) :
    Reads text fun k => k.push (chars false text) := by
  induction text with
  | nil => exact absurd rfl some'
  | cons c rest ih =>
    intro k
    rw [run_cons, State.step, plain_ordinary k (ordinary c List.mem_cons_self)]
    cases rest with
    | nil => rfl
    | cons d rest =>
      rw [ih (List.cons_ne_nil _ _) fun e inside => ordinary e (List.mem_cons_of_mem _ inside)]
      simp [chars]

/-- Inside single quotes every character but the apostrophe is itself. -/
theorem run_single (k : Context) (before : List Piece) {text : List Char}
    (unquoted : apostrophe ∉ text) :
    run ⟨.single, k.push before⟩ text = ⟨.single, k.push (before ++ chars true text)⟩ := by
  induction text generalizing before with
  | nil => simp [run, chars]
  | cons c rest ih =>
    have other : c ≠ apostrophe := fun same => unquoted (same ▸ List.mem_cons_self)
    rw [run_cons, State.step]
    simp only [if_neg other, Context.push_push]
    rw [ih _ fun inside => unquoted (List.mem_cons_of_mem _ inside)]
    simp [chars]

/-- **A text between apostrophes becomes part of the word.** -/
theorem reads_single {text : List Char} (unquoted : apostrophe ∉ text) :
    Reads (apostrophe :: (text ++ [apostrophe])) fun k => k.push (chars true text) := by
  intro k
  have begins : State.step ⟨.plain, k⟩ apostrophe = ⟨.single, k.push []⟩ := rfl
  rw [run_cons, begins, run_append, run_single k [] unquoted]
  rfl

/-- Characters without a meaning between quotation marks. -/
def isDoubleOrdinary (c : Char) : Bool := decide (c ∉ [backslash, quotation, '$', backquote])

theorem run_double (k : Context) (before : List Piece) {text : List Char}
    (ordinary : ∀ c ∈ text, isDoubleOrdinary c = true) :
    run ⟨.double, k.push before⟩ text = ⟨.double, k.push (before ++ chars true text)⟩ := by
  induction text generalizing before with
  | nil => simp [run, chars]
  | cons c rest ih =>
    have first := ordinary c List.mem_cons_self
    simp only [isDoubleOrdinary, List.mem_cons, List.not_mem_nil, or_false, not_or,
      decide_eq_true_eq] at first
    rw [run_cons, State.step, State.double]
    simp only [first, if_false, Context.push_push]
    rw [ih _ fun d inside => ordinary d (List.mem_cons_of_mem _ inside)]
    simp [chars]

/-- **A text between quotation marks becomes part of the word.** -/
theorem reads_double {text : List Char} (ordinary : ∀ c ∈ text, isDoubleOrdinary c = true) :
    Reads (quotation :: (text ++ [quotation])) fun k => k.push (chars true text) := by
  intro k
  have begins : State.step ⟨.plain, k⟩ quotation = ⟨.double, k.push []⟩ := rfl
  rw [run_cons, begins, run_append, run_double k [] ordinary]
  rfl

/-- A name goes on. -/
theorem run_name (k : Context) (quoted : Bool) (before : List Char) {text : List Char}
    (name : ∀ c ∈ text, isNameChar c = true) :
    run ⟨.name quoted before, k⟩ text = ⟨.name quoted (before ++ text), k⟩ := by
  induction text generalizing before with
  | nil => simp [run]
  | cons c rest ih =>
    have valid := name c List.mem_cons_self
    have other : c ≠ backslash := by
      rintro rfl
      exact absurd valid (by decide)
    rw [run_cons, State.step]
    simp only [if_neg other, valid, if_true]
    rw [ih _ fun d inside => name d (List.mem_cons_of_mem _ inside)]
    simp

/-- **A parameter between quotation marks** is a word with one expansion. -/
theorem reads_parameter {first : Char} {rest : List Char} (start : isNameStart first = true)
    (name : ∀ c ∈ rest, isNameChar c = true) :
    Reads (quotation :: '$' :: first :: (rest ++ [quotation]))
      fun k => k.push [.parameter (first :: rest) true] := by
  intro k
  have opens : run ⟨.plain, k⟩ [quotation, '$'] = ⟨.dollar true, k.push []⟩ := rfl
  have begins : State.step ⟨.dollar true, k.push []⟩ first = ⟨.name true [first], k.push []⟩ := by
    have other : first ≠ backslash ∧ first ≠ '{' ∧ first ≠ '(' := by
      refine ⟨?_, ?_, ?_⟩ <;> rintro rfl <;> exact absurd start (by decide)
    simp [State.step, State.dollar, other, start]
  calc run ⟨.plain, k⟩ (quotation :: '$' :: first :: (rest ++ [quotation]))
      = run (run ⟨.plain, k⟩ [quotation, '$']) (first :: (rest ++ [quotation])) := rfl
    _ = run (run ⟨.name true [first], k.push []⟩ rest) [quotation] := by
        rw [opens, run_cons, begins, run_append]
    _ = run ⟨.name true (first :: rest), k.push []⟩ [quotation] := by
        rw [run_name _ _ _ name]
        rfl
    _ = ⟨.plain, k.push [.parameter (first :: rest) true]⟩ := by
        have closes : isNameChar quotation = false := by decide
        have other : quotation ≠ backslash := by decide
        simp [run, State.step, State.read, State.double, State.settle, closes, other]

/-- The characters that are taken as they are between braces. -/
def isBraceOrdinary (c : Char) : Bool :=
  decide (c ∉ ['}', backslash, apostrophe, quotation, backquote, '$'])

theorem run_brace (k : Context) (quoted : Bool) (before : List Char) {text : List Char}
    (ordinary : ∀ c ∈ text, isBraceOrdinary c = true) :
    run ⟨.brace quoted before, k⟩ text = ⟨.brace quoted (before ++ text), k⟩ := by
  induction text generalizing before with
  | nil => simp [run]
  | cons c rest ih =>
    have first := ordinary c List.mem_cons_self
    simp only [isBraceOrdinary, List.mem_cons, List.not_mem_nil, or_false, not_or,
      decide_eq_true_eq] at first
    rw [run_cons, State.step]
    simp only [first, if_false, List.mem_cons, List.not_mem_nil, or_false]
    rw [ih _ fun d inside => ordinary d (List.mem_cons_of_mem _ inside)]
    simp

/-- **An expression in braces between quotation marks** is a word with one expansion. -/
theorem reads_brace {expression : List Char}
    (ordinary : ∀ c ∈ expression, isBraceOrdinary c = true) :
    Reads (quotation :: '$' :: '{' :: (expression ++ ['}', quotation]))
      fun k => k.push [.parameter expression true] := by
  intro k
  have opens : run ⟨.plain, k⟩ [quotation, '$', '{'] = ⟨.brace true [], k.push []⟩ := rfl
  calc run ⟨.plain, k⟩ (quotation :: '$' :: '{' :: (expression ++ ['}', quotation]))
      = run (run ⟨.plain, k⟩ [quotation, '$', '{']) (expression ++ ['}', quotation]) := rfl
    _ = run ⟨.brace true expression, k.push []⟩ ['}', quotation] := by
        rw [opens, run_append, run_brace _ _ _ ordinary, List.nil_append]
    _ = ⟨.plain, (k.push []).push [.parameter expression true]⟩ := rfl
    _ = ⟨.plain, k.push [.parameter expression true]⟩ := by rw [Context.push_push, List.nil_append]

/-- **A blank ends the word.** -/
theorem reads_blank : Reads [' '] Context.endWord := fun _ => rfl

/-- **A newline ends the command.** -/
theorem reads_newline : Reads [newline] fun k => k.emit [newline] := fun _ => rfl

/-- **A line goes on** after a backslash. -/
theorem reads_continuation : Reads [backslash, newline] id := fun _ => rfl

/-- An operator of one character, and a blank. -/
theorem reads_operator {c : Char} (operator : isOperator c = true) :
    Reads [c, ' '] fun k => k.emit [c] := by
  intro k
  have known := of_decide_eq_true operator
  simp only [List.mem_cons, List.not_mem_nil, or_false] at known
  have stands : run ⟨.plain, k⟩ [c, ' '] = ⟨.plain, (k.endWord.emit [c]).endWord⟩ := by
    rcases known with rfl | rfl | rfl | rfl | rfl <;> rfl
  rw [stands, Context.emit_endWord, Context.endWord_emit]

namespace Context

@[simp] theorem depth_endWord (k : Context) : k.endWord.depth = k.depth := by
  unfold endWord
  split <;> rfl

@[simp] theorem stack_endWord (k : Context) : k.endWord.stack = k.stack := by
  unfold endWord
  split <;> rfl

end Context

/-! ### What a text is read as -/

/-- **A text is read as these tokens**, wherever it begins, and leaves nothing open but its last
word. -/
def ReadsAs (text : List Char) (tokens : List Token) : Prop :=
  ∀ before depth stack, ∃ k : Context,
    run ⟨.plain, ⟨before, none, depth, stack⟩⟩ text = ⟨.plain, k⟩ ∧
      k.endWord = ⟨before ++ tokens, none, depth, stack⟩

namespace ReadsAs

variable {text first rest : List Char} {tokens others : List Token}

theorem nil : ReadsAs [] [] := fun before _ _ => ⟨_, rfl, by rw [List.append_nil]; rfl⟩

/-- **One word.** -/
theorem word {pieces : List Piece} (reads : Reads text fun k => k.push pieces) :
    ReadsAs text [.word pieces] := by
  intro before depth stack
  exact ⟨_, reads _, rfl⟩

/-- What stands between two texts ends the word, and may be read as tokens itself. -/
theorem between (middle : List Token) {gap : List Char} {f : Context → Context}
    (ends : Reads gap f)
    (does : ∀ k : Context, f k = { k.endWord with tokens := k.endWord.tokens ++ middle })
    (reads : ReadsAs first tokens) (then' : ReadsAs rest others) :
    ReadsAs (first ++ (gap ++ rest)) (tokens ++ (middle ++ others)) := by
  intro before depth stack
  obtain ⟨k, read, settled⟩ := reads before depth stack
  obtain ⟨l, later, done'⟩ := then' (before ++ tokens ++ middle) depth stack
  refine ⟨l, ?_, by rw [done']; simp⟩
  rw [run_append, read, run_append, ends, does, settled, later]

/-- **Words side by side.** -/
theorem blank (reads : ReadsAs first tokens) (then' : ReadsAs rest others) :
    ReadsAs (first ++ ([' '] ++ rest)) (tokens ++ others) :=
  between [] reads_blank (fun k => by simp [Context.ext_iff]) reads then'

/-- **Words on lines that go on.** -/
theorem continued (reads : ReadsAs first tokens) (then' : ReadsAs rest others) :
    ReadsAs (first ++ ([' ', backslash, newline, ' ', ' '] ++ rest)) (tokens ++ others) := by
  have gap : Reads [' ', backslash, newline, ' ', ' '] Context.endWord := by
    refine (((reads_blank.append reads_continuation).append reads_blank).append
      reads_blank).congr ?_
    funext k
    simp
  exact between [] gap (fun k => by simp [Context.ext_iff]) reads then'

/-- **Commands on lines of their own.** -/
theorem line (reads : ReadsAs first tokens) (then' : ReadsAs rest others) :
    ReadsAs (first ++ ([newline] ++ rest)) (tokens ++ ([.operator [newline]] ++ others)) :=
  between [.operator [newline]] reads_newline (fun _ => rfl) reads then'

/-- **Commands with an operator between them.** -/
theorem operator {c : Char} (operator : isOperator c = true) (reads : ReadsAs first tokens)
    (then' : ReadsAs rest others) :
    ReadsAs (first ++ ([c, ' '] ++ rest)) (tokens ++ ([.operator [c]] ++ others)) :=
  between [.operator [c]] (reads_operator operator) (fun _ => rfl) reads then'

/-- **The tokens of a program** are what it is read as. -/
theorem tokenize (reads : ReadsAs text tokens) : tokenize text = some tokens := by
  obtain ⟨k, read, settled⟩ := reads [] 0 []
  have depth : k.depth = 0 := by
    rw [← Context.depth_endWord, settled]
  have stack : k.stack = [] := by
    rw [← Context.stack_endWord, settled]
  have all : (run ⟨.plain, .empty⟩ text) = ⟨.plain, k⟩ := read
  rw [Shell.tokenize, all, State.finish, depth, stack, settled]
  rfl

/-- **A command substitution** is part of a word, with the tokens of its text. -/
theorem substitution (reads : ReadsAs text tokens) (simple : text.head? ≠ some '(') :
    Reads ('$' :: '(' :: (text ++ [')'])) fun k => k.push [.command tokens false] := by
  intro k
  have opens : run ⟨.plain, k⟩ ['$', '('] = ⟨.opened, k.enter false⟩ := rfl
  have begins : run ⟨.opened, k.enter false⟩ (text ++ [')']) =
      run ⟨.plain, k.enter false⟩ (text ++ [')']) := by
    cases text with
    | nil => rfl
    | cons c rest =>
      have other : c ≠ '(' := fun same => simple (by rw [same]; rfl)
      rw [List.cons_append, run_cons, run_cons]
      simp [State.step, other]
  obtain ⟨l, read, settled⟩ := reads [] 0 (k.enter false).stack
  have depth : l.depth = 0 := by
    rw [← Context.depth_endWord, settled]
  have stack : l.stack = ⟨k.tokens, k.word.getD [], k.depth, false⟩ :: k.stack := by
    rw [← Context.stack_endWord, settled]
    rfl
  have entered : run ⟨.plain, k.enter false⟩ text = ⟨.plain, l⟩ := read
  calc run ⟨.plain, k⟩ ('$' :: '(' :: (text ++ [')']))
      = run (run ⟨.plain, k⟩ ['$', '(']) (text ++ [')']) := rfl
    _ = State.close l := by
        rw [opens, begins, run_append, entered]
        rfl
    _ = ⟨.plain, k.push [.command tokens false]⟩ := by
        simp only [State.close, depth, stack, settled, lt_irrefl, if_false]
        rfl

/-- What only ends the word does nothing where there is none. -/
theorem after {gap : List Char} (ends : Reads gap Context.endWord) (reads : ReadsAs text tokens) :
    ReadsAs (gap ++ text) tokens := by
  intro before depth stack
  obtain ⟨k, read, settled⟩ := reads before depth stack
  refine ⟨k, ?_, settled⟩
  rw [run_append, ends]
  exact read

/-- **An indented line.** -/
theorem indented (reads : ReadsAs text tokens) : ReadsAs ([' ', ' '] ++ text) tokens :=
  after ((reads_blank.append reads_blank).congr (by funext k; simp)) reads

/-- **A line that begins on the next one.** -/
theorem broken (reads : ReadsAs text tokens) :
    ReadsAs ([backslash, newline, ' ', ' '] ++ text) tokens :=
  after (((reads_continuation.append reads_blank).append reads_blank).congr (by funext k; simp))
    reads

end ReadsAs

end Hypershell.Foundation.Shell
