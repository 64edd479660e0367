import Highlight.Regex.Meaning
import Highlight.Regex.Reader

/-!
# Programs that match regular expressions

A regular expression is laid out as a list of instructions. `code r start next` is the part for `r`
when it stands at `start` and goes on at `next`; `length_code` says that it is `size r` long.
-/

namespace Highlight.Regex

/-- One instruction; the addresses say where matching goes on. -/
inductive Instruction where
  /-- Takes a character of the class. -/
  | take (s : CharClass) (next : Nat)
  | jump (next : Nat)
  /-- Goes on at both places and prefers the first. -/
  | split (first second : Nat)
  | look (l : Look) (next : Nat)
  | accept
deriving Repr

/-- The choice between a body and what follows it, preferring the body when greedy. -/
def Instruction.enter (greedy : Bool) (body next : Nat) : Instruction :=
  if greedy then .split body next else .split next body

/-! ## Repetitions

The body of a repetition is given as `n`, the number of its instructions, and `body`, the
instructions themselves by the place where they stand and the place where they go on. -/

/-- The number of instructions for a repetition; `nullable` tells whether the body can be empty. -/
def repSize (n : Nat) (nullable : Bool) (min : Nat) : Option Nat → Nat
  | none => if min = 0 then (if nullable then n + 2 else n + 1) else min * n + 1
  | some max => min * n + (max - min) * (n + 1) + 1

/-- `count` turns, one behind the other. -/
def turns (n : Nat) (body : (start next : Nat) → List Instruction) (start count : Nat) :
    List Instruction :=
  (List.range count).flatMap fun i => body (start + i * n) (start + (i + 1) * n)

/-- Up to `count` turns, one behind the other; ahead of each there is the choice to go on at `next`
instead. -/
def optionalTurns (n : Nat) (body : (start next : Nat) → List Instruction) (greedy : Bool)
    (start next count : Nat) : List Instruction :=
  (List.range count).flatMap fun i =>
    .enter greedy (start + i * (n + 1) + 1) next ::
      body (start + i * (n + 1) + 1) (start + (i + 1) * (n + 1))

/-- The instructions for a repetition. Where there is no bound, the last turn can be taken again.
Where there need not be a turn and a turn can be empty, the first one is set apart, so that no turn
after it is entered without taking a character. -/
def repCode (n : Nat) (body : (start next : Nat) → List Instruction) (nullable greedy : Bool)
    (min : Nat) (max : Option Nat) (start next : Nat) : List Instruction :=
  match min, max with
  | 0, none =>
    .enter greedy (start + 1) next ::
      if nullable then body (start + 1) (start + 1 + n) ++ [.enter greedy (start + 1) next]
      else body (start + 1) start
  | min + 1, none =>
    turns n body start (min + 1) ++ [.enter greedy (start + min * n) next]
  | min, some max =>
    turns n body start min ++
      (optionalTurns n body greedy (start + min * n)
        (start + min * n + (max - min) * (n + 1)) (max - min) ++ [.jump next])

theorem length_turns (n : Nat) (body : Nat → Nat → List Instruction) (start count : Nat)
    (h : ∀ start next, (body start next).length = n) :
    (turns n body start count).length = count * n := by
  simp [turns, List.length_flatMap, List.map_const', h]

/-- Each optional turn is its body and a choice. -/
theorem length_optionalTurns (n : Nat) (body : Nat → Nat → List Instruction) (greedy : Bool)
    (start next count : Nat) (h : ∀ start next, (body start next).length = n) :
    (optionalTurns n body greedy start next count).length = count * (n + 1) := by
  simp [optionalTurns, List.length_flatMap, List.map_const', h]

/-- A repetition is as long as it is counted for. -/
theorem length_repCode (n : Nat) (body : Nat → Nat → List Instruction) (nullable greedy : Bool)
    (min : Nat) (max : Option Nat) (start next : Nat)
    (h : ∀ start next, (body start next).length = n) :
    (repCode n body nullable greedy min max start next).length = repSize n nullable min max := by
  cases max with
  | none =>
    cases min with
    | zero => cases nullable <;> simp [repCode, repSize, h]
    | succ min => simp [repCode, repSize, length_turns, h]
  | some max =>
    simp [repCode, repSize, length_turns, length_optionalTurns, h]
    omega

/-! ## Whole expressions -/

/-- The instructions that take the characters of a text. -/
def textCode (c : Char) : List Char → (start next : Nat) → List Instruction
  | [], _, next => [.take (.single c) next]
  | d :: rest, start, next =>
    .take (.single c) (start + 1) :: textCode d rest (start + 1) next

theorem length_textCode (c : Char) (rest : List Char) (start next : Nat) :
    (textCode c rest start next).length = rest.length + 1 := by
  induction rest generalizing c start with
  | nil => rfl
  | cons d rest ih => simp [textCode, ih]

/-- The number of instructions for an expression. A class is one instruction whatever its
characters are. -/
def size : Regex → Nat
  | .empty => 1
  | .text _ rest => rest.length + 1
  | .set _ _ => 1
  | .look _ => 1
  | .cat a b => size a + size b
  | .alt a b => size a + size b + 1
  | .rep a min max _ => repSize (size a) a.nullable min max
  | .counted _ a => size a

/-- The instructions for an expression that stands at `start` and goes on at `next`. -/
def code : Regex → (start next : Nat) → List Instruction
  | .empty, _, next => [.jump next]
  | .text c rest, start, next => textCode c rest start next
  | .set _ s, _, next => [.take s next]
  | .look l, _, next => [.look l next]
  | .cat a b, start, next => code a start (start + size a) ++ code b (start + size a) next
  | .alt a b, start, next =>
    .split (start + 1) (start + 1 + size a) ::
      (code a (start + 1) next ++ code b (start + 1 + size a) next)
  | .rep a min max greedy, start, next =>
    repCode (size a) (code a) a.nullable greedy min max start next
  | .counted _ a, start, next => code a start next

/-- An expression is as long as it is counted for. -/
theorem length_code (r : Regex) (start next : Nat) : (code r start next).length = size r := by
  induction r generalizing start next with
  | empty => rfl
  | text c rest => exact length_textCode c rest start next
  | set _ _ => rfl
  | look _ => rfl
  | cat a b iha ihb => simp [code, size, iha, ihb]
  | alt a b iha ihb => simp [code, size, iha, ihb]
  | rep a min max greedy ih => exact length_repCode _ _ _ _ _ _ _ _ ih
  | counted _ a ih => exact ih start next

/-- A program: its instructions, entered at 0, and whether it matches at the start of a text
only. -/
structure Program where
  code : Array Instruction
  anchored : Bool
deriving Repr

namespace Program

/-- The largest number of instructions that an expression may have. The limit is one on
instructions and not on memory, so `\w{300}` is within it although the class `\w` has several
hundred ranges: a limit on the bytes of a compiled pattern, in which a class takes as much room as
its ranges need, refuses such long repetitions of large classes. -/
def maxSize : Nat := 327680

/-- The program of a regular expression. -/
def ofRegex (r : Regex) : Program where
  code := (Regex.code r 0 (size r) ++ [Instruction.accept]).toArray
  anchored := r.anchored

/-- The program of a pattern, if the pattern is well formed and its program not too long. -/
def ofPattern? (pattern : List Char) (ignoreCase : Bool) : Option Program := do
  let expr ← Expr.read? pattern
  let r ← expr.regex? { ignoreCase }
  if size r ≤ maxSize then return ofRegex r else none

end Program

end Highlight.Regex
