import Highlight.Proofs.Text.LetterCase

/-!
# Programs that ignore letter case

A program matches as many characters of a text as of its lower case if each of its classes has both
cases of a letter or neither and its conditions on places do not tell the cases apart
(`findEnd?_lower`). Of a closed program that can be told by evaluation (`Program.ignoresCase`).
-/

namespace Highlight.Regex

open Text

/-! ## Instructions -/

/-- Whether a condition on a place is the same between the lower case of its neighbours. -/
def Look.IgnoresCase (l : Look) : Prop :=
  ∀ before after : Option Char,
    l.holds (before.map Char.toLower) (after.map Char.toLower) = l.holds before after

/-- Whether an instruction does the same at a character and at its lower case. -/
def Instruction.IgnoresCase : Instruction → Prop
  | .take s _ => Text.IgnoresCase s.contains
  | .look l _ => l.IgnoresCase
  | _ => True

/-- The neighbour is a certain character that is no letter if its lower case is. -/
theorem map_toLower_beq {c : Char} (hc : c.isAlpha = false) (neighbour : Option Char) :
    (neighbour.map Char.toLower == some c) = (neighbour == some c) := by
  cases neighbour with
  | none => rfl
  | some d =>
    rw [Option.map_some, Bool.eq_iff_iff, beq_iff_eq, beq_iff_eq, Option.some.injEq,
      Option.some.injEq, toLower_eq_iff hc]

/-- Whether a neighbour is a word character of ASCII does not depend on its case. -/
lemma isWord_ascii (neighbour : Option Char) :
    Look.isWord false (neighbour.map Char.toLower) = Look.isWord false neighbour := by
  cases neighbour with
  | none => rfl
  | some c => exact ignoresCase_of_capitals (f := CharClass.asciiWord.contains) (by decide) c

/-- Whether a condition asks for nothing but the ends of texts and lines, or for words of ASCII. -/
def Look.isCaseless : Look → Bool
  | .textStart | .textEnd | .lineStart _ | .lineEnd _ => true
  | .wordBoundary unicode | .notWordBoundary unicode | .wordStart unicode | .wordEnd unicode
  | .wordStartHalf unicode | .wordEndHalf unicode => !unicode

/-- A look ignores letter case where the test says so. -/
theorem Look.ignoresCase_of_isCaseless {l : Look} (h : l.isCaseless = true) : l.IgnoresCase := by
  intro before after
  have hnewline := map_toLower_beq (c := '\n') (by decide)
  have hreturn := map_toLower_beq (c := '\r') (by decide)
  cases l with
  | textStart => simp only [Look.holds, Option.isNone_map]
  | textEnd => simp only [Look.holds, Option.isNone_map]
  | lineStart crlf =>
    cases crlf <;> simp only [Look.holds, Option.isNone_map, hnewline, hreturn, bne]
  | lineEnd crlf => cases crlf <;> simp only [Look.holds, Option.isNone_map, hnewline, hreturn, bne]
  | wordBoundary unicode | notWordBoundary unicode | wordStart unicode | wordEnd unicode
  | wordStartHalf unicode | wordEndHalf unicode =>
    cases unicode with
    | true => cases h
    | false => simp only [Look.holds, isWord_ascii]

/-- Whether the class of an instruction has both cases of each letter or neither, and its condition
is one that cannot tell them apart. -/
def Instruction.isCaseless : Instruction → Bool
  | .take s _ => capitals.all fun c => decide (s.contains c.toLower = s.contains c)
  | .look l _ => l.isCaseless
  | _ => true

lemma Instruction.ignoresCase_of_isCaseless {i : Instruction} (h : i.isCaseless = true) :
    i.IgnoresCase := by
  cases i with
  | take s next => exact ignoresCase_of_capitals h
  | look l next => exact Look.ignoresCase_of_isCaseless h
  | jump next => exact trivial
  | split first second => exact trivial
  | accept => exact trivial

namespace Program

variable {program : Program}

/-! ## Runs -/

/-- From the same places a program reaches the same ones between the lower case of two
characters. -/
theorem reach_lower (h : ∀ i ∈ program.code, i.IgnoresCase) (before after : Option Char)
    (fuel : Nat) (pending : List Nat) (seen : Nat) :
    program.reach (before.map Char.toLower) (after.map Char.toLower) fuel pending seen =
      program.reach before after fuel pending seen := by
  induction fuel generalizing pending seen with
  | zero => rfl
  | succ fuel ih =>
    cases pending with
    | nil => rfl
    | cons place pending =>
      rw [reach, reach]
      split
      · exact ih pending seen
      · simp only
        cases hplace : program.code[place]? with
        | none => exact ih _ _
        | some i =>
          have hi := h i (Array.mem_of_getElem? hplace)
          cases i with
          | take s next => exact congrArg (place :: ·) (ih _ _)
          | accept => exact congrArg (place :: ·) (ih _ _)
          | jump next => exact ih _ _
          | split first second => exact ih _ _
          | look l next =>
            simp only [hi before after, ih]

/-- The places that are still followed do not depend on the case of the neighbours. -/
lemma alive_lower (h : ∀ i ∈ program.code, i.IgnoresCase) (before after : Option Char)
    (places : List Nat) :
    program.alive (before.map Char.toLower) (after.map Char.toLower) places =
      program.alive before after places :=
  reach_lower h before after _ places 0

lemma advance?_lower (h : ∀ i ∈ program.code, i.IgnoresCase) (c : Char) :
    program.advance? c.toLower = program.advance? c := by
  funext place
  unfold advance?
  cases hplace : program.code[place]? with
  | none => rfl
  | some i =>
    have hi := h i (Array.mem_of_getElem? hplace)
    cases i with
    | take s next =>
      have htake : s.contains c.toLower = s.contains c := hi c
      simp only [htake]
    | jump next => rfl
    | split first second => rfl
    | look l next => rfl
    | accept => rfl

/-- A search finds as much in lower case. -/
lemma run_lower (h : ∀ i ∈ program.code, i.IgnoresCase) (text : List Char) (places : List Nat)
    (taken : Nat) (best : Option Nat) :
    program.run (lower text) places taken best = program.run text places taken best := by
  induction text generalizing places taken best with
  | nil => rfl
  | cons c rest ih =>
    have halive : ∀ places, program.alive (some c.toLower) (lower rest).head? places =
        program.alive (some c) rest.head? places := by
      intro places
      rw [lower, List.head?_map]
      exact alive_lower h (some c) rest.head? places
    rw [lower_cons, run, run]
    simp only [advance?_lower h, halive, ih]

lemma matchLength?_lower (h : ∀ i ∈ program.code, i.IgnoresCase) (before : Option Char)
    (text : List Char) :
    program.matchLength? (before.map Char.toLower) (lower text) =
      program.matchLength? before text := by
  rw [matchLength?, run_lower h, lower, List.head?_map, alive_lower h, matchLength?]

lemma findEndFrom_lower (h : ∀ i ∈ program.code, i.IgnoresCase) (before : Option Char)
    (offset : Nat) (text : List Char) :
    program.findEndFrom (before.map Char.toLower) offset (lower text) =
      program.findEndFrom before offset text := by
  induction text generalizing before offset with
  | nil =>
    have hmatch := matchLength?_lower h before []
    rw [lower_nil] at hmatch
    unfold findEndFrom
    rw [lower_nil, hmatch]
  | cons c rest ih =>
    have hmatch := matchLength?_lower h before (c :: rest)
    have hrest : program.findEndFrom (some c.toLower) (offset + 1) (lower rest) =
        program.findEndFrom (some c) (offset + 1) rest := ih (some c) (offset + 1)
    rw [lower_cons] at hmatch ⊢
    unfold findEndFrom
    rw [hmatch]
    cases program.matchLength? before (c :: rest) with
    | none => simp only [hrest]
    | some n => rfl

/-- A program finds a match that ends at the same place in a text and in its lower case. -/
theorem findEnd?_lower (h : ∀ i ∈ program.code, i.IgnoresCase) (text : List Char) :
    program.findEnd? (lower text) = program.findEnd? text :=
  findEndFrom_lower h none 0 text

end Program

end Highlight.Regex
