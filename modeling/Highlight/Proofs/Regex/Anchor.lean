import Highlight.Proofs.Regex.Runs
import Highlight.Regex.Search
import Mathlib.Data.Finset.Card
import Mathlib.Data.Finset.Range
import Mathlib.Data.List.Basic

/-!
# Anchored programs

The program of an expression behind the condition that the text starts is the program of the
expression, one place further on, behind a single instruction. From the start of a text on both take
the same turns, so the anchored program finds what the other matches there and nothing else
(`findEnd?_anchored`).
-/

namespace Highlight.Regex

/-! ## Code that stands one place further on -/

/-- The instruction that goes on one place further on. -/
def Instruction.shift : Instruction → Instruction
  | .take s next => .take s (next + 1)
  | .jump next => .jump (next + 1)
  | .split first second => .split (first + 1) (second + 1)
  | .look l next => .look l (next + 1)
  | .accept => .accept

lemma Instruction.shift_enter (greedy : Bool) (body next : Nat) :
    (Instruction.enter greedy body next).shift =
      Instruction.enter greedy (body + 1) (next + 1) := by
  cases greedy <;> rfl

/-- Whether instructions that stand one place further on also go on there. -/
def Shifts (body : (start next : Nat) → List Instruction) : Prop :=
  ∀ start next, body (start + 1) (next + 1) = (body start next).map Instruction.shift

variable {body : (start next : Nat) → List Instruction}

/-- The required turns of a repetition shift with its body. -/
lemma turns_shift (h : Shifts body) (n start count : Nat) :
    turns n body (start + 1) count = (turns n body start count).map Instruction.shift := by
  unfold turns
  rw [List.map_flatMap]
  refine List.flatMap_congr fun i _ => ?_
  rw [Nat.add_right_comm start 1, Nat.add_right_comm start 1, h]

lemma optionalTurns_shift (h : Shifts body) (n : Nat) (greedy : Bool) (start next count : Nat) :
    optionalTurns n body greedy (start + 1) (next + 1) count =
      (optionalTurns n body greedy start next count).map Instruction.shift := by
  unfold optionalTurns
  rw [List.map_flatMap]
  refine List.flatMap_congr fun i _ => ?_
  rw [List.map_cons, Instruction.shift_enter, Nat.add_right_comm start 1,
    Nat.add_right_comm start 1, h]

/-- A repetition shifts with its body. -/
lemma repCode_shift (h : Shifts body) (n : Nat) (nullable greedy : Bool) (min : Nat)
    (max : Option Nat) : Shifts fun start next =>
      repCode n body nullable greedy min max start next := by
  intro start next
  simp only
  cases max with
  | none =>
    cases min with
    | zero =>
      cases nullable with
      | true =>
        show Instruction.enter greedy (start + 1 + 1) (next + 1) ::
          (body (start + 1 + 1) (start + 1 + 1 + n) ++
            [Instruction.enter greedy (start + 1 + 1) (next + 1)]) = _
        rw [Nat.add_right_comm (start + 1) 1 n, h]
        simp [repCode, Instruction.shift_enter]
      | false =>
        show Instruction.enter greedy (start + 1 + 1) (next + 1) ::
          body (start + 1 + 1) (start + 1) = _
        rw [h]
        simp [repCode, Instruction.shift_enter]
    | succ min =>
      show turns n body (start + 1) (min + 1) ++
        [Instruction.enter greedy (start + 1 + min * n) (next + 1)] = _
      rw [turns_shift h, Nat.add_right_comm start 1]
      simp [repCode, Instruction.shift_enter]
  | some max =>
    rw [repCode, repCode, turns_shift h, Nat.add_right_comm start 1, Nat.add_right_comm _ 1,
      optionalTurns_shift h]
    simp [Instruction.shift]

lemma textCode_shift (c : Char) (rest : List Char) : Shifts (textCode c rest) := by
  intro start next
  induction rest generalizing c start with
  | nil => rfl
  | cons d rest ih =>
    rw [textCode, textCode, ih]
    rfl

/-- The instructions of an expression that stands one place further on. -/
theorem code_shift (r : Regex) : Shifts (code r) := by
  induction r with
  | empty => exact fun _ _ => rfl
  | text c rest => exact textCode_shift c rest
  | set _ _ => exact fun _ _ => rfl
  | look _ => exact fun _ _ => rfl
  | cat a b iha ihb =>
    intro start next
    rw [code, code, List.map_append, Nat.add_right_comm start 1, iha, ihb]
  | alt a b iha ihb =>
    intro start next
    rw [code, code, List.map_cons, List.map_append, Nat.add_right_comm (start + 1) 1, iha, ihb]
    rfl
  | rep a min max greedy ih => exact repCode_shift ih _ _ _ _ _
  | counted _ a ih => exact ih

/-! ## The places that are reached -/

/-- A place that is marked as seen. -/
theorem testBit_mark (seen place i : Nat) :
    (seen ||| 1 <<< place).testBit i = (seen.testBit i || decide (place = i)) := by
  rw [Nat.testBit_or, Nat.one_shiftLeft, Nat.testBit_two_pow]

namespace Program

/-- The places that have not been seen. -/
def unseen (program : Program) (seen : Nat) : Finset Nat :=
  (Finset.range program.code.size).filter fun i => seen.testBit i = false

variable {program : Program} {place seen : Nat}

lemma mem_unseen {i : Nat} :
    i ∈ program.unseen seen ↔ i < program.code.size ∧ seen.testBit i = false := by
  rw [unseen, Finset.mem_filter, Finset.mem_range]

lemma card_unseen_le (program : Program) (seen : Nat) :
    (program.unseen seen).card ≤ program.code.size := by
  have hle := Finset.card_filter_le (Finset.range program.code.size)
    fun i => seen.testBit i = false
  rwa [Finset.card_range] at hle

lemma unseen_mark_subset (program : Program) (seen place : Nat) :
    program.unseen (seen ||| 1 <<< place) ⊆ program.unseen seen := by
  intro i hi
  rw [mem_unseen, testBit_mark, Bool.or_eq_false_iff] at hi
  exact mem_unseen.2 ⟨hi.1, hi.2.1⟩

/-- Marking a place that has not been seen leaves fewer of them. -/
lemma card_unseen_mark_lt (hplace : place < program.code.size)
    (hseen : seen.testBit place = false) :
    (program.unseen (seen ||| 1 <<< place)).card < (program.unseen seen).card := by
  refine Finset.card_lt_card ⟨unseen_mark_subset program seen place, fun hsubset => ?_⟩
  have hmem := hsubset (mem_unseen.2 ⟨hplace, hseen⟩)
  rw [mem_unseen, testBit_mark] at hmem
  simp at hmem

variable {a w : Program} {before after : Option Char}

/-- Whether a program stands in another, one place further on. -/
def StandsIn (a w : Program) : Prop := ∀ i, w.code[i + 1]? = a.code[i]?.map Instruction.shift

/-- From places that have not been seen, a program reaches the same places where it stands one place
further on. The induction is on the fuel, which covers the places that are pending and twice those
that have not been seen: each of these is entered once and adds two places at most. -/
theorem reach_shift (h : StandsIn a w) {fuel fuel' : Nat} {pending : List Nat} {seen seen' : Nat}
    (hfuel : pending.length + 2 * (a.unseen seen).card ≤ fuel)
    (hfuel' : pending.length + 2 * (a.unseen seen).card ≤ fuel')
    (hseen : ∀ i, seen'.testBit (i + 1) = seen.testBit i) :
    w.reach before after fuel' (pending.map (· + 1)) seen' =
      (a.reach before after fuel pending seen).map (· + 1) := by
  induction fuel generalizing fuel' pending seen seen' with
  | zero =>
    obtain rfl : pending = [] := List.length_eq_zero_iff.1 (by omega)
    cases fuel' <;> rfl
  | succ fuel ih =>
    cases pending with
    | nil => cases fuel' <;> rfl
    | cons place pending =>
      rw [List.length_cons] at hfuel hfuel'
      obtain ⟨fuel', rfl⟩ : ∃ k, fuel' = k + 1 := ⟨fuel' - 1, by omega⟩
      rw [List.map_cons, reach, reach, hseen]
      split
      · exact ih (by omega) (by omega) hseen
      · rename_i hplace
        have hmark : ∀ i, (seen' ||| 1 <<< (place + 1)).testBit (i + 1) =
            (seen ||| 1 <<< place).testBit i := by
          intro i
          rw [testBit_mark, testBit_mark, hseen]
          simp
        have hle := Finset.card_le_card (a.unseen_mark_subset seen place)
        simp only
        rw [h]
        cases hcode : a.code[place]? with
        | none => exact ih (by omega) (by omega) hmark
        | some instruction =>
          -- marking the place pays for the two places that it may add
          have hlt := card_unseen_mark_lt (Array.getElem?_eq_some_iff.1 hcode).1
            (eq_false_of_ne_true hplace)
          have hnext (more : List Nat) (hmore : more.length ≤ pending.length + 2) :
              w.reach before after fuel' (more.map (· + 1)) (seen' ||| 1 <<< (place + 1)) =
                (a.reach before after fuel more (seen ||| 1 <<< place)).map (· + 1) :=
            ih (by omega) (by omega) hmark
          cases instruction with
          | take s next => exact congrArg ((place + 1) :: ·) (hnext pending (Nat.le_add_right _ 2))
          | accept => exact congrArg ((place + 1) :: ·) (hnext pending (Nat.le_add_right _ 2))
          | jump next => exact hnext (next :: pending) (Nat.le_succ _)
          | split first second => exact hnext (first :: second :: pending) (Nat.le_refl _)
          | look l next =>
            simp only [Option.map_some, Instruction.shift]
            split
            · exact hnext (next :: pending) (Nat.le_succ _)
            · exact hnext pending (Nat.le_add_right _ 2)

/-! ## The matches that are found -/

/-- The places that are still followed are the same, one place further on. -/
lemma alive_shift (h : StandsIn a w) (hsize : a.code.size ≤ w.code.size) (places : List Nat) :
    w.alive before after (places.map (· + 1)) = (a.alive before after places).map (· + 1) := by
  have hunseen := a.card_unseen_le 0
  unfold alive
  rw [List.length_map]
  exact reach_shift h (by omega) (by omega) fun i => by simp

/-- A search accepts at the same place, one place further on. -/
lemma untilAccept_shift (h : StandsIn a w) (places : List Nat) :
    w.untilAccept (places.map (· + 1)) =
      ((a.untilAccept places).1.map (· + 1), (a.untilAccept places).2) := by
  induction places with
  | nil => rfl
  | cons place places ih =>
    rw [List.map_cons, untilAccept, untilAccept, h, ih]
    cases a.code[place]? with
    | none => rfl
    | some instruction => cases instruction <;> rfl

lemma advance?_shift (h : StandsIn a w) (c : Char) (place : Nat) :
    w.advance? c (place + 1) = (a.advance? c place).map (· + 1) := by
  unfold advance?
  rw [h]
  cases a.code[place]? with
  | none => rfl
  | some instruction =>
    cases instruction with
    | take s next =>
      simp only [Option.map_some, Instruction.shift]
      split <;> rfl
    | _ => rfl

/-- A run finds the same match where the program stands one place further on. -/
theorem run_shift (h : StandsIn a w) (hsize : a.code.size ≤ w.code.size) (text : List Char)
    (places : List Nat) (taken : Nat) (best : Option Nat) :
    w.run text (places.map (· + 1)) taken best = a.run text places taken best := by
  induction text generalizing places taken best with
  | nil => rw [run, run, untilAccept_shift h]
  | cons c rest ih =>
    rw [run, run, untilAccept_shift h]
    simp only [List.isEmpty_map]
    split
    · rfl
    · have hadvance : (((a.untilAccept places).1.map (· + 1)).filterMap (w.advance? c)) =
          ((a.untilAccept places).1.filterMap (a.advance? c)).map (· + 1) := by
        rw [List.filterMap_map, List.map_filterMap]
        exact List.filterMap_congr fun place _ => advance?_shift h c place
      rw [hadvance, alive_shift h hsize, ih]

/-- The program of an anchored expression is a look at the start and then the program of the
expression, one place further on. -/
lemma code_ofRegex_anchored (r : Regex) :
    (ofRegex (.cat (.look .textStart) r)).code.toList =
      .look .textStart 1 :: (ofRegex r).code.toList.map Instruction.shift := by
  show .look .textStart 1 :: (Regex.code r (0 + 1) (1 + size r) ++ [Instruction.accept]) =
    .look .textStart 1 :: (Regex.code r 0 (size r) ++ [Instruction.accept]).map Instruction.shift
  rw [Nat.add_comm 1, code_shift, List.map_append]
  rfl

/-- The program of an expression stands in that of the anchored one. -/
lemma standsIn_anchored (r : Regex) :
    StandsIn (ofRegex r) (ofRegex (.cat (.look .textStart) r)) := by
  intro i
  rw [← Array.getElem?_toList, ← Array.getElem?_toList, code_ofRegex_anchored,
    List.getElem?_cons_succ, List.getElem?_map]

lemma size_ofRegex_anchored (r : Regex) :
    (ofRegex (.cat (.look .textStart) r)).code.size = (ofRegex r).code.size + 1 := by
  rw [← Array.length_toList, code_ofRegex_anchored, List.length_cons, List.length_map,
    Array.length_toList]

/-- Where the text starts, the places of an anchored program are those of the other, one place
further on. -/
theorem alive_anchored (r : Regex) (after : Option Char) :
    (ofRegex (.cat (.look .textStart) r)).alive none after [0] =
      ((ofRegex r).alive none after [0]).map (· + 1) := by
  have hfirst : (ofRegex (.cat (.look .textStart) r)).code[0]? = some (.look .textStart 1) := by
    rw [← Array.getElem?_toList, code_ofRegex_anchored]
    rfl
  have hunseen := (ofRegex r).card_unseen_le 0
  -- the look holds at the start of the text, so that one step leads behind it
  have hstart : (ofRegex (.cat (.look .textStart) r)).alive none after [0] =
      (ofRegex (.cat (.look .textStart) r)).reach none after
        (1 + 2 * ((ofRegex r).code.size + 1)) ([0].map (· + 1)) (0 ||| 1 <<< 0) := by
    rw [alive, size_ofRegex_anchored, List.length_singleton, reach, Nat.zero_testBit, hfirst]
    rfl
  rw [hstart, alive, List.length_singleton]
  refine reach_shift (standsIn_anchored r) ?_ ?_ fun i => ?_
  · rw [List.length_singleton]
    omega
  · rw [List.length_singleton]
    omega
  · rw [testBit_mark]
    simp

/-- An anchored program matches at the start of a text what the other matches there. -/
theorem matchLength?_anchored (r : Regex) (text : List Char) :
    (ofRegex (.cat (.look .textStart) r)).matchLength? none text =
      (ofRegex r).matchLength? none text := by
  have hsize : (ofRegex r).code.size ≤ (ofRegex (.cat (.look .textStart) r)).code.size := by
    rw [size_ofRegex_anchored]
    exact Nat.le_succ _
  rw [matchLength?, matchLength?, alive_anchored, run_shift (standsIn_anchored r) hsize]

/-- Nothing is matched by the condition alone, as by nothing. -/
theorem matchLength?_textStart (text : List Char) :
    (ofRegex (.look .textStart)).matchLength? none text =
      (ofRegex .empty).matchLength? none text := by
  cases text <;> rfl

/-- A program that is anchored matches nowhere but at the start of a text. -/
theorem findEnd?_of_anchored (h : program.anchored = true) (text : List Char) :
    program.findEnd? text = program.matchLength? none text := by
  unfold findEnd? findEndFrom
  split
  case h_1 n _ hmatch => rw [hmatch, Nat.zero_add]
  case h_2 hmatch => rw [hmatch]
  case h_3 hmatch => rw [if_pos h, hmatch]

/-- The program of a simplified expression behind the condition that the text starts finds the match
of the expression there, and no other. -/
theorem findEnd?_anchored (r : Regex) (text : List Char) :
    (ofRegex (Regex.cat (.look .textStart) r.simplify).simplify).findEnd? text =
      (ofRegex r.simplify).matchLength? none text := by
  rcases simplify_anchored r with ⟨hempty, hanchored⟩ | hanchored
  · rw [hanchored, hempty, findEnd?_of_anchored rfl, matchLength?_textStart]
  · rw [hanchored, findEnd?_of_anchored rfl, matchLength?_anchored]

end Program

end Highlight.Regex
