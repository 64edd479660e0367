import Highlight.Regex.Program
import Mathlib.Algebra.BigOperators.Group.List.Basic
import Mathlib.Tactic.IntervalCases
import Mathlib.Tactic.Ring

/-!
# Sizes of programs

How many instructions a pattern needs can be read off the pattern as it is written: `Expr.cost` is a
bound that looks neither into its classes nor at its flags. Simplification is followed through runs
and choices for that; it adds one instruction at most (`size_simplify_le`). So whether a pattern is
accepted can be told without a table of characters (`exists_ofPattern?`).
-/

namespace Highlight.Regex

/-! ## Runs -/

/-- The number of instructions of some expressions that stand one behind the other. -/
def runSize (rs : List Regex) : Nat := (rs.map size).sum

@[simp] lemma runSize_nil : runSize [] = 0 := rfl

@[simp] lemma runSize_cons (r : Regex) (rs : List Regex) :
    runSize (r :: rs) = size r + runSize rs := by
  simp [runSize]

@[simp] lemma runSize_append (rs others : List Regex) :
    runSize (rs ++ others) = runSize rs + runSize others := by
  simp [runSize]

lemma size_pos (r : Regex) : 0 < size r := by
  induction r with
  | cat a b iha ihb => exact Nat.add_pos_left iha _
  | rep a min max greedy ih =>
    unfold size repSize
    split
    · split
      · split <;> omega
      · omega
    · omega
  | counted number a ih => exact ih
  | _ => exact Nat.succ_pos _

lemma runSize_pos {rs : List Regex} (hne : rs ≠ []) : 0 < runSize rs := by
  cases rs with
  | nil => exact absurd rfl hne
  | cons r rs =>
    have hpos := size_pos r
    rw [runSize_cons]
    omega

/-- The parts of an expression cost no more than the expression. -/
lemma runSize_parts_le (r : Regex) : runSize (parts r) ≤ size r := by
  induction r with
  | empty => exact Nat.zero_le _
  | cat a b iha ihb =>
    rw [parts, runSize_append, size]
    omega
  | _ => simp [parts]

/-- Joining texts keeps the number of instructions. -/
theorem runSize_consPart (r : Regex) (rs : List Regex) :
    runSize (consPart r rs) = size r + runSize rs := by
  unfold consPart
  split
  · simp only [runSize_cons, size, List.length_append, List.length_cons]
    omega
  · exact runSize_cons r _

/-- Joining texts does not change what a run costs. -/
lemma runSize_foldr_consPart (rs : List Regex) :
    runSize (rs.foldr consPart []) = runSize rs := by
  induction rs with
  | nil => rfl
  | cons r rs ih => rw [List.foldr_cons, runSize_consPart, ih, runSize_cons]

/-- A run costs what its parts do, and an empty one costs one instruction. -/
lemma size_ofParts_le (rs : List Regex) : size (ofParts rs) ≤ max 1 (runSize rs) := by
  induction rs with
  | nil => exact Nat.le_refl _
  | cons r rs ih =>
    cases rs with
    | nil => exact le_max_of_le_right (by simp [ofParts])
    | cons s rs =>
      have hpos := runSize_pos (List.cons_ne_nil s rs)
      rw [ofParts, size, runSize_cons r]
      · omega
      · simp

lemma runSize_flatMap_parts_le (rs : List Regex) :
    runSize (rs.flatMap parts) ≤ runSize rs := by
  induction rs with
  | nil => exact Nat.le_refl _
  | cons r rs ih =>
    have hparts := runSize_parts_le r
    rw [List.flatMap_cons, runSize_append, runSize_cons]
    omega

/-- A run of expressions costs no more than they do. -/
lemma size_run_le (rs : List Regex) : size (run rs) ≤ max 1 (runSize (rs.flatMap parts)) := by
  have hparts := size_ofParts_le ((rs.flatMap parts).foldr consPart [])
  rwa [runSize_foldr_consPart] at hparts

/-! ## Choices -/

/-- The number of instructions of some alternatives, with one more for each. -/
def choiceSize (rs : List Regex) : Nat := (rs.map fun r => size r + 1).sum

@[simp] lemma choiceSize_nil : choiceSize [] = 0 := rfl

@[simp] lemma choiceSize_cons (r : Regex) (rs : List Regex) :
    choiceSize (r :: rs) = size r + 1 + choiceSize rs := by
  simp [choiceSize]

@[simp] lemma choiceSize_append (rs others : List Regex) :
    choiceSize (rs ++ others) = choiceSize rs + choiceSize others := by
  simp [choiceSize]

@[simp] lemma choiceSize_alternatives (r : Regex) :
    choiceSize (alternatives r) = size r + 1 := by
  induction r with
  | alt a b iha ihb =>
    rw [alternatives, choiceSize_append, iha, ihb, size]
    omega
  | _ => simp [alternatives]

@[simp] lemma choiceSize_flatMap_alternatives (rs : List Regex) :
    choiceSize (rs.flatMap alternatives) = choiceSize rs := by
  induction rs with
  | nil => rfl
  | cons r rs ih => rw [List.flatMap_cons, choiceSize_append, choiceSize_alternatives, ih,
      choiceSize_cons]

/-- Alternatives cost one instruction for each choice between them. -/
lemma size_ofAlternatives_le (rs : List Regex) :
    size (ofAlternatives rs) + 1 ≤ max 2 (choiceSize rs) := by
  induction rs with
  | nil => exact Nat.le_refl _
  | cons r rs ih =>
    cases rs with
    | nil => exact le_max_of_le_right (by simp [ofAlternatives])
    | cons s rs =>
      have hpos := size_pos s
      rw [choiceSize_cons s] at ih
      rw [ofAlternatives, size, choiceSize_cons r, choiceSize_cons s]
      · omega
      · simp

@[simp] lemma size_ofClass (unicode : Bool) (s : CharClass) : size (ofClass unicode s) = 1 := by
  unfold ofClass
  split <;> rfl

/-- Joined alternatives cost no more than the choices between them. -/
lemma size_joined_le (rs : List Regex) : size (joined rs) + 1 ≤ max 2 (choiceSize rs) := by
  unfold joined
  split
  · rw [size_ofClass]
    exact le_max_left _ _
  · exact size_ofAlternatives_le rs

lemma isPrefix_commonStart (as bs : List Regex) : commonStart as bs <+: as := by
  induction as generalizing bs with
  | nil => cases bs <;> exact List.prefix_refl _
  | cons a as ih =>
    cases bs with
    | nil => exact List.nil_prefix
    | cons b bs =>
      rw [commonStart]
      split
      · exact List.cons_prefix_cons.2 ⟨rfl, ih bs⟩
      · exact List.nil_prefix

lemma isPrefix_foldl_commonStart (runs : List (List Regex)) (as : List Regex) :
    runs.foldl commonStart as <+: as := by
  induction runs generalizing as with
  | nil => exact List.prefix_refl as
  | cons bs runs ih => exact (ih _).trans (isPrefix_commonStart as bs)

/-- Alternatives that have lost what all of them begin with are no longer than before, apart from
one that may have become empty. -/
theorem choiceSize_drop_le (k : Nat) {runs : List (List Regex)}
    (hne : ∀ parts ∈ runs, parts ≠ []) :
    choiceSize (runs.map fun parts => ofParts (parts.drop k)) ≤
      (runs.map fun parts => runSize parts + 1).sum := by
  induction runs with
  | nil => exact Nat.le_refl _
  | cons parts runs ih =>
    have hparts := size_ofParts_le (parts.drop k)
    have hpos := runSize_pos (hne parts List.mem_cons_self)
    have hdrop : runSize (parts.drop k) ≤ runSize parts := by
      have hall := congrArg runSize (List.take_append_drop k parts)
      rw [runSize_append] at hall
      omega
    have hrest := ih fun parts hmem => hne parts (List.mem_cons_of_mem _ hmem)
    rw [List.map_cons, List.map_cons, choiceSize_cons, List.sum_cons]
    omega

/-- The parts of all alternatives cost no more than the alternatives. -/
lemma sum_runSize_parts_le (rs : List Regex) :
    ((rs.map parts).map fun parts => runSize parts + 1).sum ≤ choiceSize rs := by
  induction rs with
  | nil => exact Nat.le_refl _
  | cons r rs ih =>
    have hparts := runSize_parts_le r
    rw [List.map_cons, List.map_cons, List.sum_cons, choiceSize_cons]
    omega

/-- The shared start is the beginning of the first alternative, and each alternative has two parts
or more. -/
theorem exists_of_sharedStart {runs : List (List Regex)} (hne : sharedStart runs ≠ []) :
    ∃ parts rest, runs = parts :: rest ∧ sharedStart runs <+: parts ∧
      ∀ parts ∈ runs, parts ≠ [] := by
  unfold sharedStart at hne ⊢
  cases runs with
  | nil => exact absurd rfl hne
  | cons parts rest =>
    simp only at hne ⊢
    split at hne
    · rename_i hall
      rw [if_pos hall]
      refine ⟨parts, rest, rfl, isPrefix_foldl_commonStart rest parts, ?_⟩
      rintro parts hmem rfl
      have htwo := List.all_eq_true.1 hall [] hmem
      simp at htwo
    · exact absurd rfl hne

/-- A choice whose alternatives share a start. -/
theorem size_run_sharedStart_le (rs : List Regex) (hne : sharedStart (rs.map parts) ≠ []) :
    size (run (sharedStart (rs.map parts) ++
      [joined (((rs.map parts).map fun items =>
        ofParts (items.drop (sharedStart (rs.map parts)).length)).flatMap alternatives)])) ≤
      choiceSize rs := by
  obtain ⟨first, rest, hruns, hprefix, hparts⟩ := exists_of_sharedStart hne
  have hsum := sum_runSize_parts_le rs
  generalize sharedStart (rs.map parts) = start at hprefix ⊢
  rw [hruns] at hsum hparts ⊢
  have hrun := size_run_le (start ++ [joined (((first :: rest).map fun items =>
    ofParts (items.drop start.length)).flatMap alternatives)])
  have hjoined := size_joined_le (((first :: rest).map fun items =>
    ofParts (items.drop start.length)).flatMap alternatives)
  have hflat := runSize_flatMap_parts_le (start ++ [joined (((first :: rest).map fun items =>
    ofParts (items.drop start.length)).flatMap alternatives)])
  rw [choiceSize_flatMap_alternatives, List.map_cons, choiceSize_cons] at hjoined
  rw [runSize_append, runSize_cons, runSize_nil] at hflat
  -- what the first alternative begins with moves ahead of the choice
  have hfirst := size_ofParts_le (first.drop start.length)
  have hsplit : runSize start + runSize (first.drop start.length) = runSize first := by
    obtain ⟨after, rfl⟩ := hprefix
    rw [List.drop_left, runSize_append]
  have hnonempty : ∀ items ∈ rest, items ≠ [] := fun items hmem =>
    hparts items (List.mem_cons_of_mem _ hmem)
  have hothers := choiceSize_drop_le start.length hnonempty
  have hpos := size_pos (ofParts (first.drop start.length))
  have hfull := runSize_pos (hparts first List.mem_cons_self)
  rw [List.map_cons, List.sum_cons] at hsum
  rw [List.map_cons] at hrun hflat ⊢
  omega

/-- Sharing a common start does not make a choice cost more. -/
lemma size_choice_le (rs : List Regex) : size (choice rs) ≤ max 1 (choiceSize rs) := by
  have hjoined := size_joined_le rs
  unfold choice
  split
  · rw [choiceSize_cons]
    omega
  · simp only
    split
    · omega
    · rename_i hstart
      exact le_max_of_le_right (size_run_sharedStart_le rs hstart)

/-- Simplification adds one instruction at most. -/
theorem size_simplify_le (r : Regex) : size r.simplify ≤ size r + 1 := by
  have hchoice := size_choice_le
    ((r.alternatives.map fun branch => run branch.parts).flatMap alternatives)
  -- each alternative becomes a run, which costs no more than it did
  have hruns : ∀ rs : List Regex, choiceSize (rs.map fun branch => run branch.parts) ≤
      choiceSize rs := by
    intro rs
    induction rs with
    | nil => exact Nat.le_refl _
    | cons s rs ih =>
      have hrun := size_run_le s.parts
      have hflat := runSize_flatMap_parts_le s.parts
      have hparts := runSize_parts_le s
      have hpos := size_pos s
      rw [List.map_cons, choiceSize_cons, choiceSize_cons]
      omega
  have hbound := hruns r.alternatives
  rw [choiceSize_flatMap_alternatives] at hchoice
  rw [choiceSize_alternatives] at hbound
  unfold simplify
  omega

/-! ## Patterns as they are written -/

/-- A bound on the instructions of a repetition of something with `n` instructions. -/
def repetitionCost (n min : Nat) (max : Option Nat) : Nat :=
  (max.getD 0 + min + 1) * (n + 1) + 2

lemma repetitionCost_mono {n m : Nat} (hle : n ≤ m) (min : Nat) (max : Option Nat) :
    repetitionCost n min max ≤ repetitionCost m min max :=
  Nat.add_le_add_right (Nat.mul_le_mul_left _ (Nat.succ_le_succ hle)) 2

/-- A repetition is counted with three instructions more than its body at least. -/
lemma le_repetitionCost (n min : Nat) (max : Option Nat) : n + 3 ≤ repetitionCost n min max := by
  have hturn : 1 * (n + 1) ≤ (max.getD 0 + min + 1) * (n + 1) :=
    Nat.mul_le_mul_right _ (Nat.succ_le_succ (Nat.zero_le _))
  unfold repetitionCost
  omega

/-- A repetition costs no more than it is counted for. -/
lemma repSize_le (n : Nat) (nullable : Bool) (min : Nat) (max : Option Nat) :
    repSize n nullable min max ≤ repetitionCost n min max := by
  cases max with
  | none =>
    have hcost := le_repetitionCost n min none
    have hturns : min * n ≤ (min + 1) * (n + 1) := Nat.mul_le_mul (Nat.le_succ _) (Nat.le_succ _)
    unfold repSize repetitionCost at *
    simp only [Option.getD_none, Nat.zero_add] at *
    split
    · split <;> omega
    · omega
  | some most =>
    have hturns : min * n ≤ min * (n + 1) := Nat.mul_le_mul_left _ (Nat.le_succ _)
    have hoptional : (most - min) * (n + 1) ≤ most * (n + 1) :=
      Nat.mul_le_mul_right _ (Nat.sub_le _ _)
    have hcost : (most + min + 1) * (n + 1) = most * (n + 1) + min * (n + 1) + (n + 1) := by ring
    unfold repSize repetitionCost
    simp only [Option.getD_some]
    omega

/-- A repetition of one turn at most. -/
theorem repSize_le_of_le_one (n : Nat) (nullable : Bool) {least most : Nat} (hleast : least ≤ 1)
    (hmost : most ≤ 1) : repSize n nullable least (some most) ≤ n + 2 := by
  show least * n + (most - least) * (n + 1) + 1 ≤ n + 2
  interval_cases least <;> interval_cases most <;> omega

/-- A repetition costs no more than it is counted for, however it is simplified. -/
lemma size_repetition_le (a : Regex) (min : Nat) (max : Option Nat) (greedy : Bool) :
    size (a.repetition min max greedy) ≤ repetitionCost (size a) min max := by
  have hcost := le_repetitionCost (size a) min max
  have hempty : size empty = 1 := rfl
  unfold repetition
  by_cases hnothing : a.takesNothing = true
  · -- one turn at most is left
    have hturn : repSize (size a) a.nullable (Nat.min min 1)
        (some ((max.map (Nat.min · 1)).getD 1)) ≤ size a + 2 := by
      refine repSize_le_of_le_one _ _ (Nat.min_le_right _ _) ?_
      cases max with
      | none => exact Nat.le_refl _
      | some most => exact Nat.min_le_right _ _
    rw [if_pos hnothing]
    generalize Nat.min min 1 = least at hturn ⊢
    generalize some ((max.map (Nat.min · 1)).getD 1) = most at hturn ⊢
    simp only
    split
    · omega
    · omega
    · exact hturn.trans (Nat.le_trans (Nat.le_succ _) hcost)
  · -- the body takes something, so all turns are kept
    have hrep := repSize_le (size a) a.nullable min max
    rw [if_neg hnothing]
    simp only
    split
    · omega
    · omega
    · exact hrep

/-- A bound on the instructions of a pattern. -/
def Expr.cost : Expr → Nat
  | .repetition e min max _ => repetitionCost e.cost min max
  | .group _ _ e => e.cost + 1
  | .cat a b => a.cost + b.cost
  | .alt a b => a.cost + b.cost + 1
  | _ => 1

lemma size_literalRegex (flags : Flags) (c : Char) : size (literalRegex flags c) = 1 := by
  unfold literalRegex
  split <;> rfl

/-- The expression that a pattern stands for keeps to its bound, under all flags. -/
theorem size_le_cost {e : Expr} {flags next : Flags} {r : Regex}
    (h : e.meaning? flags = some (r, next)) : size r ≤ e.cost := by
  induction e generalizing flags next r with
  | empty =>
    cases h
    exact Nat.le_refl _
  | setFlags change =>
    cases h
    exact Nat.le_refl _
  | literal l =>
    unfold Expr.meaning? at h
    split at h
    · cases h
    · cases h
      exact Nat.le_of_eq (size_literalRegex flags l.char)
  | dot =>
    unfold Expr.meaning? at h
    split at h
    · cases h
      exact Nat.le_of_eq (size_ofClass _ _)
    · cases h
  | assertion a =>
    cases h
    exact Nat.le_refl _
  | set s =>
    obtain ⟨c, -, hc⟩ := Option.map_eq_some_iff.1 h
    cases hc
    exact Nat.le_of_eq (size_ofClass _ _)
  | repetition e min max greedy ih =>
    obtain ⟨⟨body, after⟩, hbody, hr⟩ := Option.bind_eq_some_iff.1 h
    cases hr
    exact (size_repetition_le body min max _).trans (repetitionCost_mono (ih hbody) min max)
  | group number change e ih =>
    obtain ⟨⟨body, after⟩, hbody, hr⟩ := Option.bind_eq_some_iff.1 h
    have hle := ih hbody
    -- a group is simplified where it ends
    have hsimplify := size_simplify_le body
    cases hr
    cases number with
    | none => exact hsimplify.trans (Nat.succ_le_succ hle)
    | some n => exact hsimplify.trans (Nat.succ_le_succ hle)
  | cat a b iha ihb =>
    obtain ⟨⟨first, middle⟩, hfirst, h⟩ := Option.bind_eq_some_iff.1 h
    obtain ⟨⟨second, last⟩, hsecond, hr⟩ := Option.bind_eq_some_iff.1 h
    cases hr
    exact Nat.add_le_add (iha hfirst) (ihb hsecond)
  | alt a b iha ihb =>
    obtain ⟨⟨first, middle⟩, hfirst, h⟩ := Option.bind_eq_some_iff.1 h
    obtain ⟨⟨second, last⟩, hsecond, hr⟩ := Option.bind_eq_some_iff.1 h
    cases hr
    exact Nat.succ_le_succ (Nat.add_le_add (iha hfirst) (ihb hsecond))

/-- A pattern that can be read, that has a meaning and whose bound is not too large is accepted. -/
theorem exists_ofPattern? {pattern : List Char} {ignoreCase : Bool} {e : Expr}
    (hread : Expr.read? pattern = some e) (hmeaning : (e.meaning? { ignoreCase }).isSome = true)
    (hcost : e.cost < Program.maxSize) :
    ∃ program, Program.ofPattern? pattern ignoreCase = some program := by
  obtain ⟨⟨r, next⟩, hr⟩ := Option.isSome_iff_exists.1 hmeaning
  have hsize : size r.simplify ≤ Program.maxSize :=
    (size_simplify_le r).trans (Nat.le_trans (Nat.succ_le_succ (size_le_cost hr)) hcost)
  refine ⟨Program.ofRegex r.simplify, ?_⟩
  unfold Program.ofPattern? Expr.regex?
  rw [hread, Option.bind_eq_bind, Option.bind_some, hr, Option.map_some, Option.bind_eq_bind,
    Option.bind_some, if_pos hsize]
  rfl

end Highlight.Regex
