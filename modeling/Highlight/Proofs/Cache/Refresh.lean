import Highlight.Proofs.Cache.Pass
import Mathlib.Data.List.Basic

/-!
# What one refresh does

`Refreshed` says everything about a refresh, line by line: it colors one block of lines, from the
first invalid line on, each with the state that is stored for the line before it by then, and leaves
the other lines and states as they are. It ends with its budget, with the buffer, or behind the
stale lines at a line that hands on what was stored for it. `refreshed` proves this of a cache with
as many states as there are lines, and `refreshed_sized` of every other cache, once it is sized.
-/

namespace Highlight

namespace HighlightCache

open Buffer (passFrom carryFrom getElem?_passFrom)

variable {h : Highlighter}

/-! ## Painting a block of lines -/

lemma count_paint_le_budget (budget stale : Nat) (carry : LineState) (lines : Buffer)
    (states : List LineState) : (paint h budget stale carry lines states).count ≤ budget := by
  fun_induction paint h budget stale carry lines states with
  | case1 => exact Nat.succ_le_succ (Nat.zero_le _)
  | case2 budget stale carry line lines previous states painted next hcol hstop rest ih =>
    exact Nat.succ_le_succ ih
  | case3 => exact Nat.zero_le _

lemma count_paint_le_length (budget stale : Nat) (carry : LineState) (lines : Buffer)
    (states : List LineState) : (paint h budget stale carry lines states).count ≤ lines.length := by
  fun_induction paint h budget stale carry lines states with
  | case1 => exact Nat.succ_le_succ (Nat.zero_le _)
  | case2 budget stale carry line lines previous states painted next hcol hstop rest ih =>
    exact Nat.succ_le_succ ih
  | case3 => exact Nat.zero_le _

@[simp] lemma length_lines_paint (budget stale : Nat) (carry : LineState) (lines : Buffer)
    (states : List LineState) :
    (paint h budget stale carry lines states).lines.length = lines.length := by
  fun_induction paint h budget stale carry lines states with
  | case1 => rfl
  | case2 budget stale carry line lines previous states painted next hcol hstop rest ih =>
    exact congrArg (· + 1) ih
  | case3 => rfl

@[simp] lemma length_states_paint (budget stale : Nat) (carry : LineState) (lines : Buffer)
    (states : List LineState) :
    (paint h budget stale carry lines states).states.length = states.length := by
  fun_induction paint h budget stale carry lines states with
  | case1 => rfl
  | case2 budget stale carry line lines previous states painted next hcol hstop rest ih =>
    exact congrArg (· + 1) ih
  | case3 => rfl

/-- The lines are painted as in a pass, as far as they are counted, and kept behind that. -/
theorem lines_paint (budget stale : Nat) (carry : LineState) (lines : Buffer)
    (states : List LineState) :
    (paint h budget stale carry lines states).lines =
      ((passFrom h carry lines).take
        (paint h budget stale carry lines states).count).map Prod.fst ++
        lines.drop (paint h budget stale carry lines states).count := by
  fun_induction paint h budget stale carry lines states with
  | case1 budget stale carry line lines previous states painted next hcol hstop =>
    simp only [passFrom, hcol, List.take_succ_cons, List.take_zero, List.map_cons, List.map_nil,
      List.drop_succ_cons, List.drop_zero, List.cons_append, List.nil_append]
  | case2 budget stale carry line lines previous states painted next hcol hstop rest ih =>
    simp only [passFrom, hcol, List.take_succ_cons, List.map_cons, List.drop_succ_cons,
      List.cons_append]
    exact congrArg _ ih
  | case3 => rfl

/-- The states are those of a pass, as far as lines are counted, and kept behind that. -/
theorem states_paint (budget stale : Nat) (carry : LineState) (lines : Buffer)
    (states : List LineState) :
    (paint h budget stale carry lines states).states =
      ((passFrom h carry lines).take
        (paint h budget stale carry lines states).count).map Prod.snd ++
        states.drop (paint h budget stale carry lines states).count := by
  fun_induction paint h budget stale carry lines states with
  | case1 budget stale carry line lines previous states painted next hcol hstop =>
    simp only [passFrom, hcol, List.take_succ_cons, List.take_zero, List.map_cons, List.map_nil,
      List.drop_succ_cons, List.drop_zero, List.cons_append, List.nil_append]
  | case2 budget stale carry line lines previous states painted next hcol hstop rest ih =>
    simp only [passFrom, hcol, List.take_succ_cons, List.map_cons, List.drop_succ_cons,
      List.cons_append]
    exact congrArg _ ih
  | case3 => rfl

/-- A pass that ends early has colored the stale lines, and the last line it colored hands on what
it did before. -/
theorem settled_paint {budget stale : Nat} {carry : LineState} {lines : Buffer}
    {states : List LineState} (hs : (paint h budget stale carry lines states).settled = true) :
    ∃ k, (paint h budget stale carry lines states).count = k + 1 ∧ stale ≤ k + 1 ∧
      (paint h budget stale carry lines states).states[k]? = states[k]? := by
  fun_induction paint h budget stale carry lines states with
  | case1 budget stale carry line lines previous states painted next hcol hstop =>
    exact ⟨0, rfl, hstop.1, by rw [List.getElem?_cons_zero, List.getElem?_cons_zero, hstop.2]⟩
  | case2 budget stale carry line lines previous states painted next hcol hstop rest ih =>
    obtain ⟨k, hcount, hstale, hstate⟩ := ih hs
    refine ⟨k + 1, congrArg (· + 1) hcount, by omega, ?_⟩
    rw [List.getElem?_cons_succ, List.getElem?_cons_succ]
    exact hstate
  | case3 => exact absurd hs (by simp)

/-- A pass that does not end early colors as many lines as its budget allows. -/
theorem count_paint_of_not_settled {budget stale : Nat} {carry : LineState} {lines : Buffer}
    {states : List LineState} (hlen : states.length = lines.length)
    (hs : (paint h budget stale carry lines states).settled = false) :
    (paint h budget stale carry lines states).count = min budget lines.length := by
  fun_induction paint h budget stale carry lines states with
  | case1 => exact absurd hs (by simp)
  | case2 budget stale carry line lines previous states painted next hcol hstop rest ih =>
    have hcount : rest.count = min budget lines.length := ih (Nat.succ.inj hlen) hs
    show rest.count + 1 = min (budget + 1) (lines.length + 1)
    rw [hcount, Nat.add_min_add_right]
  | case3 budget stale carry lines states hcases =>
    -- one of the three runs out, and with the lines so do the states
    cases budget with
    | zero => exact (Nat.zero_min _).symm
    | succ budget =>
      cases lines with
      | nil => exact (Nat.min_zero _).symm
      | cons line lines =>
        cases states with
        | nil => exact absurd hlen (by simp)
        | cons previous states => exact (hcases budget line lines previous states rfl rfl rfl).elim

/-- A pass does not go beyond a line behind the stale ones that hands on what it did before. -/
theorem count_paint_le_of_state_eq {budget stale : Nat} {carry : LineState} {lines : Buffer}
    {states : List LineState} {k : Nat} (hk : k < lines.length) (hstale : stale ≤ k + 1)
    (hstate : states[k]? = (passFrom h carry lines)[k]?.map Prod.snd) :
    (paint h budget stale carry lines states).count ≤ k + 1 := by
  fun_induction paint h budget stale carry lines states generalizing k with
  | case1 => exact Nat.succ_le_succ (Nat.zero_le _)
  | case2 budget stale carry line lines previous states painted next hcol hstop rest =>
    rename_i ih
    cases k with
    | zero =>
      -- this is the line, so the pass would have ended here
      rw [passFrom, hcol, List.getElem?_cons_zero, List.getElem?_cons_zero, Option.map_some,
        Option.some.injEq] at hstate
      exact absurd ⟨by omega, hstate⟩ hstop
    | succ k =>
      rw [passFrom, hcol, List.getElem?_cons_succ, List.getElem?_cons_succ] at hstate
      exact Nat.succ_le_succ (ih (Nat.lt_of_succ_lt_succ hk) (by omega) hstate)
  | case3 => exact Nat.zero_le _

/-- A line of the block behind the stale ones for which the state stays is the last line of the
block, and ends the pass. -/
theorem settled_paint_of_state_eq {budget stale : Nat} {carry : LineState} {lines : Buffer}
    {states : List LineState} {k : Nat}
    (hk : k < (paint h budget stale carry lines states).count) (hstale : stale ≤ k + 1)
    (hstate : (paint h budget stale carry lines states).states[k]? = states[k]?) :
    (paint h budget stale carry lines states).count = k + 1 ∧
      (paint h budget stale carry lines states).settled = true := by
  fun_induction paint h budget stale carry lines states generalizing k with
  | case1 =>
    obtain rfl : k = 0 := Nat.lt_one_iff.1 hk
    exact ⟨rfl, rfl⟩
  | case2 budget stale carry line lines previous states painted next hcol hstop rest =>
    rename_i ih
    cases k with
    | zero =>
      -- this is the line, so the pass would have ended here
      rw [List.getElem?_cons_zero, List.getElem?_cons_zero, Option.some.injEq] at hstate
      exact absurd ⟨by omega, hstate.symm⟩ hstop
    | succ k =>
      rw [List.getElem?_cons_succ, List.getElem?_cons_succ] at hstate
      obtain ⟨hcount, hsettled⟩ := ih (Nat.lt_of_succ_lt_succ hk) (by omega) hstate
      exact ⟨congrArg (· + 1) hcount, hsettled⟩
  | case3 => exact absurd hk (Nat.not_lt_zero k)

/-! ## One refresh -/

/-- The cache with as many states as there are lines; where their number changes, all lines are
stale. -/
def sized (cache : HighlightCache) (lineCount : Nat) : HighlightCache :=
  if cache.states.length ≠ lineCount then
    { cache with states := resize cache.states lineCount, staleUntil := lineCount }
  else cache

/-- What a refresh of `cache` and `lines` for a highlighter has done, when it leaves `cache'` and
`lines'` and reports `count` lines. -/
structure Refreshed (h : Highlighter) (cache : HighlightCache) (lines : Buffer)
    (cache' : HighlightCache) (lines' : Buffer) (count : Nat) : Prop where
  length_lines : lines'.length = lines.length
  length_states : cache'.states.length = lines.length
  count_le_budget : count ≤ h.maxLinesPerFrame
  count_le_rest : count ≤ lines.length - cache.invalidFrom
  /-- Lines outside of the block keep their colors. -/
  line_eq : ∀ k, ¬(cache.invalidFrom ≤ k ∧ k < cache.invalidFrom + count) → lines'[k]? = lines[k]?
  /-- Lines outside of the block keep their states. -/
  state_eq : ∀ k, ¬(cache.invalidFrom ≤ k ∧ k < cache.invalidFrom + count) →
    cache'.states[k]? = cache.states[k]?
  /-- Lines of the block are colored with the state that the line before hands on. -/
  colored : ∀ k, cache.invalidFrom ≤ k → k < cache.invalidFrom + count → ∃ line,
    lines[k]? = some line ∧
      lines'[k]? = some (h.colorize line (carryInto cache'.states k)).1 ∧
      cache'.states[k]? = some (h.colorize line (carryInto cache'.states k)).2
  /-- Either no line is left to color, or the budget is spent. -/
  ends : (lines.length ≤ cache'.invalidFrom ∧ cache'.staleUntil = 0 ∧
      (cache.invalidFrom + count < lines.length → ∃ k, cache.invalidFrom + count = k + 1 ∧
        cache.invalidFrom ≤ k ∧ cache.staleUntil ≤ k + 1 ∧ cache'.states[k]? = cache.states[k]?)) ∨
    (cache.invalidFrom + count < lines.length ∧ cache'.invalidFrom = cache.invalidFrom + count ∧
      count = h.maxLinesPerFrame ∧
      cache'.staleUntil = max cache.staleUntil (cache.invalidFrom + count + 1))

variable {cache : HighlightCache} {lines : Buffer}

lemma length_states_sized (cache : HighlightCache) (lineCount : Nat) :
    (cache.sized lineCount).states.length = lineCount := by
  unfold sized
  by_cases hlen : cache.states.length ≠ lineCount
  · rw [if_pos hlen]
    simp only [resize, List.length_append, List.length_take, List.length_replicate]
    omega
  · rw [if_neg hlen]
    exact Decidable.not_not.1 hlen

@[simp] lemma invalidFrom_sized (cache : HighlightCache) (lineCount : Nat) :
    (cache.sized lineCount).invalidFrom = cache.invalidFrom := by
  unfold sized
  split <;> rfl

lemma sized_of_length_eq {lineCount : Nat} (hlen : cache.states.length = lineCount) :
    cache.sized lineCount = cache :=
  if_neg (Decidable.not_not.2 hlen)

/-- A refresh first gives the cache as many states as there are lines. -/
theorem refresh_sized (h : Highlighter) (cache : HighlightCache) (lines : Buffer) :
    (cache.sized lines.length).refresh h lines = cache.refresh h lines := by
  by_cases hlen : cache.states.length = lines.length
  · rw [sized_of_length_eq hlen]
  · -- the second sizing finds the right number and keeps the stale lines of the first
    have hsized := length_states_sized cache lines.length
    rw [sized, if_pos hlen] at hsized ⊢
    simp only [refresh, hsized, ne_eq, not_true_eq_false, if_false, hlen,
      not_false_eq_true, if_true]

/-- The lines that a refresh paints, and what it knows of them. -/
def painting (h : Highlighter) (cache : HighlightCache) (lines : Buffer) : PaintedLines :=
  paint h h.maxLinesPerFrame (cache.staleUntil - cache.invalidFrom)
    (carryInto cache.states cache.invalidFrom) (lines.drop cache.invalidFrom)
    (cache.states.drop cache.invalidFrom)

/-- A refresh of a cache of the right size paints lines from the first invalid one on and stores
what they hand on. -/
lemma refresh_of_length_eq (h : Highlighter) (hlen : cache.states.length = lines.length) :
    cache.refresh h lines =
      let painted := painting h cache lines
      let next :=
        if painted.settled then lines.length else cache.invalidFrom + painted.count
      ({ states := cache.states.take cache.invalidFrom ++ painted.states
         invalidFrom := next
         staleUntil := if lines.length ≤ next then 0 else max cache.staleUntil (next + 1) },
        lines.take cache.invalidFrom ++ painted.lines, painted.count) := by
  simp only [refresh, painting, hlen, ne_eq, not_true_eq_false, if_false]
  rfl

/-- A list with a block of it replaced has the new items in the block and the old ones outside. -/
private theorem getElem?_replaced {α : Type} (items block : List α) (start k : Nat)
    (hblock : block.length ≤ items.length - start) :
    (items.take start ++ (block ++ (items.drop start).drop block.length))[k]? =
      if start ≤ k ∧ k < start + block.length then block[k - start]? else items[k]? := by
  by_cases hstart : start ≤ items.length
  · have htake : (items.take start).length = start := by rw [List.length_take]; omega
    by_cases hlow : k < start
    · rw [List.getElem?_append_left (by omega), List.getElem?_take_of_lt hlow, if_neg (by omega)]
    · rw [List.getElem?_append_right (by omega), htake]
      by_cases hhigh : k < start + block.length
      · rw [List.getElem?_append_left (by omega), if_pos (by omega)]
      · rw [List.getElem?_append_right (by omega), List.getElem?_drop, List.getElem?_drop,
          if_neg (by omega)]
        congr 1
        omega
  · have hnil : block = [] := List.eq_nil_of_length_eq_zero (by omega)
    rw [hnil, List.nil_append, List.length_nil, List.drop_zero, List.take_append_drop,
      if_neg (by omega)]

/-! ### The block of lines that is colored -/

section Block

variable (h : Highlighter) (cache : HighlightCache) (lines : Buffer)

lemma count_painting_le :
    (painting h cache lines).count ≤ lines.length - cache.invalidFrom := by
  rw [← List.length_drop]
  exact count_paint_le_length _ _ _ _ _

/-- The lines and states of the block, as a pass from its first line on gives them. -/
private def block : List (Line × LineState) :=
  (passFrom h (carryInto cache.states cache.invalidFrom) (lines.drop cache.invalidFrom)).take
    (painting h cache lines).count

private lemma length_block : (block h cache lines).length = (painting h cache lines).count := by
  have hcount := count_painting_le h cache lines
  rw [block, List.length_take, Buffer.length_passFrom, List.length_drop]
  exact Nat.min_eq_left hcount

/-- A line of the block is painted in the state that the lines before it in the block hand on. -/
private lemma getElem?_block {k : Nat} (hk : k < (painting h cache lines).count) :
    (block h cache lines)[k]? = (lines.drop cache.invalidFrom)[k]?.map fun line =>
      h.colorize line (carryFrom h (carryInto cache.states cache.invalidFrom)
        ((lines.drop cache.invalidFrom).take k)) := by
  rw [block, List.getElem?_take_of_lt hk, getElem?_passFrom]

/-- After a refresh the lines of the block are painted, and the others are as they were. -/
private lemma getElem?_lines_refresh (hlen : cache.states.length = lines.length) (k : Nat) :
    (cache.refresh h lines).2.1[k]? =
      if cache.invalidFrom ≤ k ∧ k < cache.invalidFrom + (painting h cache lines).count then
        (block h cache lines)[k - cache.invalidFrom]?.map Prod.fst
      else lines[k]? := by
  have hblock : ((block h cache lines).map Prod.fst).length = (painting h cache lines).count := by
    rw [List.length_map, length_block]
  have hpaint : (painting h cache lines).lines = (block h cache lines).map Prod.fst ++
      (lines.drop cache.invalidFrom).drop ((block h cache lines).map Prod.fst).length := by
    rw [hblock]
    exact lines_paint _ _ _ _ _
  rw [refresh_of_length_eq h hlen]
  show (lines.take cache.invalidFrom ++ (painting h cache lines).lines)[k]? = _
  rw [hpaint, getElem?_replaced _ _ _ _ (by rw [hblock]; exact count_painting_le h cache lines),
    hblock, List.getElem?_map]

/-- After a refresh the states of the block are those that its lines hand on, and the others are as
they were. -/
private lemma getElem?_states_refresh (hlen : cache.states.length = lines.length) (k : Nat) :
    (cache.refresh h lines).1.states[k]? =
      if cache.invalidFrom ≤ k ∧ k < cache.invalidFrom + (painting h cache lines).count then
        (block h cache lines)[k - cache.invalidFrom]?.map Prod.snd
      else cache.states[k]? := by
  have hblock : ((block h cache lines).map Prod.snd).length = (painting h cache lines).count := by
    rw [List.length_map, length_block]
  have hpaint : (painting h cache lines).states = (block h cache lines).map Prod.snd ++
      (cache.states.drop cache.invalidFrom).drop ((block h cache lines).map Prod.snd).length := by
    rw [hblock]
    exact states_paint _ _ _ _ _
  rw [refresh_of_length_eq h hlen]
  show (cache.states.take cache.invalidFrom ++ (painting h cache lines).states)[k]? = _
  rw [hpaint,
    getElem?_replaced _ _ _ _ (by rw [hblock, hlen]; exact count_painting_le h cache lines),
    hblock, List.getElem?_map]

/-- In the block, the state stored for the line before is the one a pass has come to. -/
private theorem carryInto_states_refresh (hlen : cache.states.length = lines.length) {k : Nat}
    (hk : k ≤ (painting h cache lines).count) :
    carryInto (cache.refresh h lines).1.states (cache.invalidFrom + k) =
      carryFrom h (carryInto cache.states cache.invalidFrom)
        ((lines.drop cache.invalidFrom).take k) := by
  induction k with
  | zero =>
    -- the state before the block is stored outside of it
    rw [List.take_zero, Buffer.carryFrom_nil]
    refine carryInto_congr fun j hj => ?_
    rw [getElem?_states_refresh h cache lines hlen, if_neg (by omega)]
  | succ k ih =>
    have hcount := count_painting_le h cache lines
    obtain ⟨line, hline⟩ : ∃ line, (lines.drop cache.invalidFrom)[k]? = some line :=
      ⟨_, List.getElem?_eq_getElem (by rw [List.length_drop]; omega)⟩
    rw [Buffer.carryFrom_take_succ _ hline, ← Nat.add_assoc]
    refine carryInto_succ ?_
    rw [getElem?_states_refresh h cache lines hlen, if_pos (by omega), Nat.add_sub_cancel_left,
      getElem?_block h cache lines hk, hline]
    rfl

end Block

/-- How a refresh ends: early and for good, at the end of the buffer, or with its budget. -/
private theorem ends_refresh (h : Highlighter) (cache : HighlightCache) (lines : Buffer)
    (hlen : cache.states.length = lines.length) :
    (lines.length ≤ (cache.refresh h lines).1.invalidFrom ∧
        (cache.refresh h lines).1.staleUntil = 0 ∧
        (cache.invalidFrom + (painting h cache lines).count < lines.length →
          ∃ k, cache.invalidFrom + (painting h cache lines).count = k + 1 ∧
            cache.invalidFrom ≤ k ∧ cache.staleUntil ≤ k + 1 ∧
            (cache.refresh h lines).1.states[k]? = cache.states[k]?)) ∨
      (cache.invalidFrom + (painting h cache lines).count < lines.length ∧
        (cache.refresh h lines).1.invalidFrom =
          cache.invalidFrom + (painting h cache lines).count ∧
        (painting h cache lines).count = h.maxLinesPerFrame ∧
        (cache.refresh h lines).1.staleUntil =
          max cache.staleUntil (cache.invalidFrom + (painting h cache lines).count + 1)) := by
  have hblock := count_painting_le h cache lines
  cases hs : (painting h cache lines).settled with
  | true =>
    -- an early end stores the state of its last line over the same state
    obtain ⟨k, hcount, hstale, hstate⟩ := settled_paint hs
    have hnext : (cache.refresh h lines).1.invalidFrom = lines.length := by
      rw [refresh_of_length_eq h hlen]
      exact if_pos hs
    have hzero : (cache.refresh h lines).1.staleUntil = 0 := by
      rw [refresh_of_length_eq h hlen]
      simp only [hs, if_true, Nat.le_refl]
    refine .inl ⟨Nat.le_of_eq hnext.symm, hzero, fun hmore =>
      ⟨cache.invalidFrom + k, ?_, ?_, ?_, ?_⟩⟩
    · rw [painting, hcount, Nat.add_assoc]
    · exact Nat.le_add_right _ _
    · omega
    · have htake : (cache.states.take cache.invalidFrom).length = cache.invalidFrom := by
        rw [List.length_take]
        omega
      rw [refresh_of_length_eq h hlen]
      show (cache.states.take cache.invalidFrom ++ (painting h cache lines).states)[_]? = _
      rw [List.getElem?_append_right (by omega), htake, Nat.add_sub_cancel_left, painting, hstate,
        List.getElem?_drop]
  | false =>
    have hcount : (painting h cache lines).count =
        min h.maxLinesPerFrame (lines.drop cache.invalidFrom).length :=
      count_paint_of_not_settled (by simp only [List.length_drop, hlen]) hs
    rw [List.length_drop] at hcount
    have hnext : (cache.refresh h lines).1.invalidFrom =
        cache.invalidFrom + (painting h cache lines).count := by
      rw [refresh_of_length_eq h hlen]
      simp only [hs, Bool.false_eq_true, if_false]
    have hstale : (cache.refresh h lines).1.staleUntil =
        if lines.length ≤ cache.invalidFrom + (painting h cache lines).count then 0
        else max cache.staleUntil (cache.invalidFrom + (painting h cache lines).count + 1) := by
      rw [refresh_of_length_eq h hlen]
      simp only [hs, Bool.false_eq_true, if_false]
    by_cases hend : lines.length ≤ cache.invalidFrom + (painting h cache lines).count
    · rw [if_pos hend] at hstale
      exact .inl ⟨by omega, hstale, fun hmore => absurd hend (Nat.not_le.2 hmore)⟩
    · rw [if_neg hend] at hstale
      exact .inr ⟨Nat.not_le.1 hend, hnext, by omega, hstale⟩

/-- A refresh of a cache with as many states as there are lines colors one block of lines. -/
theorem refreshed (h : Highlighter) (hlen : cache.states.length = lines.length) :
    Refreshed h cache lines (cache.refresh h lines).1 (cache.refresh h lines).2.1
      (cache.refresh h lines).2.2 := by
  have hcount : (cache.refresh h lines).2.2 = (painting h cache lines).count := by
    rw [refresh_of_length_eq h hlen]
  have hrest := count_painting_le h cache lines
  rw [hcount]
  refine ⟨?_, ?_, count_paint_le_budget _ _ _ _ _, hrest, ?_, ?_, ?_,
    ends_refresh h cache lines hlen⟩
  · rw [refresh_of_length_eq h hlen]
    simp only [painting, List.length_append, List.length_take, length_lines_paint,
      List.length_drop]
    omega
  · rw [refresh_of_length_eq h hlen]
    simp only [painting, List.length_append, List.length_take, length_states_paint,
      List.length_drop, hlen]
    omega
  · intro k hk
    rw [getElem?_lines_refresh h cache lines hlen, if_neg hk]
  · intro k hk
    rw [getElem?_states_refresh h cache lines hlen, if_neg hk]
  · intro k hlow hhigh
    obtain ⟨j, rfl⟩ : ∃ j, k = cache.invalidFrom + j := ⟨k - cache.invalidFrom, by omega⟩
    obtain ⟨line, hline⟩ : ∃ line, (lines.drop cache.invalidFrom)[j]? = some line :=
      ⟨_, List.getElem?_eq_getElem (by rw [List.length_drop]; omega)⟩
    -- the line is colored in the state that the one before it has stored
    have hcarry := carryInto_states_refresh h cache lines hlen (k := j) (by omega)
    refine ⟨line, by rw [← hline, List.getElem?_drop], ?_, ?_⟩
    · rw [getElem?_lines_refresh h cache lines hlen, if_pos ⟨hlow, hhigh⟩,
        Nat.add_sub_cancel_left, getElem?_block h cache lines (by omega), hline, hcarry]
      rfl
    · rw [getElem?_states_refresh h cache lines hlen, if_pos ⟨hlow, hhigh⟩,
        Nat.add_sub_cancel_left, getElem?_block h cache lines (by omega), hline, hcarry]
      rfl

/-- A refresh does not go beyond a line behind the stale ones for which the state is stored that it
hands on in a pass from the first invalid line. -/
theorem refresh_le_of_state_eq (h : Highlighter) (hlen : cache.states.length = lines.length)
    {k : Nat} (hlow : cache.invalidFrom ≤ k) (hk : k < lines.length)
    (hstale : cache.staleUntil ≤ k + 1)
    (hstate : cache.states[k]? = some (carryFrom h (carryInto cache.states cache.invalidFrom)
      ((lines.drop cache.invalidFrom).take (k - cache.invalidFrom + 1)))) :
    cache.invalidFrom + (cache.refresh h lines).2.2 ≤ k + 1 := by
  have hcount : (painting h cache lines).count ≤ k - cache.invalidFrom + 1 := by
    refine count_paint_le_of_state_eq (by rw [List.length_drop]; omega) (by omega) ?_
    obtain ⟨line, hline⟩ :
        ∃ line, (lines.drop cache.invalidFrom)[k - cache.invalidFrom]? = some line :=
      ⟨_, List.getElem?_eq_getElem (by rw [List.length_drop]; omega)⟩
    rw [Buffer.carryFrom_take_succ _ hline] at hstate
    rw [List.getElem?_drop, Nat.add_sub_cancel' hlow, hstate, getElem?_passFrom, hline]
    rfl
  rw [refresh_of_length_eq h hlen]
  show cache.invalidFrom + (painting h cache lines).count ≤ k + 1
  omega

/-- A line of the block behind the stale ones for which the state stays is the last line that the
refresh colors, and no line is left to color behind it. -/
theorem refresh_ends_of_state_eq (h : Highlighter) (hlen : cache.states.length = lines.length)
    {k : Nat} (hlow : cache.invalidFrom ≤ k)
    (hhigh : k < cache.invalidFrom + (cache.refresh h lines).2.2)
    (hstale : cache.staleUntil ≤ k + 1)
    (hstate : (cache.refresh h lines).1.states[k]? = cache.states[k]?) :
    cache.invalidFrom + (cache.refresh h lines).2.2 = k + 1 ∧
      lines.length ≤ (cache.refresh h lines).1.invalidFrom := by
  have hrest := count_painting_le h cache lines
  have hcount : (cache.refresh h lines).2.2 = (painting h cache lines).count := by
    rw [refresh_of_length_eq h hlen]
  have htake : (cache.states.take cache.invalidFrom).length = cache.invalidFrom := by
    rw [List.length_take]
    omega
  obtain ⟨j, rfl⟩ : ∃ j, k = cache.invalidFrom + j := ⟨k - cache.invalidFrom, by omega⟩
  have hblock : (painting h cache lines).states[j]? =
      (cache.states.drop cache.invalidFrom)[j]? := by
    rw [refresh_of_length_eq h hlen] at hstate
    change (cache.states.take cache.invalidFrom ++ (painting h cache lines).states)[_]? = _
      at hstate
    rwa [List.getElem?_append_right (by omega), htake, Nat.add_sub_cancel_left,
      ← List.getElem?_drop] at hstate
  have hj : j < (painting h cache lines).count := by omega
  -- the loop stops behind the first line that is no longer stale and hands on what it did before
  obtain ⟨hend, hsettled⟩ := settled_paint_of_state_eq hj (by omega) hblock
  have hnext : (cache.refresh h lines).1.invalidFrom = lines.length := by
    rw [refresh_of_length_eq h hlen]
    exact if_pos hsettled
  refine ⟨?_, Nat.le_of_eq hnext.symm⟩
  rw [hcount, painting, hend, Nat.add_assoc]

/-- A refresh keeps the text. -/
theorem Refreshed.uncolored {cache' : HighlightCache} {lines' : Buffer} {count : Nat}
    (hr : Refreshed h cache lines cache' lines' count) :
    lines'.uncolored = lines.uncolored := by
  refine List.ext_getElem? fun k => ?_
  rw [Buffer.uncolored, Buffer.uncolored, List.getElem?_map, List.getElem?_map]
  by_cases hk : cache.invalidFrom ≤ k ∧ k < cache.invalidFrom + count
  · obtain ⟨line, hline, hline', -⟩ := hr.colored k hk.1 hk.2
    rw [hline', hline, Option.map_some, Option.map_some, Highlighter.text_colorize]
  · rw [hr.line_eq k hk]

/-- A refresh moves the first invalid line on, and not behind the last line. -/
theorem invalidFrom_refresh (h : Highlighter) (cache : HighlightCache) (lines : Buffer) :
    cache.invalidFrom ≤ (cache.refresh h lines).1.invalidFrom ∧
      (cache.refresh h lines).1.invalidFrom ≤ max cache.invalidFrom lines.length := by
  have hcount := count_painting_le h (cache.sized lines.length) lines
  have hnext : (cache.refresh h lines).1.invalidFrom =
      if (painting h (cache.sized lines.length) lines).settled then lines.length
      else (cache.sized lines.length).invalidFrom +
        (painting h (cache.sized lines.length) lines).count := by
    rw [← refresh_sized, refresh_of_length_eq h (length_states_sized cache lines.length)]
  rw [invalidFrom_sized] at hcount hnext
  cases hs : (painting h (cache.sized lines.length) lines).settled with
  | true =>
    -- a line has been colored, so the first invalid line was one of the buffer
    obtain ⟨k, hk, -⟩ := settled_paint hs
    change (painting h (cache.sized lines.length) lines).count = k + 1 at hk
    rw [hs, if_pos rfl] at hnext
    omega
  | false =>
    rw [hs, if_neg Bool.false_ne_true] at hnext
    omega

/-- A refresh of any cache leaves it with as many states as there are lines, and keeps the text. -/
theorem refreshed_sized (h : Highlighter) (cache : HighlightCache) (lines : Buffer) :
    Refreshed h (cache.sized lines.length) lines (cache.refresh h lines).1
      (cache.refresh h lines).2.1 (cache.refresh h lines).2.2 := by
  rw [← refresh_sized h cache lines]
  exact refreshed h (length_states_sized cache lines.length)

end HighlightCache

end Highlight
