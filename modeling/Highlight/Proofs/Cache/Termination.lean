import Highlight.Proofs.Cache.Settle
import Mathlib.Algebra.Ring.Nat

/-!
# The passes come to an end

Refreshing goes on while the cache is not up to date. Whatever a cache holds, a pass that does not
end this spends its whole budget and moves the first invalid line on by as much
(`refresh_advances`), so that the passes end, color no line twice, and are as few as the budget
allows. What they count are the lines of one block, which they color (`colorsBlock_settleBy`).
Nothing is asked of the highlighter but a budget of at least one line.
-/

namespace Highlight

namespace HighlightCache

variable {h : Highlighter} {cache : HighlightCache} {lines : Buffer}

/-- Whether `lines'` are the lines with `count` of them colored, from `start` on, each by the state
that `states` holds for the line before it. Their own states are those that coloring hands on. -/
structure ColorsBlock (h : Highlighter) (start count : Nat) (lines : Buffer)
    (states : List LineState) (lines' : Buffer) : Prop where
  colored : ∀ k, start ≤ k → k < start + count → ∃ line, lines[k]? = some line ∧
    lines'[k]? = some (h.colorize line (carryInto states k)).1 ∧
    states[k]? = some (h.colorize line (carryInto states k)).2
  line_eq : ∀ k, ¬(start ≤ k ∧ k < start + count) → lines'[k]? = lines[k]?

/-- No line is colored where none is counted. -/
theorem ColorsBlock.nil {start : Nat} (states : List LineState) :
    ColorsBlock h start 0 lines states lines :=
  ⟨fun _ hlow hhigh => absurd hlow (Nat.not_le_of_lt hhigh), fun _ _ => rfl⟩

/-! ## One pass -/

/-- A refresh colors the lines that it counts, from the first invalid one on, and no others. -/
theorem colorsBlock_refresh (h : Highlighter) (budget : Nat) (cache : HighlightCache)
    (lines : Buffer) :
    let r := cache.refresh (h.withMaxLines budget) lines
    ColorsBlock h cache.invalidFrom r.2.2 lines r.1.states r.2.1 := by
  have hr := refreshed_sized (h.withMaxLines budget) cache lines
  have hcolored := hr.colored
  have hline := hr.line_eq
  rw [invalidFrom_sized] at hcolored hline
  exact ⟨hcolored, hline⟩

/-- A refresh keeps the number of lines. -/
theorem length_lines_refresh (h : Highlighter) (cache : HighlightCache) (lines : Buffer) :
    (cache.refresh h lines).2.1.length = lines.length :=
  (refreshed_sized h cache lines).length_lines

/-- A refresh leaves the cache up to date, or it has spent its budget and lines are left that begin
so many lines further on. -/
theorem refresh_advances (h : Highlighter) (cache : HighlightCache) (lines : Buffer) :
    let r := cache.refresh h lines
    r.1.isUpToDate r.2.1.length = true ∨
      (r.2.2 = h.maxLinesPerFrame ∧ r.1.invalidFrom = cache.invalidFrom + h.maxLinesPerFrame ∧
        r.1.invalidFrom < lines.length) := by
  intro r
  have hr := refreshed_sized h cache lines
  have hlines := hr.length_lines
  have hstates := hr.length_states
  have hends := hr.ends
  rw [invalidFrom_sized] at hends
  rcases hends with ⟨hend, -, -⟩ | ⟨hmore, hnext, hcount, -⟩
  · exact .inl (isUpToDate_iff.2 ⟨hstates.trans hlines.symm, hlines ▸ hend⟩)
  · rw [hcount] at hnext hmore
    exact .inr ⟨hcount, hnext, hnext ▸ hmore⟩

/-- A refresh colors no more lines than there are from the first invalid one on. -/
theorem count_refresh_le (h : Highlighter) (cache : HighlightCache) (lines : Buffer) :
    (cache.refresh h lines).2.2 ≤ lines.length - cache.invalidFrom := by
  have hr := refreshed_sized h cache lines
  rw [← invalidFrom_sized cache lines.length]
  exact hr.count_le_rest

/-- A refresh of a cache that is up to date colors nothing and leaves it up to date. -/
theorem refresh_of_isUpToDate (h : Highlighter) (hu : cache.isUpToDate lines.length = true) :
    let r := cache.refresh h lines
    r.2.2 = 0 ∧ r.2.1 = lines ∧ r.1.states = cache.states ∧
      r.1.isUpToDate lines.length = true := by
  intro r
  obtain ⟨hlen, hvalid⟩ := isUpToDate_iff.1 hu
  have hr := refreshed h hlen
  have hcount : r.2.2 = 0 := by
    have hrest : r.2.2 ≤ lines.length - cache.invalidFrom := hr.count_le_rest
    omega
  have hnone : ∀ k, ¬(cache.invalidFrom ≤ k ∧ k < cache.invalidFrom + r.2.2) := by omega
  refine ⟨hcount, ?_, ?_, ?_⟩
  · exact List.ext_getElem? fun k => hr.line_eq k (hnone k)
  · exact List.ext_getElem? fun k => hr.state_eq k (hnone k)
  · rcases hr.ends with ⟨hend, -, -⟩ | ⟨hmore, -, -, -⟩
    · exact isUpToDate_iff.2 ⟨hr.length_states, hend⟩
    · omega

/-! ## All passes -/

/-- Once the cache is up to date no further pass is made. -/
theorem settleBy_of_le {budgets : Nat → Nat} {passes more : Nat} (hle : passes ≤ more)
    (hu : (settleBy h budgets passes cache lines).1.isUpToDate
      (settleBy h budgets passes cache lines).2.1.length = true) :
    settleBy h budgets more cache lines = settleBy h budgets passes cache lines := by
  induction passes generalizing budgets more cache lines with
  | zero => exact settleBy_of_isUpToDate hu
  | succ passes ih =>
    by_cases hdone : cache.isUpToDate lines.length = true
    · rw [settleBy_of_isUpToDate hdone, settleBy_of_isUpToDate hdone]
    · obtain ⟨more, rfl⟩ : ∃ k, more = k + 1 := ⟨more - 1, by omega⟩
      rw [settleBy_succ hdone] at hu
      rw [settleBy_succ hdone, settleBy_succ hdone]
      simp only [ih (Nat.le_of_succ_le_succ hle) hu]

/-- Lines that are colored behind a block of colored lines make one block with it, if the states of
the block are kept. -/
theorem ColorsBlock.append {start first second : Nat} {lines between after : Buffer}
    {states kept : List LineState} (hfirst : ColorsBlock h start first lines states between)
    (hsecond : ColorsBlock h (start + first) second between kept after)
    (hkept : ∀ k, k < start + first → kept[k]? = states[k]?) :
    ColorsBlock h start (first + second) lines kept after where
  colored k hlow hhigh := by
    by_cases hk : k < start + first
    · obtain ⟨line, hline, hcolor, hstate⟩ := hfirst.colored k hlow hk
      have hcarry : carryInto kept k = carryInto states k :=
        carryInto_congr fun j hj => hkept j (by omega)
      rw [hsecond.line_eq k (by omega), hkept k hk, hcarry]
      exact ⟨line, hline, hcolor, hstate⟩
    · obtain ⟨line, hline, hcolor, hstate⟩ := hsecond.colored k (by omega) (by omega)
      rw [hfirst.line_eq k (by omega)] at hline
      exact ⟨line, hline, hcolor, hstate⟩
  line_eq k hk := by
    rw [hsecond.line_eq k (by omega), hfirst.line_eq k (by omega)]

/-- The passes leave the states of the lines before the first invalid one. -/
theorem states_settleBy (budgets : Nat → Nat) (passes : Nat)
    (hlength : cache.states.length = lines.length) {k : Nat} (hk : k < cache.invalidFrom) :
    (settleBy h budgets passes cache lines).1.states[k]? = cache.states[k]? := by
  induction passes generalizing budgets cache lines with
  | zero => rfl
  | succ passes ih =>
    by_cases hu : cache.isUpToDate lines.length = true
    · rw [settleBy_of_isUpToDate hu]
    · rw [settleBy_succ hu]
      have hr := refreshed (h.withMaxLines (budgets 0)) hlength
      have hadvances := refresh_advances (h.withMaxLines (budgets 0)) cache lines
      generalize cache.refresh (h.withMaxLines (budgets 0)) lines = step at hr hadvances ⊢
      simp only
      rw [← hr.state_eq k (by omega)]
      rcases hadvances with hdone | ⟨-, hnext, -⟩
      · rw [settleBy_of_isUpToDate hdone]
      · exact ih _ (hr.length_states.trans hr.length_lines.symm) (by omega)

/-- The passes color the lines that they count, from the first invalid one on, and no others. -/
theorem colorsBlock_settleBy (budgets : Nat → Nat) (passes : Nat) :
    let r := settleBy h budgets passes cache lines
    ColorsBlock h cache.invalidFrom r.2.2.sum lines r.1.states r.2.1 := by
  induction passes generalizing budgets cache lines with
  | zero => exact .nil _
  | succ passes ih =>
    by_cases hu : cache.isUpToDate lines.length = true
    · rw [settleBy_of_isUpToDate hu]
      exact .nil _
    · rw [settleBy_succ hu]
      have hblock := colorsBlock_refresh h (budgets 0) cache lines
      have hr := refreshed_sized (h.withMaxLines (budgets 0)) cache lines
      have hadvances := refresh_advances (h.withMaxLines (budgets 0)) cache lines
      generalize cache.refresh (h.withMaxLines (budgets 0)) lines = step at hblock hr hadvances ⊢
      intro r
      simp only [r, List.sum_cons]
      rcases hadvances with hdone | ⟨hspent, hnext, -⟩
      · rw [settleBy_of_isUpToDate hdone]
        simpa using hblock
      · -- the later passes go on where this one has stopped
        rw [← hspent] at hnext
        have hlater := @ih step.1 step.2.1 fun k => budgets (k + 1)
        rw [hnext] at hlater
        exact hblock.append hlater fun k hk =>
          states_settleBy _ passes (hr.length_states.trans hr.length_lines.symm) (by omega)

/-- The passes color no line twice: together no more lines than there are from the first invalid one
on. -/
theorem sum_settleBy_le (budgets : Nat → Nat) (passes : Nat) :
    (settleBy h budgets passes cache lines).2.2.sum ≤ lines.length - cache.invalidFrom := by
  induction passes generalizing budgets cache lines with
  | zero => exact Nat.zero_le _
  | succ passes ih =>
    by_cases hu : cache.isUpToDate lines.length = true
    · rw [settleBy_of_isUpToDate hu]
      exact Nat.zero_le _
    · rw [settleBy_succ hu]
      have hcount := count_refresh_le (h.withMaxLines (budgets 0)) cache lines
      have hlines := length_lines_refresh (h.withMaxLines (budgets 0)) cache lines
      have hadvances := refresh_advances (h.withMaxLines (budgets 0)) cache lines
      generalize cache.refresh (h.withMaxLines (budgets 0)) lines = step
        at hcount hlines hadvances ⊢
      simp only [List.sum_cons]
      rcases hadvances with hdone | ⟨hspent, hnext, hmore⟩
      · rw [settleBy_of_isUpToDate hdone]
        simpa using hcount
      · -- what the later passes color begins where this one has stopped
        have hlater : (settleBy h (fun k => budgets (k + 1)) passes step.1 step.2.1).2.2.sum ≤
            step.2.1.length - step.1.invalidFrom := ih _
        omega

/-- With a constant budget all passes but the last one spend it on lines that are not the last. -/
theorem length_settleBy_mul_lt (budget passes : Nat) :
    let count := (settleBy h (fun _ => budget) passes cache lines).2.2.length
    count ≤ 1 ∨ (count - 1) * max budget 1 < lines.length - cache.invalidFrom := by
  induction passes generalizing cache lines with
  | zero => exact .inl (Nat.zero_le _)
  | succ passes ih =>
    by_cases hu : cache.isUpToDate lines.length = true
    · rw [settleBy_of_isUpToDate hu]
      exact .inl (Nat.zero_le _)
    · rw [settleBy_succ hu]
      have hlines := length_lines_refresh (h.withMaxLines budget) cache lines
      have hadvances := refresh_advances (h.withMaxLines budget) cache lines
      rw [Highlighter.maxLinesPerFrame_withMaxLines] at hadvances
      generalize cache.refresh (h.withMaxLines budget) lines = step at hlines hadvances ⊢
      simp only [List.length_cons, Nat.add_sub_cancel]
      -- only the last pass may be short of its budget
      rcases hadvances with hdone | ⟨-, hnext, hmore⟩
      · rw [settleBy_of_isUpToDate hdone]
        exact .inl (Nat.le_refl _)
      · right
        have hlater := @ih step.1 step.2.1
        generalize (settleBy h (fun _ => budget) passes step.1 step.2.1).2.2.length = count
          at hlater ⊢
        cases count with
        | zero => omega
        | succ count =>
          rw [Nat.succ_mul]
          rcases hlater with hone | hlater
          · obtain rfl : count = 0 := by omega
            omega
          · rw [Nat.add_sub_cancel] at hlater
            omega

/-- With a constant budget there are as many passes as it takes to color all lines from the first
invalid one on, or one that colors none. -/
theorem length_settleBy_le (budget passes : Nat) :
    (settleBy h (fun _ => budget) passes cache lines).2.2.length ≤
      max 1 ((lines.length - cache.invalidFrom + max budget 1 - 1) / max budget 1) := by
  have hpos : 0 < max budget 1 := by omega
  have hcases := @length_settleBy_mul_lt h cache lines budget passes
  rcases hcases with hone | hless
  · exact Nat.le_trans hone (Nat.le_max_left _ _)
  · refine Nat.le_trans ?_ (Nat.le_max_right _ _)
    rw [Nat.le_div_iff_mul_le hpos]
    generalize (settleBy h (fun _ => budget) passes cache lines).2.2.length = count at hless ⊢
    cases count with
    | zero => omega
    | succ count =>
      rw [Nat.add_sub_cancel] at hless
      rw [Nat.succ_mul]
      omega

/-- Whether refreshing a cache while it is not up to date comes to an end, with passes of whatever
budgets. A budget of no line counts as one of a line. -/
structure ComesToEnd (h : Highlighter) (cache : HighlightCache) (lines : Buffer) : Prop where
  /-- After so many passes at most no further one is made, and the cache is up to date. -/
  ends : ∀ budgets : Nat → Nat, ∃ result, ∀ passes, lines.length - cache.invalidFrom < passes →
    settleBy h budgets passes cache lines = result ∧
      result.1.isUpToDate result.2.1.length = true
  /-- A pass leaves the cache up to date, or it colors as many lines as its budget allows and raises
  the first invalid line by as many. -/
  advances : ∀ budget : Nat,
    let r := cache.refresh (h.withMaxLines budget) lines
    r.1.isUpToDate r.2.1.length = true ∨
      (r.2.2 = max budget 1 ∧ r.1.invalidFrom = cache.invalidFrom + max budget 1)
  /-- The lines that a pass counts are those that it colors, from the first invalid one on. -/
  colors : ∀ budget : Nat,
    let r := cache.refresh (h.withMaxLines budget) lines
    ColorsBlock h cache.invalidFrom r.2.2 lines r.1.states r.2.1
  /-- The lines that all passes together count are those that they color. -/
  colorsAll : ∀ (budgets : Nat → Nat) (passes : Nat),
    let r := settleBy h budgets passes cache lines
    ColorsBlock h cache.invalidFrom r.2.2.sum lines r.1.states r.2.1
  /-- All passes together color no more lines than there are from the first invalid one on. -/
  total_le : ∀ (budgets : Nat → Nat) (passes : Nat),
    (settleBy h budgets passes cache lines).2.2.sum ≤
      lines.length - min lines.length cache.invalidFrom
  /-- With a constant budget there are no more passes than that many lines ask for, or one. -/
  passes_le : ∀ budget passes : Nat,
    let left := lines.length - min lines.length cache.invalidFrom
    (settleBy h (fun _ => budget) passes cache lines).2.2.length ≤
      max 1 ((left + max budget 1 - 1) / max budget 1)
  /-- A refresh of a cache that is up to date colors nothing and changes no line and no state. -/
  rests : cache.isUpToDate lines.length = true → ∀ budget : Nat,
    let r := cache.refresh (h.withMaxLines budget) lines
    r.2.2 = 0 ∧ r.2.1 = lines ∧ r.1.states = cache.states ∧ r.1.isUpToDate lines.length = true

/-- Refreshing comes to an end from every cache, with every buffer and every highlighter. -/
theorem comesToEnd (h : Highlighter) (cache : HighlightCache) (lines : Buffer) :
    ComesToEnd h cache lines := by
  have hleft : lines.length - min lines.length cache.invalidFrom =
      lines.length - cache.invalidFrom := by omega
  constructor
  case ends =>
    intro budgets
    refine ⟨settleBy h budgets (lines.length - cache.invalidFrom + 1) cache lines,
      fun passes hpasses => ?_⟩
    -- every pass colors a line at least, so there is one pass for each line and one to see the end
    have hu := @isUpToDate_settleBy h cache lines budgets (lines.length - cache.invalidFrom + 1)
      (Nat.lt_succ_self _)
    exact ⟨settleBy_of_le hpasses hu, hu⟩
  case advances =>
    intro budget
    rcases refresh_advances (h.withMaxLines budget) cache lines with hdone | ⟨hcount, hnext, -⟩
    · exact .inl hdone
    · exact .inr ⟨hcount, hnext⟩
  case colors => exact fun budget => colorsBlock_refresh h budget cache lines
  case colorsAll => exact fun budgets passes => colorsBlock_settleBy budgets passes
  case total_le =>
    intro budgets passes
    rw [hleft]
    exact sum_settleBy_le budgets passes
  case passes_le =>
    intro budget passes
    rw [hleft]
    exact length_settleBy_le budget passes
  case rests =>
    intro hu budget
    exact refresh_of_isUpToDate (h.withMaxLines budget) hu

end HighlightCache

end Highlight
