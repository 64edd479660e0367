import Highlight.Proofs.Cache.Settle
import Mathlib.Algebra.Ring.Nat

/-!
# Starting over

After a reset all lines are colored again, whatever the cache held before. `Begun` describes the
passes that follow: so many lines are as the sequential pass leaves them, the others are as they
were, and all lines count as stale, so that no pass ends early. `Begun.refresh` is one pass,
`Begun.settleBy` the whole run. Nothing is asked of the highlighter.
-/

namespace Highlight

namespace HighlightCache

open Buffer (painted carryAt)

variable {h : Highlighter}

/-- New lines hand on what a line hands on that is not known, so the states before all lines stay.
-/
theorem stateBefore_sized (cache : HighlightCache) {lineCount k : Nat} (hk : k ≤ lineCount) :
    (cache.sized lineCount).stateBefore k = cache.stateBefore k := by
  by_cases hlen : cache.states.length = lineCount
  · rw [sized_of_length_eq hlen]
  · cases k with
    | zero => rfl
    | succ j =>
      have hsized : (cache.sized lineCount).states = resize cache.states lineCount := by
        rw [sized, if_pos hlen]
      rw [stateBefore, stateBefore, hsized, carryInto, carryInto, List.getD_eq_getElem?_getD,
        List.getD_eq_getElem?_getD, resize]
      by_cases hj : j < cache.states.length
      · rw [List.getElem?_append_left (by rw [List.length_take]; omega),
          List.getElem?_take_of_lt (by omega)]
      · rw [List.getElem?_append_right (by rw [List.length_take]; omega),
          List.getElem?_eq_none (Nat.le_of_not_lt hj), List.getElem?_replicate_of_lt
            (by rw [List.length_take]; omega)]
        rfl

/-- Whether after a reset the first `m` lines of `start` have been colored, once and in order, and
the others not yet. -/
structure Begun (h : Highlighter) (start : Buffer) (m : Nat) (cache : HighlightCache)
    (lines : Buffer) : Prop where
  le_length : m ≤ start.length
  length_lines : lines.length = start.length
  colored : ∀ k, k < m → lines[k]? = (painted h start)[k]?
  pending : ∀ k, m ≤ k → lines[k]? = start[k]?
  stateBefore_eq : ∀ k, k ≤ m → cache.stateBefore k = carryAt h start k
  /-- While lines are left, the next refresh goes on behind the colored ones. -/
  next : m < start.length → cache.invalidFrom = m
  /-- While lines are left, all lines are stale for the next refresh. -/
  stale : m < start.length → start.length ≤ (cache.sized start.length).staleUntil
  done : m = start.length → cache.isUpToDate start.length = true

/-- With a new cache no line has been colored yet. -/
theorem begun_new (h : Highlighter) (lines : Buffer) : Begun h lines 0 {} lines where
  le_length := Nat.zero_le _
  length_lines := rfl
  colored _ hk := absurd hk (Nat.not_lt_zero _)
  pending _ _ := rfl
  stateBefore_eq k hk := by
    rw [Nat.le_zero.1 hk, Buffer.carryAt_zero]
    rfl
  next _ := rfl
  stale hpos := by
    have hempty : ([] : List LineState).length ≠ lines.length := Nat.ne_of_lt hpos
    have hsized : (sized {} lines.length).staleUntil = lines.length := by rw [sized, if_pos hempty]
    exact Nat.le_of_eq hsized.symm
  done hzero := by
    rw [← hzero]
    rfl

section Begun

variable {start : Buffer} {m : Nat} {cache : HighlightCache} {lines : Buffer}

/-- The work is done when all lines have been colored. -/
theorem Begun.isUpToDate_iff (hg : Begun h start m cache lines) :
    cache.isUpToDate lines.length = true ↔ m = start.length := by
  have hle := hg.le_length
  rw [hg.length_lines]
  refine ⟨fun hu => ?_, hg.done⟩
  have hvalid := (HighlightCache.isUpToDate_iff.1 hu).2
  by_contra hne
  have hnext := hg.next (by omega)
  omega

/-- The lines that are colored come before those that are not. -/
theorem Begun.lines_eq (hg : Begun h start m cache lines) :
    lines = (painted h start).take m ++ start.drop m := by
  have hle := hg.le_length
  have htake : ((painted h start).take m).length = m := by
    rw [List.length_take, Buffer.length_painted]
    omega
  refine List.ext_getElem? fun k => ?_
  by_cases hk : k < m
  · rw [List.getElem?_append_left (by omega), List.getElem?_take_of_lt hk, hg.colored k hk]
  · rw [List.getElem?_append_right (by omega), htake, List.getElem?_drop, hg.pending k (by omega)]
    congr 1
    omega

/-! ## One pass -/

section Refreshed

variable {budget : Nat} {cache' : HighlightCache} {lines' : Buffer} {count : Nat}

lemma Begun.invalidFrom_sized_eq (hg : Begun h start m cache lines) (hmore : m < start.length) :
    (cache.sized start.length).invalidFrom = m := by
  rw [invalidFrom_sized, hg.next hmore]

/-- A line of the block is colored as in the pass, and hands on what it does there, if the state
before it is that of the pass. -/
theorem Begun.colored_refreshed (hg : Begun h start m cache lines) (hmore : m < start.length)
    (hr : Refreshed (h.withMaxLines budget) (cache.sized start.length) lines cache' lines' count)
    {k : Nat} (hlow : m ≤ k) (hhigh : k < m + count)
    (hstate : cache'.stateBefore k = carryAt h start k) :
    lines'[k]? = (painted h start)[k]? ∧
      cache'.stateBefore (k + 1) = carryAt h start (k + 1) := by
  have hvalid := hg.invalidFrom_sized_eq hmore
  obtain ⟨line, hline, hpaint, hnew⟩ := hr.colored k (by omega) (by omega)
  rw [hg.pending k hlow] at hline
  rw [stateBefore] at hstate
  rw [Highlighter.colorize_withMaxLines, hstate] at hpaint hnew
  refine ⟨?_, ?_⟩
  · rw [hpaint, Buffer.getElem?_painted, hline]
    rfl
  · rw [stateBefore, carryInto_succ hnew, Buffer.carryAt_succ hline]

/-- Up to the end of the block, the states are those of the pass. -/
theorem Begun.stateBefore_refreshed (hg : Begun h start m cache lines) (hmore : m < start.length)
    (hr : Refreshed (h.withMaxLines budget) (cache.sized start.length) lines cache' lines' count)
    {k : Nat} (hk : k ≤ m + count) : cache'.stateBefore k = carryAt h start k := by
  have hvalid := hg.invalidFrom_sized_eq hmore
  have hkept : ∀ k, k ≤ m → cache'.stateBefore k = carryAt h start k := by
    intro k hk
    rw [← hg.stateBefore_eq k hk, ← stateBefore_sized cache (show k ≤ start.length by omega)]
    exact carryInto_congr fun j hj => hr.state_eq j (by omega)
  induction k with
  | zero => exact hkept 0 (Nat.zero_le m)
  | succ k ih =>
    by_cases hlow : m ≤ k
    · exact (hg.colored_refreshed hmore hr hlow (by omega) (ih (by omega))).2
    · exact hkept (k + 1) (by omega)

/-- The pass ends with the last line, or with its budget while all lines stay stale. -/
theorem Begun.ends_refreshed (hg : Begun h start m cache lines) (hmore : m < start.length)
    (hr : Refreshed (h.withMaxLines budget) (cache.sized start.length) lines cache' lines' count) :
    (m + count = start.length ∧ start.length ≤ cache'.invalidFrom) ∨
      (m + count < start.length ∧ cache'.invalidFrom = m + count ∧ count = max budget 1 ∧
        start.length ≤ cache'.staleUntil) := by
  have hvalid := hg.invalidFrom_sized_eq hmore
  have hstale := hg.stale hmore
  have hrest := hr.count_le_rest
  have hends := hr.ends
  rw [hvalid, hg.length_lines] at hrest
  rw [hvalid, hg.length_lines, Highlighter.maxLinesPerFrame_withMaxLines] at hends
  rcases hends with ⟨hend, -, hearly⟩ | ⟨hleft, hnext, hcount, hlater⟩
  · -- an early end would come before all stale lines are colored
    refine .inl ⟨?_, hend⟩
    by_contra hne
    obtain ⟨k, hk, -, hlate, -⟩ := hearly (by omega)
    omega
  · exact .inr ⟨hleft, hnext, hcount, by omega⟩

end Refreshed

/-- While lines are left, a refresh colors as many of them as its budget allows, and the next one
goes on where it stopped. -/
theorem Begun.refresh (hg : Begun h start m cache lines) (hmore : m < start.length)
    (budget : Nat) :
    (cache.refresh (h.withMaxLines budget) lines).2.2 = min (max budget 1) (start.length - m) ∧
      Begun h start (m + (cache.refresh (h.withMaxLines budget) lines).2.2)
        (cache.refresh (h.withMaxLines budget) lines).1
        (cache.refresh (h.withMaxLines budget) lines).2.1 := by
  have hr := refreshed_sized (h.withMaxLines budget) cache lines
  generalize cache.refresh (h.withMaxLines budget) lines = r at hr ⊢
  rw [hg.length_lines] at hr
  have hvalid := hg.invalidFrom_sized_eq hmore
  -- all lines are stale, so only the end or the budget stops the refresh
  have hends := hg.ends_refreshed hmore hr
  have hbudget := hr.count_le_budget
  rw [Highlighter.maxLinesPerFrame_withMaxLines] at hbudget
  have hlines : r.2.1.length = start.length := hr.length_lines.trans hg.length_lines
  have hstates : r.1.states.length = start.length := hr.length_states.trans hg.length_lines
  refine ⟨by omega, ?_⟩
  constructor
  case le_length => omega
  case length_lines => exact hlines
  case colored =>
    intro k hk
    by_cases hlow : m ≤ k
    · have hstate := hg.stateBefore_refreshed hmore hr (Nat.le_of_lt hk)
      exact (hg.colored_refreshed hmore hr hlow hk hstate).1
    · rw [hr.line_eq k (by omega), hg.colored k (by omega)]
  case pending =>
    intro k hk
    rw [hr.line_eq k (by omega), hg.pending k (by omega)]
  case stateBefore_eq => exact fun k hk => hg.stateBefore_refreshed hmore hr hk
  case next =>
    intro hless
    omega
  case stale =>
    intro hless
    rw [sized_of_length_eq hstates]
    omega
  case done =>
    intro hall
    exact HighlightCache.isUpToDate_iff.2 ⟨hstates, by omega⟩

/-! ## The whole run -/

/-- The passes of a run color block after block, each as many lines as the budget of the pass
allows, and go on until no line is left. -/
theorem Begun.settleBy (hg : Begun h start m cache lines) (budgets : Nat → Nat) (passes : Nat) :
    let r := settleBy h budgets passes cache lines
    Begun h start (m + r.2.2.sum) r.1 r.2.1 ∧
      (∀ k count, r.2.2[k]? = some count → 0 < count ∧
        count = min (max (budgets k) 1) (start.length - (m + (r.2.2.take k).sum))) ∧
      (start.length - m ≤ passes → m + r.2.2.sum = start.length) := by
  induction passes generalizing budgets m cache lines with
  | zero =>
    have hle := hg.le_length
    refine ⟨hg, fun k count hk => ?_, fun hnone => ?_⟩
    · cases hk
    · show m = start.length
      omega
  | succ passes ih =>
    by_cases hu : cache.isUpToDate lines.length = true
    · rw [settleBy_of_isUpToDate hu]
      refine ⟨hg, fun k count hk => ?_, fun _ => hg.isUpToDate_iff.1 hu⟩
      cases hk
    · have hle := hg.le_length
      have hmore : m < start.length := by
        by_contra hnone
        exact hu (hg.isUpToDate_iff.2 (by omega))
      rw [settleBy_succ hu]
      -- one refresh, and the induction hypothesis with the budgets that are left
      obtain ⟨hcount, hgo⟩ := hg.refresh hmore (budgets 0)
      obtain ⟨hend, hcounts, hall⟩ := ih hgo fun k => budgets (k + 1)
      simp only [List.sum_cons, ← Nat.add_assoc]
      refine ⟨hend, fun k count hk => ?_, fun hpasses => hall (by omega)⟩
      cases k with
      | zero =>
        rw [List.getElem?_cons_zero, Option.some.injEq] at hk
        rw [List.take_zero, List.sum_nil, Nat.add_zero]
        omega
      | succ k =>
        rw [List.getElem?_cons_succ] at hk
        rw [List.take_succ_cons, List.sum_cons, ← Nat.add_assoc]
        exact hcounts k count hk

/-- When all lines have been colored they are those of a pass. -/
theorem Begun.lines_eq_painted (hg : Begun h start start.length cache lines) :
    lines = painted h start := by
  rw [hg.lines_eq, List.drop_length, List.append_nil,
    List.take_of_length_le (Nat.le_of_eq (Buffer.length_painted start))]

/-- When all lines have been colored, cache and lines are as a pass leaves them. -/
theorem Begun.agrees (hb : h.ByText) (hg : Begun h start start.length cache lines) :
    Agrees h cache lines := by
  have hlines := hg.lines_eq_painted
  have htext : lines.uncolored = start.uncolored := by rw [hlines, Buffer.uncolored_painted]
  refine ⟨by rw [htext, Buffer.painted_uncolored hb, hlines], fun k hk => ?_⟩
  rw [hg.length_lines] at hk
  rw [hg.stateBefore_eq k hk, htext, Buffer.carryAt_uncolored hb hk]

end Begun

/-- A reset is total: whatever a cache held, and whatever the lines and the highlighter are, the
passes after a reset color the lines once, in order. Each pass takes as many of them as its budget
allows and none ends early; when the cache is up to date, all lines have been colored, and the
colors and the states are those of one pass over the buffer. -/
theorem settleBy_invalidateAll (cache : HighlightCache) (h : Highlighter) (lines : Buffer)
    (budgets : Nat → Nat) (passes : Nat) :
    cache.invalidateAll = {} ∧
      let r := settleBy h budgets passes cache.invalidateAll lines
      r.2.1 = (painted h lines).take r.2.2.sum ++ lines.drop r.2.2.sum ∧
      (∀ k, k ≤ r.2.2.sum → r.1.stateBefore k = carryAt h lines k) ∧
      (∀ k count, r.2.2[k]? = some count → 0 < count ∧
        count = min (max (budgets k) 1) (lines.length - (r.2.2.take k).sum)) ∧
      (r.1.isUpToDate r.2.1.length = true ↔ r.2.2.sum = lines.length) ∧
      (lines.length ≤ passes → r.1.isUpToDate r.2.1.length = true) ∧
      (r.1.isUpToDate r.2.1.length = true → r.2.1 = painted h lines ∧
        ∀ k, k ≤ lines.length → r.1.stateBefore k = carryAt h lines k) := by
  refine ⟨rfl, ?_⟩
  obtain ⟨hend, hcounts, hall⟩ := (begun_new h lines).settleBy budgets passes
  simp only [Nat.zero_add] at hend hcounts hall
  refine ⟨hend.lines_eq, hend.stateBefore_eq, hcounts, hend.isUpToDate_iff,
    fun hpasses => hend.isUpToDate_iff.2 (hall hpasses), fun hu => ?_⟩
  -- an up-to-date cache has had all its lines colored
  have hsum := hend.isUpToDate_iff.1 hu
  rw [hsum] at hend
  exact ⟨hend.lines_eq_painted, hend.stateBefore_eq⟩

end HighlightCache

end Highlight
