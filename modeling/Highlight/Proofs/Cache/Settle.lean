import Highlight.Proofs.Cache.Refresh

/-!
# Refreshing until all is up to date

`Synced` is the invariant that a refresh keeps: there is a state for each line, and every line is
settled that is neither invalid nor stale. A cache is `Ready` when giving it the right number of
states makes it so. Then a refresh may stop early without losing a line, and `agrees_settleBy` says
that refreshing until the cache is up to date, with whatever budgets, leaves what a pass over the
text leaves. That this ends is `isUpToDate_settleBy`.
-/

namespace Highlight

namespace HighlightCache

/-- Refreshes until the cache is up to date, pass number `k` with the budget `budgets k`; gives the
numbers of lines colored in each pass. At most `passes` passes are made. -/
def settleBy (h : Highlighter) (budgets : Nat → Nat) :
    (passes : Nat) → HighlightCache → Buffer → HighlightCache × Buffer × List Nat
  | 0, cache, lines => (cache, lines, [])
  | passes + 1, cache, lines =>
    if cache.isUpToDate lines.length then (cache, lines, [])
    else
      let (cache, lines, count) := cache.refresh (h.withMaxLines (budgets 0)) lines
      let (cache, lines, counts) := settleBy h (fun k => budgets (k + 1)) passes cache lines
      (cache, lines, count :: counts)

variable {h : Highlighter} {cache : HighlightCache} {lines : Buffer}

lemma isUpToDate_iff {lineCount : Nat} :
    cache.isUpToDate lineCount = true ↔
      cache.states.length = lineCount ∧ lineCount ≤ cache.invalidFrom := by
  rw [isUpToDate, Bool.and_eq_true, beq_iff_eq, decide_eq_true_iff]

/-! ## The invariant -/

/-- Whether a cache has a state for each line, and every line is settled that is neither invalid nor
stale. -/
structure Synced (h : Highlighter) (cache : HighlightCache) (lines : Buffer) : Prop where
  length_states : cache.states.length = lines.length
  /-- The lines before the first invalid one are settled. -/
  before : ∀ k, k < cache.invalidFrom → k < lines.length → LineSettled h lines cache.states k
  /-- The lines behind the stale ones are settled. -/
  behind : ∀ k, cache.staleUntil ≤ k → k < lines.length → LineSettled h lines cache.states k

/-- Whether a cache has a state for each line, and every line from `low` on is settled that is
neither invalid nor stale. -/
structure SyncedFrom (h : Highlighter) (low : Nat) (cache : HighlightCache) (lines : Buffer) :
    Prop where
  length_states : cache.states.length = lines.length
  before : ∀ k, low ≤ k → k < cache.invalidFrom → k < lines.length →
    LineSettled h lines cache.states k
  behind : ∀ k, low ≤ k → cache.staleUntil ≤ k → k < lines.length →
    LineSettled h lines cache.states k

lemma synced_iff_from_zero : Synced h cache lines ↔ SyncedFrom h 0 cache lines :=
  ⟨fun hs => ⟨hs.length_states, fun k _ => hs.before k, fun k _ => hs.behind k⟩,
    fun hs => ⟨hs.length_states, fun k => hs.before k (Nat.zero_le k),
      fun k => hs.behind k (Nat.zero_le k)⟩⟩

/-- Whether a cache is synced once it has as many states as there are lines. -/
def Ready (h : Highlighter) (cache : HighlightCache) (lines : Buffer) : Prop :=
  Synced h (cache.sized lines.length) lines

/-- What is synced is ready for a refresh. -/
theorem Synced.ready (hs : Synced h cache lines) : Ready h cache lines := by
  rw [Ready, sized_of_length_eq hs.length_states]
  exact hs

/-- A cache with another number of states than there are lines is ready when the lines before the
first invalid one are settled. -/
theorem ready_of_length_ne (hlen : cache.states.length ≠ lines.length)
    (hb : ∀ k, k < cache.invalidFrom → k < lines.length → LineSettled h lines cache.states k) :
    Ready h cache lines := by
  have hsized : cache.sized lines.length =
      { cache with states := resize cache.states lines.length, staleUntil := lines.length } :=
    if_pos hlen
  refine ⟨length_states_sized _ _, fun k hk hkl => ?_, fun k hk hkl => ?_⟩
  · -- a settled line has a state, so that neither it nor the one before is new
    rw [invalidFrom_sized] at hk
    have hkeep : ∀ j, j ≤ k → (resize cache.states lines.length)[j]? = cache.states[j]? := by
      obtain ⟨line, state, -, hstate, -⟩ := hb k hk hkl
      have hlt : k < cache.states.length := (List.getElem?_eq_some_iff.1 hstate).1
      intro j hj
      rw [resize, List.getElem?_append_left (by rw [List.length_take]; omega),
        List.getElem?_take_of_lt (by omega)]
    rw [hsized]
    exact (hb k hk hkl).congr rfl (hkeep k (Nat.le_refl k))
      (carryInto_congr fun j hj => hkeep j (by omega))
  · rw [hsized] at hk
    exact absurd hkl (Nat.not_lt.2 hk)

/-- Where the lines before the first invalid one are settled, the cache is ready if it is synced
whenever it has the right number of states. -/
theorem ready_of_before
    (hb : ∀ k, k < cache.invalidFrom → k < lines.length → LineSettled h lines cache.states k)
    (hs : cache.states.length = lines.length → Synced h cache lines) : Ready h cache lines := by
  by_cases hlen : cache.states.length = lines.length
  · exact (hs hlen).ready
  · exact ready_of_length_ne hlen hb

/-- An up-to-date cache whose lines before the first invalid one are settled agrees with the pass.
-/
theorem agrees_of_isUpToDate (hb : h.ByText)
    (hs : ∀ k, k < cache.invalidFrom → k < lines.length → LineSettled h lines cache.states k)
    (hu : cache.isUpToDate lines.length = true) : Agrees h cache lines := by
  have hvalid := (isUpToDate_iff.1 hu).2
  exact agrees_of_settled hb fun k hk => hs k (Nat.lt_of_lt_of_le hk hvalid) hk

/-! ## One refresh keeps it -/

section Refreshed

variable {cache' : HighlightCache} {lines' : Buffer} {count : Nat}

/-- A line that has just been colored is settled. -/
theorem Refreshed.settled_colored (hb : h.ByText)
    (hr : Refreshed h cache lines cache' lines' count) {k : Nat} (hlow : cache.invalidFrom ≤ k)
    (hhigh : k < cache.invalidFrom + count) : LineSettled h lines' cache'.states k := by
  obtain ⟨line, -, hline', hstate'⟩ := hr.colored k hlow hhigh
  refine ⟨_, _, hline', hstate', ?_⟩
  rw [hb _ line (Highlighter.text_colorize h line _)]

/-- A settled line before the block that is colored stays settled. -/
theorem Refreshed.settled_before (hr : Refreshed h cache lines cache' lines' count) {k : Nat}
    (hk : k < cache.invalidFrom) (hs : LineSettled h lines cache.states k) :
    LineSettled h lines' cache'.states k :=
  hs.congr (hr.line_eq k (by omega)) (hr.state_eq k (by omega))
    (carryInto_congr fun j hj => hr.state_eq j (by omega))

/-- A settled line behind the block stays settled; the first one does if the last state of the block
stays. -/
theorem Refreshed.settled_behind (hr : Refreshed h cache lines cache' lines' count) {k : Nat}
    (hk : cache.invalidFrom + count ≤ k) (hs : LineSettled h lines cache.states k)
    (hlast : cache.invalidFrom + count = k → ∀ j, j + 1 = k →
      cache'.states[j]? = cache.states[j]?) :
    LineSettled h lines' cache'.states k := by
  refine hs.congr (hr.line_eq k (by omega)) (hr.state_eq k (by omega))
    (carryInto_congr fun j hj => ?_)
  by_cases hfirst : cache.invalidFrom + count = k
  · exact hlast hfirst j hj
  · exact hr.state_eq j (by omega)

/-- A refresh keeps a cache synced from a line on. -/
theorem SyncedFrom.refreshed (hb : h.ByText) {low : Nat} (hs : SyncedFrom h low cache lines)
    (hr : Refreshed h cache lines cache' lines' count) : SyncedFrom h low cache' lines' := by
  have hblock : ∀ k, low ≤ k → k < cache.invalidFrom + count → k < lines.length →
      LineSettled h lines' cache'.states k := by
    intro k hlow hk hkl
    by_cases hbefore : k < cache.invalidFrom
    · exact hr.settled_before hbefore (hs.before k hlow hbefore hkl)
    · exact hr.settled_colored hb (Nat.le_of_not_lt hbefore) hk
  have hlines := hr.length_lines
  have hstates := hr.length_states
  rcases hr.ends with ⟨hend, -, hearly⟩ | ⟨hmore, hnext, -, hstale⟩
  · -- nothing is left to color, and an early end has left the state of its last line as it was
    have hall : ∀ k, low ≤ k → k < lines.length → LineSettled h lines' cache'.states k := by
      intro k hlow hkl
      by_cases hk : k < cache.invalidFrom + count
      · exact hblock k hlow hk hkl
      · obtain ⟨last, hcount, -, hstale, hstate⟩ := hearly (by omega)
        refine hr.settled_behind (by omega) (hs.behind k hlow (by omega) hkl) fun heq j hj => ?_
        rw [show j = last by omega, hstate]
    exact ⟨by omega, fun k hlow _ hkl => hall k hlow (by omega),
      fun k hlow _ hkl => hall k hlow (by omega)⟩
  · refine ⟨by omega, fun k hlow hk hkl => hblock k hlow (by omega) (by omega),
      fun k hlow hk hkl => ?_⟩
    exact hr.settled_behind (by omega) (hs.behind k hlow (by omega) (by omega)) fun heq => by omega

/-- A refresh keeps a cache synced. -/
theorem Synced.refreshed (hb : h.ByText) (hs : Synced h cache lines)
    (hr : Refreshed h cache lines cache' lines' count) : Synced h cache' lines' :=
  synced_iff_from_zero.2 ((synced_iff_from_zero.1 hs).refreshed hb hr)

end Refreshed

/-- The budget has no part in what is settled. -/
theorem synced_withMaxLines {budget : Nat} :
    Synced (h.withMaxLines budget) cache lines ↔ Synced h cache lines :=
  ⟨fun hs => ⟨hs.length_states, hs.before, hs.behind⟩,
    fun hs => ⟨hs.length_states, hs.before, hs.behind⟩⟩

/-- A refresh of a cache that is ready leaves it synced, whatever the budget. -/
theorem Ready.refresh (hb : h.ByText) (hs : Ready h cache lines) (budget : Nat) :
    Synced h (cache.refresh (h.withMaxLines budget) lines).1
      (cache.refresh (h.withMaxLines budget) lines).2.1 := by
  have hr := refreshed_sized (h.withMaxLines budget) cache lines
  exact synced_withMaxLines.1 ((synced_withMaxLines.2 hs).refreshed hb hr)

/-! ## The loop ends -/

lemma settleBy_of_isUpToDate {budgets : Nat → Nat} {passes : Nat}
    (hu : cache.isUpToDate lines.length = true) :
    settleBy h budgets passes cache lines = (cache, lines, []) := by
  cases passes with
  | zero => rfl
  | succ passes => exact if_pos hu

/-- A cache that is not up to date is refreshed, and the passes go on from there. -/
theorem settleBy_succ {budgets : Nat → Nat} {passes : Nat}
    (hu : ¬cache.isUpToDate lines.length = true) :
    settleBy h budgets (passes + 1) cache lines =
      let step := cache.refresh (h.withMaxLines (budgets 0)) lines
      let rest := settleBy h (fun k => budgets (k + 1)) passes step.1 step.2.1
      (rest.1, rest.2.1, step.2.2 :: rest.2.2) :=
  if_neg hu

/-- What holds of a cache and its lines, and is kept by every refresh, holds when the refreshing
ends. -/
theorem settleBy_induction {P : HighlightCache → Buffer → Prop} (budgets : Nat → Nat)
    (passes : Nat) (hstart : P cache lines)
    (hstep : ∀ cache lines budget, P cache lines →
      P (cache.refresh (h.withMaxLines budget) lines).1
        (cache.refresh (h.withMaxLines budget) lines).2.1) :
    P (settleBy h budgets passes cache lines).1 (settleBy h budgets passes cache lines).2.1 := by
  induction passes generalizing budgets cache lines with
  | zero => exact hstart
  | succ passes ih =>
    by_cases hu : cache.isUpToDate lines.length = true
    · rw [settleBy_of_isUpToDate hu]
      exact hstart
    · rw [settleBy_succ hu]
      exact ih _ (hstep _ _ _ hstart)

/-- Each pass either makes the cache up to date or colors a line, so there are at most as many of
them as lines from the first invalid one on, and one to settle the number of states. -/
theorem isUpToDate_settleBy (budgets : Nat → Nat) {passes : Nat}
    (hpasses : lines.length - cache.invalidFrom < passes) :
    (settleBy h budgets passes cache lines).1.isUpToDate
      (settleBy h budgets passes cache lines).2.1.length = true := by
  induction passes generalizing budgets cache lines with
  | zero => omega
  | succ passes ih =>
    by_cases hu : cache.isUpToDate lines.length = true
    · rw [settleBy_of_isUpToDate hu]
      exact hu
    · rw [settleBy_succ hu]
      have hr := refreshed_sized (h.withMaxLines (budgets 0)) cache lines
      have hlines := hr.length_lines
      have hstates := hr.length_states
      have hinvalid := invalidFrom_sized cache lines.length
      rcases hr.ends with ⟨hend, -, -⟩ | ⟨hmore, hnext, hbudget, -⟩
      · have hdone := isUpToDate_iff.2 ⟨hstates.trans hlines.symm, hlines ▸ hend⟩
        simp only [settleBy_of_isUpToDate hdone]
        exact hdone
      · -- the budget is spent on at least one line
        refine ih _ ?_
        rw [Highlighter.maxLinesPerFrame_withMaxLines] at hbudget
        omega

/-- Refreshing keeps the text of the lines. -/
theorem uncolored_settleBy (budgets : Nat → Nat) (passes : Nat) :
    (settleBy h budgets passes cache lines).2.1.uncolored = lines.uncolored := by
  refine settleBy_induction (P := fun _ lines' => lines'.uncolored = lines.uncolored) budgets passes
    rfl fun cache' lines' budget hprev => ?_
  rw [← hprev]
  exact (refreshed_sized (h.withMaxLines budget) cache' lines').uncolored

/-- Refreshing a cache that is ready leaves the colors and the states of a pass over the text,
whatever the budgets of the passes. -/
theorem agrees_settleBy (hb : h.ByText) (hs : Ready h cache lines) (budgets : Nat → Nat)
    {passes : Nat} (hpasses : lines.length - cache.invalidFrom < passes) :
    Agrees h (settleBy h budgets passes cache lines).1
      (settleBy h budgets passes cache lines).2.1 := by
  have hready : Ready h (settleBy h budgets passes cache lines).1
      (settleBy h budgets passes cache lines).2.1 :=
    settleBy_induction budgets passes hs fun _ _ budget hprev => (hprev.refresh hb budget).ready
  have hu := isUpToDate_settleBy (h := h) budgets hpasses
  rw [Ready, sized_of_length_eq (isUpToDate_iff.1 hu).1] at hready
  exact agrees_of_isUpToDate hb hready.before hu

/-- Refreshing with the budget of the highlighter alone. -/
theorem settleBy_const (hpos : 0 < h.maxLinesPerFrame) (passes : Nat) :
    settleBy h (fun _ => h.maxLinesPerFrame) passes cache lines =
      settleWithin h passes cache lines := by
  have hself : h.withMaxLines h.maxLinesPerFrame = h := by
    rw [Highlighter.withMaxLines, Nat.max_eq_left hpos]
  induction passes generalizing cache lines with
  | zero => rfl
  | succ passes ih =>
    rw [settleBy, settleWithin, hself]
    simp only [ih]

end HighlightCache

end Highlight
