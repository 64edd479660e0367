import Highlight.Buffer

/-!
# Highlight caches

A host that edits a buffer keeps the state that each line hands on, so that after an edit only a
part of the lines is colored again. Coloring goes on in passes, none of which takes more lines
than the budget of the highlighter, and ends early at a line that hands on what it did before,
once all the lines that are known to be stale have been colored.
-/

namespace Highlight

/-- What is known about the lines of a buffer. -/
structure HighlightCache where
  /-- The state that each line hands on, as far as lines have been colored. -/
  states : List LineState := []
  /-- The first line that has to be colored again. -/
  invalidFrom : Nat := 0
  /-- The lines before this one are colored again in any case. -/
  staleUntil : Nat := 0
deriving Repr, DecidableEq

/-- Lines as far as a pass has colored them, with the states they hand on. -/
structure PaintedLines where
  lines : Buffer
  states : List LineState
  /-- The number of lines that were colored. -/
  count : Nat
  /-- Whether no line behind them has to be colored. -/
  settled : Bool

namespace HighlightCache

/-- The cache after an edit of a line, or the insertion or removal of one there. -/
def invalidateFrom (cache : HighlightCache) (line : Nat) : HighlightCache :=
  { cache with
    invalidFrom := min cache.invalidFrom line
    staleUntil := max cache.staleUntil (line + 1) }

/-- The cache that knows nothing about the lines. -/
def invalidateAll (_ : HighlightCache) : HighlightCache := {}

/-- The state that a line begins in, given the states that the lines hand on. -/
def carryInto (states : List LineState) : Nat → LineState
  | 0 => .normal
  | line + 1 => states.getD line .normal

/-- The state that a line begins in. -/
def stateBefore (cache : HighlightCache) (line : Nat) : LineState :=
  carryInto cache.states line

/-- Whether no line of a buffer with this many lines has to be colored. -/
def isUpToDate (cache : HighlightCache) (lineCount : Nat) : Bool :=
  cache.states.length == lineCount && lineCount ≤ cache.invalidFrom

/-- The states with as many as there are lines; lines that are new hand on nothing. -/
def resize (states : List LineState) (lineCount : Nat) : List LineState :=
  states.take lineCount ++ List.replicate (lineCount - states.length) .normal

/-- Colors lines from the first of them on, at most `budget`. The first `stale` lines are colored in
any case; from the last of those on, a line that hands on what it did before ends the pass. -/
def paint (h : Highlighter) : (budget stale : Nat) → (carry : LineState) → Buffer →
    List LineState → PaintedLines
  | budget + 1, stale, carry, line :: lines, previous :: states =>
    let (painted, next) := h.colorize line carry
    if stale ≤ 1 ∧ previous = next then
      { lines := painted :: lines, states := next :: states, count := 1, settled := true }
    else
      let rest := paint h budget (stale - 1) next lines states
      { rest with
        lines := painted :: rest.lines
        states := next :: rest.states
        count := rest.count + 1 }
  | _, _, _, lines, states => { lines, states, count := 0, settled := false }

/-- Colors the next lines of a buffer, at most as many as the budget of the highlighter; gives the
cache, the lines and the number of lines colored. -/
def refresh (cache : HighlightCache) (h : Highlighter) (lines : Buffer) :
    HighlightCache × Buffer × Nat :=
  let resized := cache.states.length ≠ lines.length
  let states := if resized then resize cache.states lines.length else cache.states
  let staleUntil := if resized then lines.length else cache.staleUntil
  let start := cache.invalidFrom
  let painted := paint h h.maxLinesPerFrame (staleUntil - start) (carryInto states start)
    (lines.drop start) (states.drop start)
  let next := if painted.settled then lines.length else start + painted.count
  ({ states := states.take start ++ painted.states
     invalidFrom := next
     staleUntil := if lines.length ≤ next then 0 else max staleUntil (next + 1) },
    lines.take start ++ painted.lines, painted.count)

/-- Refreshes until the cache is up to date; gives the numbers of lines colored in each pass. At
most `fuel` passes are made. -/
def settleWithin (h : Highlighter) :
    (fuel : Nat) → HighlightCache → Buffer → HighlightCache × Buffer × List Nat
  | 0, cache, lines => (cache, lines, [])
  | fuel + 1, cache, lines =>
    if cache.isUpToDate lines.length then (cache, lines, [])
    else
      let (cache, lines, count) := cache.refresh h lines
      let (cache, lines, counts) := settleWithin h fuel cache lines
      (cache, lines, count :: counts)

/-- Refreshes until the cache is up to date; one pass may settle the size of the cache alone, and
every other one colors a line. -/
def settle (h : Highlighter) (cache : HighlightCache) (lines : Buffer) :
    HighlightCache × Buffer × List Nat :=
  settleWithin h (lines.length + 1) cache lines

end HighlightCache

end Highlight
