import Highlight.Proofs.Cache.Incremental
import Mathlib.Algebra.Ring.Nat
import Mathlib.Data.Nat.Find

/-!
# What is colored again after a line has changed

A line that changes has to be colored again, and so have the lines behind it up to the first one
that hands on what it did before; no other line has. `IsReach` names the last of these lines.
`Recoloring` says how far the passes after the change have come, and `Recoloring.refresh` is one
pass: it goes on where the last one has stopped, and stops at that line or with its budget, so that
the lines that are colored in the end do not depend on the budgets (`recolors_change`).
-/

namespace Highlight

/-- A list in which the items from `start` on, up to the one before `next`, are those of another
list. -/
def spliced {α : Type} (old new : List α) (start next : Nat) : List α :=
  old.take start ++ ((new.take next).drop start ++ old.drop next)

section Spliced

variable {α : Type} {old new : List α} {start next : Nat}

/-- An item of the splice is a new one within the bounds and an old one outside of them. -/
lemma getElem?_spliced (hle : start ≤ next) (hnext : next ≤ old.length)
    (hlen : new.length = old.length) (k : Nat) :
    (spliced old new start next)[k]? = if start ≤ k ∧ k < next then new[k]? else old[k]? := by
  have htake : (old.take start).length = start := by rw [List.length_take]; omega
  have hblock : ((new.take next).drop start).length = next - start := by
    rw [List.length_drop, List.length_take]
    omega
  rw [spliced]
  by_cases hlow : k < start
  · rw [List.getElem?_append_left (by omega), List.getElem?_take_of_lt hlow, if_neg (by omega)]
  · rw [List.getElem?_append_right (by omega), htake]
    by_cases hhigh : k < next
    · rw [List.getElem?_append_left (by omega), List.getElem?_drop,
        List.getElem?_take_of_lt (by omega), if_pos (by omega)]
      congr 1
      omega
    · rw [List.getElem?_append_right (by omega), hblock, List.getElem?_drop, if_neg (by omega)]
      congr 1
      omega

lemma length_spliced (hle : start ≤ next) (hnext : next ≤ old.length)
    (hlen : new.length = old.length) : (spliced old new start next).length = old.length := by
  simp only [spliced, List.length_append, List.length_take, List.length_drop]
  omega

lemma spliced_self (old new : List α) (start : Nat) : spliced old new start start = old := by
  rw [spliced, List.drop_eq_nil_of_le (List.length_take_le start new), List.nil_append,
    List.take_append_drop]

end Spliced

namespace Buffer

variable {h : Highlighter}

/-- The states that the lines hand on in a pass. -/
def carries (h : Highlighter) (lines : Buffer) : List LineState :=
  (pass h lines).map Prod.snd

@[simp] lemma length_carries (lines : Buffer) : (carries h lines).length = lines.length := by
  rw [carries, List.length_map, pass, length_passFrom]

/-- The state that a line hands on is the one before the next line. -/
lemma getElem?_carries {lines : Buffer} {k : Nat} (hk : k < lines.length) :
    (carries h lines)[k]? = some (carryAt h lines (k + 1)) := by
  have hline : lines[k]? = some lines[k] := List.getElem?_eq_getElem hk
  rw [carryAt_succ hline, carries, List.getElem?_map, pass, getElem?_passFrom, hline]
  rfl

/-- The state before a line comes from the lines before it. -/
theorem carryAt_congr {a b : Buffer} {k : Nat} (htake : a.take k = b.take k) :
    carryAt h a k = carryAt h b k := by
  rw [carryAt, carryAt, htake]

end Buffer

namespace HighlightCache

open Buffer (painted carries carryAt)

variable {h : Highlighter}

/-! ## The lines that a change reaches -/

/-- Whether `j` is the last line that has to be colored when line `i` has changed: the first line
from `i` on that hands on, in a pass over the new lines, the state that is stored for it, or the
last line of all if there is none. -/
structure IsReach (h : Highlighter) (states : List LineState) (lines : Buffer) (i j : Nat) :
    Prop where
  le : i ≤ j
  lt_length : j < lines.length
  changed : ∀ k, i ≤ k → k < j → states[k]? ≠ some (carryAt h lines (k + 1))
  ends : states[j]? = some (carryAt h lines (j + 1)) ∨ j + 1 = lines.length

/-- A change of any line has a reach. -/
theorem exists_isReach (h : Highlighter) (states : List LineState) {lines : Buffer} {i : Nat}
    (hi : i < lines.length) : ∃ j, IsReach h states lines i j := by
  have hsome : ∃ j, i ≤ j ∧ j < lines.length ∧
      (states[j]? = some (carryAt h lines (j + 1)) ∨ j + 1 = lines.length) :=
    ⟨lines.length - 1, by omega, by omega, .inr (by omega)⟩
  obtain ⟨hle, hlt, hends⟩ := Nat.find_spec hsome
  refine ⟨Nat.find hsome, hle, hlt, fun k hlow hhigh hstate => ?_, hends⟩
  exact Nat.find_min hsome hhigh ⟨hlow, by omega, .inl hstate⟩

/-- Whether states are those that were stored before line `i` of the lines changed: one for each
line, and before line `i` that of a pass. -/
structure StoredBefore (h : Highlighter) (states : List LineState) (changed : Buffer) (i : Nat) :
    Prop where
  length_eq : states.length = changed.length
  carry_eq : carryInto states i = carryAt h changed i

/-! ## One pass -/

/-- Whether `lines` and the states stored in `cache` are the changed lines and the old states, but
for those from `i` on up to the one before `next`, which are as a pass over the changed lines leaves
them. -/
structure ColoredTo (h : Highlighter) (states : List LineState) (changed : Buffer) (i next : Nat)
    (cache : HighlightCache) (lines : Buffer) : Prop where
  lines_eq : lines = spliced changed (painted h changed) i next
  states_eq : cache.states = spliced states (carries h changed) i next

/-- How far the passes have come after a change of line `i` that reaches line `j`: the lines from
`i` on are colored up to the one before `next`. -/
structure Recoloring (h : Highlighter) (states : List LineState) (changed : Buffer) (i j next : Nat)
    (cache : HighlightCache) (lines : Buffer) : Prop where
  low : i ≤ next
  high : next ≤ j + 1
  colored : ColoredTo h states changed i next cache lines
  /-- While lines are left, the next pass goes on behind those that are colored. -/
  pending : next ≤ j → cache.invalidFrom = next
  /-- While lines are left, the next pass may end at the first of them. -/
  stale : next ≤ j → cache.staleUntil ≤ next + 1
  done : next = j + 1 → changed.length ≤ cache.invalidFrom

section ColoredTo

variable {states : List LineState} {changed : Buffer} {i next : Nat} {cache : HighlightCache}
  {lines : Buffer}

/-- The lines within the bounds are colored and the others as they were. -/
lemma ColoredTo.getElem?_lines (hc : ColoredTo h states changed i next cache lines)
    (hlow : i ≤ next) (hhigh : next ≤ changed.length) (k : Nat) :
    lines[k]? = if i ≤ k ∧ k < next then (painted h changed)[k]? else changed[k]? := by
  rw [hc.lines_eq, getElem?_spliced hlow hhigh (Buffer.length_painted _)]

/-- The states within the bounds are those of a pass and the others as they were. -/
lemma ColoredTo.getElem?_states (hc : ColoredTo h states changed i next cache lines)
    (hstored : StoredBefore h states changed i) (hlow : i ≤ next) (hhigh : next ≤ changed.length)
    (k : Nat) :
    cache.states[k]? = if i ≤ k ∧ k < next then (carries h changed)[k]? else states[k]? := by
  have hlength := hstored.length_eq
  rw [hc.states_eq, getElem?_spliced hlow (by omega) (by rw [Buffer.length_carries, hlength])]

end ColoredTo

namespace Recoloring

variable {states : List LineState} {changed : Buffer} {i j next : Nat} {cache : HighlightCache}
  {lines : Buffer}

/-- Before the first pass no line has been colored again. -/
theorem start (hij : i ≤ j) (hinvalid : cache.invalidFrom = i) (hstale : cache.staleUntil ≤ i + 1) :
    Recoloring h cache.states lines i j i cache lines where
  low := Nat.le_refl i
  high := Nat.le_succ_of_le hij
  colored := ⟨(spliced_self _ _ _).symm, (spliced_self _ _ _).symm⟩
  pending _ := hinvalid
  stale _ := hstale
  done hdone := by omega

section Pass

variable (hg : Recoloring h states changed i j next cache lines)
  (hreach : IsReach h states changed i j) (hstored : StoredBefore h states changed i)

include hg hreach

lemma next_le_length : next ≤ changed.length := by
  have hhigh := hg.high
  have hlast := hreach.lt_length
  omega

lemma length_lines : lines.length = changed.length := by
  rw [hg.colored.lines_eq, length_spliced hg.low (hg.next_le_length hreach)
    (Buffer.length_painted _)]

include hstored

lemma length_states : cache.states.length = changed.length := by
  have hlength := hstored.length_eq
  have hnext := hg.next_le_length hreach
  rw [hg.colored.states_eq, length_spliced hg.low (by omega)
    (by rw [Buffer.length_carries, hlength]), hlength]

/-- The cache is up to date when all lines that the change reaches have been colored. -/
theorem isUpToDate_iff : cache.isUpToDate lines.length = true ↔ next = j + 1 := by
  have hhigh := hg.high
  have hlast := hreach.lt_length
  rw [HighlightCache.isUpToDate_iff, hg.length_lines hreach, hg.length_states hreach hstored]
  refine ⟨fun hu => ?_, fun hdone => ⟨rfl, hg.done hdone⟩⟩
  by_contra hne
  have hpending := hg.pending (by omega)
  omega

/-- The state that is stored before the next line is that of the pass. -/
theorem carryInto_eq : carryInto cache.states next = carryAt h changed next := by
  have hhigh := hg.next_le_length hreach
  rcases Nat.eq_or_lt_of_le hg.low with rfl | hless
  · rw [← hstored.carry_eq, hg.colored.states_eq, spliced_self]
  · obtain ⟨k, rfl⟩ : ∃ k, next = k + 1 := ⟨next - 1, by omega⟩
    refine carryInto_succ ?_
    rw [hg.colored.getElem?_states hstored hg.low hhigh, if_pos (by omega),
      Buffer.getElem?_carries (by omega)]

variable {budget : Nat} {cache' : HighlightCache} {lines' : Buffer} {count : Nat}
  (hmore : next ≤ j)
  (hr : Refreshed (h.withMaxLines budget) cache lines cache' lines' count)

include hmore hr

/-- The lines that a pass colors are colored as in a pass over all of the changed lines. -/
theorem colored_refreshed {k : Nat} (hlow : next ≤ k) (hhigh : k < next + count) :
    lines'[k]? = (painted h changed)[k]? ∧ cache'.states[k]? = (carries h changed)[k]? := by
  have hinvalid := hg.pending hmore
  have hrest := hr.count_le_rest
  have hlength := hg.length_lines hreach
  have hpending : ∀ k, next ≤ k → lines[k]? = changed[k]? := fun k hk => by
    rw [hg.colored.getElem?_lines hg.low (hg.next_le_length hreach), if_neg (by omega)]
  -- the state before the line is that of the pass, by induction on the place in the block
  have hcarry : carryInto cache'.states k = carryAt h changed k := by
    induction k, hlow using Nat.le_induction with
    | base =>
      rw [← hg.carryInto_eq hreach hstored]
      exact carryInto_congr fun l hl => hr.state_eq l (by omega)
    | succ k hlow ih =>
      obtain ⟨line, hline, -, hstate⟩ := hr.colored k (by omega) (by omega)
      rw [hpending k hlow] at hline
      rw [ih (by omega), Highlighter.colorize_withMaxLines] at hstate
      rw [carryInto_succ hstate, Buffer.carryAt_succ hline]
  obtain ⟨line, hline, hpaint, hstate⟩ := hr.colored k (by omega) (by omega)
  rw [hpending k hlow] at hline
  rw [hcarry, Highlighter.colorize_withMaxLines] at hpaint hstate
  refine ⟨?_, ?_⟩
  · rw [hpaint, Buffer.getElem?_painted, hline]
    rfl
  · rw [hstate, Buffer.getElem?_carries (by omega), Buffer.carryAt_succ hline]

/-- A pass moves the end of what is colored on by as many lines as it colors. -/
theorem coloredTo_refreshed (hwithin : next + count ≤ changed.length) :
    ColoredTo h states changed i (next + count) cache' lines' := by
  have hlow := hg.low
  have hinvalid := hg.pending hmore
  have hnext := hg.next_le_length hreach
  have hlength := hstored.length_eq
  have hblock := fun k => hg.colored_refreshed hreach hstored hmore hr (k := k)
  constructor
  case lines_eq =>
    refine List.ext_getElem? fun k => ?_
    rw [getElem?_spliced (by omega) hwithin (Buffer.length_painted _)]
    by_cases hk : next ≤ k ∧ k < next + count
    · rw [if_pos (by omega), (hblock k hk.1 hk.2).1]
    · rw [hr.line_eq k (by omega), hg.colored.getElem?_lines hlow hnext]
      exact if_congr (by omega) rfl rfl
  case states_eq =>
    refine List.ext_getElem? fun k => ?_
    rw [getElem?_spliced (by omega) (by omega) (by rw [Buffer.length_carries, hlength])]
    by_cases hk : next ≤ k ∧ k < next + count
    · rw [if_pos (by omega), (hblock k hk.1 hk.2).2]
    · rw [hr.state_eq k (by omega), hg.colored.getElem?_states hstored hlow hnext]
      exact if_congr (by omega) rfl rfl

/-- The state of a line that a pass colors stays exactly if the line hands on, in a pass over the
changed lines, what was stored for it. -/
theorem state_eq_iff {k : Nat} (hlow : next ≤ k) (hhigh : k < next + count) :
    cache'.states[k]? = cache.states[k]? ↔ states[k]? = some (carryAt h changed (k + 1)) := by
  have hrest := hr.count_le_rest
  have hinvalid := hg.pending hmore
  have hlength := hg.length_lines hreach
  rw [(hg.colored_refreshed hreach hstored hmore hr hlow hhigh).2,
    hg.colored.getElem?_states hstored hg.low (hg.next_le_length hreach), if_neg (by omega),
    Buffer.getElem?_carries (by omega)]
  exact eq_comm

end Pass

/-- A pass colors as many of the lines that the change reaches as its budget allows, and leaves the
others for the next one. -/
theorem refresh (hg : Recoloring h states changed i j next cache lines)
    (hreach : IsReach h states changed i j) (hstored : StoredBefore h states changed i)
    (hmore : next ≤ j) (budget : Nat) :
    let r := cache.refresh (h.withMaxLines budget) lines
    r.2.2 = min (max budget 1) (j + 1 - next) ∧
      Recoloring h states changed i j (next + r.2.2) r.1 r.2.1 := by
  intro r
  have hlow := hg.low
  have hlast := hreach.lt_length
  have hstale := hg.stale hmore
  have hinvalid := hg.pending hmore
  have hlength := hg.length_lines hreach
  have hsize : cache.states.length = lines.length :=
    (hg.length_states hreach hstored).trans hlength.symm
  have hr : Refreshed (h.withMaxLines budget) cache lines r.1 r.2.1 r.2.2 :=
    refreshed (h.withMaxLines budget) hsize
  -- a line of the block that settles is its last one, and ends the coloring
  have hstop : ∀ k, next ≤ k → k < next + r.2.2 → states[k]? = some (carryAt h changed (k + 1)) →
      next + r.2.2 = k + 1 ∧ changed.length ≤ r.1.invalidFrom := by
    intro k hk hkcount hsettled
    rw [← hinvalid, ← hlength]
    exact refresh_ends_of_state_eq (h.withMaxLines budget) hsize (by omega)
      (by rw [hinvalid]; exact hkcount) (by omega)
      ((hg.state_eq_iff hreach hstored hmore hr hk hkcount).2 hsettled)
  have hbudget := hr.count_le_budget
  have hrest := hr.count_le_rest
  have hends := hr.ends
  rw [Highlighter.maxLinesPerFrame_withMaxLines] at hbudget hends
  rw [hinvalid, hlength] at hrest hends
  have hreached : next + r.2.2 ≤ j + 1 := by
    by_contra hbeyond
    have hsettled := hreach.ends.resolve_right (by omega)
    have hend := (hstop j hmore (by omega) hsettled).1
    omega
  have hcolored := hg.coloredTo_refreshed hreach hstored hmore hr (by omega)
  rcases hends with ⟨hend, -, hearly⟩ | ⟨hleft, hnext, hspent, hlater⟩
  · -- the pass has ended at the reach, for no line before it keeps its state
    have hall : next + r.2.2 = j + 1 := by
      by_contra hne
      obtain ⟨k, hk, hknext, -, hstate⟩ := hearly (by omega)
      have hsettled := (hg.state_eq_iff hreach hstored hmore hr hknext (by omega)).1 hstate
      exact hreach.changed k (by omega) (by omega) hsettled
    refine ⟨by omega, by omega, hreached, hcolored, ?_, ?_, fun _ => hend⟩
    · intro hless
      omega
    · intro hless
      omega
  · -- the pass has spent its budget before it came to the reach
    have hnotAll : next + r.2.2 ≠ j + 1 := by
      intro hall
      have hsettled := hreach.ends.resolve_right (by omega)
      have hend := (hstop j hmore (by omega) hsettled).2
      omega
    exact ⟨by omega, by omega, hreached, hcolored, fun _ => hnext, fun _ => by omega,
      fun hall => absurd hall hnotAll⟩

/-! ## All passes -/

/-- The passes color block after block until the change reaches no further. -/
theorem settleBy (hg : Recoloring h states changed i j next cache lines)
    (hreach : IsReach h states changed i j) (hstored : StoredBefore h states changed i)
    (budgets : Nat → Nat) (passes : Nat) :
    let r := settleBy h budgets passes cache lines
    Recoloring h states changed i j (next + r.2.2.sum) r.1 r.2.1 ∧
      (j + 1 - next ≤ passes → next + r.2.2.sum = j + 1) := by
  induction passes generalizing budgets next cache lines with
  | zero =>
    have hhigh := hg.high
    refine ⟨hg, fun hnone => ?_⟩
    show next = j + 1
    omega
  | succ passes ih =>
    by_cases hu : cache.isUpToDate lines.length = true
    · rw [settleBy_of_isUpToDate hu]
      exact ⟨hg, fun _ => (hg.isUpToDate_iff hreach hstored).1 hu⟩
    · have hhigh := hg.high
      -- the last line that has to be colored is not behind us yet
      have hmore : next ≤ j := by
        by_contra hnone
        exact hu ((hg.isUpToDate_iff hreach hstored).2 (by omega))
      rw [settleBy_succ hu]
      obtain ⟨hcount, hgo⟩ := hg.refresh hreach hstored hmore (budgets 0)
      obtain ⟨hend, hall⟩ := ih hgo fun p => budgets (p + 1)
      simp only [List.sum_cons, ← Nat.add_assoc]
      exact ⟨hend, fun hpasses => hall (by omega)⟩

end Recoloring

/-- Whether some passes after a change of line `i` have colored the lines up to line `j`, each once
and in order, or so many of them as their counts say. -/
structure Recolors (h : Highlighter) (states : List LineState) (changed : Buffer) (i j : Nat)
    (r : HighlightCache × Buffer × List Nat) : Prop where
  /-- As many lines as the passes have counted are colored as in a pass over all lines, from line
  `i` on; all other lines and states are what they were. -/
  colored : ColoredTo h states changed i (i + r.2.2.sum) r.1 r.2.1
  within : i + r.2.2.sum ≤ j + 1
  /-- The cache is up to date exactly when line `j` has been colored. -/
  isUpToDate_iff : r.1.isUpToDate r.2.1.length = true ↔ i + r.2.2.sum = j + 1
  /-- Until then the next pass begins at the first line that is left, and takes as many lines as its
  budget allows, up to line `j`. -/
  next : i + r.2.2.sum ≤ j → r.1.invalidFrom = i + r.2.2.sum ∧ ∀ budget,
    let s := r.1.refresh (h.withMaxLines budget) r.2.1
    s.2.2 = min (max budget 1) (j + 1 - (i + r.2.2.sum)) ∧
      ColoredTo h states changed i (i + r.2.2.sum + s.2.2) s.1 s.2.1

end HighlightCache

namespace Host

open HighlightCache

variable {h : Highlighter} {host : Host}

/-- Whether a refresh has just left the cache of a host up to date, with the states of a pass over
its lines; the lines may have any colors. -/
structure KnowsStates (h : Highlighter) (host : Host) : Prop where
  refreshed : ∃ (before : Host) (budget : Nat), host = before.step h (.refresh budget)
  isUpToDate : host.cache.isUpToDate host.lines.length = true
  states_eq : ∀ k, k ≤ host.lines.length →
    host.cache.stateBefore k = Buffer.carryAt h host.lines k

/-- After a change of one line, the passes color exactly the lines from there on up to the first one
that hands on what it did before, whatever their budgets are: each pass colors the next of these
lines, and nothing else changes. -/
theorem recolors_change (hs : KnowsStates h host) {i : Nat} (hi : i < host.lines.length)
    (line : Line) :
    let edited := host.step h (.edit (.change i line))
    (∃ j, IsReach h host.cache.states edited.lines i j) ∧
      ∀ j, IsReach h host.cache.states edited.lines i j → ∀ (budgets : Nat → Nat) (passes : Nat),
        let r := settleBy h budgets passes edited.cache edited.lines
        Recolors h host.cache.states edited.lines i j r ∧
          (j - i < passes → r.1.isUpToDate r.2.1.length = true) := by
  intro edited
  obtain ⟨hlength, hvalid⟩ := HighlightCache.isUpToDate_iff.1 hs.isUpToDate
  have hedited : edited.lines.length = host.lines.length := List.length_set
  refine ⟨exists_isReach h _ (by omega), fun j hreach budgets passes => ?_⟩
  -- the lines before the changed one are as they were, and so is what they hand on
  have hstored : StoredBefore h host.cache.states edited.lines i := by
    refine ⟨hlength.trans hedited.symm, ?_⟩
    have htake : host.lines.take i = edited.lines.take i :=
      (List.take_set_of_le (Nat.le_refl i)).symm
    rw [← Buffer.carryAt_congr htake]
    exact hs.states_eq i (Nat.le_of_lt hi)
  -- the edit makes its line the first invalid and the last stale one
  have hinvalid : edited.cache.invalidFrom = i :=
    Nat.min_eq_right (show i ≤ host.cache.invalidFrom by omega)
  have hstale : edited.cache.staleUntil ≤ i + 1 := by
    show max host.cache.staleUntil (i + 1) ≤ i + 1
    rw [staleUntil_eq_zero hs.refreshed hs.isUpToDate]
    omega
  have hij := hreach.le
  have hstart : Recoloring h host.cache.states edited.lines i j i edited.cache edited.lines :=
    Recoloring.start hij hinvalid hstale
  obtain ⟨hg, hall⟩ := hstart.settleBy hreach hstored budgets passes
  have hiff := hg.isUpToDate_iff hreach hstored
  refine ⟨⟨hg.colored, hg.high, hiff, fun hmore => ⟨hg.pending hmore, fun budget => ?_⟩⟩,
    fun hpasses => hiff.2 (hall (by omega))⟩
  obtain ⟨hcount, hgo⟩ := hg.refresh hreach hstored hmore budget
  exact ⟨hcount, hgo.colored⟩

/-- A comment is opened in front of a line that closes it. With passes of one line two lines are
colored, and the last one is not. -/
theorem recolors_change_csharp :
    let h := CSharp.highlighter { name := "C#" }
    let host := run h { lines := ["int a;", "int b;", "/* c */", "int d;"].map Line.ofText }
      [.refresh 9]
    let edited := host.step h (.edit (.change 1 (Line.ofText "/* open")))
    let r := settleBy h (fun _ => 1) 5 edited.cache edited.lines
    KnowsStates h host ∧ 1 < host.lines.length ∧
      IsReach h host.cache.states edited.lines 1 2 ∧ r.2.2.sum = 2 ∧
      r.2.1[3]? = edited.lines[3]? := by
  intro h host edited r
  have hs : KnowsStates h host := by
    refine ⟨⟨{ lines := ["int a;", "int b;", "/* c */", "int d;"].map Line.ofText }, 9, rfl⟩,
      ?_, ?_⟩
    · decide +kernel
    · decide +kernel
  have hi : 1 < host.lines.length := by decide +kernel
  -- the comment that is opened in line 1 ends in line 2
  have hreach : IsReach h host.cache.states edited.lines 1 2 := by
    refine ⟨by decide, by decide +kernel, ?_, .inl (by decide +kernel)⟩
    intro k hlow hhigh
    obtain rfl : k = 1 := by omega
    decide +kernel
  obtain ⟨hrecolors, hends⟩ :=
    (recolors_change hs hi (Line.ofText "/* open")).2 2 hreach (fun _ => 1) 5
  have hsum : 1 + r.2.2.sum = 3 := hrecolors.isUpToDate_iff.1 (hends (by decide))
  have hlast := hrecolors.colored.getElem?_lines (by omega) (by rw [hsum]; decide +kernel) 3
  rw [hsum, if_neg (by decide)] at hlast
  exact ⟨hs, hi, hreach, by omega, hlast⟩

end Host

end Highlight
