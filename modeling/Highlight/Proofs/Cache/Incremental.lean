import Highlight.Proofs.Cache.LineEdit
import Highlight.Proofs.Cache.Settle
import Highlight.Proofs.Painting

/-!
# Incremental highlighting

A host edits its lines one at a time, reports each edit to the cache in the same place, and
refreshes the cache with any budget at any time. As long as there is at most one insertion or
removal between two refreshes, a cache that is up to date agrees with a pass over the current text,
however many passes stopped half way and wherever the edits fell. `Tracks` is the invariant: what it
says depends on the number of insertions and removals since the last refresh. `Tracks.step` is the
step, `Tracks.run` the run.
-/

namespace Highlight

/-- What a host does with its lines and their cache. -/
inductive HostAction where
  | edit (e : LineEdit Line)
  | invalidateAll
  | refresh (budget : Nat)
deriving Repr, DecidableEq

/-- The lines of a host and their cache. -/
structure Host where
  cache : HighlightCache := {}
  lines : Buffer
deriving Repr, DecidableEq

namespace HostAction

/-- The line edit that an action makes, if it makes one. -/
def edit? : HostAction → Option (LineEdit Line)
  | edit e => some e
  | invalidateAll => none
  | refresh _ => none

/-- The number of insertions and removals since the last refresh, after one more action; there is no
number before the first refresh. -/
def resizesAfter (count : Option Nat) : HostAction → Option Nat
  | edit e => count.map fun n => if e.resizes then n + 1 else n
  | invalidateAll => count
  | refresh _ => some 0

/-- Whether an action may follow so many insertions and removals. -/
def mayFollow (count : Option Nat) : HostAction → Bool
  | edit _ => true
  | invalidateAll => true
  | refresh _ => count.all (· ≤ 1)

/-- Whether there is at most one insertion or removal between two refreshes that follow each other.
-/
def spaced : (count : Option Nat) → List HostAction → Bool
  | _, [] => true
  | count, action :: actions => action.mayFollow count && spaced (action.resizesAfter count) actions

end HostAction

namespace Host

/-- The host after an action. An edit of a line is reported to the cache at once. -/
def step (h : Highlighter) (host : Host) : HostAction → Host
  | .edit e => { cache := host.cache.invalidateFrom e.line, lines := e.apply host.lines }
  | .invalidateAll => { host with cache := host.cache.invalidateAll }
  | .refresh budget =>
    let refreshed := host.cache.refresh (h.withMaxLines budget) host.lines
    { cache := refreshed.1, lines := refreshed.2.1 }

/-- The host after some actions, one after the other. -/
def run (h : Highlighter) (host : Host) (actions : List HostAction) : Host :=
  actions.foldl (step h) host

lemma run_cons (h : Highlighter) (host : Host) (action : HostAction)
    (actions : List HostAction) :
    run h host (action :: actions) = run h (step h host action) actions := rfl

end Host

namespace HighlightCache

open LineEdit (getElem?_apply_of_lt getElem?_apply_of_length_eq)

variable {h : Highlighter} {cache : HighlightCache} {lines : Buffer}

/-- Whether a cache knows nothing of any line. -/
def Blank (cache : HighlightCache) : Prop := cache.states = [] ∧ cache.invalidFrom = 0

/-- A cache without states stays one when lines are reported. -/
theorem Blank.invalidateFrom (hblank : cache.Blank) (line : Nat) :
    (cache.invalidateFrom line).Blank :=
  ⟨hblank.1, by rw [HighlightCache.invalidateFrom, hblank.2]; exact Nat.zero_min line⟩

lemma blank_new : Blank {} := ⟨rfl, rfl⟩

/-- A cache that knows nothing is synced with a buffer without lines. -/
theorem Blank.synced (hblank : cache.Blank) (hlen : cache.states.length = lines.length) :
    Synced h cache lines := by
  have hzero : lines.length = 0 := by rw [← hlen, hblank.1, List.length_nil]
  exact ⟨hlen, fun k _ hk => absurd hk (by omega), fun k _ hk => absurd hk (by omega)⟩

/-- Lines before the first invalid one stay settled when an edit is made and reported. -/
theorem settled_before_edit (e : LineEdit Line)
    (hs : ∀ k, k < cache.invalidFrom → k < lines.length → LineSettled h lines cache.states k)
    (k : Nat) (hk : k < (cache.invalidateFrom e.line).invalidFrom)
    (hkl : k < (e.apply lines).length) :
    LineSettled h (e.apply lines) (cache.invalidateFrom e.line).states k := by
  have hboth : k < cache.invalidFrom ∧ k < e.line := Nat.lt_min.1 hk
  exact settled_of_line_eq (getElem?_apply_of_lt e lines hboth.2) hkl (hs k hboth.1)

/-- A synced cache stays synced when an edit is reported that keeps the number of lines. -/
theorem Synced.edit (hs : Synced h cache lines) {e : LineEdit Line}
    (hlen : (e.apply lines).length = lines.length) :
    Synced h (cache.invalidateFrom e.line) (e.apply lines) := by
  refine ⟨hs.length_states.trans hlen.symm, settled_before_edit e hs.before, fun k hk hkl => ?_⟩
  have hboth : cache.staleUntil ≤ k ∧ e.line + 1 ≤ k := Nat.max_le.1 hk
  have hline : (e.apply lines)[k]? = lines[k]? :=
    getElem?_apply_of_length_eq e hlen (by omega)
  exact settled_of_line_eq hline hkl (hs.behind k hboth.1)

end HighlightCache

namespace Host

open HighlightCache

variable {h : Highlighter} {host : Host}

/-- A refresh that leaves the cache up to date leaves no line stale. -/
theorem staleUntil_eq_zero
    (hrefreshed : ∃ (before : Host) (budget : Nat), host = before.step h (.refresh budget))
    (hu : host.cache.isUpToDate host.lines.length = true) : host.cache.staleUntil = 0 := by
  obtain ⟨before, budget, rfl⟩ := hrefreshed
  have hr := refreshed_sized (h.withMaxLines budget) before.cache before.lines
  have hvalid := (isUpToDate_iff.1 hu).2
  have hlines := hr.length_lines
  rcases hr.ends with ⟨-, hstale, -⟩ | ⟨hmore, hnext, -⟩
  · exact hstale
  · change _ ≤ (before.cache.refresh (h.withMaxLines budget) before.lines).1.invalidFrom at hvalid
    change (before.cache.refresh (h.withMaxLines budget) before.lines).2.1.length ≤ _ at hvalid
    omega

/-! ## The invariant -/

/-- What holds of a host with `count` insertions and removals since the last refresh. -/
structure Tracks (h : Highlighter) (count : Option Nat) (host : Host) : Prop where
  /-- Lines before the first invalid one are settled at any time. -/
  before : ∀ k, k < host.cache.invalidFrom → k < host.lines.length →
    LineSettled h host.lines host.cache.states k
  /-- Nothing is known before the first refresh. -/
  blank : count = none → host.cache.Blank
  /-- While no line has come or gone, the cache is synced, or has been reset. -/
  synced : count = some 0 → host.cache.Blank ∨ Synced h host.cache host.lines
  /-- After one line has come or gone, the number of lines tells. -/
  resized : count = some 1 → host.cache.states.length = host.lines.length →
    Synced h host.cache host.lines

/-- A new cache tracks its lines, whatever has happened to them; so does one that is reset. -/
theorem tracks_new (h : Highlighter) (count : Option Nat) (lines : Buffer) :
    Tracks h count { lines } where
  before k hk _ := absurd hk (Nat.not_lt_zero k)
  blank _ := blank_new
  synced _ := .inl blank_new
  resized _ hlen := blank_new.synced hlen

/-- Where a refresh may follow, it finds the cache ready. -/
theorem Tracks.ready {count : Option Nat} (ht : Tracks h count host)
    (hcount : count.all (· ≤ 1) = true) : Ready h host.cache host.lines := by
  refine ready_of_before ht.before fun hlen => ?_
  match count, hcount with
  | none, _ => exact (ht.blank rfl).synced hlen
  | some 0, _ => exact (ht.synced rfl).elim (fun hblank => hblank.synced hlen) id
  | some 1, _ => exact ht.resized rfl hlen
  | some (n + 2), hcount =>
    have hle : n + 2 ≤ 1 := of_decide_eq_true hcount
    omega

/-- A refresh leaves a host that tracks its lines, with no insertion or removal to count. -/
theorem Tracks.refresh (hb : h.ByText) (hr : Ready h host.cache host.lines) (budget : Nat) :
    Tracks h (some 0) (step h host (.refresh budget)) where
  before := (hr.refresh hb budget).before
  blank hcount := by cases hcount
  synced _ := .inr (hr.refresh hb budget)
  resized hcount := by cases hcount

/-- A line that is changed in place leaves a host that tracks its lines. -/
theorem Tracks.change {count : Option Nat} (ht : Tracks h count host) {e : LineEdit Line}
    (hsize : e.resizes = false) : Tracks h count (step h host (.edit e)) := by
  have hsame := LineEdit.length_apply_of_not_resizes hsize host.lines
  refine ⟨settled_before_edit e ht.before, fun hcount => ?_, fun hcount => ?_,
    fun hcount hlen => ?_⟩
  · exact (ht.blank hcount).invalidateFrom e.line
  · rcases ht.synced hcount with hblank | hs
    · exact .inl (hblank.invalidateFrom e.line)
    · exact .inr (hs.edit hsame)
  · have hbefore : host.cache.states.length = host.lines.length := hlen.trans hsame
    exact (ht.resized hcount hbefore).edit hsame

/-- A line that is inserted or removed leaves a host that tracks its lines, with one more to count.
-/
theorem Tracks.resize {count : Option Nat} (ht : Tracks h count host) (e : LineEdit Line) :
    Tracks h (count.map (· + 1)) (step h host (.edit e)) := by
  refine ⟨settled_before_edit e ht.before, fun hcount => ?_, fun hcount => ?_,
    fun hcount hlen => ?_⟩
  · exact (ht.blank (Option.map_eq_none_iff.1 hcount)).invalidateFrom e.line
  · obtain ⟨n, -, hzero⟩ := Option.map_eq_some_iff.1 hcount
    exact absurd hzero (Nat.succ_ne_zero n)
  · obtain ⟨n, hn, hone⟩ := Option.map_eq_some_iff.1 hcount
    rw [Nat.succ.inj hone] at hn
    rcases ht.synced hn with hblank | hs
    · exact (hblank.invalidateFrom e.line).synced hlen
    · -- where the number of lines is still that of the states, the edit has done nothing
      exact hs.edit (hlen.symm.trans hs.length_states)

/-- Every action that may follow keeps the invariant. -/
theorem Tracks.step (hb : h.ByText) {count : Option Nat} (ht : Tracks h count host)
    {action : HostAction} (hmay : action.mayFollow count = true) :
    Tracks h (action.resizesAfter count) (host.step h action) := by
  cases action with
  | edit e =>
    -- only an insertion or a removal counts, as one more change of the number of lines
    cases hsize : e.resizes with
    | false =>
      have hcount : HostAction.resizesAfter count (.edit e) = count := by
        simp only [HostAction.resizesAfter, hsize, Bool.false_eq_true, if_false, Option.map_id']
      rw [hcount]
      exact ht.change hsize
    | true =>
      have hcount : HostAction.resizesAfter count (.edit e) = count.map (· + 1) := by
        simp only [HostAction.resizesAfter, hsize, if_true]
      rw [hcount]
      exact ht.resize e
  | invalidateAll => exact tracks_new h count host.lines
  | refresh budget => exact Tracks.refresh hb (ht.ready hmay) budget

/-- A run of actions ends with lines before the first invalid one that are settled. -/
theorem Tracks.run (hb : h.ByText) {count : Option Nat} (ht : Tracks h count host)
    {actions : List HostAction} (hspaced : HostAction.spaced count actions = true) :
    ∃ count', Tracks h count' (host.run h actions) := by
  induction actions generalizing count host with
  | nil => exact ⟨count, ht⟩
  | cons action actions ih =>
    obtain ⟨hmay, hrest⟩ := Bool.and_eq_true_iff.1 hspaced
    exact ih (ht.step hb hmay) hrest

/-! ## Runs -/

/-- Only the line edits of a run change the text. -/
theorem map_text_run (host : Host) (actions : List HostAction) (lines : Buffer)
    (htext : host.lines.map Line.text = lines.map Line.text) :
    (host.run h actions).lines.map Line.text =
      (LineEdit.applyAll (actions.filterMap HostAction.edit?) lines).map Line.text := by
  induction actions generalizing host lines with
  | nil => exact htext
  | cons action actions ih =>
    rw [run_cons]
    cases action with
    | edit e =>
      exact ih _ (e.apply lines) (LineEdit.map_apply_congr Line.text e htext)
    | invalidateAll => exact ih _ lines htext
    | refresh budget =>
      refine ih _ lines ?_
      have hkeep := (refreshed_sized (h.withMaxLines budget) host.cache host.lines).uncolored
      rw [← htext, ← Buffer.map_text_uncolored host.lines, ← hkeep, Buffer.map_text_uncolored]
      rfl

/-- Incremental highlighting is full highlighting: after any run from a new cache with at most one
insertion or removal between two refreshes, a cache that is up to date holds the states of a pass
over the current text, and the lines have the colors of that pass. -/
theorem agrees_run (hb : h.ByText) (start : Buffer) (actions : List HostAction)
    (hspaced : HostAction.spaced none actions = true) :
    let host := run h { lines := start } actions
    (host.cache.isUpToDate host.lines.length = true → Agrees h host.cache host.lines) ∧
      host.lines.map Line.text =
        (LineEdit.applyAll (actions.filterMap HostAction.edit?) start).map Line.text := by
  intro host
  obtain ⟨count, ht⟩ := (tracks_new h none start).run hb hspaced
  exact ⟨agrees_of_isUpToDate hb ht.before, map_text_run { lines := start } actions start rfl⟩

/-- A comment is opened, a pass stops behind it, and a line is inserted and another one changed
above the pending one before the passes that end the coloring. -/
theorem agrees_run_csharp :
    let h := CSharp.highlighter { name := "C#" }
    let host := run h { lines := ["int a;", "/* x */", "int c;"].map Line.ofText }
      [.refresh 9, .edit (.change 1 (Line.ofText "/* open")), .refresh 1,
        .edit (.insert 0 (Line.ofText "int z;")), .edit (.change 1 (Line.ofText "int aa;")),
        .refresh 1, .refresh 9]
    host.cache.stateBefore 4 = .blockComment ∧ Agrees h host.cache host.lines := by
  intro h host
  have hspaced : HostAction.spaced none
      [.refresh 9, .edit (.change 1 (Line.ofText "/* open")), .refresh 1,
        .edit (.insert 0 (Line.ofText "int z;")), .edit (.change 1 (Line.ofText "int aa;")),
        .refresh 1, .refresh 9] = true := by decide
  have hupToDate : host.cache.isUpToDate host.lines.length = true := by decide +kernel
  exact ⟨by decide +kernel,
    (agrees_run (CSharp.covers_highlighter { name := "C#" }).byText _ _ hspaced).1 hupToDate⟩

end Host

end Highlight
