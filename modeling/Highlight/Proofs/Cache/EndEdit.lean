import Highlight.Proofs.Cache.EditBatch

/-!
# Lines that come and go at the end

A host that only cuts lines off the end of its buffer, or adds lines there, need not report this: a
refresh sees that the number of lines has changed. But it begins at the first invalid line, and that
line stays behind the end of a buffer that has become shorter. So a line is colored when the buffer
is first long enough to have it, and never again when it has been cut off (`Grown.step`). Up-to-date
caches agree with the sequential pass exactly if every line that the buffer has in the end has been
there ever since (`agrees_runEnds_iff`).
-/

namespace Highlight

/-- A change at the end of a list. -/
inductive EndEdit (α : Type) where
  | truncate (length : Nat)
  | append (items : List α)
deriving Repr, DecidableEq

namespace EndEdit

variable {α β : Type}

/-- The items after a change at their end. -/
def apply : EndEdit α → List α → List α
  | truncate length, items => items.take length
  | append new, items => items ++ new

/-- The items after some changes, one after the other. -/
def applyAll (edits : List (EndEdit α)) (items : List α) : List α :=
  edits.foldl (fun items e => e.apply items) items

/-- The number of items after a change. -/
def lengthAfter : EndEdit α → Nat → Nat
  | truncate length, before => min length before
  | append new, before => before + new.length

/-- The numbers of items after each of some changes. -/
def lengths : Nat → List (EndEdit α) → List Nat
  | _, [] => []
  | before, e :: edits => e.lengthAfter before :: lengths (e.lengthAfter before) edits

@[simp] lemma length_apply (e : EndEdit α) (items : List α) :
    (e.apply items).length = e.lengthAfter items.length := by
  cases e with
  | truncate length => exact List.length_take
  | append new => exact List.length_append

/-- Items that are not cut off stay where they are. -/
theorem getElem?_apply_of_lt (e : EndEdit α) {items : List α} {k : Nat} (hk : k < items.length)
    (hkept : k < (e.apply items).length) : (e.apply items)[k]? = items[k]? := by
  cases e with
  | truncate length =>
    rw [apply, List.length_take] at hkept
    exact List.getElem?_take_of_lt (by omega)
  | append new => exact List.getElem?_append_left hk

/-- New items do not depend on those before them. -/
theorem getElem?_apply_of_le (e : EndEdit α) {items others : List α}
    (hlen : items.length = others.length) {k : Nat} (hk : items.length ≤ k) :
    (e.apply items)[k]? = (e.apply others)[k]? := by
  cases e with
  | truncate length =>
    rw [apply, apply, List.getElem?_eq_none, List.getElem?_eq_none]
    · rw [List.length_take]
      omega
    · rw [List.length_take]
      omega
  | append new =>
    rw [apply, apply, List.getElem?_append_right hk, List.getElem?_append_right (hlen ▸ hk), hlen]

/-- A change keeps lists alike whose labels are alike. -/
theorem map_apply_congr (f : α → β) (e : EndEdit α) {items others : List α}
    (heq : items.map f = others.map f) : (e.apply items).map f = (e.apply others).map f := by
  cases e with
  | truncate length => rw [apply, apply, List.map_take, List.map_take, heq]
  | append new => rw [apply, apply, List.map_append, List.map_append, heq]

/-- A change that gives a list of so many copies of an item another number of them. -/
def resizing (item : α) (before size : Nat) : EndEdit α :=
  if size ≤ before then truncate size else append (List.replicate (size - before) item)

/-- Changes that give a list of copies of an item these numbers of them. -/
def resizingAll (item : α) : Nat → List Nat → List (EndEdit α)
  | _, [] => []
  | before, size :: sizes => resizing item before size :: resizingAll item size sizes

lemma lengthAfter_resizing (item : α) (before size : Nat) :
    (resizing item before size).lengthAfter before = size := by
  by_cases hle : size ≤ before
  · rw [resizing, if_pos hle]
    exact Nat.min_eq_left hle
  · rw [resizing, if_neg hle, lengthAfter, List.length_replicate]
    omega

/-- The change gives a list of copies the number of copies that it is made for. -/
lemma apply_resizing (item : α) (before size : Nat) :
    (resizing item before size).apply (List.replicate before item) = List.replicate size item := by
  by_cases hle : size ≤ before
  · rw [resizing, if_pos hle, apply, List.take_replicate, Nat.min_eq_left hle]
  · rw [resizing, if_neg hle, apply, List.replicate_append_replicate]
    exact congrArg (fun n => List.replicate n item) (by omega)

lemma lengths_resizingAll (item : α) (before : Nat) (sizes : List Nat) :
    lengths before (resizingAll item before sizes) = sizes := by
  induction sizes generalizing before with
  | nil => rfl
  | cons size sizes ih => rw [resizingAll, lengths, lengthAfter_resizing, ih]

/-- In the end the list has the last number of copies. -/
lemma applyAll_resizingAll (item : α) (before : Nat) (sizes : List Nat) :
    applyAll (resizingAll item before sizes) (List.replicate before item) =
      List.replicate (sizes.getLastD before) item := by
  induction sizes generalizing before with
  | nil => rfl
  | cons size sizes ih =>
    rw [resizingAll, applyAll, List.foldl_cons, apply_resizing, List.getLastD_cons]
    exact ih size

end EndEdit

/-! ## Lines that have been there ever since -/

/-- Whether a list that has had these lengths, one after the other, has had item `k` ever since it
has had it first. -/
def Kept (lengths : List Nat) (k : Nat) : Prop :=
  lengths.Pairwise fun before after => k < before → k < after

instance (lengths : List Nat) (k : Nat) : Decidable (Kept lengths k) :=
  inferInstanceAs (Decidable (lengths.Pairwise fun before after => k < before → k < after))

/-- Of two items the second is cut off and comes again. -/
example : Kept [2, 1, 2] 0 ∧ ¬Kept [2, 1, 2] 1 := by decide

/-- An item has been kept after one more length if it had been before and the list that had it has
it now. -/
lemma kept_concat {lengths : List Nat} {n k : Nat} :
    Kept (lengths ++ [n]) k ↔ Kept lengths k ∧ ∀ before ∈ lengths, k < before → k < n := by
  rw [Kept, List.pairwise_append]
  constructor
  · intro hkept
    exact ⟨hkept.1, fun before hmem => hkept.2.2 before hmem n (List.mem_singleton_self n)⟩
  · intro hkept
    refine ⟨hkept.1, List.pairwise_singleton _ _, fun before hmem after hafter => ?_⟩
    rw [List.mem_singleton.1 hafter]
    exact hkept.2 before hmem

/-- An item that the list has now has been there ever since if it had been before. -/
theorem kept_concat_iff_of_lt {lengths : List Nat} {n k : Nat} (hk : k < n) :
    Kept (lengths ++ [n]) k ↔ Kept lengths k := by
  rw [kept_concat]
  exact and_iff_left fun _ _ _ => hk

/-- An item that the list has never had has not been cut off. -/
theorem kept_of_forall_le {lengths : List Nat} {k : Nat} (hk : ∀ n ∈ lengths, n ≤ k) :
    Kept lengths k := by
  induction lengths with
  | nil => exact List.Pairwise.nil
  | cons n lengths ih =>
    rw [List.forall_mem_cons] at hk
    refine List.pairwise_cons.2 ⟨fun after _ hbefore => ?_, ih hk.2⟩
    exact absurd hbefore (Nat.not_lt.2 hk.1)

/-- An item that the list has had, and has had ever since, it has in the end. -/
theorem Kept.lt_getLastD {lengths : List Nat} {k n : Nat} (hkept : Kept lengths k)
    (hmem : n ∈ lengths) (hk : k < n) : k < lengths.getLastD 0 := by
  obtain rfl | ⟨before, last, rfl⟩ := List.eq_nil_or_concat' lengths
  · cases hmem
  · rw [List.getLastD_concat]
    rcases List.mem_append.1 hmem with hbefore | hlast
    · exact (kept_concat.1 hkept).2 n hbefore hk
    · rwa [← List.mem_singleton.1 hlast]

lemma exists_lt_of_lt_getLastD {lengths : List Nat} {k : Nat} (hk : k < lengths.getLastD 0) :
    ∃ n ∈ lengths, k < n := by
  obtain rfl | ⟨before, last, rfl⟩ := List.eq_nil_or_concat' lengths
  · exact absurd hk (Nat.not_lt_zero k)
  · rw [List.getLastD_concat] at hk
    exact ⟨last, List.mem_append_right before (List.mem_singleton_self last), hk⟩

namespace HighlightCache

variable {h : Highlighter} {cache : HighlightCache} {lines : Buffer}

/-! ## What the passes leave as it is -/

/-- Giving a cache another number of states keeps those that there are. -/
theorem getElem?_states_sized_of_lt {lineCount k : Nat} (hk : k < cache.states.length)
    (hcount : k < lineCount) : (cache.sized lineCount).states[k]? = cache.states[k]? := by
  by_cases hlen : cache.states.length = lineCount
  · rw [sized_of_length_eq hlen]
  · have hsized : (cache.sized lineCount).states = resize cache.states lineCount := by
      rw [sized, if_pos hlen]
    rw [hsized, resize, List.getElem?_append_left (by rw [List.length_take]; omega),
      List.getElem?_take_of_lt hcount]

/-- New states are those of lines that leave nothing open. -/
theorem getElem?_states_sized_of_le {lineCount k : Nat} (hk : cache.states.length ≤ k)
    (hcount : k < lineCount) : (cache.sized lineCount).states[k]? = some .normal := by
  have hlen : cache.states.length ≠ lineCount := by omega
  have hsized : (cache.sized lineCount).states = resize cache.states lineCount := by
    rw [sized, if_pos hlen]
  rw [hsized, resize, List.getElem?_append_right (by rw [List.length_take]; omega),
    List.getElem?_replicate_of_lt (by rw [List.length_take]; omega)]

/-- What the passes leave of a buffer and its states: all that comes before the first invalid line,
which moves on at most to the end of the buffer. -/
structure KeepsBefore (cache : HighlightCache) (lines : Buffer) (cache' : HighlightCache)
    (lines' : Buffer) : Prop where
  length_lines : lines'.length = lines.length
  le_invalidFrom : cache.invalidFrom ≤ cache'.invalidFrom
  invalidFrom_le : cache'.invalidFrom ≤ max cache.invalidFrom lines.length
  line_eq : ∀ k, k < cache.invalidFrom → lines'[k]? = lines[k]?
  state_eq : ∀ k, k < cache.invalidFrom →
    (cache'.sized lines.length).states[k]? = (cache.sized lines.length).states[k]?

/-- The passes keep what comes before the first invalid line, whatever their budgets. -/
lemma keepsBefore_settleBy (h : Highlighter) (cache : HighlightCache) (lines : Buffer)
    (budgets : Nat → Nat) (passes : Nat) :
    KeepsBefore cache lines (settleBy h budgets passes cache lines).1
      (settleBy h budgets passes cache lines).2.1 := by
  refine settleBy_induction (P := KeepsBefore cache lines) budgets passes
    ⟨rfl, Nat.le_refl _, Nat.le_max_left _ _, fun _ _ => rfl, fun _ _ => rfl⟩
    fun cache' lines' budget hkeeps => ?_
  have hr := refreshed_sized (h.withMaxLines budget) cache' lines'
  have hbounds := invalidFrom_refresh (h.withMaxLines budget) cache' lines'
  generalize cache'.refresh (h.withMaxLines budget) lines' = r at hr hbounds ⊢
  obtain ⟨hlength, hlow, hhigh, hlines, hstates⟩ := hkeeps
  rw [hlength] at hr hbounds
  have hsize : r.1.states.length = lines.length := hr.length_states.trans hlength
  refine ⟨hr.length_lines.trans hlength, by omega, by omega, fun k hk => ?_, fun k hk => ?_⟩
  · rw [hr.line_eq k (by rw [invalidFrom_sized]; omega), hlines k hk]
  · rw [sized_of_length_eq hsize, hr.state_eq k (by rw [invalidFrom_sized]; omega), hstates k hk]

/-- Where a cache is synced from a line on, once it has as many states as there are lines, the
passes leave every line settled from there on. -/
theorem settled_settleBy (hb : h.ByText) {low : Nat}
    (hs : SyncedFrom h low (cache.sized lines.length) lines) (budgets : Nat → Nat) {passes : Nat}
    (hpasses : lines.length - cache.invalidFrom < passes) {k : Nat} (hlow : low ≤ k)
    (hk : k < lines.length) :
    LineSettled h (settleBy h budgets passes cache lines).2.1
      (settleBy h budgets passes cache lines).1.states k := by
  have hend : SyncedFrom h low
      ((settleBy h budgets passes cache lines).1.sized
        (settleBy h budgets passes cache lines).2.1.length)
      (settleBy h budgets passes cache lines).2.1 := by
    refine settleBy_induction (P := fun cache lines => SyncedFrom h low (cache.sized lines.length)
      lines) budgets passes hs fun cache' lines' budget hprev => ?_
    -- the budget has no part in what is settled
    have hprev' : SyncedFrom (h.withMaxLines budget) low (cache'.sized lines'.length) lines' :=
      ⟨hprev.length_states, hprev.before, hprev.behind⟩
    have hnext := SyncedFrom.refreshed (h := h.withMaxLines budget) hb hprev'
      (refreshed_sized (h.withMaxLines budget) cache' lines')
    rw [sized_of_length_eq hnext.length_states]
    exact ⟨hnext.length_states, hnext.before, hnext.behind⟩
  have hlength := (keepsBefore_settleBy h cache lines budgets passes).length_lines
  obtain ⟨hstates, hvalid⟩ := isUpToDate_iff.1 (isUpToDate_settleBy (h := h) budgets hpasses)
  rw [sized_of_length_eq hstates] at hend
  exact hend.before k hlow (by omega) (by omega)

end HighlightCache

namespace Host

open HighlightCache

variable {h : Highlighter}

/-- The host after a change at the end of its lines, and refreshes with these budgets until the
cache is up to date. -/
def endStep (h : Highlighter) (host : Host) (change : EndEdit Line × (Nat → Nat)) : Host :=
  let lines := change.1.apply host.lines
  let settled := settleBy h change.2 (lines.length + 1) host.cache lines
  { cache := settled.1, lines := settled.2.1 }

/-- The host after some changes at the end of its lines, each with its refreshes. -/
def runEnds (h : Highlighter) (host : Host) (changes : List (EndEdit Line × (Nat → Nat))) : Host :=
  changes.foldl (endStep h) host

/-- What holds of a host that began without lines, after changes at the end. The buffer has had
these numbers of lines, and `raw` are its lines as they came, without the refreshes. -/
structure Grown (h : Highlighter) (lengths : List Nat) (raw : Buffer) (host : Host) : Prop where
  length_lines : host.lines.length = lengths.getLastD 0
  length_states : host.cache.states.length = host.lines.length
  /-- The first invalid line is behind all lines that there have been. -/
  lt_invalidFrom_iff : ∀ k, k < host.cache.invalidFrom ↔ ∃ n ∈ lengths, k < n
  text_eq : host.lines.map Line.text = raw.map Line.text
  /-- Lines that have not been cut off are settled. -/
  kept : ∀ k, k < host.lines.length → Kept lengths k →
    LineSettled h host.lines host.cache.states k
  /-- Lines that have been cut off and have come again are not colored. -/
  lost : ∀ k, k < host.lines.length → ¬Kept lengths k →
    host.lines[k]? = raw[k]? ∧ host.cache.states[k]? = some .normal

lemma grown_new (h : Highlighter) : Grown h [] [] { lines := [] } where
  length_lines := rfl
  length_states := rfl
  lt_invalidFrom_iff k := ⟨fun hk => absurd hk (Nat.not_lt_zero k), by rintro ⟨n, hn, -⟩; cases hn⟩
  text_eq := rfl
  kept k hk := absurd hk (Nat.not_lt_zero k)
  lost k hk := absurd hk (Nat.not_lt_zero k)

variable {lengths : List Nat} {raw : Buffer} {host : Host}

/-- No line is invalid after the refreshes. -/
lemma Grown.le_invalidFrom (hg : Grown h lengths raw host) :
    host.lines.length ≤ host.cache.invalidFrom := by
  refine Nat.le_of_not_lt fun hlt => ?_
  have hmem : ∃ n ∈ lengths, host.cache.invalidFrom < n := by
    rw [hg.length_lines] at hlt
    exact exists_lt_of_lt_getLastD hlt
  exact Nat.lt_irrefl _ ((hg.lt_invalidFrom_iff _).2 hmem)

lemma Grown.isUpToDate (hg : Grown h lengths raw host) :
    host.cache.isUpToDate host.lines.length = true :=
  isUpToDate_iff.2 ⟨hg.length_states, hg.le_invalidFrom⟩

/-- A line that the buffer has had, and has had ever since, it has now. -/
theorem Grown.lt_length_of_kept (hg : Grown h lengths raw host) {k : Nat}
    (hk : k < host.cache.invalidFrom) (hkept : Kept lengths k) : k < host.lines.length := by
  obtain ⟨n, hmem, hlt⟩ := (hg.lt_invalidFrom_iff k).1 hk
  rw [hg.length_lines]
  exact hkept.lt_getLastD hmem hlt

/-- A line that has been cut off comes before the first invalid one. -/
theorem Grown.lt_invalidFrom_of_not_kept (hg : Grown h lengths raw host) {k : Nat}
    (hkept : ¬Kept lengths k) : k < host.cache.invalidFrom := by
  refine Nat.lt_of_not_le fun hle => hkept (kept_of_forall_le fun n hmem => ?_)
  refine Nat.le_of_not_lt fun hlt => ?_
  exact absurd ((hg.lt_invalidFrom_iff k).2 ⟨n, hmem, hlt⟩) (Nat.not_lt.2 hle)

lemma Grown.length_eq (hg : Grown h lengths raw host) : host.lines.length = raw.length := by
  have hlengths := congrArg List.length hg.text_eq
  rwa [List.length_map, List.length_map] at hlengths

/-! ## One change -/

lemma isUpToDate_endStep (h : Highlighter) (host : Host)
    (change : EndEdit Line × (Nat → Nat)) :
    (endStep h host change).cache.isUpToDate (endStep h host change).lines.length = true :=
  isUpToDate_settleBy change.2 (Nat.lt_succ_of_le (Nat.sub_le _ _))

/-- A change with its refreshes keeps what comes before the first invalid line. -/
lemma keepsBefore_endStep (h : Highlighter) (host : Host)
    (change : EndEdit Line × (Nat → Nat)) :
    KeepsBefore host.cache (change.1.apply host.lines) (endStep h host change).cache
      (endStep h host change).lines :=
  keepsBefore_settleBy h host.cache _ change.2 _

section Step

variable (change : EndEdit Line × (Nat → Nat))

/-- Lines before the first invalid one stay as they come, with the states stored for them. -/
theorem endStep_before {k : Nat} (hk : k < host.cache.invalidFrom) :
    (endStep h host change).lines[k]? = (change.1.apply host.lines)[k]? ∧
      (endStep h host change).cache.states[k]? =
        (host.cache.sized (change.1.apply host.lines).length).states[k]? := by
  have hkeeps := keepsBefore_endStep h host change
  have hcount := (isUpToDate_iff.1 (isUpToDate_endStep h host change)).1
  have hstate := hkeeps.state_eq k hk
  rw [sized_of_length_eq (hcount.trans hkeeps.length_lines)] at hstate
  exact ⟨hkeeps.line_eq k hk, hstate⟩

/-- The refreshes do not change the texts of the lines. -/
lemma map_text_endStep (htext : host.lines.map Line.text = raw.map Line.text) :
    (endStep h host change).lines.map Line.text = (change.1.apply raw).map Line.text := by
  have hkeep : (endStep h host change).lines.uncolored =
      Buffer.uncolored (change.1.apply host.lines) := uncolored_settleBy change.2 _
  rw [← Buffer.map_text_uncolored, hkeep, Buffer.map_text_uncolored]
  exact EndEdit.map_apply_congr Line.text change.1 htext

lemma length_lines_endStep (h : Highlighter) (host : Host) :
    (endStep h host change).lines.length = (change.1.apply host.lines).length :=
  (keepsBefore_endStep h host change).length_lines

variable (hg : Grown h lengths raw host)

include hg

/-- The lines from the first invalid one on have come with this change, and are colored. -/
theorem Grown.settled_endStep (hb : h.ByText) {k : Nat} (hlow : host.cache.invalidFrom ≤ k)
    (hk : k < (endStep h host change).lines.length) :
    LineSettled h (endStep h host change).lines (endStep h host change).cache.states k := by
  rw [length_lines_endStep] at hk
  -- either the number of lines has changed, or there is no line behind the first invalid one
  have hsynced : SyncedFrom h host.cache.invalidFrom
      (host.cache.sized (change.1.apply host.lines).length) (change.1.apply host.lines) := by
    refine ⟨length_states_sized _ _, fun k hlow hk => ?_, fun k hlow hk hkl => ?_⟩
    · rw [invalidFrom_sized] at hk
      exact absurd hk (Nat.not_lt.2 hlow)
    · by_cases hlen : host.cache.states.length = (change.1.apply host.lines).length
      · have hsame := hg.length_states
        have hle := hg.le_invalidFrom
        omega
      · rw [sized, if_pos hlen] at hk
        exact absurd hkl (Nat.not_lt.2 hk)
  exact settled_settleBy hb hsynced change.2 (Nat.lt_succ_of_le (Nat.sub_le _ _)) hlow hk

/-- A line that is not cut off stays, with its state. -/
theorem Grown.endStep_eq {k : Nat} (hk : k < host.lines.length)
    (hkept : k < (endStep h host change).lines.length) :
    (endStep h host change).lines[k]? = host.lines[k]? ∧
      (endStep h host change).cache.states[k]? = host.cache.states[k]? := by
  obtain ⟨hline, hstate⟩ :=
    @endStep_before h host change k (Nat.lt_of_lt_of_le hk hg.le_invalidFrom)
  rw [length_lines_endStep] at hkept
  rw [hline, hstate]
  exact ⟨EndEdit.getElem?_apply_of_lt change.1 hk hkept,
    getElem?_states_sized_of_lt (by rwa [hg.length_states]) hkept⟩

/-- A line that comes where there has been one before is not colored. -/
theorem Grown.endStep_eq_apply {k : Nat} (hnew : host.lines.length ≤ k)
    (hk : k < (endStep h host change).lines.length) (hinvalid : k < host.cache.invalidFrom) :
    (endStep h host change).lines[k]? = (change.1.apply raw)[k]? ∧
      (endStep h host change).cache.states[k]? = some .normal := by
  obtain ⟨hline, hstate⟩ := @endStep_before h host change k hinvalid
  rw [length_lines_endStep] at hk
  rw [hline, hstate]
  exact ⟨EndEdit.getElem?_apply_of_le change.1 hg.length_eq hnew,
    getElem?_states_sized_of_le (by rwa [hg.length_states]) hk⟩

/-- A line that has been there ever since is settled after one more change. -/
theorem Grown.kept_endStep (hb : h.ByText) {k : Nat}
    (hk : k < (endStep h host change).lines.length) (hkept : Kept lengths k) :
    LineSettled h (endStep h host change).lines (endStep h host change).cache.states k := by
  by_cases hnew : host.cache.invalidFrom ≤ k
  · exact hg.settled_endStep change hb hnew hk
  · have hold : k < host.lines.length := hg.lt_length_of_kept (Nat.lt_of_not_le hnew) hkept
    -- the line stays, and so do its state and the one before
    obtain ⟨hline, hstate⟩ := hg.endStep_eq change hold hk
    exact (hg.kept k hold hkept).congr hline hstate
      (carryInto_congr fun j hj => (hg.endStep_eq change (by omega) (by omega)).2)

/-- A line that has been cut off is without color after one more change. -/
theorem Grown.lost_endStep {k : Nat} (hk : k < (endStep h host change).lines.length)
    (hkept : ¬Kept lengths k) :
    (endStep h host change).lines[k]? = (change.1.apply raw)[k]? ∧
      (endStep h host change).cache.states[k]? = some .normal := by
  by_cases hnew : host.lines.length ≤ k
  · exact hg.endStep_eq_apply change hnew hk (hg.lt_invalidFrom_of_not_kept hkept)
  · have hold : k < host.lines.length := Nat.lt_of_not_le hnew
    obtain ⟨hsame, hstate⟩ := hg.endStep_eq change hold hk
    obtain ⟨hline, hnormal⟩ := hg.lost k hold hkept
    rw [length_lines_endStep, EndEdit.length_apply, hg.length_eq, ← EndEdit.length_apply] at hk
    rw [hsame, hstate, hline, hnormal]
    exact ⟨(EndEdit.getElem?_apply_of_lt change.1 (hg.length_eq ▸ hold) hk).symm, rfl⟩

/-- The first invalid line moves behind the lines that have come. -/
theorem Grown.lt_invalidFrom_endStep_iff (k : Nat) :
    k < (endStep h host change).cache.invalidFrom ↔
      ∃ n ∈ lengths ++ [(endStep h host change).lines.length], k < n := by
  obtain ⟨hlength, hlow, hhigh, -⟩ := keepsBefore_endStep h host change
  obtain ⟨-, hvalid⟩ := isUpToDate_iff.1 (isUpToDate_endStep h host change)
  have hmax : k < (endStep h host change).cache.invalidFrom ↔
      k < host.cache.invalidFrom ∨ k < (endStep h host change).lines.length := by omega
  simp only [hmax, hg.lt_invalidFrom_iff, List.mem_append, List.mem_singleton, or_and_right,
    exists_or, exists_eq_left]

/-- What a change at the end and the refreshes after it keep. -/
theorem Grown.step (hb : h.ByText) :
    Grown h (lengths ++ [change.1.lengthAfter host.lines.length]) (change.1.apply raw)
      (endStep h host change) := by
  rw [← EndEdit.length_apply, ← length_lines_endStep]
  constructor
  case length_lines => rw [List.getLastD_concat]
  case length_states => exact (isUpToDate_iff.1 (isUpToDate_endStep h host change)).1
  case lt_invalidFrom_iff => exact hg.lt_invalidFrom_endStep_iff change
  case text_eq => exact map_text_endStep change hg.text_eq
  case kept =>
    intro k hk hkept
    exact hg.kept_endStep change hb hk ((kept_concat_iff_of_lt hk).1 hkept)
  case lost =>
    intro k hk hlost
    exact hg.lost_endStep change hk fun hkept => hlost ((kept_concat_iff_of_lt hk).2 hkept)

end Step

/-! ## Runs -/

/-- What holds of a host that began without lines, after a run of changes at the end. -/
theorem Grown.run (hb : h.ByText) (hg : Grown h lengths raw host)
    (changes : List (EndEdit Line × (Nat → Nat))) :
    Grown h (lengths ++ EndEdit.lengths host.lines.length (changes.map Prod.fst))
      (EndEdit.applyAll (changes.map Prod.fst) raw) (runEnds h host changes) := by
  induction changes generalizing lengths raw host with
  | nil =>
    rw [List.map_nil, EndEdit.lengths, List.append_nil]
    exact hg
  | cons change changes ih =>
    have hstep := hg.step change hb
    have hlength : (endStep h host change).lines.length =
        change.1.lengthAfter host.lines.length := by
      rw [hstep.length_lines, List.getLastD_concat]
    have hrest := ih hstep
    rw [hlength, List.append_assoc, List.singleton_append] at hrest
    exact hrest

/-- What holds of a new host holds after any changes at the end. -/
lemma grown_runEnds (hb : h.ByText) (changes : List (EndEdit Line × (Nat → Nat))) :
    Grown h (EndEdit.lengths 0 (changes.map Prod.fst))
      (EndEdit.applyAll (changes.map Prod.fst) []) (runEnds h { lines := [] } changes) :=
  (grown_new h).run hb changes

/-- Where no line that the buffer has in the end has ever been cut off, the cache agrees with the
pass. -/
theorem Grown.agrees (hb : h.ByText) (hg : Grown h lengths raw host)
    (hkept : ∀ k, k < lengths.getLastD 0 → Kept lengths k) : Agrees h host.cache host.lines := by
  refine agrees_of_settled hb fun k hk => hg.kept k hk (hkept k ?_)
  rwa [← hg.length_lines]

/-- Whatever numbers of lines there have been, with lines without color of their own a line that has
been cut off and has come again is wrong. -/
theorem not_agrees_resizingAll {sizes : List Nat} {k : Nat} (hk : k < sizes.getLastD 0)
    (hkept : ¬Kept sizes k) (budgets : Nat → Nat) :
    let changes := (EndEdit.resizingAll (sampleLine 0 none) 0 sizes).map fun e => (e, budgets)
    EndEdit.lengths 0 (changes.map Prod.fst) = sizes ∧
      ¬Agrees opener (runEnds opener { lines := [] } changes).cache
        (runEnds opener { lines := [] } changes).lines := by
  intro changes
  have hedits : changes.map Prod.fst = EndEdit.resizingAll (sampleLine 0 none) 0 sizes := by
    rw [List.map_map]
    exact List.map_id' _
  have hlengths : EndEdit.lengths 0 (changes.map Prod.fst) = sizes := by
    rw [hedits, EndEdit.lengths_resizingAll]
  have hraw : EndEdit.applyAll (changes.map Prod.fst) [] =
      List.replicate (sizes.getLastD 0) (sampleLine 0 none) := by
    rw [hedits]
    exact EndEdit.applyAll_resizingAll (sampleLine 0 none) 0 sizes
  refine ⟨hlengths, fun ha => ?_⟩
  have hg := grown_runEnds byText_opener changes
  rw [hlengths, hraw] at hg
  -- a line that has come again is as it came, without a color
  obtain ⟨hline, hstate⟩ := hg.lost k (by rwa [hg.length_lines]) hkept
  rw [List.getElem?_replicate_of_lt hk] at hline
  exact (eq_of_agrees ha hline hstate).1 rfl

/-- Every run of changes at the end, each with refreshes until the cache is up to date, leaves it up
to date over the text as it was edited, the lines that have not been cut off settled, and those that
have been and have come again as they came. So the numbers of lines that there have been tell
whether the cache agrees with the pass for every highlighter and whatever lines: this is so exactly
if every line that the buffer has in the end has been there ever since. -/
theorem agrees_runEnds_iff (sizes : List Nat) :
    (∀ (h : Highlighter) (changes : List (EndEdit Line × (Nat → Nat))), h.ByText →
      EndEdit.lengths 0 (changes.map Prod.fst) = sizes →
      let host := runEnds h { lines := [] } changes
      host.cache.isUpToDate host.lines.length = true ∧
        Grown h sizes (EndEdit.applyAll (changes.map Prod.fst) []) host) ∧
    ((∀ (h : Highlighter) (changes : List (EndEdit Line × (Nat → Nat))), h.ByText →
      EndEdit.lengths 0 (changes.map Prod.fst) = sizes →
      let host := runEnds h { lines := [] } changes
      Agrees h host.cache host.lines) ↔ ∀ k, k < sizes.getLastD 0 → Kept sizes k) := by
  have hgrown : ∀ (h : Highlighter) (changes : List (EndEdit Line × (Nat → Nat))), h.ByText →
      EndEdit.lengths 0 (changes.map Prod.fst) = sizes →
      Grown h sizes (EndEdit.applyAll (changes.map Prod.fst) [])
        (runEnds h { lines := [] } changes) := by
    intro h changes hb hlengths
    rw [← hlengths]
    exact grown_runEnds hb changes
  refine ⟨fun h changes hb hlengths => ?_, fun hagrees k hk => ?_,
    fun hkept h changes hb hlengths => ?_⟩
  · exact ⟨(hgrown h changes hb hlengths).isUpToDate, hgrown h changes hb hlengths⟩
  · by_contra hcut
    obtain ⟨hlengths, hwrong⟩ := not_agrees_resizingAll hk hcut fun _ => 1
    exact hwrong (hagrees opener _ byText_opener hlengths)
  · exact (hgrown h changes hb hlengths).agrees hb hkept

/-- A line of C# is removed at the end, and another one is added there. The cache is up to date, and
the line has no color. -/
theorem not_agrees_regrown_csharp :
    let h := CSharp.highlighter { name := "C#" }
    let changes : List (EndEdit Line) := [.append (["int a;", "int b;"].map Line.ofText),
      .truncate 1, .append [Line.ofText "int x;"]]
    let host := runEnds h { lines := [] } (changes.map fun e => (e, fun _ => 9))
    host.cache.isUpToDate host.lines.length = true ∧
      host.lines[1]? = some (Line.ofText "int x;") ∧ ¬Agrees h host.cache host.lines := by
  intro h changes host
  have hcolors : host.lines ≠ Buffer.painted h host.lines.uncolored := by decide +kernel
  exact ⟨by decide +kernel, by decide +kernel, fun ha => hcolors ha.1⟩

end Host

end Highlight
