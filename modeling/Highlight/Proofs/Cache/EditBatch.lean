import Highlight.Proofs.Cache.Incremental
import Highlight.Proofs.Cache.Origin
import Highlight.Proofs.Cache.Reset

/-!
# Batches of edits

A host may make several edits before it refreshes. The cache keeps the end of the reported places,
but does not move it when later edits insert or remove lines above, so a batch that leaves the
number of lines as it was can lose lines behind that end. The batches for which this cannot happen
are those that are `Covered` (`UpToDate.ready`). For any other batch there are lines that lose a
color or a state, with the highlighter `opener` (`not_agrees_sampleAfter`).
-/

namespace Highlight

open HighlightCache LineEdit

namespace Host

variable {h : Highlighter} {host : Host}

/-- Whether a refresh has left the cache of a host up to date, with the colors and the states of a
pass over the lines. -/
structure UpToDate (h : Highlighter) (host : Host) : Prop where
  refreshed : ∃ (before : Host) (budget : Nat), host = before.step h (.refresh budget)
  isUpToDate : host.cache.isUpToDate host.lines.length = true
  agrees : Agrees h host.cache host.lines

/-! ## What a batch leaves -/

section Batch

variable (h) (host) (edits : List (LineEdit Line))

/-- Edits without a refresh between them leave the edited lines, as the highlighter colored them. -/
lemma lines_run_edits :
    (host.run h (edits.map .edit)).lines = applyAll edits host.lines := by
  induction edits generalizing host with
  | nil => rfl
  | cons e edits ih => rw [List.map_cons, run_cons, ih, applyAll_cons]; rfl

lemma states_run_edits :
    (host.run h (edits.map .edit)).cache.states = host.cache.states := by
  induction edits generalizing host with
  | nil => rfl
  | cons e edits ih => rw [List.map_cons, run_cons, ih]; rfl

/-- The stale lines go on to the end of the last reported place. -/
lemma staleUntil_run_edits :
    (host.run h (edits.map .edit)).cache.staleUntil =
      max host.cache.staleUntil (reportedEnd edits) := by
  induction edits generalizing host with
  | nil => exact (Nat.max_zero _).symm
  | cons e edits ih =>
    rw [List.map_cons, run_cons, ih, reportedEnd, ← Nat.max_assoc]
    rfl

/-- A line is before the first invalid one if it was, and if no edit was made before it or at it. -/
lemma lt_invalidFrom_run_edits {k : Nat} :
    k < (host.run h (edits.map .edit)).cache.invalidFrom ↔
      k < host.cache.invalidFrom ∧ ∀ e ∈ edits, k < e.line := by
  induction edits generalizing host with
  | nil => exact ⟨fun hk => ⟨hk, fun e hmem => absurd hmem List.not_mem_nil⟩, And.left⟩
  | cons e edits ih =>
    have hstep : k < (host.step h (.edit e)).cache.invalidFrom ↔
        k < host.cache.invalidFrom ∧ k < e.line := Nat.lt_min
    rw [List.map_cons, run_cons, ih, hstep, List.forall_mem_cons, and_assoc]

/-- The first invalid line comes before the end of the reported places. -/
theorem invalidFrom_run_edits_le {m : Nat} (hlast : m + 1 = reportedEnd edits) :
    (host.run h (edits.map .edit)).cache.invalidFrom ≤ m := by
  by_contra hlate
  have hall := ((lt_invalidFrom_run_edits h host edits).1 (Nat.lt_of_not_le hlate)).2
  have hne : edits ≠ [] := by
    rintro rfl
    exact Nat.succ_ne_zero m hlast
  obtain ⟨e, hmem, hline⟩ := exists_line_eq hne
  have hlt := hall e hmem
  omega

end Batch

/-! ## Covered batches -/

/-- After a covered batch the cache is ready for a refresh. -/
theorem UpToDate.ready (hb : h.ByText) (hu : UpToDate h host) {edits : List (LineEdit Line)}
    (hc : Covered host.lines.length (edits.map shape)) :
    Ready h (host.run h (edits.map .edit)).cache (host.run h (edits.map .edit)).lines := by
  have hstates := (isUpToDate_iff.1 hu.isUpToDate).1
  have hsettled : ∀ k, k < host.lines.length → LineSettled h host.lines host.cache.states k :=
    fun k hk => hu.agrees.settled hb hstates hk
  have hlength := length_applyAll_eq edits host.lines
  -- a line that is where it was is settled as before
  have hkeep : ∀ k, k < (applyAll edits host.lines).length →
      (applyAll edits host.lines)[k]? = host.lines[k]? →
      LineSettled h (applyAll edits host.lines) host.cache.states k :=
    fun k hk hline => settled_of_line_eq hline hk (hsettled k)
  have hbefore : ∀ k, k < (host.run h (edits.map .edit)).cache.invalidFrom →
      k < (applyAll edits host.lines).length →
      LineSettled h (applyAll edits host.lines) host.cache.states k := by
    intro k hk hkl
    have hall := ((lt_invalidFrom_run_edits h host edits).1 hk).2
    exact hkeep k hkl (getElem?_applyAll_of_lt hall)
  rw [← lines_run_edits h host edits, ← states_run_edits h host edits] at hkeep hbefore
  refine ready_of_before hbefore fun hlen => ⟨hlen, hbefore, fun k hk hkl => hkeep k hkl ?_⟩
  rw [states_run_edits, hstates] at hlen
  rcases hc with hresized | hcovered
  · -- the cache would see that there are more or fewer lines
    rw [lines_run_edits, hlength] at hlen
    exact absurd hlen.symm hresized
  · rw [staleUntil_run_edits, Nat.max_le, ← reportedEnd_map_shape] at hk
    have hplace := hcovered k (by omega) hk.2
    rw [lines_run_edits, getElem?_applyAll_of_origins hplace]

/-! ## Batches that are not covered -/

/-- A pass with a budget for all lines ends at a line behind the stale ones that hands on what it
did before, and what comes behind that line stays as it is. -/
theorem settleBy_getElem?_of_state_eq {cache : HighlightCache} {lines : Buffer} {m j : Nat}
    (hlen : cache.states.length = lines.length) (hlow : cache.invalidFrom ≤ m) (hmj : m < j)
    (hj : j < lines.length) (hstale : cache.staleUntil ≤ m + 1)
    (hstate : cache.states[m]? = some (Buffer.carryFrom h
      (carryInto cache.states cache.invalidFrom)
      ((lines.drop cache.invalidFrom).take (m - cache.invalidFrom + 1)))) :
    let r := settleBy h (fun _ => lines.length + 1) (lines.length + 1) cache lines
    r.2.1[j]? = lines[j]? ∧ r.1.states[j]? = cache.states[j]? := by
  have hpending : ¬cache.isUpToDate lines.length = true := by
    rw [isUpToDate_iff]
    omega
  have hr := refreshed (h.withMaxLines (lines.length + 1)) hlen
  -- the refresh stops at line m, whose state has not changed
  have hle := refresh_le_of_state_eq (h.withMaxLines (lines.length + 1)) hlen hlow (by omega) hstale
    hstate
  have hbudget := Highlighter.maxLinesPerFrame_withMaxLines h (lines.length + 1)
  rw [settleBy_succ hpending]
  generalize cache.refresh (h.withMaxLines (lines.length + 1)) lines = step at hr hle ⊢
  have hlines := hr.length_lines
  have hdone : step.1.isUpToDate step.2.1.length = true := by
    refine isUpToDate_iff.2 ⟨hr.length_states.trans hlines.symm, ?_⟩
    rcases hr.ends with ⟨hend, -, -⟩ | ⟨-, -, hspent, -⟩
    · omega
    · -- the budget cannot be spent on fewer lines than there are
      omega
  simp only [settleBy_of_isUpToDate hdone]
  exact ⟨hr.line_eq j (by omega), hr.state_eq j (by omega)⟩

/-- A highlighter that colors lines as a whole; behind a line `a` a comment is open, and behind any
other line none is. -/
def opener : Highlighter where
  autoIndentation := false
  maxLinesPerFrame := Highlighter.defaultMaxLines
  tooltip? _ := none
  tokens _ text := ([⟨text.length, .keyword⟩], if text = ['a'] then .blockComment else .normal)

lemma byText_opener : opener.ByText :=
  Highlighter.Covers.byText fun _ text => Nat.add_zero text.length

/-- What the sample highlighter does with a line. -/
lemma colorize_opener (line : Line) (state : LineState) :
    opener.colorize line state =
      (Line.fill .keyword line,
        if Line.text line = ['a'] then .blockComment else .normal) := by
  have hlength : (Line.text line).length = line.length := List.length_map _
  rw [Highlighter.colorize]
  simp only [opener, hlength, Line.paint_single]

lemma fill_ofChars (text : List Char) (category before : Category) :
    Line.fill category (Line.ofChars text before) = Line.ofChars text category := by
  rw [Line.fill, Line.ofChars, List.map_map]
  rfl

/-- The text of old line `k`, when the first `t` lines are `a` and the others `b`; new lines are
`a`. -/
def sampleText (t : Nat) : Option Nat → List Char
  | some k => if k < t then ['a'] else ['b']
  | none => ['a']

/-- An old line as the highlighter has colored it, or a new line without color. -/
def sampleLine (t : Nat) : Option Nat → Line
  | some k => Line.ofChars (sampleText t (some k)) .keyword
  | none => Line.ofChars (sampleText t none) .plain

/-- The state behind such a line. -/
def sampleState (t : Nat) (place : Option Nat) : LineState :=
  if sampleText t place = ['a'] then .blockComment else .normal

/-- A host with `n` lines, colored in one refresh. -/
def sample (n t : Nat) : Host :=
  step opener { lines := (List.range n).map fun k => Line.ofChars (sampleText t (some k)) .plain }
    (.refresh n)

@[simp] lemma text_sampleLine (t : Nat) (place : Option Nat) :
    Line.text (sampleLine t place) = sampleText t place := by
  cases place <;> exact Line.text_ofChars _ _

lemma sampleText_eq_iff {t k : Nat} : sampleText t (some k) = ['a'] ↔ k < t := by
  by_cases hk : k < t
  · rw [sampleText, if_pos hk]
    exact ⟨fun _ => hk, fun _ => rfl⟩
  · rw [sampleText, if_neg hk]
    exact ⟨fun hb => absurd hb (by decide), fun hlt => absurd hlt hk⟩

/-- The sample is up to date, and its lines and states are those of its old lines. -/
lemma upToDate_sample {n : Nat} (hn : 0 < n) (t : Nat) :
    UpToDate opener (sample n t) ∧
      (sample n t).lines = (List.range n).map (fun k => sampleLine t (some k)) ∧
      ∀ k, k < n → (sample n t).cache.states[k]? = some (sampleState t (some k)) := by
  generalize hstart : (List.range n).map
    (fun k => Line.ofChars (sampleText t (some k)) .plain) = start
  have hlength : start.length = n := by rw [← hstart, List.length_map, List.length_range]
  have hline : ∀ k, k < n → start[k]? = some (Line.ofChars (sampleText t (some k)) .plain) := by
    intro k hk
    rw [← hstart, List.getElem?_map, List.getElem?_range hk, Option.map_some]
  obtain ⟨hcount, hg⟩ := (begun_new opener start).refresh (by omega) n
  -- the budget is the number of lines, so the one refresh colors all of them
  have hall : 0 + (HighlightCache.refresh {} (opener.withMaxLines n) start).2.2 = start.length := by
    omega
  rw [hall] at hg
  have hsample : sample n t = step opener { lines := start } (.refresh n) := by rw [sample, hstart]
  have hlines : (sample n t).lines = Buffer.painted opener start := by
    rw [hsample]
    exact hg.lines_eq_painted
  have hdone : (sample n t).cache.isUpToDate start.length = true := by
    rw [hsample]
    exact hg.done rfl
  have hstates := (isUpToDate_iff.1 hdone).1
  refine ⟨⟨⟨_, n, hsample⟩, ?_, ?_⟩, ?_, fun k hk => ?_⟩
  · rw [hlines, Buffer.length_painted]
    exact hdone
  · rw [hsample]
    exact hg.agrees byText_opener
  · rw [hlines]
    refine List.ext_getElem? fun k => ?_
    rw [Buffer.getElem?_painted, ← hstart, List.getElem?_map, List.getElem?_map, Option.map_map]
    refine congrArg (fun f => Option.map f (List.range n)[k]?) (funext fun i => ?_)
    rw [Function.comp_apply, colorize_opener, fill_ofChars, sampleLine]
  · have hcarry : (sample n t).cache.stateBefore (k + 1) = Buffer.carryAt opener start (k + 1) := by
      rw [hsample]
      exact hg.stateBefore_eq (k + 1) (by omega)
    have hstate : (sample n t).cache.states[k]? = some (sample n t).cache.states[k] :=
      List.getElem?_eq_getElem (by omega)
    rw [stateBefore, carryInto_succ hstate, Buffer.carryAt_succ (hline k hk), colorize_opener,
      Line.text_ofChars] at hcarry
    rw [hstate, hcarry, sampleState]

/-- The edits of these shapes, with sample lines where they bring lines. -/
def sampleEdits (shapes : List (LineEdit Unit)) : List (LineEdit Line) :=
  shapes.map (map fun _ => sampleLine 0 none)

/-- The sample after edits of these shapes. -/
def sampleAfter (n t : Nat) (shapes : List (LineEdit Unit)) : Host :=
  (sample n t).run opener ((sampleEdits shapes).map .edit)

lemma map_shape_sampleEdits (shapes : List (LineEdit Unit)) :
    (sampleEdits shapes).map shape = shapes := by
  rw [sampleEdits, List.map_map]
  refine List.map_id'' (fun e => ?_) shapes
  cases e <;> rfl

lemma reportedEnd_sampleEdits (shapes : List (LineEdit Unit)) :
    reportedEnd (sampleEdits shapes) = reportedEnd shapes := by
  rw [← reportedEnd_map_shape, map_shape_sampleEdits]

/-- After the edits the sample has an old line where its origin says so, and a new one elsewhere. -/
lemma lines_sampleAfter {n : Nat} (hn : 0 < n) (t : Nat) (shapes : List (LineEdit Unit)) :
    (sampleAfter n t shapes).lines = (origins n shapes).map (sampleLine t) := by
  rw [sampleAfter, lines_run_edits, (upToDate_sample hn t).2.1]
  exact applyAll_eq_map_origins (sampleLine t) n shapes

/-- Where line `m`, the last reported one, is `a` as it was before, refreshing the sample does not
come to the lines behind it. -/
theorem settleBy_sampleAfter {n t m j : Nat} {shapes : List (LineEdit Unit)}
    (hlen : (origins n shapes).length = n) (hend : m + 1 = reportedEnd shapes) (hmj : m < j)
    (hj : j < n) (ht : m < t) (hopen : ∀ place, (origins n shapes)[m]? = some place →
      sampleText t place = ['a']) :
    let after := sampleAfter n t shapes
    let r := settleBy opener (fun _ => n + 1) (n + 1) after.cache after.lines
    r.2.1[j]? = after.lines[j]? ∧ r.1.states[j]? = some (sampleState t (some j)) := by
  intro after
  have hn : 0 < n := by omega
  obtain ⟨hu, hold, hstates⟩ := upToDate_sample hn t
  have hlines : after.lines = (origins n shapes).map (sampleLine t) := lines_sampleAfter hn t shapes
  have hlength : after.lines.length = n := by rw [hlines, List.length_map, hlen]
  have hkept : after.cache.states = (sample n t).cache.states := states_run_edits opener _ _
  have hsize : after.cache.states.length = after.lines.length := by
    have hsame := (isUpToDate_iff.1 hu.isUpToDate).1
    rw [hkept, hsame, hlength, hold, List.length_map, List.length_range]
  have hreported : m + 1 = reportedEnd (sampleEdits shapes) := by rw [reportedEnd_sampleEdits, hend]
  -- the reported lines end with line m, and nothing behind it is stale
  have hlow : after.cache.invalidFrom ≤ m := invalidFrom_run_edits_le opener _ _ hreported
  have hstale : after.cache.staleUntil ≤ m + 1 := by
    have heq : after.cache.staleUntil = max (sample n t).cache.staleUntil
        (reportedEnd (sampleEdits shapes)) := staleUntil_run_edits opener _ _
    rw [staleUntil_eq_zero hu.refreshed hu.isUpToDate] at heq
    omega
  -- line m is an a before and after the edits, so it hands on what is stored for it
  have hstate : after.cache.states[m]? = some (Buffer.carryFrom opener
      (carryInto after.cache.states after.cache.invalidFrom)
      ((after.lines.drop after.cache.invalidFrom).take (m - after.cache.invalidFrom + 1))) := by
    obtain ⟨place, hplace⟩ : ∃ place, (origins n shapes)[m]? = some place :=
      ⟨_, List.getElem?_eq_getElem (by omega)⟩
    have hline : (after.lines.drop after.cache.invalidFrom)[m - after.cache.invalidFrom]? =
        some (sampleLine t place) := by
      rw [List.getElem?_drop, Nat.add_sub_cancel' hlow, hlines, List.getElem?_map, hplace,
        Option.map_some]
    rw [Buffer.carryFrom_take_succ _ hline, colorize_opener, text_sampleLine,
      if_pos (hopen place hplace), hkept, hstates m (by omega), sampleState,
      if_pos (sampleText_eq_iff.2 ht)]
  have hstay := settleBy_getElem?_of_state_eq hsize hlow hmj (by omega) hstale hstate
  rw [hlength, hkept, hstates j hj] at hstay
  exact hstay

/-- A sample line that agrees with the pass is an old line, and behind it stands its own state. -/
theorem eq_of_agrees {cache : HighlightCache} {lines : Buffer} {t j : Nat} {place : Option Nat}
    {state : LineState} (ha : Agrees opener cache lines)
    (hline : lines[j]? = some (sampleLine t place)) (hstate : cache.states[j]? = some state) :
    place ≠ none ∧ state = sampleState t place := by
  have hj : j < lines.length := (List.getElem?_eq_some_iff.1 hline).1
  have htext : lines.uncolored[j]? = some (Line.ofChars (sampleText t place) .plain) := by
    rw [Buffer.uncolored, List.getElem?_map, hline, Option.map_some, text_sampleLine]
  refine ⟨?_, ?_⟩
  · rintro rfl
    have hpaint := ha.1
    -- a new line has no color, and every painted one has
    have hcolor : lines[j]? = (Buffer.painted opener lines.uncolored)[j]? :=
      congrArg (fun lines : Buffer => lines[j]?) hpaint
    rw [hline, Buffer.getElem?_painted, htext, Option.map_some, colorize_opener, fill_ofChars,
      Option.some.injEq] at hcolor
    have hplain : Line.ofChars ['a'] .plain = Line.ofChars ['a'] .keyword := hcolor
    exact absurd hplain (by decide)
  · have hcarry := ha.2 (j + 1) hj
    rw [stateBefore, carryInto_succ hstate, Buffer.carryAt_succ htext, colorize_opener,
      Line.text_ofChars] at hcarry
    exact hcarry

/-- Whichever old lines are `a`, a line behind a last reported line that is `a` stays as it is, so
that it is wrong if it is new, or if another state than its own stands behind it. -/
theorem not_agrees_of_stays {n t m j : Nat} {shapes : List (LineEdit Unit)} {place : Option Nat}
    (hlen : (origins n shapes).length = n) (hend : m + 1 = reportedEnd shapes) (hmj : m < j)
    (hj : j < n) (ht : m < t) (hopen : ∀ o, (origins n shapes)[m]? = some (some o) → o < t)
    (hplace : (origins n shapes)[j]? = some place)
    (hwrong : place ≠ none → sampleState t (some j) ≠ sampleState t place) :
    let after := sampleAfter n t shapes
    let r := settleBy opener (fun _ => n + 1) (n + 1) after.cache after.lines
    ¬Agrees opener r.1 r.2.1 := by
  intro after r ha
  have htext : ∀ last, (origins n shapes)[m]? = some last → sampleText t last = ['a'] := by
    intro last hlast
    cases last with
    | none => rfl
    | some o => exact sampleText_eq_iff.2 (hopen o hlast)
  obtain ⟨hline, hstate⟩ := settleBy_sampleAfter hlen hend hmj hj ht htext
  have hafter : after.lines[j]? = some (sampleLine t place) := by
    have hlines : after.lines = (origins n shapes).map (sampleLine t) :=
      lines_sampleAfter (by omega) t shapes
    rw [hlines, List.getElem?_map, hplace, Option.map_some]
  -- the line that stays would have to be an old one with the state that is stored
  obtain ⟨hold, heq⟩ := eq_of_agrees ha (hline.trans hafter) hstate
  exact hwrong hold heq

/-- A batch that is not covered loses a line of the sample. -/
theorem not_agrees_sampleAfter {n : Nat} {shapes : List (LineEdit Unit)}
    (hc : ¬Covered n shapes) : 0 < n ∧ (origins n shapes).length = n ∧ ∃ t,
      let after := sampleAfter n t shapes
      let r := settleBy opener (fun _ => n + 1) (n + 1) after.cache after.lines
      ¬Agrees opener r.1 r.2.1 := by
  have hlen : (origins n shapes).length = n := by
    by_contra hresized
    exact hc (.inl hresized)
  obtain ⟨j, hj, hend, hmoved⟩ : ∃ j, j < n ∧ reportedEnd shapes ≤ j ∧
      (origins n shapes)[j]? ≠ some (some j) := by
    by_contra hnone
    push Not at hnone
    exact hc (.inr hnone)
  have hne : shapes ≠ [] := by
    rintro rfl
    refine hmoved ?_
    rw [origins, List.map_nil, applyAll_nil, List.getElem?_map, List.getElem?_range hj,
      Option.map_some]
  obtain ⟨e, -, hlast⟩ := exists_line_eq hne
  obtain ⟨place, hplace⟩ : ∃ place, (origins n shapes)[j]? = some place :=
    ⟨_, List.getElem?_eq_getElem (by omega)⟩
  refine ⟨by omega, hlen, ?_⟩
  cases place with
  | none =>
    -- a new line, which is never colored; all old lines may be `a`
    refine ⟨n, not_agrees_of_stays hlen hlast (by omega) hj (by omega) (fun o ho => ?_) hplace ?_⟩
    · exact lt_of_mem_origins (List.mem_of_getElem? ho)
    · exact fun hold => absurd rfl hold
  | some o =>
    -- an old line that has moved, behind which stands the state of the line that was there
    have hoj : o ≠ j := by
      rintro rfl
      exact hmoved hplace
    refine ⟨max o j, not_agrees_of_stays hlen hlast (by omega) hj (by omega) (fun o' ho' => ?_)
      hplace fun _ heq => ?_⟩
    · have hless := increasing_origins n shapes e.line j o' o (by omega) ho' hplace
      omega
    · have hiff : j < max o j ↔ o < max o j := by
        rw [← sampleText_eq_iff, ← sampleText_eq_iff (k := o)]
        unfold sampleState at heq
        by_cases hb : sampleText (max o j) (some j) = ['a'] <;>
          by_cases ha : sampleText (max o j) (some o) = ['a'] <;> simp [hb, ha] at heq ⊢
      omega

/-- Refreshing after a batch of edits keeps the new text and leaves what a pass over it leaves, for
all lines, new lines, highlighters and budgets, exactly when the batch is covered. -/
theorem settleBy_edits_agrees_iff (n : Nat) (shapes : List (LineEdit Unit)) :
    (∀ (h : Highlighter) (host : Host) (edits : List (LineEdit Line)) (budgets : Nat → Nat)
        (passes : Nat),
      h.ByText → UpToDate h host → host.lines.length = n → edits.map shape = shapes →
      let after := host.run h (edits.map .edit)
      after.lines.length < passes →
      let r := settleBy h budgets passes after.cache after.lines
      r.1.isUpToDate r.2.1.length = true ∧ r.2.1.uncolored = after.lines.uncolored ∧
        Agrees h r.1 r.2.1) ↔
    Covered n shapes := by
  constructor
  · intro hall
    -- a batch that is not covered fails on the sample
    by_contra hc
    obtain ⟨hn, hlen, t, hlost⟩ := not_agrees_sampleAfter hc
    obtain ⟨hu, hold, -⟩ := upToDate_sample hn t
    have hlength : (sampleAfter n t shapes).lines.length = n := by
      rw [lines_sampleAfter hn, List.length_map, hlen]
    refine hlost (hall opener (sample n t) (sampleEdits shapes) (fun _ => n + 1) (n + 1)
      byText_opener hu ?_ (map_shape_sampleEdits shapes) ?_).2.2
    · rw [hold, List.length_map, List.length_range]
    · show (sampleAfter n t shapes).lines.length < n + 1
      omega
  · rintro hc h host edits budgets passes hb hu rfl rfl after hpasses
    have henough : after.lines.length - after.cache.invalidFrom < passes :=
      Nat.lt_of_le_of_lt (Nat.sub_le _ _) hpasses
    exact ⟨isUpToDate_settleBy budgets henough, uncolored_settleBy budgets passes,
      agrees_settleBy hb (hu.ready hb hc) budgets henough⟩

/-- Two lines of C# are removed and two others inserted in their place. The pass that follows ends
behind the first of them, and the second keeps no color. -/
theorem not_agrees_csharp :
    let h := CSharp.highlighter { name := "C#" }
    let host := run h { lines := ["int a;", "int b;"].map Line.ofText } [.refresh 9]
    let after := host.run h ([.remove 0, .remove 0, .insert 0 (Line.ofText "int x;"),
      .insert 0 (Line.ofText "int y;")].map .edit)
    let r := settle h after.cache after.lines
    UpToDate h host ∧ r.1.isUpToDate r.2.1.length = true ∧
      r.2.1[1]? = some (Line.ofText "int x;") ∧ ¬Agrees h r.1 r.2.1 := by
  intro h host after r
  have hcolors : r.2.1 ≠ Buffer.painted h r.2.1.uncolored := by decide +kernel
  refine ⟨⟨⟨{ lines := ["int a;", "int b;"].map Line.ofText }, 9, rfl⟩, by decide +kernel, ?_⟩,
    by decide +kernel, by decide +kernel, fun ha => hcolors ha.1⟩
  exact ⟨by decide +kernel, by decide +kernel⟩

end Host

end Highlight
