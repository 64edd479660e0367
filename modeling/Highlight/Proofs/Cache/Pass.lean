import Highlight.HighlightCache
import Highlight.Proofs.Tokens
import Mathlib.Data.List.Basic

/-!
# The sequential pass

What the caches are measured against: all lines of a buffer are colored in one go, each with the
state that the line before hands on. `carryFrom` is the state behind some lines, `carryAt` the state
before a line. `LineSettled` says of one line that coloring it again would change nothing, and
`agrees_of_settled` joins the lines: where all of them are settled, the buffer and the stored states
are those of a pass.
-/

namespace Highlight

/-- The budget of a highlighter has no part in its colors. -/
@[simp] theorem Highlighter.colorize_withMaxLines (h : Highlighter) (budget : Nat) (line : Line)
    (state : LineState) : (h.withMaxLines budget).colorize line state = h.colorize line state :=
  rfl

lemma Highlighter.maxLinesPerFrame_withMaxLines (h : Highlighter) (budget : Nat) :
    (h.withMaxLines budget).maxLinesPerFrame = max budget 1 :=
  rfl

namespace Buffer

/-- The lines of a buffer without their colors. -/
def uncolored (lines : Buffer) : Buffer :=
  lines.map fun line => Line.ofChars (Line.text line) .plain

/-- The state behind some lines, when `carry` is the state before them. -/
def carryFrom (h : Highlighter) (carry : LineState) (lines : Buffer) : LineState :=
  lines.foldl (fun state line => (h.colorize line state).2) carry

/-- The state before line `k` in a pass over the lines. -/
def carryAt (h : Highlighter) (lines : Buffer) (k : Nat) : LineState :=
  carryFrom h .normal (lines.take k)

/-- The lines as a pass colors them. -/
def painted (h : Highlighter) (lines : Buffer) : Buffer :=
  (pass h lines).map Prod.fst

variable {h : Highlighter}

@[simp] lemma carryFrom_nil (carry : LineState) : carryFrom h carry [] = carry := rfl

@[simp] lemma carryFrom_cons (carry : LineState) (line : Line) (lines : Buffer) :
    carryFrom h carry (line :: lines) = carryFrom h (h.colorize line carry).2 lines := rfl

@[simp] lemma carryAt_zero (lines : Buffer) : carryAt h lines 0 = .normal := by
  rw [carryAt, List.take_zero, carryFrom_nil]

@[simp] lemma length_uncolored (lines : Buffer) : lines.uncolored.length = lines.length :=
  List.length_map _

@[simp] lemma map_text_uncolored (lines : Buffer) :
    lines.uncolored.map Line.text = lines.map Line.text := by
  rw [uncolored, List.map_map]
  refine List.map_congr_left fun line _ => ?_
  rw [Function.comp_apply, Line.text_ofChars]

@[simp] lemma length_passFrom (carry : LineState) (lines : Buffer) :
    (passFrom h carry lines).length = lines.length := by
  induction lines generalizing carry with
  | nil => rfl
  | cons line lines ih => rw [passFrom, List.length_cons, ih, List.length_cons]

@[simp] lemma length_painted (lines : Buffer) : (painted h lines).length = lines.length := by
  rw [painted, List.length_map, pass, length_passFrom]

/-- Line by line, a pass colors with the state behind the lines before. -/
theorem getElem?_passFrom (carry : LineState) (lines : Buffer) (k : Nat) :
    (passFrom h carry lines)[k]? =
      lines[k]?.map fun line => h.colorize line (carryFrom h carry (lines.take k)) := by
  induction lines generalizing carry k with
  | nil => rfl
  | cons line lines ih =>
    cases k with
    | zero => rfl
    | succ k =>
      rw [passFrom, List.getElem?_cons_succ, ih, List.getElem?_cons_succ, List.take_succ_cons,
        carryFrom_cons]

/-- A line is painted in the state that the lines before it hand on. -/
theorem getElem?_painted (lines : Buffer) (k : Nat) :
    (painted h lines)[k]? = lines[k]?.map fun line => (h.colorize line (carryAt h lines k)).1 := by
  rw [painted, List.getElem?_map, pass, getElem?_passFrom, Option.map_map]
  rfl

/-- The state after one more line. -/
theorem carryFrom_take_succ {lines : Buffer} {k : Nat} {line : Line} (carry : LineState)
    (hk : lines[k]? = some line) :
    carryFrom h carry (lines.take (k + 1)) =
      (h.colorize line (carryFrom h carry (lines.take k))).2 := by
  unfold carryFrom
  rw [List.take_add_one, hk, Option.toList_some, List.foldl_append]
  rfl

/-- The state behind a line is the one that the line hands on. -/
theorem carryAt_succ {lines : Buffer} {k : Nat} {line : Line} (hk : lines[k]? = some line) :
    carryAt h lines (k + 1) = (h.colorize line (carryAt h lines k)).2 :=
  carryFrom_take_succ .normal hk

/-- With colors that come from the text alone, a pass does not see the colors before it. -/
theorem passFrom_congr (hb : h.ByText) {a b : Buffer} (ht : a.map Line.text = b.map Line.text)
    (carry : LineState) : passFrom h carry a = passFrom h carry b := by
  induction a generalizing b carry with
  | nil =>
    have hnil : b = [] := List.map_eq_nil_iff.1 ht.symm
    rw [hnil]
  | cons x a ih =>
    cases b with
    | nil => exact absurd ht (by simp)
    | cons y b =>
      rw [List.map_cons, List.map_cons, List.cons.injEq] at ht
      rw [passFrom, passFrom, hb x y ht.1 carry, ih ht.2]

lemma pass_uncolored (hb : h.ByText) (lines : Buffer) : pass h lines.uncolored = pass h lines :=
  passFrom_congr hb (map_text_uncolored lines) .normal

lemma painted_uncolored (hb : h.ByText) (lines : Buffer) :
    painted h lines.uncolored = painted h lines := by
  rw [painted, painted, pass_uncolored hb]

/-- The state before a line is the one that the line before it hands on in the pass. -/
theorem carryAt_eq_carryInto {lines : Buffer} {k : Nat} (hk : k ≤ lines.length) :
    carryAt h lines k = HighlightCache.carryInto ((pass h lines).map Prod.snd) k := by
  cases k with
  | zero => rw [carryAt_zero]; rfl
  | succ k =>
    have hline : lines[k]? = some lines[k] := List.getElem?_eq_getElem hk
    rw [carryAt_succ hline, HighlightCache.carryInto, List.getD_eq_getElem?_getD,
      List.getElem?_map, pass, getElem?_passFrom, hline]
    rfl

/-- The state before a line is the same from uncolored lines where only texts count. -/
theorem carryAt_uncolored (hb : h.ByText) {lines : Buffer} {k : Nat} (hk : k ≤ lines.length) :
    carryAt h lines.uncolored k = carryAt h lines k := by
  rw [carryAt_eq_carryInto (by rwa [length_uncolored]), pass_uncolored hb,
    carryAt_eq_carryInto hk]

/-- Painting a whole buffer keeps its text. -/
@[simp] theorem uncolored_painted (lines : Buffer) :
    (painted h lines).uncolored = lines.uncolored := by
  refine List.ext_getElem? fun k => ?_
  rw [uncolored, uncolored, List.getElem?_map, List.getElem?_map, getElem?_painted,
    Option.map_map]
  refine congrArg (fun f => Option.map f lines[k]?) (funext fun line => ?_)
  rw [Function.comp_apply, Highlighter.text_colorize]

end Buffer

namespace HighlightCache

/-- Whether line `k` stands there as coloring leaves it: coloring it with the state that is stored
for the line before changes neither its colors nor the state stored for it. -/
def LineSettled (h : Highlighter) (lines : Buffer) (states : List LineState) (k : Nat) : Prop :=
  ∃ line state, lines[k]? = some line ∧ states[k]? = some state ∧
    h.colorize line (carryInto states k) = (line, state)

/-- Whether a cache and its buffer are as one pass over the text of the buffer leaves them: every
line in the colors of the pass, and before every line, and behind the last, the state of the pass.
-/
def Agrees (h : Highlighter) (cache : HighlightCache) (lines : Buffer) : Prop :=
  lines = Buffer.painted h lines.uncolored ∧
    ∀ k, k ≤ lines.length → cache.stateBefore k = Buffer.carryAt h lines.uncolored k

variable {h : Highlighter} {lines : Buffer} {states : List LineState}

lemma carryInto_succ {k : Nat} {state : LineState} (hk : states[k]? = some state) :
    carryInto states (k + 1) = state := by
  rw [carryInto, List.getD_eq_getElem?_getD, hk, Option.getD_some]

/-- The state before a line is read from the states up to that line. -/
theorem carryInto_congr {s t : List LineState} {k : Nat}
    (hst : ∀ j, j + 1 = k → s[j]? = t[j]?) : carryInto s k = carryInto t k := by
  cases k with
  | zero => rfl
  | succ k =>
    rw [carryInto, carryInto, List.getD_eq_getElem?_getD, List.getD_eq_getElem?_getD, hst k rfl]

/-- A settled line keeps being settled while itself and the two states at it stay. -/
theorem LineSettled.congr {lines' : Buffer} {states' : List LineState} {k : Nat}
    (hs : LineSettled h lines states k) (hline : lines'[k]? = lines[k]?)
    (hstate : states'[k]? = states[k]?)
    (hcarry : carryInto states' k = carryInto states k) : LineSettled h lines' states' k := by
  obtain ⟨line, state, hl, hst, hcol⟩ := hs
  exact ⟨line, state, by rw [hline, hl], by rw [hstate, hst], by rw [hcarry, hcol]⟩

/-- A line that is what the line in its place was is settled if that one was. -/
theorem settled_of_line_eq {lines' : Buffer} {k : Nat} (hline : lines'[k]? = lines[k]?)
    (hk : k < lines'.length) (hs : k < lines.length → LineSettled h lines states k) :
    LineSettled h lines' states k := by
  have hlt : k < lines.length := by
    rw [List.getElem?_eq_getElem hk] at hline
    exact (List.getElem?_eq_some_iff.1 hline.symm).1
  exact (hs hlt).congr hline rfl rfl

/-- Where all lines before `k` are settled, the state stored before `k` is that of the pass. -/
theorem carryInto_eq_carryAt {k : Nat} (hk : k ≤ lines.length)
    (hs : ∀ j, j < k → LineSettled h lines states j) :
    carryInto states k = Buffer.carryAt h lines k := by
  induction k with
  | zero => rw [Buffer.carryAt_zero]; rfl
  | succ k ih =>
    obtain ⟨line, state, hline, hstate, hcol⟩ := hs k (Nat.lt_succ_self k)
    rw [ih (Nat.le_of_succ_le hk) fun j hj => hs j (Nat.lt_succ_of_lt hj)] at hcol
    rw [carryInto_succ hstate, Buffer.carryAt_succ hline, hcol]

/-- A buffer whose lines are all settled is what a pass makes of its text. -/
theorem agrees_of_settled (hb : h.ByText) {cache : HighlightCache}
    (hs : ∀ k, k < lines.length → LineSettled h lines cache.states k) : Agrees h cache lines := by
  have hcarry : ∀ k, k ≤ lines.length → carryInto cache.states k = Buffer.carryAt h lines k :=
    fun k hk => carryInto_eq_carryAt hk fun j hj => hs j (Nat.lt_of_lt_of_le hj hk)
  refine ⟨?_, fun k hk => ?_⟩
  · -- each line is colored with the state of the pass, so the pass leaves it as it is
    rw [Buffer.painted_uncolored hb]
    refine List.ext_getElem? fun k => ?_
    rw [Buffer.getElem?_painted]
    by_cases hk : k < lines.length
    · obtain ⟨line, state, hline, -, hcol⟩ := hs k hk
      rw [hcarry k (Nat.le_of_lt hk)] at hcol
      rw [hline, Option.map_some, hcol]
    · rw [List.getElem?_eq_none (Nat.le_of_not_lt hk), Option.map_none]
  · rw [stateBefore, hcarry k hk, Buffer.carryAt_uncolored hb hk]

/-- The lines of a cache that agrees with the pass are settled. -/
theorem Agrees.settled (hb : h.ByText) {cache : HighlightCache} (ha : Agrees h cache lines)
    (hlen : cache.states.length = lines.length) {k : Nat} (hk : k < lines.length) :
    LineSettled h lines cache.states k := by
  obtain ⟨hlines, hstates⟩ := ha
  have hcarry : ∀ j, j ≤ lines.length → carryInto cache.states j = Buffer.carryAt h lines j := by
    intro j hj
    rw [← Buffer.carryAt_uncolored hb hj]
    exact hstates j hj
  have hline : lines[k]? = some lines[k] := List.getElem?_eq_getElem hk
  have hstate : cache.states[k]? = some cache.states[k] := List.getElem?_eq_getElem (by omega)
  refine ⟨_, _, hline, hstate, Prod.ext ?_ ?_⟩
  · have hpaint := congrArg (fun b : Buffer => b[k]?) hlines
    simp only [Buffer.painted_uncolored hb] at hpaint
    rw [Buffer.getElem?_painted, hline, Option.map_some, Option.some.injEq] at hpaint
    rw [hcarry k (Nat.le_of_lt hk), ← hpaint]
  · rw [hcarry k (Nat.le_of_lt hk), ← Buffer.carryAt_succ hline, ← hcarry (k + 1) hk,
      carryInto_succ hstate]

end HighlightCache

end Highlight
