import Highlight.Proofs.CSharp.Identifier
import Highlight.Proofs.CSharp.Quoted
import Highlight.Proofs.Marker
import Highlight.Proofs.Places

/-!
# Lines that go on with what the line before left open

A line in a verbatim string or in a comment begins with its blanks, then comes what belongs to the
string or to the comment, and behind its end the line is colored as one of its own (`continues`).
The other way round, a line leaves something open only if its last glyph belongs to it or if it
consists of blanks (`handsOn`).
-/

namespace Highlight.CSharp

open Text

/-- Whether the string or the comment that a state leaves open ends at a place of a line: a verbatim
string behind the first maximal run of quotes of odd length, a comment behind the first mark that
ends it. -/
def EndsAt : LineState → List Char → Nat → Prop
  | .normal, _, _ => False
  | .verbatimString, text, e => FirstOddRunEnd '"' text e
  | .blockComment, text, e => 2 ≤ e ∧ Marker.FirstAt ['*', '/'] text (e - 2)

/-- The category of what a state leaves open. -/
def openCategory : LineState → Category
  | .normal => .plain
  | .verbatimString => .string
  | .blockComment => .blockComment

/-- The number of characters up to the end of what a state leaves open. -/
def openEnd? : LineState → List Char → Option Nat
  | .normal, _ => none
  | .verbatimString, text => verbatimEnd? text
  | .blockComment, text => Marker.endOf? ['*', '/'] text

variable {text : List Char} {state : LineState} {e : Nat}

/-- Where the open part of a line ends is what `EndsAt` says, for a string and for a comment. -/
lemma openEnd?_eq_some_iff (state : LineState) (text : List Char) (e : Nat) :
    openEnd? state text = some e ↔ EndsAt state text e := by
  cases state with
  | normal =>
    constructor
    · intro h
      cases h
    · intro h
      exact absurd h id
  | verbatimString => exact verbatimEnd?_eq_some_iff text e
  | blockComment => exact Marker.endOf?_eq_some_iff (List.cons_ne_nil _ _) text e

lemma openEnd?_within (h : openEnd? state text = some e) : Within e text := by
  cases state with
  | normal => cases h
  | verbatimString => exact verbatimEnd?_within h
  | blockComment => exact ⟨Marker.endOf?_pos h, Marker.endOf?_le h⟩

/-! ## Blanks -/

lemma isBlank_iff {c : Char} : isBlank c = true ↔ c = ' ' ∨ c = '\t' := by
  rw [isBlank, Bool.or_eq_true, beq_iff_eq, beq_iff_eq]

/-- The blanks at the beginning of a text have no part in where something ends. -/
theorem endsAt_drop_blanks (state : LineState) (text : List Char) (e : Nat) :
    EndsAt state text e ↔ runLength isBlank text ≤ e ∧
      EndsAt state (text.drop (runLength isBlank text)) (e - runLength isBlank text) := by
  obtain ⟨hle, hblanks, -⟩ := (runLength_eq_iff isBlank text _).1 rfl
  generalize runLength isBlank text = b at hle hblanks ⊢
  have hlength : (text.take b).length = b := by
    rw [List.length_take, Nat.min_eq_left hle]
  -- neither a quote nor a mark is among the blanks
  have hnot : ∀ c, isBlank c = false → c ∉ text.take b := by
    intro c hc hmem
    rw [hblanks c hmem] at hc
    cases hc
  cases state with
  | normal => simp [EndsAt]
  | verbatimString =>
    have happend : FirstOddRunEnd '"' (text.take b ++ text.drop b) e ↔ (text.take b).length ≤ e ∧
        FirstOddRunEnd '"' (text.drop b) (e - (text.take b).length) :=
      firstOddRunEnd_append_iff_of_not_mem (hnot '"' (by decide))
    rwa [List.take_append_drop, hlength] at happend
  | blockComment =>
    have happend : Marker.FirstAt ['*', '/'] (text.take b ++ text.drop b) (e - 2) ↔
        (text.take b).length ≤ e - 2 ∧
          Marker.FirstAt ['*', '/'] (text.drop b) (e - 2 - (text.take b).length) :=
      Marker.firstAt_append_iff (hnot '*' (by decide))
    rw [List.take_append_drop, hlength] at happend
    show 2 ≤ e ∧ _ ↔ b ≤ e ∧ 2 ≤ e - b ∧ _
    rw [happend, Nat.sub_right_comm]
    constructor
    · rintro ⟨hmark, hblank, h⟩
      exact ⟨by omega, by omega, h⟩
    · rintro ⟨hblank, hmark, h⟩
      exact ⟨by omega, by omega, h⟩

/-- Behind the blanks at the beginning of a text stands none. -/
theorem runLength_drop_runLength (p : Char → Bool) (text : List Char) :
    runLength p (text.drop (runLength p text)) = 0 := by
  obtain ⟨-, -, hnext⟩ := (runLength_eq_iff p text _).1 rfl
  refine (runLength_eq_iff p _ 0).2 ⟨Nat.zero_le _, ?_, fun c hc => hnext c ?_⟩
  · rw [List.take_zero]
    exact fun c hmem => absurd hmem List.not_mem_nil
  · rwa [List.getElem?_drop, Nat.add_zero] at hc

/-- The step over the blanks that a line begins with leaves the state as it is. -/
theorem scan_of_blank (words : Words) (state : LineState) (h : 0 < runLength isBlank text) :
    scan words state text =
      { length := runLength isBlank text, category := .plain, next := state } := by
  unfold scan
  exact if_pos h

lemma colorize_nil (language : Language) (state : LineState) :
    (highlighter language).colorize [] state = ([], state) := by
  show (Line.paint (tokens (wordsOf language) state []).1 [],
    (tokens (wordsOf language) state []).2) = _
  rw [tokens]
  rfl

/-- A line is colored behind its blanks as if they were not there. -/
theorem colorize_blanks (language : Language) (state : LineState) (line : Line) :
    let b := runLength isBlank (Line.text line)
    let rest := (highlighter language).colorize (line.drop b) state
    (highlighter language).colorize line state =
      (Line.fill .plain (line.take b) ++ rest.1, rest.2) := by
  intro b rest
  by_cases hb : 0 < b
  · have hne : line ≠ [] := by
      rintro rfl
      exact absurd hb (Nat.lt_irrefl 0)
    have hstep := colorize_step language state hne
    rw [scan_of_blank _ _ hb] at hstep
    exact hstep
  · obtain hb : b = 0 := Nat.eq_zero_of_not_pos hb
    have hrest : rest = (highlighter language).colorize line state := by
      show (highlighter language).colorize (line.drop b) state = _
      rw [hb, List.drop_zero]
    rw [hb, hrest, List.take_zero]
    rfl

/-! ## What belongs to the line before -/

/-- The step in a state that leaves something open. -/
theorem scan_of_open (words : Words) (hstate : state ≠ .normal)
    (hblank : runLength isBlank text = 0) :
    scan words state text = match openEnd? state text with
      | some e => { length := e, category := openCategory state }
      | none => { length := text.length, category := openCategory state, next := state } := by
  have hzero : ¬ 0 < runLength isBlank text := by
    rw [hblank]
    exact Nat.lt_irrefl 0
  unfold scan
  simp only [if_neg hzero]
  cases state with
  | normal => exact absurd rfl hstate
  | verbatimString =>
    simp only [verbatimScan, List.drop_zero, openEnd?, openCategory]
    cases verbatimEnd? text with
    | none => rfl
    | some n => simp only [Nat.zero_add]
  | blockComment =>
    simp only [commentScan, List.drop_zero, openEnd?, openCategory]
    cases Marker.endOf? ['*', '/'] text with
    | none => rfl
    | some n => simp only [Nat.zero_add]

/-- Whether a line that goes on with a string or a comment is painted up to its end in the category
of what goes on, the blanks in front apart, and behind its end as a line of its own. -/
structure Continues (language : Language) (state : LineState) (line : Line) : Prop where
  /-- A line of blanks hands on what it was given. -/
  of_blank : runLength isBlank (Line.text line) = line.length →
    (highlighter language).colorize line state = (Line.fill .plain line, state)
  /-- Where the end is missing, so does any other line. -/
  of_open : runLength isBlank (Line.text line) < line.length →
    (∀ e, ¬ EndsAt state (Line.text line) e) →
    (highlighter language).colorize line state =
      (Line.fill .plain (line.take (runLength isBlank (Line.text line))) ++
        Line.fill (openCategory state) (line.drop (runLength isBlank (Line.text line))), state)
  /-- The end lies behind the blanks, and nothing of what is before it is known behind it. -/
  of_end : ∀ e, EndsAt state (Line.text line) e →
    runLength isBlank (Line.text line) < e ∧ e ≤ line.length ∧
      (highlighter language).colorize line state =
        (Line.fill .plain (line.take (runLength isBlank (Line.text line))) ++
          Line.fill (openCategory state)
            ((line.take e).drop (runLength isBlank (Line.text line))) ++
          ((highlighter language).colorize (line.drop e) .normal).1,
        ((highlighter language).colorize (line.drop e) .normal).2)

/-- A line that begins in a string or in a comment goes on with it. -/
lemma continues_of_ne (language : Language) (hstate : state ≠ .normal) (line : Line) :
    Continues language state line := by
  have hcolorize := colorize_blanks language state line
  -- behind its blanks the line begins with what the scan is about
  have hbehind := runLength_drop_runLength isBlank (Line.text line)
  obtain ⟨hb, -, -⟩ := (runLength_eq_iff isBlank (Line.text line) _).1 rfl
  have hends := endsAt_drop_blanks state (Line.text line)
  generalize hrun : runLength isBlank (Line.text line) = b at hcolorize hbehind hb hends
  rw [Line.length_text] at hb
  rw [← Line.text_drop] at hbehind
  constructor
  case of_blank =>
    intro hall
    rw [hrun] at hall
    rw [hcolorize, List.drop_of_length_le (Nat.le_of_eq hall.symm),
      List.take_of_length_le (Nat.le_of_eq hall.symm), colorize_nil, List.append_nil]
  case of_open =>
    intro hlt hopen
    rw [hrun] at hlt
    have hne : line.drop b ≠ [] := by
      rw [ne_eq, List.drop_eq_nil_iff]
      omega
    have hnone : openEnd? state (Line.text (line.drop b)) = none := by
      rw [Option.eq_none_iff_forall_ne_some]
      intro e he
      refine hopen (b + e) ((hends (b + e)).2 ⟨Nat.le_add_right b e, ?_⟩)
      rw [Nat.add_sub_cancel_left, ← Line.text_drop]
      exact (openEnd?_eq_some_iff state _ e).1 he
    have hstep := colorize_step language state hne
    rw [scan_of_open (wordsOf language) hstate hbehind, hnone] at hstep
    simp only [Line.length_text, List.take_length, List.drop_length, colorize_nil,
      List.append_nil] at hstep
    rw [hrun, hcolorize, hstep]
  case of_end =>
    intro e he
    obtain ⟨hle, he⟩ := (hends e).1 he
    rw [← Line.text_drop] at he
    have hsome := (openEnd?_eq_some_iff state _ _).2 he
    obtain ⟨hpos, hmost⟩ := openEnd?_within hsome
    rw [Line.length_text, List.length_drop] at hmost
    have hne : line.drop b ≠ [] := by
      rw [ne_eq, List.drop_eq_nil_iff]
      omega
    have hstep := colorize_step language state hne
    rw [scan_of_open (wordsOf language) hstate hbehind, hsome] at hstep
    simp only [List.drop_drop, Nat.add_sub_of_le hle, List.take_drop] at hstep
    rw [hrun]
    refine ⟨by omega, by omega, ?_⟩
    rw [hcolorize, hstep, List.append_assoc]

/-! ## What a line leaves open -/

/-- Whether a step leaves nothing open or takes all that is left in the category of what it leaves
open. -/
def LeavesOpenAtEnd (scan : Scan) (text : List Char) : Prop :=
  scan.next = .normal ∨ scan.length = text.length ∧ scan.category = openCategory scan.next

/-- A verbatim string is left open only by a scan that takes the whole text. -/
lemma leavesOpenAtEnd_verbatimScan (opening : Nat) (text : List Char) :
    LeavesOpenAtEnd (verbatimScan opening text) text := by
  unfold verbatimScan
  cases verbatimEnd? (text.drop opening) with
  | some n => exact .inl rfl
  | none => exact .inr ⟨rfl, rfl⟩

/-- A comment is left open only by a scan that takes the whole text. -/
lemma leavesOpenAtEnd_commentScan (opening : Nat) (text : List Char) :
    LeavesOpenAtEnd (commentScan opening text) text := by
  unfold commentScan
  cases Marker.endOf? ['*', '/'] (text.drop opening) with
  | some n => exact .inl rfl
  | none => exact .inr ⟨rfl, rfl⟩

/-- Only verbatim strings and comments leave something open, and they do at the end of a line. -/
theorem leavesOpenAtEnd_recognizer {words : Words} {recognizer : Recognizer} {scan : Scan}
    (hr : recognizer ∈ recognizers words) (h : recognizer text = some scan) :
    LeavesOpenAtEnd scan text := by
  simp only [recognizers, List.mem_cons, List.not_mem_nil, or_false] at hr
  rcases hr with rfl | rfl | rfl | rfl | rfl | rfl | rfl | rfl | rfl
  · unfold blockComment at h
    split at h
    · cases h
      exact leavesOpenAtEnd_commentScan 2 text
    · cases h
  · unfold lineComment at h
    split at h <;> cases h
    exact .inl rfl
  · unfold directive at h
    split at h <;> cases h
    exact .inl rfl
  · obtain ⟨opening, -, rfl⟩ := Option.map_eq_some_iff.1 h
    exact leavesOpenAtEnd_verbatimScan opening text
  all_goals
    obtain ⟨n, -, rfl⟩ := Option.map_eq_some_iff.1 h
    exact .inl rfl

/-- What a line hands on is left open by a scan that takes all that is left of it. -/
theorem leavesOpenAtEnd_scan (words : Words) (state : LineState)
    (hblank : runLength isBlank text = 0) : LeavesOpenAtEnd (scan words state text) text := by
  have hzero : ¬ 0 < runLength isBlank text := by
    rw [hblank]
    exact Nat.lt_irrefl 0
  unfold scan
  simp only [if_neg hzero]
  cases state with
  | verbatimString => exact leavesOpenAtEnd_verbatimScan 0 text
  | blockComment => exact leavesOpenAtEnd_commentScan 0 text
  | normal =>
    show LeavesOpenAtEnd (scanNormal words text) text
    unfold scanNormal
    cases hfind : (recognizers words).findSome? (· text) with
    | none => exact .inl rfl
    | some scan =>
      obtain ⟨recognizer, hr, haccept⟩ := List.exists_of_findSome?_eq_some hfind
      exact leavesOpenAtEnd_recognizer hr haccept

/-- Whether a colored line that hands on a state consists of blanks behind that state or ends with a
glyph of what it leaves open. -/
def HandsOn (line colored : Line) (state next : LineState) : Prop :=
  (∀ c ∈ Line.text line, c = ' ' ∨ c = '\t') ∧ next = state ∨
    ∃ glyph, colored.getLast? = some glyph ∧ glyph.category = openCategory next

lemma exists_getLast?_fill (category : Category) {line : Line} (hne : line ≠ []) :
    ∃ glyph, (Line.fill category line).getLast? = some glyph ∧ glyph.category = category := by
  refine ⟨{ line.getLast hne with category }, ?_, rfl⟩
  rw [Line.fill, List.getLast?_map, List.getLast?_eq_some_getLast hne]
  rfl

/-- A line that leaves something open ends in it or consists of blanks. -/
theorem handsOn (language : Language) (state : LineState) (line : Line)
    (hnext : ((highlighter language).colorize line state).2 ≠ .normal) :
    HandsOn line ((highlighter language).colorize line state).1 state
      ((highlighter language).colorize line state).2 := by
  induction hlength : line.length using Nat.strongRecOn generalizing line state with
  | ind length ih =>
    have hblanks := colorize_blanks language state line
    obtain ⟨-, htake, -⟩ := (runLength_eq_iff isBlank (Line.text line) _).1 rfl
    have hbehind := runLength_drop_runLength isBlank (Line.text line)
    generalize runLength isBlank (Line.text line) = b at hblanks htake hbehind
    rw [hblanks] at hnext ⊢
    by_cases hne : line.drop b = []
    · -- there are blanks only
      rw [hne, colorize_nil]
      refine .inl ⟨fun c hmem => isBlank_iff.1 (htake c ?_), rfl⟩
      rwa [List.take_of_length_le]
      rw [Line.length_text]
      exact List.drop_eq_nil_iff.1 hne
    · have hstep := colorize_step language state hne
      rw [← Line.text_drop] at hbehind
      have hopen := leavesOpenAtEnd_scan (wordsOf language) state hbehind
      have hpos := (scan_within (wordsOf language) state (Line.text_ne_nil hne)).1
      generalize scan (wordsOf language) state (Line.text (line.drop b)) = first
        at hstep hopen hpos
      rw [hstep] at hnext ⊢
      rcases hopen with hnormal | ⟨hall, hcategory⟩
      · -- what is open in the end has been opened behind this step
        simp only [hnormal] at hnext ⊢
        have hshorter : ((line.drop b).drop first.length).length < length := by
          have hnonempty := List.length_pos_iff.2 hne
          rw [List.length_drop] at hnonempty ⊢
          rw [List.length_drop]
          omega
        rcases ih _ hshorter .normal _ hnext rfl with ⟨-, hsame⟩ | ⟨glyph, hlast, hcategory⟩
        · exact absurd hsame hnext
        · refine .inr ⟨glyph, ?_, hcategory⟩
          rw [List.getLast?_append, List.getLast?_append, hlast]
          rfl
      · -- the step takes all that is left
        rw [Line.length_text] at hall
        obtain ⟨glyph, hlast, hglyph⟩ := exists_getLast?_fill first.category hne
        simp only [hall, List.drop_length, colorize_nil, List.append_nil, List.take_length]
        refine .inr ⟨glyph, ?_, hglyph.trans hcategory⟩
        rw [List.getLast?_append, hlast]
        rfl

/-- A line behind one that has left a verbatim string or a comment open goes on with it up to its
end, and every line that leaves one open does so with its last glyph, or it consists of blanks and
hands on what it was given. -/
theorem continues (language : Language) (line : Line) :
    Continues language .verbatimString line ∧ Continues language .blockComment line ∧
      ∀ state, ((highlighter language).colorize line state).2 ≠ .normal →
        HandsOn line ((highlighter language).colorize line state).1 state
          ((highlighter language).colorize line state).2 :=
  ⟨continues_of_ne language (by decide) line, continues_of_ne language (by decide) line,
    fun state => handsOn language state line⟩

end Highlight.CSharp
