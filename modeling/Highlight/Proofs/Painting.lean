import Highlight.CSharp
import Highlight.Proofs.CSharp.Bounds
import Highlight.Proofs.Pattern.Bounds

/-!
# Painting line by line

A highlighter colors a line by painting its tokens. Here the two tokenizers are followed step by
step on the colored line itself: the glyphs of the first step get its color, and the rest of the
line is colored as if it stood alone (`CSharp.colorize_step`,
`PatternHighlighter.colorizeFrom_cons`).
-/

namespace Highlight

/-- A line whose tokens begin with `token` is that token painted and the rest of the line painted.
-/
theorem Line.paint_cons (token : Token) (tokens : List Token) (line : Line) :
    Line.paint (token :: tokens) line =
      Line.fill token.category (line.take token.length) ++
        Line.paint tokens (line.drop token.length) := rfl

lemma Line.text_drop (line : Line) (n : Nat) :
    Line.text (line.drop n) = (Line.text line).drop n :=
  List.map_drop

/-- A line with a glyph has a text. -/
lemma Line.text_ne_nil {line : Line} (hne : line ≠ []) : Line.text line ≠ [] :=
  fun hnil => hne (List.map_eq_nil_iff.1 hnil)

/-! ## C# -/

namespace CSharp

/-- The words that the C# highlighter takes from a table. -/
abbrev wordsOf (language : Language) : Words := Words.ofLanguage language declaration

lemma covers_highlighter (language : Language) : (highlighter language).Covers :=
  fun state text => (cuts_tokens (wordsOf language) state text).1

/-- A line is the glyphs of its first step in the color of the step, then the other glyphs as they
are colored in the state behind the step. -/
theorem colorize_step (language : Language) (state : LineState) {line : Line} (hne : line ≠ []) :
    let first := scan (wordsOf language) state (Line.text line)
    let rest := (highlighter language).colorize (line.drop first.length) first.next
    (highlighter language).colorize line state =
      (Line.fill first.category (line.take first.length) ++ rest.1, rest.2) := by
  intro first rest
  have htokens := tokens_cons (wordsOf language) state (Line.text_ne_nil hne)
  show (Line.paint (tokens (wordsOf language) state (Line.text line)).1 line,
    (tokens (wordsOf language) state (Line.text line)).2) = _
  simp only [htokens, Line.paint_cons, ← Line.text_drop]
  rfl

end CSharp

/-! ## Language tables -/

namespace PatternHighlighter

variable (h : PatternHighlighter)

lemma covers_highlighter : h.highlighter.Covers := total_tokens h

/-- Colors the rest of a line that no comment has been carried into. -/
def colorizeFrom (seenCode : Bool) (line : Line) : Line × LineState :=
  let (tokens, next) := h.tokensFrom seenCode (Line.text line)
  (Line.paint tokens line, next)

/-- The glyphs of a step are in the color of the step, then come the others as they are colored
behind it; a step that ends the line paints all of it. -/
theorem colorizeFrom_cons (seenCode : Bool) (glyph : Glyph) (line : Line) :
    h.colorizeFrom seenCode (glyph :: line) =
      match h.step seenCode glyph.char (Line.text line) with
      | .token length category =>
        let rest := h.colorizeFrom (seenCode || !Unicode.isBlank glyph.char)
          ((glyph :: line).drop length)
        (Line.fill category ((glyph :: line).take length) ++ rest.1, rest.2)
      | .last category next => (Line.fill category (glyph :: line), next) := by
  have htext : Line.text (glyph :: line) = glyph.char :: Line.text line := rfl
  cases hstep : h.step seenCode glyph.char (Line.text line) with
  | token length category =>
    -- the step takes a glyph, so the tokenizer goes on where the line is dropped
    obtain ⟨k, rfl⟩ : ∃ k, length = k + 1 :=
      ⟨_, (Nat.succ_pred_eq_of_pos (step_within h hstep).1).symm⟩
    simp only [colorizeFrom, htext, tokensFrom, hstep, Nat.add_sub_cancel, List.drop_succ_cons,
      Line.paint_cons, Line.text_drop]
  | last category next =>
    have hlength : (Line.text line).length + 1 = (glyph :: line).length := by
      rw [Line.text, List.length_map, List.length_cons]
    simp only [colorizeFrom, htext, tokensFrom, hstep, hlength, Line.paint_single]

/-- A comment that is carried into a line paints the glyphs up to its end, or all of them. -/
theorem colorize_eq (line : Line) (state : LineState) :
    h.highlighter.colorize line state =
      if state = .blockComment ∧ h.language.commentEnd ≠ "" then
        match Marker.endOf? h.language.commentEnd.toList (Line.text line) with
        | some n =>
          let rest := h.colorizeFrom true (line.drop n)
          (Line.fill .blockComment (line.take n) ++ rest.1, rest.2)
        | none => (Line.fill .blockComment line, .blockComment)
      else h.colorizeFrom false line := by
  show (Line.paint (h.tokens state (Line.text line)).1 line,
    (h.tokens state (Line.text line)).2) = _
  unfold tokens
  by_cases hcomment : state = .blockComment ∧ h.language.commentEnd ≠ ""
  · rw [if_pos hcomment, if_pos hcomment]
    cases hend : Marker.endOf? h.language.commentEnd.toList (Line.text line) with
    | some n =>
      simp only [colorizeFrom, Line.paint_cons, Line.text_drop]
    | none =>
      have hlength : (Line.text line).length = line.length := List.length_map _
      simp only [hlength, Line.paint_single]
  · rw [if_neg hcomment, if_neg hcomment]
    rfl

end PatternHighlighter

end Highlight
