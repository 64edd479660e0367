import Highlight.Glyph
import Highlight.LineState

/-!
# Highlighters

What a host needs from a language: how to cut a line into tokens, given what the line before handed
on, and a few facts beside that.
-/

namespace Highlight

/-- A highlighter for one language. -/
structure Highlighter where
  autoIndentation : Bool
  /-- The largest number of lines to color in one pass. -/
  maxLinesPerFrame : Nat
  /-- What to show about a word. -/
  tooltip? : String → Option String
  /-- The tokens of a line and the state it hands on. -/
  tokens : LineState → List Char → List Token × LineState

namespace Highlighter

/-- The number of lines to color in one pass unless it is set. -/
def defaultMaxLines : Nat := 1000

/-- The highlighter with another number of lines to color in one pass, at least one. -/
def withMaxLines (h : Highlighter) (lines : Nat) : Highlighter :=
  { h with maxLinesPerFrame := max lines 1 }

/-- Colors a line that follows one in `state`; the line is given with the state it hands on. -/
def colorize (h : Highlighter) (line : Line) (state : LineState) : Line × LineState :=
  let (tokens, next) := h.tokens state (Line.text line)
  (Line.paint tokens line, next)

/-- Whether the tokens of every line cover it exactly. -/
def Covers (h : Highlighter) : Prop :=
  ∀ state text, Token.total (h.tokens state text).1 = text.length

/-- Coloring keeps the characters of a line. -/
@[simp] theorem text_colorize (h : Highlighter) (line : Line) (state : LineState) :
    Line.text (h.colorize line state).1 = Line.text line := by
  simp [colorize]

/-- A highlighter that covers its lines colors two lines of one text alike, whatever their colors
were before. -/
theorem colorize_eq_of_text_eq {h : Highlighter} (hc : h.Covers) {a b : Line}
    (ht : Line.text a = Line.text b) (state : LineState) :
    h.colorize a state = h.colorize b state := by
  have hlen : ∀ line : Line, line.length = (Line.text line).length := by simp [Line.text]
  have hcat : ∀ line : Line, Line.categories (Line.paint (h.tokens state (Line.text line)).1 line) =
      Token.categories (h.tokens state (Line.text line)).1 := fun line =>
    Line.categories_paint (by rw [hlen]; exact hc state (Line.text line))
  have hline : Line.paint (h.tokens state (Line.text a)).1 a =
      Line.paint (h.tokens state (Line.text b)).1 b :=
    Line.ext_text_categories (by simp [ht]) (by rw [hcat, hcat, ht])
  simp only [colorize]
  rw [hline, ht]

end Highlighter

end Highlight
