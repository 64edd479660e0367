import Highlight.Glyph

/-!
# Runs of one category

A line is grouped into spans, each the longest stretch of neighbours of one category.
-/

namespace Highlight

/-- The glyphs from `start` to `stop`, the last one not included, in one category. -/
structure Span where
  start : Nat
  stop : Nat
  category : Category
deriving Repr, DecidableEq

namespace Span

/-- Whether a position lies in the span. -/
def contains (span : Span) (position : Nat) : Bool :=
  span.start ≤ position && position < span.stop

/-- The number of glyphs in the span. -/
def length (span : Span) : Nat := span.stop - span.start

/-- Whether the span holds no glyph. -/
def isEmpty (span : Span) : Bool := span.stop ≤ span.start

end Span

/-- The spans of the glyphs after `current`, which is still growing. -/
def Line.runsFrom (current : Span) : Line → List Span
  | [] => [current]
  | glyph :: rest =>
    if glyph.category = current.category then
      runsFrom { current with stop := current.stop + 1 } rest
    else current :: runsFrom ⟨current.stop, current.stop + 1, glyph.category⟩ rest

/-- The spans of a line, from left to right. -/
def Line.runs : Line → List Span
  | [] => []
  | glyph :: rest => runsFrom ⟨0, 1, glyph.category⟩ rest

end Highlight
