import Highlight.Category

/-!
# Colors and styles

The colors of a sixteen color terminal, and how each category looks by default.
-/

namespace Highlight

/-- A terminal color; `terminal` is whatever color the terminal writes in by itself. -/
inductive Color where
  | terminal
  | black
  | red
  | green
  | yellow
  | blue
  | magenta
  | cyan
  | white
  | brightBlack
  | brightRed
  | brightGreen
  | brightYellow
  | brightBlue
  | brightMagenta
  | brightCyan
  | brightWhite
deriving Repr, DecidableEq, Inhabited

/-- The number of a color in the palette of the terminal. -/
def Color.code? : Color → Option Nat
  | .terminal => none
  | .black => some 0
  | .red => some 1
  | .green => some 2
  | .yellow => some 3
  | .blue => some 4
  | .magenta => some 5
  | .cyan => some 6
  | .white => some 7
  | .brightBlack => some 8
  | .brightRed => some 9
  | .brightGreen => some 10
  | .brightYellow => some 11
  | .brightBlue => some 12
  | .brightMagenta => some 13
  | .brightCyan => some 14
  | .brightWhite => some 15

/-- How a run of characters is written. -/
structure Style where
  foreground : Color := .terminal
  bold : Bool := false
  italic : Bool := false
deriving Repr, DecidableEq, Inhabited

namespace Style

/-- The style with this foreground and nothing else. -/
def colored (color : Color) : Style := { foreground := color }

/-- The style in bold. -/
def withBold (style : Style) : Style := { style with bold := true }

/-- The style in italics. -/
def withItalic (style : Style) : Style := { style with italic := true }

/-- Whether the style changes nothing. -/
def isDefault (style : Style) : Bool := style == {}

end Style

/-- How each category looks by default. -/
def Category.style : Category → Style
  | .plain => {}
  | .keyword => (Style.colored .magenta).withBold
  | .identifier => {}
  | .knownIdentifier => .colored .yellow
  | .string => .colored .green
  | .charLiteral => .colored .brightGreen
  | .number => .colored .cyan
  | .comment => (Style.colored .brightBlack).withItalic
  | .blockComment => (Style.colored .brightBlack).withItalic
  | .preprocessor => .colored .brightMagenta
  | .punctuation => .colored .brightWhite

end Highlight
