import Highlight.Span
import Highlight.Style

/-!
# Writing lines to a terminal

A colored line is written run by run: the escapes of its style, its text, and the escape that ends
all styles. Tabs are written as blanks up to the next multiple of the tab width.
-/

namespace Highlight

/-- How lines are written. -/
structure Terminal where
  /-- Whether escapes are written. -/
  color : Bool
  tabWidth : Nat
deriving Repr, DecidableEq

namespace Terminal

/-- The escape with these parameters. -/
def escape (parameters : String) : String :=
  "\x1b[" ++ parameters ++ "m"

/-- The escape that ends all styles. -/
def reset : String := escape "0"

/-- The escape that begins a foreground color. -/
def foreground (color : Color) : String :=
  match color.code? with
  | some code => escape ("38;5;" ++ toString code)
  | none => escape "39"

/-- The escapes that begin a style. -/
def begin (style : Style) : String :=
  if style.isDefault then ""
  else foreground style.foreground ++ (if style.bold then escape "1" else "") ++
    (if style.italic then escape "3" else "")

/-- The width of a tab, which is at least one. -/
def width (terminal : Terminal) : Nat := max terminal.tabWidth 1

/-- What is written for a character at a column. -/
def expand (terminal : Terminal) (column : Nat) (c : Char) : List Char :=
  if c = '\t' then List.replicate (terminal.width - column % terminal.width) ' ' else [c]

/-- What is written for characters from a column on. -/
def expandFrom (terminal : Terminal) (column : Nat) : List Char → List Char
  | [] => []
  | c :: rest =>
    let written := terminal.expand column c
    written ++ terminal.expandFrom (column + written.length) rest

/-- What is written for a run of one category, given its characters with their tabs expanded. -/
def writeRun (terminal : Terminal) (category : Category) (text : List Char) : String :=
  if terminal.color then begin category.style ++ String.ofList text ++ reset
  else String.ofList text

/-- What is written for the runs of a line from a column on. -/
def writeRuns (terminal : Terminal) (line : Line) (column : Nat) : List Span → String
  | [] => ""
  | span :: rest =>
    let text := terminal.expandFrom column (Line.text ((line.drop span.start).take span.length))
    terminal.writeRun span.category text ++
      terminal.writeRuns line (column + text.length) rest

/-- What is written for a line. -/
def writeLine (terminal : Terminal) (line : Line) : String :=
  terminal.writeRuns line 0 (Line.runs line) ++ "\n"

/-- What is written for lines one after the other. -/
def writeLines (terminal : Terminal) (lines : List Line) : String :=
  String.join (lines.map terminal.writeLine)

end Terminal

end Highlight
