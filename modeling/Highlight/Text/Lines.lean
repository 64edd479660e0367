import Highlight.Unicode.CharacterClass

/-!
# Lines of texts

A text is split at its line feeds, and a carriage return in front of one belongs to it. What follows
the last line feed is a line only if there is something.
-/

namespace Highlight.Text

open Highlight.Unicode

/-- Splits the rest of a text into lines; `current` holds the line being read, its last character
first. -/
def linesFrom (current : List Char) : List Char → List (List Char)
  | [] => if current.isEmpty then [] else [current.reverse]
  | c :: rest =>
    if c = '\n' then
      let line := match current with
        | '\r' :: line => line
        | line => line
      line.reverse :: linesFrom [] rest
    else linesFrom (c :: current) rest

/-- The lines of a text. -/
def lines (text : List Char) : List (List Char) :=
  linesFrom [] text

/-- The text without the blanks at both of its ends. -/
def trim (text : List Char) : List Char :=
  ((text.dropWhile isBlank).reverse.dropWhile isBlank).reverse

/-- Splits a text at the first place where a character stands. -/
def splitOnce (mark : Char) (text : List Char) : Option (List Char × List Char) :=
  match text.span (· != mark) with
  | (before, _ :: after) => some (before, after)
  | (_, []) => none

end Highlight.Text
