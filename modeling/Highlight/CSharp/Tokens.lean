import Highlight.CSharp.Number
import Highlight.CSharp.Quoted
import Highlight.Glyph
import Highlight.LineState
import Highlight.Marker
import Highlight.Unicode.CharacterClass
import Highlight.Words

/-!
# Tokens of C#

A line is cut into tokens from left to right. Blanks come first, then what the line before left
open, then the first of nine recognizers that accepts; what none of them accepts is punctuation or
a lone character.
-/

namespace Highlight.CSharp

/-- A token at the beginning of a text, and the state behind it. -/
structure Scan where
  length : Nat
  category : Category
  next : LineState := .normal
deriving Repr, DecidableEq

/-- Accepts the beginning of a text as a token or declines it. -/
abbrev Recognizer := List Char → Option Scan

/-- Whether a character is a blank between tokens. -/
def isBlank (c : Char) : Bool := c == ' ' || c == '\t'

/-- Whether an identifier may begin with a character. -/
def isIdentifierStart (c : Char) : Bool := c == '_' || Unicode.isAlphabetic c

/-- Whether an identifier may go on with a character. -/
def isIdentifierPart (c : Char) : Bool := c == '_' || Unicode.isAlphanumeric c

/-- Whether a character is punctuation. -/
def isPunctuation (c : Char) : Bool :=
  ['[', ']', '\x7b', '\x7d', '(', ')', '-', '+', '<', '>', '?', ':', ';', '!', '%', '^', '&', '|',
    '*', '/', '=', '~', ',', '.', '@'].contains c

/-- The token of a verbatim string whose body begins `opening` characters into the text. -/
def verbatimScan (opening : Nat) (text : List Char) : Scan :=
  match verbatimEnd? (text.drop opening) with
  | some n => { length := opening + n, category := .string }
  | none => { length := text.length, category := .string, next := .verbatimString }

/-- The token of a comment whose body begins `opening` characters into the text. -/
def commentScan (opening : Nat) (text : List Char) : Scan :=
  match Marker.endOf? ['*', '/'] (text.drop opening) with
  | some n => { length := opening + n, category := .blockComment }
  | none => { length := text.length, category := .blockComment, next := .blockComment }

/-- A comment between marks. -/
def blockComment : Recognizer := fun text =>
  if Marker.startsWith ['/', '*'] text then some (commentScan 2 text) else none

/-- A comment to the end of the line. -/
def lineComment : Recognizer := fun text =>
  if Marker.startsWith ['/', '/'] text then some { length := text.length, category := .comment }
  else none

/-- A directive to the preprocessor, to the end of the line. -/
def directive : Recognizer := fun text =>
  if text.head? = some '#' then some { length := text.length, category := .preprocessor }
  else none

/-- A verbatim string. -/
def verbatimString : Recognizer := fun text =>
  (verbatimOpening? text).map (verbatimScan · text)

/-- An interpolated string. -/
def interpolatedString : Recognizer := fun text =>
  (interpolatedString? text).map ({ length := ·, category := .string })

/-- A plain string. -/
def plainString : Recognizer := fun text =>
  (plainString? text).map ({ length := ·, category := .string })

/-- A character literal. -/
def charLiteral : Recognizer := fun text =>
  (charLiteral? text).map ({ length := ·, category := .charLiteral })

/-- The length of an identifier; an at sign may stand in front of it. -/
def identifier? (text : List Char) : Option Nat :=
  let mark := if text.head? = some '@' then 1 else 0
  match text.drop mark with
  | c :: rest =>
    if isIdentifierStart c then some (mark + 1 + runLength isIdentifierPart rest) else none
  | [] => none

/-- An identifier, in the category that its word has. -/
def identifier (words : Words) : Recognizer := fun text =>
  (identifier? text).map fun n => { length := n, category := words.categoryOf (text.take n) }

/-- A number. -/
def number : Recognizer := fun text =>
  (number? text).map ({ length := ·, category := .number })

/-- The recognizers in the order in which they are asked. -/
def recognizers (words : Words) : List Recognizer :=
  [blockComment, lineComment, directive, verbatimString, interpolatedString, plainString,
    charLiteral, identifier words, number]

/-- A single character: punctuation, or nothing in particular. -/
def lone (text : List Char) : Scan :=
  { length := 1, category := if text.head?.any isPunctuation then .punctuation else .plain }

/-- The token that a text begins with where nothing is left open. -/
def scanNormal (words : Words) (text : List Char) : Scan :=
  ((recognizers words).findSome? (· text)).getD (lone text)

/-- The token that a text begins with. -/
def scan (words : Words) (state : LineState) (text : List Char) : Scan :=
  let blanks := runLength isBlank text
  if 0 < blanks then { length := blanks, category := .plain, next := state }
  else match state with
    | .verbatimString => verbatimScan 0 text
    | .blockComment => commentScan 0 text
    | .normal => scanNormal words text

/-- The tokens of a line and the state it hands on. -/
def tokens (words : Words) (state : LineState) : List Char → List Token × LineState
  | [] => ([], state)
  | c :: rest =>
    let first := scan words state (c :: rest)
    let (others, last) := tokens words first.next (rest.drop (first.length - 1))
    (⟨first.length, first.category⟩ :: others, last)
termination_by text => text.length
decreasing_by simp only [List.length_drop, List.length_cons]; omega

end Highlight.CSharp
