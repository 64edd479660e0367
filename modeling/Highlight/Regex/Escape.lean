import Highlight.Regex.Expr
import Highlight.Text.Digit
import Highlight.Unicode.CharacterClass

/-!
# Reading escapes

A reader takes the characters that are left and gives what it read with the rest, or nothing when
the pattern is not well formed. With the verbose flag, blanks and comments between the parts of a
pattern do not count; a comment runs from `#` to the end of its line.
-/

namespace Highlight.Regex

open Highlight.Unicode

/-- Drops blanks and comments; `inComment` when a comment has been entered. -/
def dropTrivia (inComment : Bool) : List Char → List Char
  | [] => []
  | c :: rest =>
    if inComment then dropTrivia (c != '\n') rest
    else if isBlank c then dropTrivia false rest
    else if c == '#' then dropTrivia true rest
    else c :: rest

/-- Drops blanks and comments where the verbose flag is on. -/
def skipTrivia (verbose : Bool) (cs : List Char) : List Char :=
  if verbose then dropTrivia false cs else cs

/-- The characters up to a closing brace, without blanks and comments where `verbose`, and the
rest. -/
def readBraced (verbose inComment : Bool) : List Char → Option (List Char × List Char)
  | [] => none
  | c :: rest =>
    if inComment then readBraced verbose (c != '\n') rest
    else if verbose && isBlank c then readBraced verbose false rest
    else if verbose && c == '#' then readBraced verbose true rest
    else if c == '\x7d' then some ([], rest)
    else (readBraced verbose false rest).map fun (inside, rest) => (c :: inside, rest)

/-- Reads exactly `count` characters, with blanks and comments behind each where `verbose`. -/
def readChars (verbose : Bool) : (count : Nat) → List Char → Option (List Char × List Char)
  | 0, cs => some ([], cs)
  | _ + 1, [] => none
  | count + 1, c :: rest =>
    (readChars verbose count (skipTrivia verbose rest)).map fun (cs, rest) => (c :: cs, rest)

/-- Reads a code point after its letter: digits in braces, or `count` digits. -/
def readCodePoint (verbose : Bool) (count : Nat) (cs : List Char) : Option (Literal × List Char) :=
  match skipTrivia verbose cs with
  | '\x7b' :: rest => do
    let (inside, rest) ← readBraced verbose false rest
    let c ← Text.codePoint? inside
    return (⟨c, false⟩, skipTrivia verbose rest)
  | cs => do
    let (digits, rest) ← readChars verbose count cs
    let c ← Text.codePoint? digits
    return (⟨c, count = 2⟩, rest)

/-- Splits at the first place where `mark` stands. -/
def splitAtMark (mark : List Char) : List Char → Option (List Char × List Char)
  | [] => none
  | c :: rest =>
    if mark.isPrefixOf (c :: rest) then some ([], (c :: rest).drop mark.length)
    else (splitAtMark mark rest).map fun (before, after) => (c :: before, after)

/-- The property named between braces, and whether `!=` asks for its complement. -/
def propertyQuery (inside : List Char) : PropertyQuery × Bool :=
  match splitAtMark ['!', '='] inside with
  | some (name, value) => (.valued (String.ofList name) (String.ofList value), true)
  | none =>
    match (splitAtMark [':'] inside).or (splitAtMark ['='] inside) with
    | some (name, value) => (.valued (String.ofList name) (String.ofList value), false)
    | none => (.named (String.ofList inside), false)

/-- Reads a property after its letter: one character, or a name in braces. -/
def readProperty (verbose negated : Bool) (cs : List Char) : Option (ClassSet × List Char) :=
  match skipTrivia verbose cs with
  | [] => none
  | '\\' :: _ => none
  | '\x7b' :: rest =>
    (readBraced verbose false rest).map fun (inside, rest) =>
      let (query, complement) := propertyQuery inside
      (.property query (negated != complement), rest)
  | c :: rest => some (.property (.named (String.singleton c)) negated, rest)

/-- What an escape may stand for. -/
inductive Escape where
  | literal (l : Literal)
  | assertion (a : Assertion)
  | set (s : ClassSet)

/-- The characters that stand for themselves after a backslash: those of ASCII that are no
letters, no digits and no angles. -/
def isEscapable (c : Char) : Bool :=
  c.toNat < 128 && !c.isAlphanum && c != '<' && c != '>'

/-- Reads what may follow `\b`: the name of a word boundary in braces. -/
def readWordBoundary (verbose : Bool) (cs : List Char) : Option (Assertion × List Char) :=
  match cs with
  | '\x7b' :: rest =>
    match skipTrivia verbose rest with
    | [] => none
    | c :: _ =>
      if c.isAlpha || c == '-' then do
        let (inside, rest) ← readBraced verbose false rest
        match String.ofList inside with
        | "start" => return (.wordStart, rest)
        | "end" => return (.wordEnd, rest)
        | "start-half" => return (.wordStartHalf, rest)
        | "end-half" => return (.wordEndHalf, rest)
        | _ => none
      else some (.wordBoundary, cs)
  | _ => some (.wordBoundary, cs)

/-- Reads an escape after its backslash. -/
def readEscape (verbose : Bool) : List Char → Option (Escape × List Char)
  | [] => none
  | c :: rest =>
    let literal (char : Char) : Option (Escape × List Char) :=
      some (.literal ⟨char, false⟩, rest)
    let letter (kind : LetterClass) (negated : Bool) : Option (Escape × List Char) :=
      some (.set (.letter kind negated), rest)
    let assertion (a : Assertion) : Option (Escape × List Char) := some (.assertion a, rest)
    let codePoint (count : Nat) : Option (Escape × List Char) :=
      (readCodePoint verbose count rest).map fun (l, rest) => (.literal l, rest)
    let property (negated : Bool) : Option (Escape × List Char) :=
      (readProperty verbose negated rest).map fun (s, rest) => (.set s, rest)
    match c with
    | 'x' => codePoint 2
    | 'u' => codePoint 4
    | 'U' => codePoint 8
    | 'p' => property false
    | 'P' => property true
    | 'd' => letter .digit false
    | 's' => letter .space false
    | 'w' => letter .word false
    | 'D' => letter .digit true
    | 'S' => letter .space true
    | 'W' => letter .word true
    | 'a' => literal '\x07'
    | 'f' => literal '\x0c'
    | 't' => literal '\t'
    | 'n' => literal '\n'
    | 'r' => literal '\r'
    | 'v' => literal '\x0b'
    | 'A' => assertion .textStart
    | 'z' => assertion .textEnd
    | 'B' => assertion .notWordBoundary
    | '<' => assertion .wordStart
    | '>' => assertion .wordEnd
    | 'b' => (readWordBoundary verbose rest).map fun (a, rest) => (.assertion a, rest)
    | c => if isEscapable c then literal c else none

end Highlight.Regex
