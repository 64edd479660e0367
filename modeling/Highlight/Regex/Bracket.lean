import Highlight.Regex.Escape

/-!
# Reading classes in brackets

A bracketed class is read with a stack of the brackets that are still open. Within a bracket the
operations `&&`, `--` and `~~` take everything before them in the same bracket as their left side.
-/

namespace Highlight.Regex

/-- A bracket that is still open. -/
structure OpenBracket where
  negated : Bool
  /-- The items since the last operation, the latest first. -/
  items : List ClassSet
  /-- The left side of the last operation. -/
  left : Option (ClassSet × ClassOp) := none

namespace OpenBracket

/-- The set read so far. -/
def set (bracket : OpenBracket) : ClassSet :=
  let right := ClassSet.ofItems bracket.items.reverse
  match bracket.left with
  | some (left, op) => .binary op left right
  | none => right

/-- The bracket with one more item. -/
def push (bracket : OpenBracket) (item : ClassSet) : OpenBracket :=
  { bracket with items := item :: bracket.items }

/-- The bracket after an operation. -/
def operate (bracket : OpenBracket) (op : ClassOp) : OpenBracket :=
  { bracket with items := [], left := some (bracket.set, op) }

end OpenBracket

/-- The ASCII classes that are named between `[:` and `:]`. -/
def asciiClass? (name : String) : Option (List (Char × Char)) :=
  match name with
  | "alnum" => some [('0', '9'), ('A', 'Z'), ('a', 'z')]
  | "alpha" => some [('A', 'Z'), ('a', 'z')]
  | "ascii" => some [('\x00', '\x7f')]
  | "blank" => some [('\t', '\t'), (' ', ' ')]
  | "cntrl" => some [('\x00', '\x1f'), ('\x7f', '\x7f')]
  | "digit" => some [('0', '9')]
  | "graph" => some [('!', '~')]
  | "lower" => some [('a', 'z')]
  | "print" => some [(' ', '~')]
  | "punct" => some [('!', '/'), (':', '@'), ('[', '\x60'), ('\x7b', '~')]
  | "space" => some [('\t', '\r'), (' ', ' ')]
  | "upper" => some [('A', 'Z')]
  | "word" => some [('0', '9'), ('A', 'Z'), ('_', '_'), ('a', 'z')]
  | "xdigit" => some [('0', '9'), ('A', 'F'), ('a', 'f')]
  | _ => none

/-- Reads a named ASCII class after its opening bracket. -/
def readAsciiClass : List Char → Option (ClassSet × List Char)
  | ':' :: rest =>
    let (negated, rest) := match rest with
      | '^' :: rest => (true, rest)
      | rest => (false, rest)
    match rest.span (· != ':') with
    | (name, ':' :: ']' :: rest) =>
      (asciiClass? (String.ofList name)).map fun ranges => (.ascii ranges negated, rest)
    | _ => none
  | _ => none

/-- Reads the dashes at the beginning of a bracket, each of which stands for itself. -/
def readDashes (verbose inComment : Bool) : List Char → List ClassSet × List Char
  | [] => ([], [])
  | c :: rest =>
    if inComment then readDashes verbose (c != '\n') rest
    else if verbose && Unicode.isBlank c then readDashes verbose false rest
    else if verbose && c == '#' then readDashes verbose true rest
    else if c == '-' then
      let (items, rest) := readDashes verbose false rest
      (.literal ⟨'-', false⟩ :: items, rest)
    else ([], c :: rest)

/-- Opens a bracket: its caret, its leading dashes, and a closing bracket that stands for itself. -/
def openBracket (verbose : Bool) (cs : List Char) : OpenBracket × List Char :=
  let (negated, cs) := match skipTrivia verbose cs with
    | '^' :: rest => (true, rest)
    | cs => (false, cs)
  match readDashes verbose false cs with
  | ([], ']' :: rest) => ({ negated, items := [.literal ⟨']', false⟩] }, rest)
  | (items, rest) => ({ negated, items }, rest)

/-- Reads one member of a class: a character, an escaped character or a class. -/
def readMember (verbose : Bool) : List Char → Option (ClassSet × List Char)
  | [] => none
  | '\\' :: rest =>
    match readEscape verbose rest with
    | some (.literal l, rest) => some (.literal l, rest)
    | some (.set s, rest) => some (s, rest)
    | _ => none
  | c :: rest => some (.literal ⟨c, false⟩, rest)

/-- The next character that counts, where a comment that has begun hides nothing but its blanks. -/
def peekPast (inComment : Bool) : List Char → Option Char
  | [] => none
  | c :: rest =>
    if Unicode.isBlank c then peekPast inComment rest
    else if !inComment && c == '#' then peekPast true rest
    else some c

/-- Reads a member or a range of characters. -/
def readRange (verbose : Bool) (cs : List Char) : Option (ClassSet × List Char) := do
  let (first, rest) ← readMember verbose cs
  match skipTrivia verbose rest with
  | '-' :: after =>
    let next := if verbose then peekPast false after else after.head?
    if next = some ']' ∨ next = some '-' then return (first, '-' :: after)
    let (last, rest) ← readMember verbose (skipTrivia verbose after)
    match first, last with
    | .literal first, .literal last =>
      guard (first.char ≤ last.char)
      return (.range first last, rest)
    | _, _ => none
  | rest => return (first, rest)

/-- Reads the rest of a class; `outer` holds the brackets around the current one, and `fuel` exceeds
the number of characters left. -/
def readClassFrom (verbose : Bool) :
    (fuel : Nat) → (current : OpenBracket) → (outer : List OpenBracket) → List Char →
      Option (ClassSet × List Char)
  | 0, _, _, _ => none
  | fuel + 1, current, outer, cs =>
    match skipTrivia verbose cs with
    | [] => none
    | '[' :: rest =>
      match readAsciiClass rest with
      | some (item, rest) => readClassFrom verbose fuel (current.push item) outer rest
      | none =>
        let (inner, rest) := openBracket verbose rest
        readClassFrom verbose fuel inner (current :: outer) rest
    | ']' :: rest =>
      let finished := ClassSet.bracket current.negated current.set
      match outer with
      | [] => some (finished, rest)
      | parent :: outer => readClassFrom verbose fuel (parent.push finished) outer rest
    | '&' :: '&' :: rest => readClassFrom verbose fuel (current.operate .intersection) outer rest
    | '-' :: '-' :: rest => readClassFrom verbose fuel (current.operate .difference) outer rest
    | '~' :: '~' :: rest =>
      readClassFrom verbose fuel (current.operate .symmetricDifference) outer rest
    | cs => do
      let (item, rest) ← readRange verbose cs
      readClassFrom verbose fuel (current.push item) outer rest

/-- Reads a class after its opening bracket. -/
def readClass (verbose : Bool) (cs : List Char) : Option (ClassSet × List Char) :=
  let (bracket, rest) := openBracket verbose cs
  readClassFrom verbose (rest.length + 1) bracket [] rest

end Highlight.Regex
