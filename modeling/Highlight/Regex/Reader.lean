import Highlight.Regex.Bracket
import Highlight.Text.Lines

/-!
# Reading patterns

A pattern is read from left to right with a stack of the groups that are still open. Each level of
the stack holds the finished alternatives of a group and the items of the one being read.
-/

namespace Highlight.Regex

open Highlight.Unicode

/-- One group as far as it has been read. -/
structure Level where
  /-- The finished alternatives, the latest first. -/
  alternatives : List Expr := []
  /-- The items of the current alternative, the latest first. -/
  items : List Expr := []

namespace Level

/-- The level with one more item. -/
def push (level : Level) (item : Expr) : Level :=
  { level with items := item :: level.items }

/-- The level after a bar. -/
def bar (level : Level) : Level :=
  { alternatives := Expr.ofItems level.items.reverse :: level.alternatives }

/-- All that has been read at the level. -/
def expr (level : Level) : Expr :=
  Expr.ofAlternatives (level.bar.alternatives.reverse)

/-- The level with its last item repeated; a directive cannot be repeated, nor can nothing. -/
def repeatLast (level : Level) (min : Nat) (max : Option Nat) (greedy : Bool) : Option Level :=
  match level.items with
  | [] => none
  | .setFlags _ :: _ => none
  | item :: items => some { level with items := .repetition item min max greedy :: items }

end Level

/-- A group that is still open, with what it goes back to when it closes. -/
structure OpenGroup where
  outer : Level
  number : Option Nat
  change : FlagChange
  verbose : Bool

/-- The state of reading: the current level, the groups around it, how many groups have been
counted, and the names given so far. -/
structure ReadState where
  level : Level := {}
  groups : List OpenGroup := []
  counted : Nat := 0
  verbose : Bool := false
  names : List (List Char) := []

/-- The largest count that a repetition may have. -/
def maxCount : Nat := 4294967295

/-- Reads a count with blanks around it. -/
def readCount (cs : List Char) : Option Nat := do
  let n ← Text.decimalNumber? (Text.trim cs)
  guard (n ≤ maxCount)
  return n

/-- Reads the counts between the braces of a repetition. -/
def readCounts (inside : List Char) : Option (Nat × Option Nat) :=
  match splitAtMark [','] inside with
  | none => (readCount inside).map fun n => (n, some n)
  | some (least, []) => (readCount least).map fun n => (n, none)
  | some (least, most) => do
    let least ← readCount least
    let most ← readCount most
    guard (least ≤ most)
    return (least, some most)

/-- The flag of a letter. -/
def flag? : Char → Option Flag
  | 'i' => some .ignoreCase
  | 'm' => some .multiLine
  | 's' => some .dotAll
  | 'U' => some .swapGreed
  | 'u' => some .unicode
  | 'R' => some .crlf
  | 'x' => some .verbose
  | _ => none

/-- Reads flags up to a colon or a closing parenthesis, which is given with them. After a dash, of
which there may be one, flags are switched off; no flag may come twice. -/
def readFlags (change : FlagChange) (negated afterDash : Bool) :
    List Char → Option (FlagChange × Char × List Char)
  | [] => none
  | c :: rest =>
    if c == ':' || c == ')' then
      if afterDash then none else some (change, c, rest)
    else if c == '-' then
      if negated then none else readFlags change true true rest
    else do
      let flag ← flag? c
      if change.any (·.1 == flag) then none
      else readFlags (change ++ [(flag, !negated)]) negated false rest

/-- Whether a character may stand in the name of a group, at its beginning or further on. -/
def isNameChar (first : Bool) (c : Char) : Bool :=
  c == '_' || isAlphabetic c || (!first && (c == '.' || c == '[' || c == ']' || isNumeric c))

/-- Reads the name of a group up to its closing angle; a name may be given once. -/
def readName (names : List (List Char)) (cs : List Char) : Option (List Char × List Char) :=
  match cs.span (· != '>') with
  | (first :: others, _ :: rest) =>
    if isNameChar true first && others.all (isNameChar false) && !names.contains (first :: others)
    then some (first :: others, rest) else none
  | _ => none

namespace ReadState

/-- Enters a group that is not counted. -/
def enter (state : ReadState) (change : FlagChange) : ReadState :=
  { state with
    level := {}
    groups := ⟨state.level, none, change, state.verbose⟩ :: state.groups
    verbose := (change.lookup .verbose).getD state.verbose }

/-- Enters a group that is counted. -/
def enterCounted (state : ReadState) : ReadState :=
  { state with
    level := {}
    groups := ⟨state.level, some (state.counted + 1), [], state.verbose⟩ :: state.groups
    counted := state.counted + 1 }

/-- Enters a group with a name. -/
def enterNamed (state : ReadState) (cs : List Char) : Option (ReadState × List Char) :=
  (readName state.names cs).map fun (name, rest) =>
    ({ state.enterCounted with names := name :: state.names }, rest)

/-- Reads what follows an opening parenthesis: a named group, flags for a group or for the rest of
the current one, or nothing. Looking ahead or behind is not supported. -/
def openGroup (state : ReadState) (cs : List Char) : Option (ReadState × List Char) :=
  match skipTrivia state.verbose cs with
  | '?' :: '=' :: _ | '?' :: '!' :: _ | '?' :: '<' :: '=' :: _ | '?' :: '<' :: '!' :: _ => none
  | '?' :: 'P' :: '<' :: rest => state.enterNamed rest
  | '?' :: '<' :: rest => state.enterNamed rest
  | '?' :: rest => do
    let (change, last, rest) ← readFlags [] false false rest
    if last == ':' then return (state.enter change, rest)
    else if change.isEmpty then none
    else
      return ({ state with
        level := state.level.push (.setFlags change)
        verbose := (change.lookup .verbose).getD state.verbose }, rest)
  | rest => some (state.enterCounted, rest)

/-- Closes the innermost group. -/
def closeGroup (state : ReadState) : Option ReadState :=
  match state.groups with
  | [] => none
  | group :: groups =>
    some { state with
      level := group.outer.push (.group group.number group.change state.level.expr)
      groups
      verbose := group.verbose }

/-- The state with one more item. -/
def push (state : ReadState) (item : Expr) : ReadState :=
  { state with level := state.level.push item }

/-- Applies a repetition; a question mark directly behind its sign makes it prefer fewer. -/
def repeatLast (state : ReadState) (min : Nat) (max : Option Nat) (rest : List Char) :
    Option (ReadState × List Char) :=
  let (greedy, rest) := match rest with
    | '?' :: rest => (false, rest)
    | rest => (true, rest)
  (state.level.repeatLast min max greedy).map fun level => ({ state with level }, rest)

/-- Reads one item or sign that begins with `c`. -/
def step (state : ReadState) (c : Char) (rest : List Char) : Option (ReadState × List Char) :=
  match c with
  | '(' => state.openGroup rest
  | ')' => state.closeGroup.map (·, rest)
  | '|' => some ({ state with level := state.level.bar }, rest)
  | '[' => (readClass state.verbose rest).map fun (s, rest) => (state.push (.set s), rest)
  | '?' => state.repeatLast 0 (some 1) rest
  | '*' => state.repeatLast 0 none rest
  | '+' => state.repeatLast 1 none rest
  | '\x7b' => do
    let (inside, rest) ← readBraced state.verbose false rest
    let (min, max) ← readCounts inside
    state.repeatLast min max (skipTrivia state.verbose rest)
  | '\\' =>
    (readEscape state.verbose rest).map fun (escape, rest) =>
      (state.push (match escape with
        | .literal l => .literal l
        | .assertion a => .assertion a
        | .set s => .set s), rest)
  | '.' => some (state.push .dot, rest)
  | '^' => some (state.push (.assertion .lineStart), rest)
  | '$' => some (state.push (.assertion .lineEnd), rest)
  | c => some (state.push (.literal ⟨c, false⟩), rest)

end ReadState

/-- Reads the rest of a pattern; `fuel` exceeds the number of characters left. -/
def readFrom : (fuel : Nat) → ReadState → List Char → Option Expr
  | 0, _, _ => none
  | fuel + 1, state, cs =>
    match skipTrivia state.verbose cs with
    | [] => if state.groups.isEmpty then some state.level.expr else none
    | c :: rest => do
      let (state, rest) ← state.step c rest
      readFrom fuel state rest

/-- The deepest nesting that is accepted. -/
def maxDepth : Nat := 250

/-- The expression written by a pattern, if it is well formed and not nested too deeply. -/
def Expr.read? (pattern : List Char) : Option Expr := do
  let expr ← readFrom (pattern.length + 1) {} pattern
  if expr.depth ≤ maxDepth then return expr else none

end Highlight.Regex
