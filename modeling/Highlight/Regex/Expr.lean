import Highlight.Regex.Property

/-!
# Expressions as they are written

The shape of a pattern before its flags are applied. `Expr.depth` and `ClassSet.depth` count how
deeply constructs lie inside one another; a run of items, a list of alternatives and a union count
as one construct however long they are.
-/

namespace Highlight.Regex

/-- The settings a pattern may switch on and off from within. -/
inductive Flag where
  | ignoreCase
  | multiLine
  | dotAll
  | swapGreed
  | unicode
  | crlf
  | verbose
deriving Repr, DecidableEq

/-- The flags that a group or a directive sets, each with its new value. -/
abbrev FlagChange := List (Flag × Bool)

/-- The flags in force at a place in a pattern. -/
structure Flags where
  ignoreCase : Bool := false
  multiLine : Bool := false
  dotAll : Bool := false
  swapGreed : Bool := false
  unicode : Bool := true
  crlf : Bool := false
deriving Repr, DecidableEq

/-- The flags with one of them set; `verbose` concerns reading alone and is not among them. -/
def Flags.set (flags : Flags) (flag : Flag) (value : Bool) : Flags :=
  match flag with
  | .ignoreCase => { flags with ignoreCase := value }
  | .multiLine => { flags with multiLine := value }
  | .dotAll => { flags with dotAll := value }
  | .swapGreed => { flags with swapGreed := value }
  | .unicode => { flags with unicode := value }
  | .crlf => { flags with crlf := value }
  | .verbose => flags

/-- The flags after all the settings of a change. -/
def Flags.apply (flags : Flags) (change : FlagChange) : Flags :=
  change.foldl (fun flags item => flags.set item.1 item.2) flags

/-- A character that stands for itself; `asByte` when it was written as `\x` and two digits. -/
structure Literal where
  char : Char
  asByte : Bool := false
deriving Repr, DecidableEq

/-- The conditions on a place between two characters. -/
inductive Assertion where
  | lineStart
  | lineEnd
  | textStart
  | textEnd
  | wordBoundary
  | notWordBoundary
  | wordStart
  | wordEnd
  | wordStartHalf
  | wordEndHalf
deriving Repr, DecidableEq

/-- The classes with a one-letter escape. -/
inductive LetterClass where
  | digit
  | space
  | word
deriving Repr, DecidableEq

/-- The operations between two sets within brackets. -/
inductive ClassOp where
  | intersection
  | difference
  | symmetricDifference
deriving Repr, DecidableEq

/-- What stands between the brackets of a class. -/
inductive ClassSet where
  | nothing
  | literal (l : Literal)
  | range (first last : Literal)
  | ascii (ranges : List (Char × Char)) (negated : Bool)
  | letter (kind : LetterClass) (negated : Bool)
  | property (query : PropertyQuery) (negated : Bool)
  | bracket (negated : Bool) (items : ClassSet)
  | union (a b : ClassSet)
  | binary (op : ClassOp) (a b : ClassSet)
deriving Repr

namespace ClassSet

/-- The union of the items between two brackets. -/
def ofItems : List ClassSet → ClassSet
  | [] => nothing
  | [item] => item
  | item :: rest => union item (ofItems rest)

/-- How deeply brackets, unions and operations lie inside one another; `inUnion` for the rest of a
union. -/
def depth (inUnion : Bool := false) : ClassSet → Nat
  | bracket _ items => items.depth + 1
  | union a b => max a.depth (b.depth true) + if inUnion then 0 else 1
  | binary _ a b => max a.depth b.depth + 1
  | _ => 0

end ClassSet

/-- A pattern as it is written. -/
inductive Expr where
  | empty
  | setFlags (change : FlagChange)
  | literal (l : Literal)
  | dot
  | assertion (a : Assertion)
  | set (s : ClassSet)
  | repetition (e : Expr) (min : Nat) (max : Option Nat) (greedy : Bool)
  /-- A group with the flags it sets, and its number if it is counted. -/
  | group (number : Option Nat) (change : FlagChange) (e : Expr)
  | cat (a b : Expr)
  | alt (a b : Expr)
deriving Repr

namespace Expr

/-- A run of items one after the other. -/
def ofItems : List Expr → Expr
  | [] => empty
  | [item] => item
  | item :: rest => cat item (ofItems rest)

/-- A list of alternatives, the preferred one first. -/
def ofAlternatives : List Expr → Expr
  | [] => empty
  | [branch] => branch
  | branch :: rest => alt branch (ofAlternatives rest)

/-- What an expression is the rest of. -/
inductive Chain where
  | none
  | run
  | alternatives
deriving DecidableEq

/-- How deeply repetitions, groups, runs, alternatives and classes lie inside one another. -/
def depth (chain : Chain := .none) : Expr → Nat
  | set (.bracket negated s) => (ClassSet.bracket negated s).depth
  | repetition e _ _ _ => e.depth + 1
  | group _ _ e => e.depth + 1
  | cat a b => max a.depth (b.depth .run) + if chain = .run then 0 else 1
  | alt a b => max a.depth (b.depth .alternatives) + if chain = .alternatives then 0 else 1
  | _ => 0

end Expr

end Highlight.Regex
