import Highlight.Regex.ClassRanges

/-!
# Regular expressions

Sets of characters, conditions on places, and the ways to combine them. A greedy repetition prefers
more turns, any other prefers fewer; of two alternatives the first is preferred.

`Regex.simplify` brings an expression into a form in which equal parts can be told: neighbouring
characters are one text, runs within runs and choices within choices are flat, and what all the
alternatives of a choice begin with is read once, ahead of the choice.
-/

namespace Highlight.Regex

/-- A condition on the place between two characters. -/
inductive Look where
  | textStart
  | textEnd
  | lineStart (crlf : Bool)
  | lineEnd (crlf : Bool)
  | wordBoundary (unicode : Bool)
  | notWordBoundary (unicode : Bool)
  | wordStart (unicode : Bool)
  | wordEnd (unicode : Bool)
  | wordStartHalf (unicode : Bool)
  | wordEndHalf (unicode : Bool)
deriving Repr, DecidableEq

namespace Look

/-- Whether the neighbour is a word character. -/
def isWord (unicode : Bool) : Option Char → Bool
  | none => false
  | some c => (if unicode then CharClass.word else CharClass.asciiWord).contains c

/-- Whether the condition holds between the characters `before` and `after`, which are missing at
the ends of the text. -/
def holds (before after : Option Char) : Look → Bool
  | textStart => before.isNone
  | textEnd => after.isNone
  | lineStart false => before.isNone || before == some '\n'
  | lineStart true =>
    before.isNone || before == some '\n' || (before == some '\r' && after != some '\n')
  | lineEnd false => after.isNone || after == some '\n'
  | lineEnd true =>
    after.isNone || after == some '\r' || (after == some '\n' && before != some '\r')
  | wordBoundary unicode => isWord unicode before != isWord unicode after
  | notWordBoundary unicode => isWord unicode before == isWord unicode after
  | wordStart unicode => !isWord unicode before && isWord unicode after
  | wordEnd unicode => isWord unicode before && !isWord unicode after
  | wordStartHalf unicode => !isWord unicode before
  | wordEndHalf unicode => !isWord unicode after

end Look

end Highlight.Regex

namespace Highlight

open Highlight.Regex

/-- A regular expression. -/
inductive Regex where
  | empty
  /-- Characters that stand for themselves, one or more. -/
  | text (c : Char) (rest : List Char)
  /-- A class of characters, or of bytes that are all below 128. -/
  | set (unicode : Bool) (s : CharClass)
  | look (l : Look)
  | cat (a b : Regex)
  | alt (a b : Regex)
  /-- From `min` to `max` turns, without a bound if `max` is missing. -/
  | rep (a : Regex) (min : Nat) (max : Option Nat) (greedy : Bool)
  /-- A group that is counted, under its number. -/
  | counted (number : Nat) (a : Regex)
deriving Repr

namespace Regex

/-- Whether an expression can match without taking a character. -/
def nullable : Regex → Bool
  | empty => true
  | text _ _ => false
  | set _ _ => false
  | look _ => true
  | cat a b => a.nullable && b.nullable
  | alt a b => a.nullable || b.nullable
  | rep a min _ _ => min == 0 || a.nullable
  | counted _ a => a.nullable

/-- Whether an expression has no part that takes a character. -/
def takesNothing : Regex → Bool
  | empty => true
  | text _ _ => false
  | set _ _ => false
  | look _ => true
  | cat a b => a.takesNothing && b.takesNothing
  | alt a b => a.takesNothing && b.takesNothing
  | rep a _ _ _ => a.takesNothing
  | counted _ a => a.takesNothing

/-- Whether every match begins at the start of the text. -/
def anchored : Regex → Bool
  | look .textStart => true
  | cat a _ => a.anchored
  | alt a b => a.anchored && b.anchored
  | rep a min _ _ => min != 0 && a.anchored
  | counted _ a => a.anchored
  | _ => false

/-- The expression that takes a character of a class; a class of one character is a text. -/
def ofClass (unicode : Bool) (s : CharClass) : Regex :=
  match s.onlyMember? with
  | some c => text c []
  | none => set unicode s

/-- A repetition. More than one turn of an expression that takes nothing is as good as one. No turn
at all leaves nothing to match, and a single turn is the expression itself. -/
def repetition (a : Regex) (min : Nat) (max : Option Nat) (greedy : Bool) : Regex :=
  let (min, max) :=
    if a.takesNothing then (Nat.min min 1, some ((max.map (Nat.min · 1)).getD 1)) else (min, max)
  match min, max with
  | 0, some 0 => empty
  | 1, some 1 => a
  | min, max => rep a min max greedy

/-! ## Runs -/

/-- The parts that follow one another, none of them empty. -/
def parts : Regex → List Regex
  | empty => []
  | cat a b => a.parts ++ b.parts
  | r => [r]

/-- A part ahead of others; two texts become one. -/
def consPart : Regex → List Regex → List Regex
  | text c cs, text d ds :: rest => text c (cs ++ d :: ds) :: rest
  | r, rest => r :: rest

/-- One part after the other. -/
def ofParts : List Regex → Regex
  | [] => empty
  | [r] => r
  | r :: rest => cat r (ofParts rest)

/-- One expression after the other. -/
def run (rs : List Regex) : Regex :=
  ofParts ((rs.flatMap parts).foldr consPart [])

/-! ## Choices -/

/-- The alternatives, the preferred one first. -/
def alternatives : Regex → List Regex
  | alt a b => a.alternatives ++ b.alternatives
  | r => [r]

/-- A choice between alternatives, the preferred one first. -/
def ofAlternatives : List Regex → Regex
  | [] => empty
  | [r] => r
  | r :: rest => alt r (ofAlternatives rest)

/-- The class of a list of single characters. -/
def characters? : List Regex → Option CharClass
  | [] => some .empty
  | text c [] :: rest => (characters? rest).map (.union (.single c))
  | _ => none

/-- The union of a list of classes. -/
def classes? : List Regex → Option CharClass
  | [] => some .empty
  | set _ s :: rest => (classes? rest).map (.union s)
  | _ => none

/-- A choice between alternatives; single characters, or classes, are joined to one class. -/
def joined (rs : List Regex) : Regex :=
  match (characters? rs).or (classes? rs) with
  | some s => ofClass true s
  | none => ofAlternatives rs

/-- Whether two classes are written for the same kind of units and have the same members. -/
def sameClass (u : Bool) (s : CharClass) (v : Bool) (t : CharClass) : Bool :=
  if s = t ∧ u = v then true
  else
    let ranges := s.ranges
    decide (ranges = t.ranges) && (u == v || ranges.isEmpty)

/-- Whether two expressions are equal, taking classes by their members. -/
def same : Regex → Regex → Bool
  | empty, empty => true
  | text c cs, text d ds => c == d && cs == ds
  | set u s, set v t => sameClass u s v t
  | look l, look m => l == m
  | cat a b, cat c d => a.same c && b.same d
  | alt a b, alt c d => a.same c && b.same d
  | rep a min max greedy, rep b min' max' greedy' =>
    min == min' && max == max' && greedy == greedy' && a.same b
  | counted n a, counted m b => n == m && a.same b
  | _, _ => false

/-- The longest list that two lists of parts both begin with. -/
def commonStart : List Regex → List Regex → List Regex
  | a :: as, b :: bs => if a.same b then a :: commonStart as bs else []
  | _, _ => []

/-- The parts that every alternative begins with, provided that each has at least two parts. -/
def sharedStart (runs : List (List Regex)) : List Regex :=
  match runs with
  | [] => []
  | parts :: rest =>
    if runs.all (2 ≤ ·.length) then rest.foldl commonStart parts else []

/-- A choice between alternatives with what all of them begin with ahead of it. Where the shared
start can match in several ways, its own preference comes before the order of the alternatives:
`.*b|.*c` prefers the longest match, as `.*(?:b|c)` does. -/
def choice (rs : List Regex) : Regex :=
  match rs with
  | [r] => r
  | rs =>
    let runs := rs.map parts
    match sharedStart runs with
    | [] => joined rs
    | start =>
      let rest := runs.map fun parts => ofParts (parts.drop start.length)
      run (start ++ [joined (rest.flatMap alternatives)])

/-- The expression with its runs and choices in order, those inside its parts being so already. -/
def simplify (r : Regex) : Regex :=
  choice ((r.alternatives.map fun branch => run branch.parts).flatMap alternatives)

end Regex

end Highlight
