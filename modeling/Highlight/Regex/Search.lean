import Highlight.Regex.Program

/-!
# Searching for a match

A text is read once, with the list of the places of the program that are still alive, the preferred
ones first. A place that is reached a second time at the same character is dropped, for whatever it
could lead to the first one leads to already. The search finds the leftmost match and, among those
that begin there, the one its program prefers.
-/

namespace Highlight.Regex

namespace Program

/-- The places where a character is taken or the match accepted that can be reached from `pending`
without taking a character, in order of preference; places whose bit is set in `seen` are not
followed again, and `fuel` bounds the number of places looked at. -/
def reach (program : Program) (before after : Option Char) :
    (fuel : Nat) → (pending : List Nat) → (seen : Nat) → List Nat
  | 0, _, _ => []
  | _ + 1, [], _ => []
  | fuel + 1, place :: pending, seen =>
    if seen.testBit place then program.reach before after fuel pending seen
    else
      let seen := seen ||| 1 <<< place
      match program.code[place]? with
      | some (.take _ _) => place :: program.reach before after fuel pending seen
      | some .accept => place :: program.reach before after fuel pending seen
      | some (.jump next) => program.reach before after fuel (next :: pending) seen
      | some (.split first second) =>
        program.reach before after fuel (first :: second :: pending) seen
      | some (.look l next) =>
        if l.holds before after then program.reach before after fuel (next :: pending) seen
        else program.reach before after fuel pending seen
      | none => program.reach before after fuel pending seen

/-- The places alive after going on from `places`. No place is entered twice and each adds at most
two, so the fuel does not run out. -/
def alive (program : Program) (before after : Option Char) (places : List Nat) : List Nat :=
  program.reach before after (places.length + 2 * program.code.size + 1) places 0

/-- The places preferred to the first that accepts, and whether there is one that accepts. -/
def untilAccept (program : Program) : List Nat → List Nat × Bool
  | [] => ([], false)
  | place :: rest =>
    match program.code[place]? with
    | some .accept => ([], true)
    | _ =>
      let (places, accepts) := program.untilAccept rest
      (place :: places, accepts)

/-- The place to go on at after taking `c`, if the instruction takes it. -/
def advance? (program : Program) (c : Char) (place : Nat) : Option Nat :=
  match program.code[place]? with
  | some (.take s next) => if s.contains c then some next else none
  | _ => none

/-- The length of the preferred match of a run that is at `places` after `taken` characters, with
`text` left; `best` is the length of the match that all the places are preferred to. -/
def run (program : Program) : (text : List Char) → (places : List Nat) → (taken : Nat) →
    (best : Option Nat) → Option Nat
  | [], places, taken, best => if (program.untilAccept places).2 then some taken else best
  | c :: rest, places, taken, best =>
    let (places, accepts) := program.untilAccept places
    let best := if accepts then some taken else best
    if places.isEmpty then best
    else
      let places := program.alive (some c) rest.head? (places.filterMap (program.advance? c))
      program.run rest places (taken + 1) best

/-- The number of characters of the preferred match that begins where `text` does. -/
def matchLength? (program : Program) (before : Option Char) (text : List Char) : Option Nat :=
  program.run text (program.alive before text.head? [0]) 0 none

/-- The place after `offset` where the leftmost match in `text` ends. -/
def findEndFrom (program : Program) (before : Option Char) (offset : Nat) (text : List Char) :
    Option Nat :=
  match program.matchLength? before text, text with
  | some n, _ => some (offset + n)
  | none, [] => none
  | none, c :: rest =>
    if program.anchored then none else program.findEndFrom (some c) (offset + 1) rest

/-- The number of characters up to the end of the leftmost match in `text`. -/
def findEnd? (program : Program) (text : List Char) : Option Nat :=
  program.findEndFrom none 0 text

end Program

end Highlight.Regex
