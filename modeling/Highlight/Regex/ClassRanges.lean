import Highlight.Regex.CharClass
import Highlight.Unicode.RangeAlgebra

/-!
# Classes as ranges

A set of characters has one list of ranges in increasing order that leaves a character out between
any two of them. `CharClass.ranges` finds that list, so that two descriptions of the same set can be
told to be the same.
-/

namespace Highlight.Regex

open Highlight.Unicode

namespace CharClass

/-- The letters of ASCII in pairs that differ in case only. -/
def asciiCasePairs : List (List Char) :=
  (List.range 26).map fun i => [Char.ofNat (0x41 + i), Char.ofNat (0x61 + i)]

/-- The groups of characters equal up to case, of every script or of ASCII alone. -/
def caseGroups (unicode : Bool) : List (List Char) :=
  if unicode then asciiCasePairs ++ caseFoldingTable else asciiCasePairs

/-- The table with every character that differs from a member in letter case only. -/
def closeRanges (unicode : Bool) (table : RangeTable) : RangeTable :=
  table.union (.ofChars ((caseGroups unicode).filter (·.any table.contains)).flatten)

/-- The members of the class as ranges in increasing order, no two of which touch. -/
def ranges : CharClass → RangeTable
  | empty => []
  | range first last => if first ≤ last then [⟨first.toNat, last.toNat⟩] else []
  | tables ts => ts.foldl RangeTable.union []
  | union a b => a.ranges.union b.ranges
  | inter a b => a.ranges.inter b.ranges
  | diff a b => a.ranges.diff b.ranges
  | symmDiff a b => (a.ranges.diff b.ranges).union (b.ranges.diff a.ranges)
  | compl a => a.ranges.compl
  | anyCase unicode a => closeRanges unicode a.ranges

/-- The only member, if there is just one. -/
def onlyMember? (a : CharClass) : Option Char :=
  match a.ranges with
  | [r] => if r.first = r.last then some (Char.ofNat r.first) else none
  | _ => none

end CharClass

end Highlight.Regex
