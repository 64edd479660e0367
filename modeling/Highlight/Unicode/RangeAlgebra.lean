import Highlight.Unicode.RangeTable

/-!
# Set operations on tables of ranges

The operations give their ranges in increasing order and leave a character out between any two of
them, so that two tables of the same characters come out equal.
-/

namespace Highlight.Unicode

namespace RangeTable

/-- The largest code point. -/
def lastCode : Nat := 0x10ffff

/-- The code point of the character behind the one with code point `n`; surrogates are no
characters. -/
def codeAfter (n : Nat) : Nat := if n = 0xd7ff then 0xe000 else n + 1

/-- The code point of the character ahead of the one with code point `n`. -/
def codeBefore (n : Nat) : Nat := if n = 0xe000 then 0xd7ff else n - 1

/-- Joins a range with those behind it that it meets; they come in the order of their beginnings. -/
def joinFrom (r : CodeRange) : RangeTable → RangeTable
  | [] => [r]
  | s :: rest =>
    if s.first ≤ codeAfter r.last then joinFrom ⟨r.first, Nat.max r.last s.last⟩ rest
    else r :: joinFrom s rest

/-- Joins the ranges that meet; they come in the order of their beginnings. -/
def join : RangeTable → RangeTable
  | [] => []
  | r :: rest => joinFrom r rest

/-- The characters of either table. -/
def union (a b : RangeTable) : RangeTable :=
  join (a.merge b fun r s => decide (r.first ≤ s.first))

/-- The characters from `start` on that lie in no range. -/
def gapsFrom (start : Nat) : RangeTable → RangeTable
  | [] => if start ≤ lastCode then [⟨start, lastCode⟩] else []
  | r :: rest =>
    if start < r.first then ⟨start, codeBefore r.first⟩ :: gapsFrom (codeAfter r.last) rest
    else gapsFrom (codeAfter r.last) rest

/-- The characters that are not in the table. -/
def compl (a : RangeTable) : RangeTable := gapsFrom 0 a

/-- The characters of both tables. -/
def inter (a b : RangeTable) : RangeTable := compl (union (compl a) (compl b))

/-- The characters of the first table that are not in the second. -/
def diff (a b : RangeTable) : RangeTable := compl (union (compl a) b)

/-- The table of a list of characters. -/
def ofChars (cs : List Char) : RangeTable :=
  join ((cs.map fun c => ⟨c.toNat, c.toNat⟩).mergeSort fun r s => decide (r.first ≤ s.first))

end RangeTable

end Highlight.Unicode
