import Highlight.Unicode.BinaryProperty
import Highlight.Unicode.CaseFolding
import Highlight.Unicode.GeneralCategory

/-!
# Classes of characters

A class is a description of a set of characters; `contains` decides membership by recursion on the
description, so that a complement or a closure under letter case needs no table of its own.
-/

namespace Highlight.Regex

open Highlight.Unicode

/-- A description of a set of characters. -/
inductive CharClass where
  | empty
  | range (first last : Char)
  | tables (tables : List RangeTable)
  | union (a b : CharClass)
  | inter (a b : CharClass)
  | diff (a b : CharClass)
  | symmDiff (a b : CharClass)
  | compl (a : CharClass)
  /-- The class with every character that differs from a member in letter case only; without
  `unicode`, every ASCII letter whose other case is a member. -/
  | anyCase (unicode : Bool) (a : CharClass)
deriving Repr, DecidableEq

namespace CharClass

/-- The letters of ASCII equal to `c` up to case, or `c` alone. -/
def asciiCaseVariants (c : Char) : List Char :=
  if c.isAlpha then [c.toUpper, c.toLower] else [c]

/-- The characters equal to `c` up to case, of every script or of ASCII alone. -/
def variants (unicode : Bool) (c : Char) : List Char :=
  if unicode then caseVariants c else asciiCaseVariants c

/-- Whether `c` belongs to the class. -/
def contains : CharClass → Char → Bool
  | empty, _ => false
  | range first last, c => first ≤ c && c ≤ last
  | tables ts, c => ts.any (·.contains c)
  | union a b, c => a.contains c || b.contains c
  | inter a b, c => a.contains c && b.contains c
  | diff a b, c => a.contains c && !b.contains c
  | symmDiff a b, c => a.contains c != b.contains c
  | compl a, c => !a.contains c
  | anyCase unicode a, c => (variants unicode c).any a.contains

/-- Whether the description shows that letter case does not count in the class. -/
def ignoresCase (unicode : Bool) : CharClass → Bool
  | empty => true
  | range _ _ => false
  | tables _ => false
  | union a b => a.ignoresCase unicode && b.ignoresCase unicode
  | inter a b => a.ignoresCase unicode && b.ignoresCase unicode
  | diff a b => a.ignoresCase unicode && b.ignoresCase unicode
  | symmDiff a b => a.ignoresCase unicode && b.ignoresCase unicode
  | compl a => a.ignoresCase unicode
  | anyCase closed _ => closed == unicode

/-- The union of two classes; two closures are joined into one. -/
def join : CharClass → CharClass → CharClass
  | anyCase true a, anyCase true b => anyCase true (union a b)
  | anyCase false a, anyCase false b => anyCase false (union a b)
  | a, b => union a b

/-- The class closed under letter case. Parts that are closed already stay as they are, so that
closing class within class does not pile up closures. -/
def closeCase (unicode : Bool) : CharClass → CharClass
  | union a b => join (a.closeCase unicode) (b.closeCase unicode)
  | c => if c.ignoresCase unicode then c else anyCase unicode c

/-- The class of a single character. -/
def single (c : Char) : CharClass := range c c

/-- The union of a list of ranges. -/
def ofRanges : List (Char × Char) → CharClass
  | [] => empty
  | [(first, last)] => range first last
  | (first, last) :: rest => union (range first last) (ofRanges rest)

/-- Every character. -/
def any : CharClass := compl empty

/-- The ASCII word characters: letters, digits and the underscore. -/
def asciiWord : CharClass := ofRanges [('0', '9'), ('A', 'Z'), ('_', '_'), ('a', 'z')]

/-- The ASCII digits. -/
def asciiDigit : CharClass := range '0' '9'

/-- The blank characters of ASCII. -/
def asciiSpace : CharClass := ofRanges [('\t', '\r'), (' ', ' ')]

/-- The ranges whose union is the word characters. -/
def wordTables : List RangeTable :=
  PropertyTable.rangesOf binaryProperties "alphabetic" ::
    PropertyTable.rangesOf binaryProperties "joincontrol" ::
    ["mn", "mc", "me", "nd", "pc"].map (PropertyTable.rangesOf generalCategories)

/-- The ranges of the decimal digits. -/
def digitTables : List RangeTable := [PropertyTable.rangesOf generalCategories "nd"]

/-- The word characters: alphabetic characters, marks, decimal digits, connectors and joiners. -/
def word : CharClass := tables wordTables

/-- The decimal digits of every script. -/
def digit : CharClass := tables digitTables

/-- The ranges of the blank characters. -/
def spaceTables : List RangeTable := [PropertyTable.rangesOf binaryProperties "whitespace"]

/-- The blank characters. -/
def space : CharClass := tables spaceTables

@[simp] theorem contains_single (c d : Char) : (single c).contains d = decide (d = c) := by
  rw [Bool.eq_iff_iff]
  simp only [single, contains, Bool.and_eq_true, decide_eq_true_eq]
  exact ⟨fun ⟨h₁, h₂⟩ => Char.le_antisymm h₂ h₁, fun h => h ▸ ⟨Char.le_refl _, Char.le_refl _⟩⟩

@[simp] theorem contains_any (c : Char) : any.contains c = true := rfl

end CharClass

end Highlight.Regex
