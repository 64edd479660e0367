import Highlight.Unicode.TextTable

/-!
# Blank, alphabetic and numeric characters

The classes of characters that tokenizers ask for. Below 128 they are decided without a table.
-/

namespace Highlight.Unicode

/-- The ranges of the alphabetic characters. -/
def alphabeticTable : RangeTable := RangeTable.decode alphabeticRanges

/-- The ranges of decimal digits, letter numbers and other numbers. -/
def numericTable : RangeTable := RangeTable.decode numericRanges

/-- The ranges of the blank characters. -/
def blankTable : RangeTable := RangeTable.decode blankRanges

/-- Whether a character is alphabetic. -/
def isAlphabetic (c : Char) : Bool :=
  if c.toNat < 128 then c.isAlpha else alphabeticTable.contains c

/-- Whether a character is numeric: a digit, a letter number or another number. -/
def isNumeric (c : Char) : Bool :=
  if c.toNat < 128 then c.isDigit else numericTable.contains c

/-- Whether a character is alphabetic or numeric. -/
def isAlphanumeric (c : Char) : Bool :=
  isAlphabetic c || isNumeric c

/-- Whether a character is blank: a space, a control that moves to a new place, or their kin. -/
def isBlank (c : Char) : Bool :=
  if c.toNat < 128 then c == ' ' || (9 ≤ c.toNat && c.toNat ≤ 13) else blankTable.contains c

theorem isAlphabetic_ascii {c : Char} (h : c.toNat < 128) : isAlphabetic c = c.isAlpha := by
  simp [isAlphabetic, h]

end Highlight.Unicode
