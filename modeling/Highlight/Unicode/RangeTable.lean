import Highlight.Text.Digit

/-!
# Tables of character ranges

A set of characters is written as a text of hexadecimal code points: a lone code point stands for
itself, `first-last` for a range, and blanks separate the entries. Groups of code points that belong
together are joined by equals signs instead.
-/

namespace Highlight.Unicode

/-- The code points from `first` to `last`, both included. -/
structure CodeRange where
  first : Nat
  last : Nat
deriving Repr, DecidableEq

/-- Ranges in increasing order, none of which overlap. -/
abbrev RangeTable := List CodeRange

namespace RangeTable

/-- Reads the entries of a table; `first` is the number before a dash and `number` the one that is
being read. -/
def decodeChars : List Char → (first number : Option Nat) → RangeTable
  | [], first, some n => [⟨first.getD n, n⟩]
  | [], _, none => []
  | c :: rest, first, number =>
    match Text.hexValue? c with
    | some d => decodeChars rest first (some (number.getD 0 * 16 + d))
    | none =>
      if c = '-' then decodeChars rest number none
      else match number with
        | some n => ⟨first.getD n, n⟩ :: decodeChars rest none none
        | none => decodeChars rest none none

/-- The ranges written in `text`. -/
def decode (text : String) : RangeTable :=
  decodeChars text.toList none none

/-- Whether a code point lies in one of the ranges; the search stops at the first range above it. -/
def containsCode : RangeTable → Nat → Bool
  | [], _ => false
  | r :: rest, n => if n < r.first then false else decide (n ≤ r.last) || containsCode rest n

/-- Whether a character lies in one of the ranges. -/
def contains (table : RangeTable) (c : Char) : Bool :=
  table.containsCode c.toNat

end RangeTable

/-- A property of characters: its loosely spelled names and the text of its range table. -/
structure PropertyTable where
  names : List String
  text : String

namespace PropertyTable

/-- The entry with a name. -/
def find? (entries : List PropertyTable) (name : String) : Option PropertyTable :=
  entries.find? fun entry => entry.names.contains name

/-- The ranges of an entry. -/
def ranges (entry : PropertyTable) : RangeTable := RangeTable.decode entry.text

/-- The ranges of the entry with a name; none if there is no such entry. -/
def rangesOf (entries : List PropertyTable) (name : String) : RangeTable :=
  ((find? entries name).map ranges).getD []

end PropertyTable

/-- Reads groups of code points: `=` joins the members of a group, anything else ends it. -/
def decodeGroupChars : List Char → (group : List Char) → (number : Option Nat) →
    List (List Char)
  | [], group, number => close group number
  | c :: rest, group, number =>
    match Text.hexValue? c with
    | some d => decodeGroupChars rest group (some (number.getD 0 * 16 + d))
    | none =>
      if c = '=' then decodeGroupChars rest (join group number) none
      else close group number ++ decodeGroupChars rest [] none
where
  /-- The group with the number just read at its end. -/
  join (group : List Char) : Option Nat → List Char
    | some n => group ++ [Char.ofNat n]
    | none => group
  /-- The finished group, if it has members. -/
  close (group : List Char) (number : Option Nat) : List (List Char) :=
    match join group number with
    | [] => []
    | members => [members]

/-- The groups of characters written in `text`. -/
def decodeGroups (text : String) : List (List Char) :=
  decodeGroupChars text.toList [] none

end Highlight.Unicode
