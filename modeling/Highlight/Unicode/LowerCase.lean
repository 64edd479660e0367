import Highlight.Unicode.TextTable

/-!
# Lower case

The lower case of characters and of texts. A capital sigma is written `ς` at the end of a word and
`σ` elsewhere; every other character has the same lower case wherever it stands.
-/

namespace Highlight.Unicode

/-- The characters above ASCII that differ from their lower case, with it. -/
def lowerCaseTable : List (List Char) := decodeGroups lowerCaseGroups

/-- The ranges of the characters that have a case. -/
def casedTable : RangeTable := RangeTable.decode casedRanges

/-- The ranges of the characters that a search for a cased neighbour passes over. -/
def caseIgnorableTable : RangeTable := RangeTable.decode caseIgnorableRanges

/-- The lower case of a character, one or two characters. -/
def lowerCase (c : Char) : List Char :=
  if c.toNat < 128 then [c.toLower]
  else match lowerCaseTable.find? (fun group => group.head? == some c) with
    | some (_ :: lower) => lower
    | _ => [c]

/-- The first character of the lower case of a character. -/
def lowerCaseHead (c : Char) : Char :=
  (lowerCase c).headD c

/-- Whether the first character that is not passed over has a case. -/
def nextIsCased : List Char → Bool
  | [] => false
  | c :: rest => if caseIgnorableTable.contains c then nextIsCased rest else casedTable.contains c

/-- The lower case of `rest`; `before` holds the characters in front of it, the nearest first. -/
def lowerCaseFrom (before : List Char) : List Char → List Char
  | [] => []
  | c :: rest =>
    let lower :=
      if c == 'Σ' then
        if nextIsCased before && !nextIsCased rest then ['ς'] else ['σ']
      else lowerCase c
    lower ++ lowerCaseFrom (c :: before) rest

/-- The lower case of a text. -/
def lowerCaseText (text : String) : String :=
  String.ofList (lowerCaseFrom [] text.toList)

end Highlight.Unicode
