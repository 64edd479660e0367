import Highlight.Toml.Number
import Highlight.Toml.Text
import Highlight.Toml.Tree

/-!
# Reading TOML documents

A document is a sequence of statements, one to a line: a key with its value, the header of a
table, or the header of the next table in an array. `parse?` gives the table of the whole
document, or nothing if it is not well formed.
-/

namespace Highlight.Toml

/-- Collects the pairs of an inline table. -/
def inlineTable (pairs : List (List String × String × Value)) : Option Value := do
  let entries ← pairs.foldlM (fun entries (path, key, value) =>
    addValue path key value ⟨false, entries⟩) []
  return .table (entryValues entries)

/-- The path to a key and the key itself. -/
def splitKey (parts : List String) : List String × String :=
  (parts.dropLast, parts.getLastD "")

mutual

/-- Reads a value. `depth` is the number of arrays and inline tables that may still be entered, and
`fuel` exceeds the number of characters left. -/
def readValue (depth : Nat) : (fuel : Nat) → List Char → Option (Value × List Char)
  | 0, _ => none
  | fuel + 1, cs =>
    match cs with
    | '"' :: _ => (readString cs).map fun (text, rest) => (.string (String.ofList text), rest)
    | '\'' :: _ => (readString cs).map fun (text, rest) => (.string (String.ofList text), rest)
    | 't' :: 'r' :: 'u' :: 'e' :: rest => some (.boolean true, rest)
    | 'f' :: 'a' :: 'l' :: 's' :: 'e' :: rest => some (.boolean false, rest)
    | '[' :: rest =>
      match depth with
      | 0 => none
      | depth + 1 => (readItems depth fuel rest).map fun (items, rest) => (.array items, rest)
    | '\x7b' :: rest =>
      match depth with
      | 0 => none
      | depth + 1 => do
        match skipBlanks rest with
        | '\x7d' :: rest => return (.table [], rest)
        | _ =>
          let (pairs, rest) ← readPairs depth fuel rest
          let value ← inlineTable pairs
          return (value, rest)
    | cs => readNumber cs

/-- Reads the items of an array up to its closing bracket; a comma may stand behind the last one. -/
def readItems (depth : Nat) : (fuel : Nat) → List Char → Option (List Value × List Char)
  | 0, _ => none
  | fuel + 1, cs =>
    match skipLines false cs with
    | ']' :: rest => some ([], rest)
    | cs => do
      let (value, rest) ← readValue depth fuel cs
      match skipLines false rest with
      | ',' :: rest =>
        let (values, rest) ← readItems depth fuel rest
        return (value :: values, rest)
      | ']' :: rest => return ([value], rest)
      | _ => none

/-- Reads the pairs of an inline table up to its closing brace. -/
def readPairs (depth : Nat) : (fuel : Nat) → List Char →
    Option (List (List String × String × Value) × List Char)
  | 0, _ => none
  | fuel + 1, cs => do
    let (parts, rest) ← readKey cs
    let rest ← readChar '=' rest
    let (value, rest) ← readValue depth fuel (skipBlanks rest)
    let (path, key) := splitKey parts
    match skipBlanks rest with
    | ',' :: rest =>
      let (pairs, rest) ← readPairs depth fuel rest
      return ((path, key, value) :: pairs, rest)
    | '\x7d' :: rest => return ([(path, key, value)], rest)
    | _ => none

end

/-- A document as far as it has been read: its entries, and the path of the header in force. -/
structure Draft where
  entries : Entries := []
  header : List String := []

namespace Draft

/-- Applies a change to the table that a path leads to. -/
def changeTable (draft : Draft) (path : List String) (change : Place → Option Entries) :
    Option Entries :=
  changeAt false change path ⟨false, draft.entries⟩

/-- Reads a key with its value. -/
def readPair (draft : Draft) (cs : List Char) : Option (Draft × List Char) := do
  let (parts, rest) ← readKey cs
  let rest ← readChar '=' rest
  let (value, rest) ← readValue maxDepth (rest.length + 1) (skipBlanks rest)
  let rest ← readLineEnd rest
  let (path, key) := splitKey parts
  let entries ← draft.changeTable draft.header (addValue path key value)
  return ({ draft with entries }, rest)

/-- Reads a header after its opening brackets. -/
def readHeader (draft : Draft) (isItem : Bool) (cs : List Char) : Option (Draft × List Char) := do
  let (parts, rest) ← readKey cs
  let rest ← readChar ']' rest
  let rest ← if isItem then readChar ']' rest else some rest
  let rest ← readLineEnd rest
  let (path, key) := splitKey parts
  let entries ← draft.changeTable path (if isItem then openItem key else openTable key)
  return ({ entries, header := parts }, rest)

/-- Reads the statements of a document; `fuel` exceeds the number of characters left. -/
def readStatements : (fuel : Nat) → Draft → List Char → Option Draft
  | 0, _, _ => none
  | fuel + 1, draft, cs =>
    match skipBlanks cs with
    | [] => some draft
    | '#' :: rest => do
      let rest ← readLineEnd ('#' :: rest)
      readStatements fuel draft rest
    | '[' :: '[' :: rest => do
      let (draft, rest) ← draft.readHeader true rest
      readStatements fuel draft rest
    | '[' :: rest => do
      let (draft, rest) ← draft.readHeader false rest
      readStatements fuel draft rest
    | '\n' :: rest => readStatements fuel draft rest
    | '\r' :: '\n' :: rest => readStatements fuel draft rest
    | cs => do
      let (draft, rest) ← draft.readPair cs
      readStatements fuel draft rest

end Draft

/-- The entries of the document that a text writes. A mark for the order of bytes may stand in
front. -/
def parse? (text : String) : Option (List (String × Value)) := do
  let cs := match text.toList with
    | '\ufeff' :: rest => rest
    | cs => cs
  let draft ← Draft.readStatements (cs.length + 1) {} cs
  return entryValues draft.entries

end Highlight.Toml
