import Highlight.Toml.Value

/-!
# Tables under construction

While a document is read, each table remembers how it came about: by a header, by the dots of a key,
or only as the parent of another table. That decides which later statements may add to it.
-/

namespace Highlight.Toml

/-- A table, an array of tables or a value in a document that is being read. -/
inductive Node where
  | value (v : Value)
  /-- A table; `implicit` if no header or value names it, `dotted` if the dots of a key do. -/
  | table (implicit dotted : Bool) (entries : List (String × Node))
  /-- The tables of an array, the latest first. -/
  | tables (items : List Node)

/-- The entries of a table, in the order in which they were added. -/
abbrev Entries := List (String × Node)

namespace Entries

/-- The entries with another node for a key, which is added at the end if it is new. -/
def put (key : String) (node : Node) : Entries → Entries
  | [] => [(key, node)]
  | (k, n) :: rest => if k == key then (k, node) :: rest else (k, n) :: put key node rest

end Entries

/-- Where an entry is added: how the table at the end of the path came about. -/
structure Place where
  dotted : Bool
  entries : Entries

/-- Changes the table at the end of a path. Missing tables on the way are made; `dotted` when the
path comes from the dots of a key, which may pass only through tables that no header names. -/
def changeAt (dotted : Bool) (change : Place → Option Entries) :
    (path : List String) → Place → Option Entries
  | [], place => change place
  | key :: path, place =>
    match (place.entries.lookup key).getD (.table true dotted []) with
    | .value _ => none
    | .table implicit isDotted entries =>
      if dotted && !implicit then none
      else (changeAt dotted change path ⟨isDotted, entries⟩).map fun entries =>
        Entries.put key (.table implicit isDotted entries) place.entries
    | .tables (.table implicit isDotted entries :: items) =>
      (changeAt dotted change path ⟨isDotted, entries⟩).map fun entries =>
        Entries.put key (.tables (.table implicit isDotted entries :: items)) place.entries
    | .tables _ => none

/-- Adds a value under a key. Dots lead to a table that dots have made, and no key comes twice. -/
def addValue (path : List String) (key : String) (value : Value) (place : Place) :
    Option Entries :=
  changeAt true (fun inner =>
    if inner.dotted == path.isEmpty then none
    else match inner.entries.lookup key with
      | some _ => none
      | none => some (Entries.put key (.value value) inner.entries)) path place

/-- Opens the table of a header. It may have been the parent of other tables before, but neither a
header nor a key may have named it. -/
def openTable (key : String) (place : Place) : Option Entries :=
  match place.entries.lookup key with
  | none => some (Entries.put key (.table false false []) place.entries)
  | some (.table true false entries) =>
    some (Entries.put key (.table false false entries) place.entries)
  | some _ => none

/-- Opens the next table of an array of tables. -/
def openItem (key : String) (place : Place) : Option Entries :=
  match (place.entries.lookup key).getD (.tables []) with
  | .tables items => some (Entries.put key (.tables (.table false false [] :: items)) place.entries)
  | _ => none

mutual

/-- The value that a finished node stands for. -/
def Node.toValue : Node → Value
  | .value v => v
  | .table _ _ entries => .table (entryValues entries)
  | .tables items => .array (itemValues items [])

/-- The values of finished entries. -/
def entryValues : List (String × Node) → List (String × Value)
  | [] => []
  | (key, node) :: rest => (key, node.toValue) :: entryValues rest

/-- The values of the tables of an array, which are given latest first. -/
def itemValues : List Node → List Value → List Value
  | [], values => values
  | node :: rest, values => itemValues rest (node.toValue :: values)

end

end Highlight.Toml
