import Highlight.Regex.CharClass
import Highlight.Unicode.Age
import Highlight.Unicode.BinaryProperty
import Highlight.Unicode.GeneralCategory
import Highlight.Unicode.Script
import Highlight.Unicode.ScriptExtension
import Highlight.Unicode.Segmentation

/-!
# Properties by name

A pattern may name a property of characters, either alone (`Greek`, `Lu`, `Alphabetic`) or with a
value (`script=Greek`). Names are spelled loosely: letter case, blanks, underscores, dashes and a
leading `is` do not count. A lone name is a property first, then a general category, then a script.
-/

namespace Highlight.Regex

open Highlight.Unicode

/-- A property asked for by name, or by the name of a property and its value. -/
inductive PropertyQuery where
  | named (name : String)
  | valued (name value : String)
deriving Repr, DecidableEq

namespace PropertyQuery

/-- The name without what does not count; `isc` keeps its `is`, for it is a name of its own. -/
def normalize (name : String) : String :=
  let kept (cs : List Char) : List Char :=
    (cs.filter fun c => c.toNat < 128 && c != ' ' && c != '_' && c != '-').map Char.toLower
  match name.toList with
  | a :: b :: rest =>
    if (a == 'i' || a == 'I') && (b == 's' || b == 'S') then
      if kept rest == ['c'] then "isc" else String.ofList (kept rest)
    else String.ofList (kept (a :: b :: rest))
  | short => String.ofList (kept short)

/-- The characters of the entry with a name. -/
def lookup (entries : List PropertyTable) (name : String) : Option CharClass :=
  (PropertyTable.find? entries name).map fun entry => .tables [entry.ranges]

/-- The characters of a general category or of a group of them. -/
def category? (name : String) : Option CharClass :=
  if name = "any" then some .any
  else if name = "assigned" then
    some (.compl (.tables [PropertyTable.rangesOf generalCategories "cn"]))
  else if name = "ascii" then some (.range '\x00' '\x7f')
  else match categoryGroups.find? fun group => group.1.contains name with
    | some group => some (.tables (group.2.map (PropertyTable.rangesOf generalCategories)))
    | none => lookup generalCategories name

/-- The characters of a script. -/
def script? (name : String) : Option CharClass := lookup scripts name

/-- The characters a script is used with. -/
def scriptExtension? (name : String) : Option CharClass :=
  (lookup scriptExtensions name).or (script? name)

/-- The characters that a version of Unicode holds: those that came with it or with an older one. -/
def age? (name : String) : Option CharClass :=
  (PropertyTable.find? ages name).map fun last =>
    .tables ((ages.takeWhile (·.names ≠ last.names) ++ [last]).map PropertyTable.ranges)

/-- What the values of a property stand for, by the name of the property. -/
def values? (name : String) : Option (String → Option CharClass) :=
  if name = "gc" ∨ name = "generalcategory" then some category?
  else if name = "sc" ∨ name = "script" then some script?
  else if name = "scx" ∨ name = "scriptextensions" then some scriptExtension?
  else if name = "age" then some age?
  else if name = "gcb" ∨ name = "graphemeclusterbreak" then some (lookup graphemeClusterBreaks)
  else if name = "wb" ∨ name = "wordbreak" then some (lookup wordBreaks)
  else if name = "sb" ∨ name = "sentencebreak" then some (lookup sentenceBreaks)
  else none

/-- The characters with the property asked for, if there is such a property. -/
def resolve : PropertyQuery → Option CharClass
  | named name =>
    let name := normalize name
    (lookup binaryProperties name).or ((category? name).or (script? name))
  | valued name value => do
    let read ← values? (normalize name)
    read (normalize value)

end PropertyQuery

end Highlight.Regex
