/-!
# Paths

Paths are texts whose parts are divided by slashes. Empty parts and single dots lead nowhere.
-/

namespace Highlight.Path

/-- The parts of a path, empty ones included. -/
def parts (path : String) : List String :=
  (path.toList.splitOn '/').map String.ofList

/-- The name of the file that a path leads to, unless it ends by going up. -/
def fileName? (path : String) : Option String :=
  match ((parts path).filter fun part => part ≠ "" ∧ part ≠ ".").getLast? with
  | some ".." => none
  | name => name

/-- The extension of a file name: what follows its last dot, unless that dot is at the beginning. -/
def extension? (path : String) : Option String :=
  match fileName? path with
  | none => none
  | some name =>
    match name.toList.reverse.span (· != '.') with
    | (_, []) => none
    | (_, [_]) => none
    | (extension, _) => some (String.ofList extension.reverse)

/-- The path to a name seen from a directory. -/
def join (directory name : String) : String :=
  if name.startsWith "/" ∨ directory = "" then name
  else if directory.endsWith "/" then directory ++ name
  else directory ++ "/" ++ name

end Highlight.Path
