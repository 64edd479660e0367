import Highlight.Path

/-!
# Files

What the program asks of a file system: the text of a file, and the names in a directory. The
operations answer in a monad, so that the same program runs on a real file system and on a
`FileTree`, which holds the contents of some files as they are.
-/

namespace Highlight

/-- Why a file or a directory cannot be read. -/
inductive FileError where
  | notFound
  | notDirectory
  | isDirectory
  | nameTooLong
  | nulInPath
  | notUtf8
  /-- A failure that the system describes. -/
  | other (description : String)
deriving Repr, DecidableEq

/-- The wording of an error. -/
def FileError.message : FileError → String
  | notFound => "No such file or directory (os error 2)"
  | notDirectory => "Not a directory (os error 20)"
  | isDirectory => "Is a directory (os error 21)"
  | nameTooLong => "File name too long (os error 36)"
  | nulInPath => "file name contained an unexpected NUL byte"
  | notUtf8 => "stream did not contain valid UTF-8"
  | other description => description

/-- A file system. -/
structure Files (m : Type → Type) where
  /-- The text of the file at a path. -/
  read : String → m (Except FileError String)
  /-- The names in the directory at a path. -/
  list : String → m (Except FileError (List String))

/-- Files by the parts of their paths; every part but the last names a directory. The directories
above the tree are there, but nothing that is in them has a name. -/
structure FileTree where
  files : List (List String × ByteArray)

namespace FileTree

/-- A directory: one of the tree, by the parts of its path, or one above the tree. -/
inductive Directory where
  | inside (path : List String)
  | above
deriving Repr, DecidableEq

/-- What a path can lead to. -/
inductive Entry where
  | file (content : ByteArray)
  | directory (directory : Directory)

/-- The largest number of bytes in a path. -/
def maxPathLength : Nat := 4095

/-- The largest number of bytes in a part of a path. -/
def maxPartLength : Nat := 255

/-- Whether a path is that of a directory. -/
def isDirectory (tree : FileTree) (path : List String) : Bool :=
  path.isEmpty || tree.files.any fun file => path.isPrefixOf file.1 && path != file.1

/-- The directory that a directory is in. -/
def Directory.parent : Directory → Directory
  | inside [] => above
  | inside path => inside path.dropLast
  | above => above

/-- Follows the parts of a path from a directory on. -/
def follow (tree : FileTree) (directory : Directory) : List String → Except FileError Entry
  | [] => .ok (.directory directory)
  | part :: rest =>
    if part = "" ∨ part = "." then tree.follow directory rest
    else if part = ".." then tree.follow directory.parent rest
    else if maxPartLength < part.utf8ByteSize then .error .nameTooLong
    else match directory with
      | .above => .error .notFound
      | .inside path =>
        let path := path ++ [part]
        match tree.files.lookup path with
        | some content => if rest.isEmpty then .ok (.file content) else .error .notDirectory
        | none =>
          if tree.isDirectory path then tree.follow (.inside path) rest else .error .notFound

/-- What a path leads to. -/
def entry (tree : FileTree) (path : String) : Except FileError Entry :=
  if path.contains '\x00' then .error .nulInPath
  else if path = "" then .error .notFound
  else if maxPathLength < path.utf8ByteSize then .error .nameTooLong
  else tree.follow (if path.startsWith "/" then .above else .inside []) (Path.parts path)

/-- The text of the file at a path. -/
def read (tree : FileTree) (path : String) : Except FileError String := do
  match ← tree.entry path with
  | .directory _ => throw .isDirectory
  | .file content =>
    match String.fromUTF8? content with
    | some text => return text
    | none => throw .notUtf8

/-- The names in the directory at a path. -/
def list (tree : FileTree) (path : String) : Except FileError (List String) := do
  match ← tree.entry path with
  | .file _ => throw .notDirectory
  | .directory .above => return []
  | .directory (.inside path) =>
    return (tree.files.filterMap fun file =>
      if path.isPrefixOf file.1 then file.1[path.length]? else none).eraseDups

/-- The file system that holds the files of a tree. -/
def toFiles (tree : FileTree) : Files Id where
  read := tree.read
  list := tree.list

end FileTree

end Highlight
