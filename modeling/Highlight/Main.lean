import Highlight.CommandLine

/-!
# The program

Connects the command line to the files, the environment and the output of the system.
-/

namespace Highlight

/-- What a failure of the system means. -/
def fileError : IO.Error → FileError
  | .noFileOrDirectory .. => .notFound
  | .inappropriateType .. => .notDirectory
  | error => .other (toString error)

/-- The files of the system. -/
def systemFiles : Files IO where
  read path := do
    if path.isEmpty then return .error .notFound
    try
      if ← ((← IO.currentDir).join path).isDir then return .error .isDirectory
      let content ← IO.FS.readBinFile path
      match String.fromUTF8? content with
      | some text => return .ok text
      | none => return .error .notUtf8
    catch error => return .error (fileError error)
  list path := do
    if path.isEmpty then return .error .notFound
    try
      let entries ← ((← IO.currentDir).join path).readDir
      return .ok (entries.toList.map (·.fileName))
    catch error => return .error (fileError error)

end Highlight

open Highlight in
/-- Runs the program on its arguments. -/
def main (arguments : List String) : IO UInt32 := do
  let environment : Environment :=
    { settingsPath := ← IO.getEnv "GLYPHLIGHT_CONFIG", home := ← IO.getEnv "HOME" }
  let outcome ← CommandLine.run systemFiles environment arguments
  IO.print outcome.output
  if let some text := outcome.errorText? then IO.eprintln text
  return outcome.status.toUInt32
