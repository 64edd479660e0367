import Highlight.Files
import Highlight.Highlighter
import Highlight.Text.Digit
import Highlight.Text.Lines
import Highlight.Unicode.LowerCase
import Std.Data.TreeMap

/-!
# Settings

A settings file has one `key = value` to a line. Letter case does not count in keys, lines that
begin with `#` and lines without an equals sign are passed over, and of several lines for a key
the last one counts, even if its value is not valid.
-/

namespace Highlight

/-- The settings of the program. -/
structure Settings where
  /-- The number of lines that a highlighter colors in one pass. -/
  maxLinesPerFrame : Nat := Highlighter.defaultMaxLines
  /-- The directory of further language files. -/
  languageDirectory : Option String := none
  /-- Whether colors are written. -/
  color : Bool := true
  tabWidth : Nat := 4
deriving Repr, DecidableEq

/-- The part of the environment that says where the settings are. -/
structure Environment where
  /-- The path of the settings file, if it is given. -/
  settingsPath : Option String := none
  /-- The directory of the user. -/
  home : Option String := none
deriving Repr, DecidableEq

namespace Settings

/-- The name of the settings file in the directory of the user. -/
def fileName : String := ".glyphlight.conf"

/-- Where the settings file is looked for. -/
def path? (environment : Environment) : Option String :=
  environment.settingsPath.or (environment.home.map (Path.join · fileName))

/-- The key and the value of a line. -/
def readLine? (line : List Char) : Option (String × String) :=
  match Text.trim line with
  | [] => none
  | '#' :: _ => none
  | line => (Text.splitOnce '=' line).map fun (key, value) =>
    (Unicode.lowerCaseText (String.ofList (Text.trim key)), String.ofList (Text.trim value))

/-- The values of a settings file by their keys. -/
def readValues (text : String) : Std.TreeMap String String :=
  ((Text.lines text.toList).filterMap readLine?).foldl
    (fun values (key, value) => values.insert key value) {}

/-- The greatest number that a value may be. -/
def maxNumber : Nat := 18446744073709551615

/-- The number that a value writes: decimal digits, with a plus in front or without. -/
def number? (value : String) : Option Nat :=
  let digits := match value.toList with
    | '+' :: digits => digits
    | digits => digits
  (Text.decimalNumber? digits).filter (· ≤ maxNumber)

/-- The number within bounds that a value writes, or a default if it writes none. -/
def boundedNumber (low high default : Nat) (value : Option String) : Nat :=
  match value.bind number? with
  | some n => max low (min n high)
  | none => default

/-- Whether a value says yes. -/
def isYes (value : String) : Bool :=
  ["true", "yes", "on", "1"].contains (Unicode.lowerCaseText value)

/-- The settings that values stand for. -/
def ofValues (values : Std.TreeMap String String) : Settings where
  maxLinesPerFrame :=
    boundedNumber 1 100000 Highlighter.defaultMaxLines values["max-lines-per-frame"]?
  languageDirectory := values["language-dir"]?.filter (· ≠ "")
  color := (values["color"]?.map isYes).getD true
  tabWidth := boundedNumber 1 16 4 values["tab-width"]?

/-- The settings of a settings file. -/
def parse (text : String) : Settings :=
  ofValues (readValues text)

/-- Reads the settings; a file that cannot be read leaves all of them at their defaults. -/
def load {m : Type → Type} [Monad m] (files : Files m) (environment : Environment) :
    m Settings := do
  match path? environment with
  | none => return {}
  | some path =>
    match ← files.read path with
    | .ok text => return parse text
    | .error _ => return {}

end Settings

end Highlight
