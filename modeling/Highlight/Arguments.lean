/-!
# Arguments of the command line

Arguments are read from left to right. An option with a value takes the argument behind it as it is;
asking for help or for the version ends the reading at once.
-/

namespace Highlight

/-- What a command line asks to be highlighted, and how. -/
structure Options where
  file : Option String := none
  language : Option String := none
  languageFiles : List String := []
  tooltips : List String := []
  verbosity : Nat := 0
deriving Repr, DecidableEq

/-- What a command line asks for. -/
inductive Command where
  | help
  | version
  | highlight (options : Options)
deriving Repr, DecidableEq

/-- What can be wrong with a command line. -/
inductive ArgumentError where
  | unknownOption (option : String)
  | unexpectedArgument (argument : String)
  | missingValue (option : String)
deriving Repr, DecidableEq

/-- The wording of an error. -/
def ArgumentError.message : ArgumentError → String
  | unknownOption option => "unknown option: " ++ option
  | unexpectedArgument argument => "unexpected argument: " ++ argument
  | missingValue option => option ++ " needs a value"

namespace Command

/-- The greatest verbosity that is told apart. -/
def maxVerbosity : Nat := 255

/-- The options with more verbosity. -/
def moreVerbose (options : Options) (n : Nat) : Options :=
  { options with verbosity := min (options.verbosity + n) maxVerbosity }

/-- Reads the rest of a command line. -/
def parseFrom (options : Options) : List String → Except ArgumentError Command
  | [] => .ok (.highlight options)
  | argument :: rest =>
    if argument = "--help" ∨ argument = "-h" then .ok .help
    else if argument = "--version" ∨ argument = "-V" then .ok .version
    else if argument = "--lang" ∨ argument = "-l" then
      match rest with
      | [] => .error (.missingValue argument)
      | value :: rest => parseFrom { options with language := some value } rest
    else if argument = "--language-file" then
      match rest with
      | [] => .error (.missingValue argument)
      | value :: rest =>
        parseFrom { options with languageFiles := options.languageFiles ++ [value] } rest
    else if argument = "--tooltip" ∨ argument = "-t" then
      match rest with
      | [] => .error (.missingValue argument)
      | value :: rest => parseFrom { options with tooltips := options.tooltips ++ [value] } rest
    else if argument = "-v" ∨ argument = "--verbose" then parseFrom (moreVerbose options 1) rest
    else if argument = "-vv" then parseFrom (moreVerbose options 2) rest
    else if argument.startsWith "-" then .error (.unknownOption argument)
    else if options.file.isSome then .error (.unexpectedArgument argument)
    else parseFrom { options with file := some argument } rest

/-- Reads a command line. -/
def parse (arguments : List String) : Except ArgumentError Command :=
  parseFrom {} arguments

end Command

end Highlight
