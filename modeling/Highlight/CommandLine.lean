import Highlight.Arguments
import Highlight.HighlightCache
import Highlight.LanguageFile
import Highlight.Registry
import Highlight.Settings
import Highlight.Terminal

/-!
# The command line

The program writes a source file with its colors. It colors the lines as an editor would, through a
highlight cache and pass by pass. What it has written before a failure stays written.
-/

namespace Highlight

/-- Why the program fails. -/
inductive RunError where
  | arguments (cause : ArgumentError)
  | noInput
  | unknownLanguage (cause : UnknownLanguage)
  | language (cause : LanguageError)
  | languageFile (cause : LoadError)
  | file (cause : FileError)
deriving Repr, DecidableEq

/-- The wording of an error. -/
def RunError.message : RunError → String
  | arguments cause => cause.message
  | noInput => "no input file"
  | unknownLanguage cause => cause.message
  | language cause => cause.message
  | languageFile cause => cause.message
  | file cause => "I/O error: " ++ cause.message

/-- What a run of the program has written, and how it failed if it did. -/
structure Outcome where
  output : String
  failure : Option RunError := none
deriving Repr, DecidableEq

namespace Outcome

/-- The status that the program ends with. -/
def status (outcome : Outcome) : Nat :=
  if outcome.failure.isSome then 1 else 0

/-- What the program writes to standard error about a failure. -/
def errorText? (outcome : Outcome) : Option String :=
  outcome.failure.map fun failure => "Error: " ++ failure.message

end Outcome

namespace CommandLine

/-- The version of the program. -/
def version : String := "0.1.0"

/-- What the program says about its version. -/
def versionText : String := "glyphlight " ++ version ++ "\n"

/-- What the program says about its use. -/
def usageText : String := String.join ([
  "glyphlight " ++ version ++ " - per-line syntax highlighter",
  "",
  "Usage: glyphlight [OPTIONS] [FILE]",
  "",
  "Options:",
  "  -l, --lang NAME          Use language NAME instead of detecting it",
  "      --language-file PATH Load an extra TOML language table",
  "  -t, --tooltip WORD       Print the tooltip for WORD",
  "  -v, --verbose            More logging (repeat for more)",
  "  -h, --help               Show this help message",
  "  -V, --version            Show version information",
  "",
  "Built-in languages: C, C#, Lua, Python, SQL",
  "Settings are read from ~/.glyphlight.conf"].map (· ++ "\n"))

/-- What is written about a word. -/
def tooltipLine (highlighter : Highlighter) (word : String) : String :=
  word ++ ": " ++ (highlighter.tooltip? word).getD "(no tooltip)" ++ "\n"

/-- The lines of a text, without colors. -/
def bufferOf (text : String) : Buffer :=
  (Text.lines text.toList).map (Line.ofChars · .plain)

/-- What is written for the text of a file. -/
def render (settings : Settings) (highlighter : Highlighter) (text : String) : String :=
  let (_, lines, _) := HighlightCache.settle highlighter {} (bufferOf text)
  let terminal : Terminal := { color := settings.color, tabWidth := settings.tabWidth }
  terminal.writeLines lines

/-- Registers the languages of the settings' directory; a directory that cannot be read holds
none. -/
def addDirectory {m : Type → Type} [Monad m] (files : Files m) (settings : Settings)
    (registry : Registry) : m (Except LanguageError Registry) :=
  match settings.languageDirectory with
  | none => return .ok registry
  | some directory => do
    match ← Language.loadDirectory files directory with
    | .error _ => return .ok registry
    | .ok languages => return languages.foldlM Registry.addLanguage registry

/-- Registers the languages of language files, the first fault ending it. -/
def addFiles {m : Type → Type} [Monad m] (files : Files m) (registry : Registry) :
    List String → m (Except RunError Registry)
  | [] => return .ok registry
  | path :: paths => do
    match ← Language.load files path with
    | .error cause => return .error (.languageFile cause)
    | .ok language =>
      match registry.addLanguage language with
      | .error cause => return .error (.language cause)
      | .ok registry => addFiles files registry paths

/-- The name of the language that the options ask for or that the file has. -/
def languageName (registry : Registry) (options : Options) : Except RunError String :=
  match options.language, options.file with
  | some name, _ => .ok name
  | none, some file =>
    match registry.detect? file with
    | some name => .ok name
    | none => .error (.unknownLanguage ⟨file⟩)
  | none, none => .error .noInput

/-- The highlighter that the options ask for, with all languages registered. -/
def highlighterFor {m : Type → Type} [Monad m] (files : Files m) (settings : Settings)
    (options : Options) : m (Except RunError Highlighter) := do
  match Registry.withMaxLines settings.maxLinesPerFrame with
  | .error cause => return .error (.language cause)
  | .ok registry =>
    match ← addDirectory files settings registry with
    | .error cause => return .error (.language cause)
    | .ok registry =>
      match ← addFiles files registry options.languageFiles with
      | .error cause => return .error cause
      | .ok registry =>
        return do
          let name ← languageName registry options
          (registry.require name).mapError .unknownLanguage

/-- Writes what the options ask for. -/
def highlight {m : Type → Type} [Monad m] (files : Files m) (environment : Environment)
    (options : Options) : m Outcome := do
  let settings ← Settings.load files environment
  match ← highlighterFor files settings options with
  | .error failure => return { output := "", failure := some failure }
  | .ok highlighter =>
    let tooltips := String.join (options.tooltips.map (tooltipLine highlighter))
    match options.file with
    | none => return { output := tooltips }
    | some file =>
      match ← files.read file with
      | .error cause => return { output := tooltips, failure := some (.file cause) }
      | .ok text => return { output := tooltips ++ render settings highlighter text }

/-- Runs the program. -/
def run {m : Type → Type} [Monad m] (files : Files m) (environment : Environment)
    (arguments : List String) : m Outcome :=
  match Command.parse arguments with
  | .error cause => return { output := "", failure := some (.arguments cause) }
  | .ok .help => return { output := usageText }
  | .ok .version => return { output := versionText }
  | .ok (.highlight options) => highlight files environment options

end CommandLine

end Highlight
