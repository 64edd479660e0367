import Highlight.Files
import Highlight.Language
import Highlight.Toml.Document

/-!
# Language files

Language tables are read from TOML documents. A document has to hold the fields of a table and no
others; colors are given by name. A directory of language files is read in the order of their names,
and files that hold no table are passed over.
-/

namespace Highlight

/-- A rule as it stands in a language file. -/
structure RuleEntry where
  pattern : String
  color : String
deriving Repr, DecidableEq

/-- The fields of a language file. -/
structure LanguageFile where
  name : String
  extensions : List String := []
  keywords : List String := []
  identifiers : List String := []
  rules : List RuleEntry := []
  lineComment : String := ""
  commentStart : String := ""
  commentEnd : String := ""
  preprocessor : Option Char := none
  caseSensitive : Bool := true
  autoIndentation : Bool := true
deriving Repr, DecidableEq

/-- Why a language file gives no table. -/
inductive LoadError where
  | unreadable (cause : FileError)
  /-- The file is no TOML document or has other fields than it should. -/
  | malformed (origin : String)
  | unknownColor (name : String)
  | invalid (cause : LanguageError)
deriving Repr, DecidableEq

/-- The wording of an error. -/
def LoadError.message : LoadError → String
  | unreadable cause => "I/O error: " ++ cause.message
  | malformed origin => "invalid language file " ++ origin
  | unknownColor name => "unknown color category: " ++ name
  | invalid cause => cause.message

namespace RuleEntry

/-- The names of the fields of a rule. -/
def fields : List String := ["pattern", "color"]

/-- The rule that a value stands for: a table with both fields, or an array that begins with their
values. -/
def ofValue? : Toml.Value → Option RuleEntry
  | .table entries => do
    guard (entries.all fun entry => fields.contains entry.1)
    let pattern ← (← entries.lookup "pattern").string?
    let color ← (← entries.lookup "color").string?
    return { pattern, color }
  | .array (.string pattern :: .string color :: _) => some { pattern, color }
  | _ => none

end RuleEntry

namespace LanguageFile

/-- The names of the fields of a language file. -/
def fields : List String :=
  ["name", "extensions", "keywords", "identifiers", "rules", "single_line_comment",
    "comment_start", "comment_end", "preproc_char", "case_sensitive", "auto_indentation"]

/-- The list of texts that a value stands for. -/
def strings? (value : Toml.Value) : Option (List String) :=
  value.array?.bind (·.mapM Toml.Value.string?)

/-- The list of rules that a value stands for. -/
def rules? (value : Toml.Value) : Option (List RuleEntry) :=
  value.array?.bind (·.mapM RuleEntry.ofValue?)

/-- The character that a value stands for: a text of that character alone. -/
def char? (value : Toml.Value) : Option Char :=
  match value.string?.map String.toList with
  | some [c] => some c
  | _ => none

/-- The value of a field that may be missing. -/
def field {α : Type} (entries : List (String × Toml.Value)) (key : String) (default : α)
    (read : Toml.Value → Option α) : Option α :=
  match entries.lookup key with
  | none => some default
  | some value => read value

/-- The language file that a document stands for. -/
def ofEntries? (entries : List (String × Toml.Value)) : Option LanguageFile := do
  guard (entries.all fun entry => fields.contains entry.1)
  let name ← (← entries.lookup "name").string?
  let extensions ← field entries "extensions" [] strings?
  let keywords ← field entries "keywords" [] strings?
  let identifiers ← field entries "identifiers" [] strings?
  let rules ← field entries "rules" [] rules?
  let lineComment ← field entries "single_line_comment" "" Toml.Value.string?
  let commentStart ← field entries "comment_start" "" Toml.Value.string?
  let commentEnd ← field entries "comment_end" "" Toml.Value.string?
  let preprocessor ← field entries "preproc_char" none fun value => (char? value).map some
  let caseSensitive ← field entries "case_sensitive" true Toml.Value.boolean?
  let autoIndentation ← field entries "auto_indentation" true Toml.Value.boolean?
  return { name, extensions, keywords, identifiers, rules, lineComment, commentStart, commentEnd,
           preprocessor, caseSensitive, autoIndentation }

/-- The rule with its color looked up. -/
def toRule (entry : RuleEntry) : Except LoadError Rule :=
  match Category.ofName? entry.color with
  | some category => .ok { pattern := entry.pattern, category }
  | none => .error (.unknownColor entry.color)

/-- The table of a language file, checked but with its patterns as they are. -/
def toLanguage (file : LanguageFile) : Except LoadError Language := do
  let rules ← file.rules.mapM toRule
  let language : Language :=
    { name := file.name
      extensions := file.extensions
      keywords := file.keywords
      identifiers := file.identifiers
      rules
      lineComment := file.lineComment
      commentStart := file.commentStart
      commentEnd := file.commentEnd
      preprocessor := file.preprocessor
      caseSensitive := file.caseSensitive
      autoIndentation := file.autoIndentation }
  match language.validate with
  | .ok () => return language
  | .error cause => throw (.invalid cause)

end LanguageFile

namespace Language

/-- Reads a table from the text of a language file; `origin` says where the text comes from. -/
def parse (text origin : String) : Except LoadError Language :=
  match (Toml.parse? text).bind LanguageFile.ofEntries? with
  | some file => file.toLanguage
  | none => .error (.malformed origin)

/-- Reads a table from a file. -/
def load {m : Type → Type} [Monad m] (files : Files m) (path : String) :
    m (Except LoadError Language) := do
  match ← files.read path with
  | .ok text => return parse text path
  | .error cause => return .error (.unreadable cause)

/-- The paths of the language files among the names of a directory, in order. -/
def pathsIn (directory : String) (names : List String) : List String :=
  ((names.filter fun name => Path.extension? name == some "toml").mergeSort (· ≤ ·)).map
    (Path.join directory)

/-- Reads the tables of a directory and passes over the files that give none. -/
def loadDirectory {m : Type → Type} [Monad m] (files : Files m) (directory : String) :
    m (Except FileError (List Language)) := do
  match ← files.list directory with
  | .error cause => return .error cause
  | .ok names =>
    let loaded ← (pathsIn directory names).mapM (load files)
    return .ok (loaded.filterMap Except.toOption)

end Language

end Highlight
