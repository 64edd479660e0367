import Highlight.Language

/-!
# The language table of C#
-/

namespace Highlight.Builtin

/-- The table of C#. There is a tokenizer for it alone, which uses its words but not its rules. -/
def csharp : Language where
  name := "C#"
  extensions := ["cs", "csx"]
  keywords := [
    "abstract", "as", "base", "bool", "break", "byte", "case", "catch", "char", "checked",
    "class", "const", "continue", "decimal", "default", "delegate", "do", "double", "else",
    "enum", "event", "explicit", "extern", "false", "finally", "fixed", "float", "for", "foreach",
    "goto", "if", "implicit", "in", "int", "interface", "internal", "is", "lock", "long",
    "namespace", "new", "null", "object", "operator", "out", "override", "params", "private",
    "protected", "public", "readonly", "ref", "return", "sbyte", "sealed", "short", "sizeof",
    "stackalloc", "static", "string", "struct", "switch", "this", "throw", "true", "try",
    "typeof", "uint", "ulong", "unchecked", "unsafe", "ushort", "using", "virtual", "void",
    "volatile", "while", "add", "alias", "and", "async", "await", "dynamic", "get", "global",
    "init", "nameof", "nint", "not", "notnull", "nuint", "or", "partial", "record", "remove",
    "required", "set", "value", "var", "when", "where", "with", "yield"]
  identifiers := [
    "Action", "Array", "Console", "DateTime", "Dictionary", "Enumerable", "Exception", "Func",
    "HashSet", "IDisposable", "IEnumerable", "List", "Math", "Nullable", "Object", "Span",
    "String", "StringBuilder", "Task", "TimeSpan", "Tuple", "Type", "ValueTask"]
  lineComment := "//"
  commentStart := "/*"
  commentEnd := "*/"
  preprocessor := some '#'
  rules := [
    ⟨"@\"(?:[^\"]|\"\")*\"", .string⟩,
    ⟨"\\$?\"(?:[^\"\\\\]|\\\\.)*\"", .string⟩,
    ⟨"'(?:\\\\.|[^'\\\\])'", .charLiteral⟩,
    ⟨"0[xX][0-9a-fA-F_]+[uUlL]*", .number⟩,
    ⟨"[0-9][0-9_]*(?:\\.[0-9_]*)?(?:[eE][+-]?[0-9]+)?[fFdDmMuUlL]*", .number⟩,
    ⟨"@?[\\p\x7bL\x7d_][\\p\x7bL\x7d\\p\x7bN\x7d_]*", .identifier⟩,
    ⟨"[\\[\\]\x7b\x7d()\\-+<>?:;!%^&|*/=~,.]", .punctuation⟩]

end Highlight.Builtin
