import Highlight.Language

/-!
# The language table of C
-/

namespace Highlight.Builtin

/-- The table of C, which serves for C++ too. -/
def c : Language where
  name := "C"
  extensions := ["c", "h", "cpp", "hpp", "cc", "cxx"]
  keywords := [
    "auto", "break", "case", "char", "const", "continue", "default", "do", "double", "else",
    "enum", "extern", "float", "for", "goto", "if", "inline", "int", "long", "register",
    "restrict", "return", "short", "signed", "sizeof", "static", "struct", "switch", "typedef",
    "union", "unsigned", "void", "volatile", "while", "_Alignas", "_Alignof", "_Atomic", "_Bool",
    "_Complex", "_Generic", "_Imaginary", "_Noreturn", "_Static_assert", "_Thread_local", "bool",
    "catch", "class", "constexpr", "delete", "explicit", "false", "friend", "mutable",
    "namespace", "new", "noexcept", "nullptr", "operator", "private", "protected", "public",
    "template", "this", "throw", "true", "try", "typename", "using", "virtual"]
  identifiers := [
    "abort", "atoi", "calloc", "exit", "fclose", "fopen", "fprintf", "free", "malloc", "memcpy",
    "memset", "printf", "puts", "realloc", "size_t", "strcmp", "strcpy", "strlen", "uint8_t",
    "uint16_t", "uint32_t", "uint64_t", "int8_t", "int16_t", "int32_t", "int64_t", "FILE", "NULL"]
  lineComment := "//"
  commentStart := "/*"
  commentEnd := "*/"
  preprocessor := some '#'
  rules := [
    ⟨"L?\"(?:[^\"\\\\]|\\\\.)*\"", .string⟩,
    ⟨"'(?:\\\\.|[^'\\\\])'", .charLiteral⟩,
    ⟨"0[xX][0-9a-fA-F]+[uUlL]*", .number⟩,
    ⟨"[0-9]+\\.?[0-9]*(?:[eE][+-]?[0-9]+)?[fFlLuU]*", .number⟩,
    ⟨"[a-zA-Z_][a-zA-Z0-9_]*", .identifier⟩,
    ⟨"[\\[\\]\x7b\x7d!%^&*()\\-+=~|<>?/;,.:]", .punctuation⟩]

end Highlight.Builtin
