import Highlight.Text.Digit

/-!
# Blanks, comments, keys and strings of TOML

Each reader takes the characters that are left and gives what it read with the rest, or nothing when
the text is not well formed.
-/

namespace Highlight.Toml

/-- Whether a character is a blank within a line. -/
def isBlank (c : Char) : Bool := c == ' ' || c == '\t'

/-- Drops the blanks at the beginning of a text. -/
def skipBlanks (cs : List Char) : List Char := cs.dropWhile isBlank

/-- Whether a character may stand in a text at all, besides the ends of lines. -/
def isPrintable (c : Char) : Bool :=
  c == '\t' || (0x20 ≤ c.toNat && c.toNat ≤ 0x7e) || 0x80 ≤ c.toNat

/-- Reads the end of a line. -/
def readNewline : List Char → Option (List Char)
  | '\n' :: rest => some rest
  | '\r' :: '\n' :: rest => some rest
  | _ => none

/-- Drops a comment, if there is one. -/
def skipComment : List Char → List Char
  | '#' :: rest => rest.dropWhile isPrintable
  | cs => cs

/-- Reads what may stand behind a statement: blanks, a comment, and the end of the line or text. -/
def readLineEnd (cs : List Char) : Option (List Char) :=
  match skipComment (skipBlanks cs) with
  | [] => some []
  | cs => readNewline cs

/-- Drops blanks, ends of lines and whole comments; `inComment` once a comment has been entered. -/
def skipLines (inComment : Bool) : List Char → List Char
  | [] => []
  | '\n' :: rest => skipLines false rest
  | '\r' :: '\n' :: rest => skipLines false rest
  | c :: rest =>
    if inComment then (if isPrintable c then skipLines true rest else c :: rest)
    else if isBlank c then skipLines false rest
    else if c == '#' then skipLines true rest
    else c :: rest

/-- The character that a one-letter escape stands for. -/
def escape? : Char → Option Char
  | 'b' => some '\x08'
  | 't' => some '\t'
  | 'n' => some '\n'
  | 'f' => some '\x0c'
  | 'r' => some '\r'
  | '"' => some '"'
  | '\\' => some '\\'
  | _ => none

/-- Whether nothing but blanks stands before the end of the line. -/
def lineIsOver (cs : List Char) : Bool := (readNewline (skipBlanks cs)).isSome

/-- Splits at the end of a text in three quotes, which begins with `run` quotes: up to two of them
before the last three belong to the text. -/
def closeMultiline (quote : Char) (run : Nat) (cs : List Char) : List Char × List Char :=
  let extra := min (run - 3) 2
  (List.replicate extra quote, cs.drop (extra + 3))

/-- Reads a basic string after its opening quotes. `multiline` for a string in three quotes, and
`trimming` behind a backslash that ends a line: what follows up to the next character that is
neither blank nor an end of a line does not count. -/
def readBasic (multiline trimming : Bool) : List Char → Option (List Char × List Char)
  | [] => none
  | '"' :: rest =>
    if !multiline then some ([], rest)
    else
      let run := (rest.takeWhile (· == '"')).length + 1
      if 3 ≤ run then some (closeMultiline '"' run ('"' :: rest))
      else (readBasic multiline false rest).map fun (text, rest) => ('"' :: text, rest)
  | '\\' :: 'u' :: a :: b :: c :: d :: rest => do
    let char ← Text.codePoint? [a, b, c, d]
    let (text, rest) ← readBasic multiline false rest
    return (char :: text, rest)
  | '\\' :: 'U' :: a :: b :: c :: d :: e :: f :: g :: h :: rest => do
    let char ← Text.codePoint? [a, b, c, d, e, f, g, h]
    let (text, rest) ← readBasic multiline false rest
    return (char :: text, rest)
  | '\\' :: c :: rest =>
    if multiline && lineIsOver (c :: rest) then readBasic multiline true (c :: rest)
    else do
      let char ← escape? c
      let (text, rest) ← readBasic multiline false rest
      return (char :: text, rest)
  | '\r' :: '\n' :: rest =>
    if !multiline then none
    else if trimming then readBasic multiline true rest
    else (readBasic multiline false rest).map fun (text, rest) => ('\n' :: text, rest)
  | c :: rest =>
    if trimming && (isBlank c || c == '\n') then readBasic multiline true rest
    else if isPrintable c && c != '\\' || (multiline && c == '\n') then
      (readBasic multiline false rest).map fun (text, rest) => (c :: text, rest)
    else none

/-- Reads a literal string after its opening quotes. -/
def readLiteral (multiline : Bool) : List Char → Option (List Char × List Char)
  | [] => none
  | '\'' :: rest =>
    if !multiline then some ([], rest)
    else
      let run := (rest.takeWhile (· == '\'')).length + 1
      if 3 ≤ run then some (closeMultiline '\'' run ('\'' :: rest))
      else (readLiteral multiline rest).map fun (text, rest) => ('\'' :: text, rest)
  | '\r' :: '\n' :: rest =>
    if multiline then (readLiteral multiline rest).map fun (text, rest) => ('\n' :: text, rest)
    else none
  | c :: rest =>
    if isPrintable c || (multiline && c == '\n') then
      (readLiteral multiline rest).map fun (text, rest) => (c :: text, rest)
    else none

/-- Drops the end of a line that stands directly behind opening quotes. -/
def skipNewline (cs : List Char) : List Char := (readNewline cs).getD cs

/-- Reads a string of any kind. -/
def readString : List Char → Option (List Char × List Char)
  | '"' :: '"' :: '"' :: rest => readBasic true false (skipNewline rest)
  | '"' :: rest => readBasic false false rest
  | '\'' :: '\'' :: '\'' :: rest => readLiteral true (skipNewline rest)
  | '\'' :: rest => readLiteral false rest
  | _ => none

/-- Whether a character may stand in a key without quotes. -/
def isBareKeyChar (c : Char) : Bool := c.isAlphanum || c == '-' || c == '_'

/-- Reads one part of a key. -/
def readKeyPart : List Char → Option (String × List Char)
  | '"' :: rest => (readBasic false false rest).map fun (key, rest) => (String.ofList key, rest)
  | '\'' :: rest => (readLiteral false rest).map fun (key, rest) => (String.ofList key, rest)
  | cs =>
    match cs.span isBareKeyChar with
    | ([], _) => none
    | (key, rest) => some (String.ofList key, rest)

/-- How deeply keys, arrays and inline tables may be nested. -/
def maxDepth : Nat := 79

/-- Reads the parts of a key, at most `limit`, with dots between them and blanks around them. -/
def readKeyParts : (limit : Nat) → List Char → Option (List String × List Char)
  | 0, _ => none
  | limit + 1, cs => do
    let (part, rest) ← readKeyPart (skipBlanks cs)
    match skipBlanks rest with
    | '.' :: rest =>
      let (parts, rest) ← readKeyParts limit rest
      return (part :: parts, rest)
    | rest => return ([part], rest)

/-- Reads a key. -/
def readKey (cs : List Char) : Option (List String × List Char) :=
  readKeyParts maxDepth cs

end Highlight.Toml
