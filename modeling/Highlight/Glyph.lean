import Highlight.Category

/-!
# Glyphs, lines and tokens

A line of text is a list of glyphs, each a character with its category. A tokenizer cuts the
characters of a line into tokens, and `paint` gives every glyph the category of its token. The main
statements are that painting keeps the text, and that painting with tokens that cover the line
leaves nothing of the categories that were there before.
-/

namespace Highlight

/-- A character with its category. -/
structure Glyph where
  char : Char
  category : Category
deriving Repr, DecidableEq, Inhabited

/-- A colored line of text. -/
abbrev Line := List Glyph

/-- A stretch of characters of one category. -/
structure Token where
  length : Nat
  category : Category
deriving Repr, DecidableEq

namespace Line

/-- The line of these characters, all in one category. -/
def ofChars (text : List Char) (category : Category) : Line :=
  text.map (⟨·, category⟩)

/-- The line of a text without any color. -/
def ofText (text : String) : Line :=
  ofChars text.toList .plain

/-- The characters of a line. -/
def text (line : Line) : List Char :=
  line.map Glyph.char

/-- The categories of a line, one for each character. -/
def categories (line : Line) : List Category :=
  line.map Glyph.category

/-- The line with every glyph in one category. -/
def fill (category : Category) (line : Line) : Line :=
  line.map fun glyph => { glyph with category }

/-- The line with each glyph in the category of its token; glyphs behind the last token keep
theirs. -/
def paint : List Token → Line → Line
  | [], line => line
  | token :: tokens, line =>
    fill token.category (line.take token.length) ++ paint tokens (line.drop token.length)

end Line

/-- The number of characters that tokens stand for. -/
def Token.total : List Token → Nat
  | [] => 0
  | token :: tokens => token.length + total tokens

/-- The categories of the characters that tokens stand for. -/
def Token.categories : List Token → List Category
  | [] => []
  | token :: tokens => List.replicate token.length token.category ++ categories tokens

namespace Line

@[simp] theorem text_ofChars (text : List Char) (category : Category) :
    Line.text (ofChars text category) = text := by
  simp [Line.text, ofChars, Function.comp_def]

@[simp] theorem text_fill (category : Category) (line : Line) :
    Line.text (fill category line) = Line.text line := by
  simp [Line.text, fill, Function.comp_def]

@[simp] theorem categories_fill (category : Category) (line : Line) :
    Line.categories (fill category line) = List.replicate line.length category := by
  simp [Line.categories, fill, Function.comp_def, List.map_const']

@[simp] theorem length_text (line : Line) : (Line.text line).length = line.length :=
  List.length_map _

@[simp] theorem text_append (a b : Line) : Line.text (a ++ b) = Line.text a ++ Line.text b :=
  List.map_append

@[simp] theorem categories_append (a b : Line) :
    Line.categories (a ++ b) = Line.categories a ++ Line.categories b :=
  List.map_append

/-- Painting keeps the characters of a line. -/
@[simp] theorem text_paint (tokens : List Token) (line : Line) :
    Line.text (paint tokens line) = Line.text line := by
  induction tokens generalizing line with
  | nil => rfl
  | cons token tokens ih =>
    rw [paint, text_append, text_fill, ih, ← text_append, List.take_append_drop]

/-- Where the tokens cover the line, the categories afterwards are those of the tokens. -/
theorem categories_paint {tokens : List Token} {line : Line}
    (h : Token.total tokens = line.length) :
    Line.categories (paint tokens line) = Token.categories tokens := by
  induction tokens generalizing line with
  | nil =>
    have : line = [] := List.eq_nil_of_length_eq_zero (by simpa [Token.total] using h.symm)
    simp [this, paint, Line.categories, Token.categories]
  | cons token tokens ih =>
    have hlen : token.length + Token.total tokens = line.length := by
      simpa [Token.total] using h
    rw [paint, categories_append, categories_fill, List.length_take, Nat.min_eq_left (by omega),
      ih (by rw [List.length_drop]; omega), Token.categories]

/-- A line is given by its characters and its categories. -/
theorem ext_text_categories {a b : Line} (ht : Line.text a = Line.text b)
    (hc : Line.categories a = Line.categories b) : a = b := by
  induction a generalizing b with
  | nil => cases b <;> simp_all [Line.text]
  | cons x a ih =>
    cases b with
    | nil => simp [Line.text] at ht
    | cons y b =>
      simp only [Line.text, Line.categories, List.map_cons, List.cons.injEq] at ht hc
      have hxy : x = y := by
        cases x; cases y; simp_all
      rw [hxy, ih ht.2 hc.2]

end Line

end Highlight
