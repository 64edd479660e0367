import Highlight.Highlighter

/-!
# Tokens that cut a line

A tokenizer that takes at least one character at each step, and never more than are left, cuts a
line into tokens none of which is empty and which cover the line exactly. `Within` is the bound on
one step, `Cuts` what follows for the tokens of a line, and `Cuts.cons` leads from one to the other.
Such tokens repaint every glyph, so that the colors of a line depend on its characters alone.
-/

namespace Highlight

/-- Whether `n` is the length of a beginning of a text that is not empty. -/
def Within (n : Nat) (text : List Char) : Prop := 0 < n ∧ n ≤ text.length

namespace Within

variable {text : List Char} {n : Nat}

/-- All of a text that is not empty. -/
theorem length (h : text ≠ []) : Within text.length text :=
  ⟨List.length_pos_iff.2 h, Nat.le_refl _⟩

/-- A length behind an opening of `m` characters. -/
theorem add_of_drop {m : Nat} (h : Within n (text.drop m)) : Within (m + n) text := by
  obtain ⟨hpos, hle⟩ := h
  rw [List.length_drop] at hle
  exact ⟨by omega, by omega⟩

/-- A length behind one more character. -/
theorem succ_cons {c : Char} (h : Within n text) : Within (n + 1) (c :: text) :=
  ⟨Nat.succ_pos n, Nat.succ_le_succ h.2⟩

/-- The first character. -/
theorem one (h : text ≠ []) : Within 1 text :=
  ⟨Nat.one_pos, List.length_pos_iff.2 h⟩

end Within

/-- Whether tokens cut a line of `length` characters: they cover it exactly, and none is empty. -/
def Token.Cuts (tokens : List Token) (length : Nat) : Prop :=
  Token.total tokens = length ∧ ∀ token ∈ tokens, 0 < token.length

namespace Token.Cuts

theorem nil : Token.Cuts [] 0 := ⟨rfl, fun _ hmem => absurd hmem List.not_mem_nil⟩

/-- One step of a tokenizer, and the tokens of what it leaves. -/
theorem cons {text : List Char} {n : Nat} {category : Category} {tokens : List Token}
    (hn : Within n text) (h : Token.Cuts tokens (text.length - n)) :
    Token.Cuts (⟨n, category⟩ :: tokens) text.length := by
  refine ⟨?_, fun token hmem => ?_⟩
  · have hle := hn.2
    show n + Token.total tokens = text.length
    rw [h.1]
    omega
  · rcases List.mem_cons.1 hmem with rfl | hmem
    · exact hn.1
    · exact h.2 token hmem

/-- One token for all that is left. -/
theorem single {text : List Char} {category : Category} (h : text ≠ []) :
    Token.Cuts [⟨text.length, category⟩] text.length := by
  refine Token.Cuts.cons (Within.length h) ?_
  rw [Nat.sub_self]
  exact nil

end Token.Cuts

/-- Painting with a token for the whole line. -/
theorem Line.paint_single (category : Category) (line : Line) :
    Line.paint [⟨line.length, category⟩] line = Line.fill category line := by
  rw [Line.paint, Line.paint, List.take_length, List.drop_length, List.append_nil]

namespace Highlighter

/-- Whether the colors of a line and the state it hands on depend on its characters and on the state
before it alone. -/
def ByText (h : Highlighter) : Prop :=
  ∀ a b : Line, Line.text a = Line.text b → ∀ state, h.colorize a state = h.colorize b state

/-- Tokens that cover every line leave nothing of the colors before. -/
theorem Covers.byText {h : Highlighter} (hc : h.Covers) : h.ByText :=
  fun _ _ ht state => colorize_eq_of_text_eq hc ht state

/-- Whether a highlighter repaints a line as a whole and changes nothing else: the characters stay,
the tokens of a line that is not empty cut it, and neither the colors afterwards nor the state that
is handed on depend on the colors before. -/
structure Repaints (h : Highlighter) : Prop where
  text_eq : ∀ line state, Line.text (h.colorize line state).1 = Line.text line
  length_eq : ∀ line state, (h.colorize line state).1.length = line.length
  cuts : ∀ state text, text ≠ [] → Token.Cuts (h.tokens state text).1 text.length
  byText : h.ByText

/-- A highlighter repaints its lines if its tokens cut every text that is not empty. -/
theorem repaints {h : Highlighter} (hc : h.Covers)
    (hcuts : ∀ state text, text ≠ [] → Token.Cuts (h.tokens state text).1 text.length) :
    h.Repaints where
  text_eq line state := text_colorize h line state
  length_eq line state := by
    have htext := congrArg List.length (text_colorize h line state)
    rwa [Line.text, Line.text, List.length_map, List.length_map] at htext
  cuts := hcuts
  byText := hc.byText

end Highlighter

end Highlight
