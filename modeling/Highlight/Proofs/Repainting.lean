import Highlight.Proofs.CSharp.InPlace
import Highlight.Proofs.Pattern.Cursors

/-!
# Lines are repainted

Every glyph of a line is painted and nothing else of the line changes, by the highlighter for C# and
by that of every table. The tokens of a line cut it, so that nothing is left of the colors before;
and the loops that color a line in place, in which glyphs are painted and counted apart, paint in
each turn exactly the glyphs that they count.
-/

namespace Highlight

/-- Whether the loop that colors a line of C# in place paints exactly what it takes. -/
structure CSharp.PaintsInPlace (language : Language) : Prop where
  /-- A recognizer that accepts paints exactly the glyphs it takes, at least one and no more than
  there are, and one that declines leaves glyphs and state as they are. -/
  recognizers : ∀ attempt ∈ InPlace.attempts (wordsOf language), ∀ span : Span, span.line ≠ [] →
    InPlace.Exact attempt span
  /-- So does the tokenizer, which asks one after the other. -/
  tokenizer : ∀ span : Span, span.line ≠ [] →
    InPlace.Exact (InPlace.tokenize (wordsOf language)) span
  /-- A turn of the loop takes at least one glyph, so that its assertion holds, and of the line it
  paints the glyphs it takes and no others. -/
  turns : ∀ (span : Span) place, place < span.line.length →
    ∃ count category next, 0 < count ∧ place + count ≤ span.line.length ∧
      (InPlace.turn (wordsOf language) place).run span =
        some (count, ⟨Line.repaint category span.line place count, next⟩)
  /-- The loop ends, with no index or slice out of bounds and no assertion that fails, and the line
  is colored as its tokens say. -/
  colors : ∀ line state turns, line.length < turns →
    (InPlace.loop (wordsOf language) turns 0).run ⟨line, state⟩ =
      some ((), ⟨((highlighter language).colorize line state).1,
        ((highlighter language).colorize line state).2⟩)

/-- Every recognizer of C#, each turn and the whole loop paint what they take. -/
lemma CSharp.paintsInPlace (language : Language) : CSharp.PaintsInPlace language where
  recognizers _ hmem _ hne := InPlace.exact_of_mem_attempts hmem hne
  tokenizer _ hne := InPlace.exact_tokenize (wordsOf language) hne
  turns _ _ hlt := InPlace.exact_turn (wordsOf language) hlt
  colors _ _ _ hturns := InPlace.run_loop language (Nat.zero_le _) hturns

/-- Whether the loop that colors a line by a table in place paints exactly what it takes, whatever
way the matches of the rules are measured. -/
structure PatternHighlighter.PaintsInPlace (h : PatternHighlighter) : Prop where
  /-- Before the loop nothing is painted but a comment that is carried into the line. -/
  enters : ∀ line state, ∃ turn, h.enter? line state = some turn ∧
    (turn = .next (.inFront line 0 false) ∨ turn.Exact (.inFront line 0 false))
  /-- Each turn takes at least one glyph and no more than are left, and paints those it takes and no
  others. -/
  turns : ∀ measure line state cursors, h.Reaches measure line state cursors →
    ∃ turn, h.turn? measure (String.ofList (Line.text line)) cursors = some turn ∧
      turn.Exact cursors
  /-- By the measure of the rules themselves, the line is colored as its tokens say. -/
  colors : ∀ line state turns, line.length < turns →
    h.colorizeWithin? Measure.ofRules turns line state = some (h.highlighter.colorize line state)

/-- Every turn of a table and the whole loop paint what they take. -/
lemma PatternHighlighter.paintsInPlace (h : PatternHighlighter) : h.PaintsInPlace where
  enters line state := by
    obtain ⟨turn, hturn, -, hexact, -⟩ := exists_enter? h line state
    exact ⟨turn, hturn, hexact⟩
  turns measure line state cursors hreaches := by
    obtain ⟨turn, hturn, -, hexact, -⟩ := exists_turn? h measure (inStep_of_reaches hreaches)
    exact ⟨turn, hturn, hexact⟩
  colors line state turns hturns := by
    obtain ⟨result, hresult, hown⟩ := exists_colorizeWithin? h Measure.ofRules line state
    rw [hresult turns hturns, hown rfl]

/-- Every glyph is painted and nothing else changes, for C# with the words of any table and for any
table with its rules: characters stay, colors and the state that is handed on depend on the
characters and the state before alone, and what is done in place paints the glyphs that it takes, at
least one and no more than there are. -/
theorem colorize_repaints (language : Language) (h : PatternHighlighter) :
    (CSharp.highlighter language).Repaints ∧ CSharp.PaintsInPlace language ∧
      h.highlighter.Repaints ∧ h.PaintsInPlace :=
  ⟨Highlighter.repaints (CSharp.covers_highlighter language) fun state text _ =>
      CSharp.cuts_tokens (CSharp.wordsOf language) state text,
    CSharp.paintsInPlace language,
    Highlighter.repaints h.covers_highlighter fun state _ hne =>
      PatternHighlighter.cuts_tokens h state hne,
    PatternHighlighter.paintsInPlace h⟩

end Highlight
