import Highlight.Proofs.Painting

/-!
# Places of a line

A tokenizer goes through a line from place to place. `Visits` says where it comes to and what it
knows there; the two step lemmas `CSharp.paintsAt_of_visits` and
`PatternHighlighter.paintsAt_of_visits` say that the token it finds at such a place is what the
glyphs from there on are painted with, whatever colors they had.
-/

namespace Highlight

lemma Token.total_append (tokens others : List Token) :
    Token.total (tokens ++ others) = Token.total tokens + Token.total others := by
  induction tokens with
  | nil => exact (Nat.zero_add _).symm
  | cons token tokens ih =>
    rw [List.cons_append, Token.total, Token.total, ih]
    omega

/-- Painting reaches the tokens behind others with the glyphs behind those. -/
theorem Line.drop_paint_append (tokens others : List Token) (line : Line)
    (hle : Token.total tokens ≤ line.length) :
    (Line.paint (tokens ++ others) line).drop (Token.total tokens) =
      Line.paint others (line.drop (Token.total tokens)) := by
  induction tokens generalizing line with
  | nil => rfl
  | cons token tokens ih =>
    rw [Token.total] at hle ⊢
    have hfill : (Line.fill token.category (line.take token.length)).length = token.length := by
      rw [Line.fill, List.length_map, List.length_take]
      omega
    have hrest : Token.total tokens ≤ (line.drop token.length).length := by
      rw [List.length_drop]
      omega
    rw [List.cons_append, Line.paint_cons, List.drop_append, hfill, Nat.add_sub_cancel_left,
      ih _ hrest, List.drop_eq_nil_of_le (by omega), List.nil_append, List.drop_drop]

/-- Painting reaches the tokens before others without those. -/
theorem Line.take_paint_append (tokens others : List Token) (line : Line)
    (hle : Token.total tokens ≤ line.length) :
    (Line.paint (tokens ++ others) line).take (Token.total tokens) =
      Line.paint tokens (line.take (Token.total tokens)) := by
  induction tokens generalizing line with
  | nil => rfl
  | cons token tokens ih =>
    rw [Token.total] at hle ⊢
    have hfill : (Line.fill token.category (line.take token.length)).length = token.length := by
      rw [Line.fill, List.length_map, List.length_take]
      omega
    have hrest : Token.total tokens ≤ (line.drop token.length).length := by
      rw [List.length_drop]
      omega
    rw [List.cons_append, Line.paint_cons, Line.paint_cons, List.take_append, hfill,
      Nat.add_sub_cancel_left, ih _ hrest, List.take_of_length_le (by omega), List.take_take,
      Nat.min_eq_left (Nat.le_add_right _ _), List.drop_take, Nat.add_sub_cancel_left]

lemma Line.fill_eq_ofChars (category : Category) (line : Line) :
    Line.fill category line = Line.ofChars (Line.text line) category := by
  rw [Line.fill, Line.ofChars, Line.text, List.map_map]
  rfl

/-- Whether all lines of a text that follow one in `state` are painted in one category from `place`
on, `n` glyphs far. -/
def Highlighter.PaintsAt (h : Highlighter) (state : LineState) (text : List Char) (place n : Nat)
    (category : Category) : Prop :=
  place + n ≤ text.length ∧ ∀ line : Line, Line.text line = text →
    ((h.colorize line state).1.drop place).take n =
      Line.ofChars ((text.drop place).take n) category

/-- A token paints the glyphs behind those of the tokens before it. -/
theorem Highlighter.paintsAt_of_tokens {h : Highlighter} {state : LineState} {text : List Char}
    {before after : List Token} {n : Nat} {category : Category}
    (htokens : (h.tokens state text).1 = before ++ ⟨n, category⟩ :: after)
    (hle : Token.total before + n ≤ text.length) :
    h.PaintsAt state text (Token.total before) n category := by
  refine ⟨hle, fun line htext => ?_⟩
  have hlength : line.length = text.length := by
    rw [← htext, Line.text, List.length_map]
  -- the token fills as many glyphs as it is long, those that the goal takes
  have hfill : (Line.fill category ((line.drop (Token.total before)).take n)).length = n := by
    rw [Line.fill, List.length_map, List.length_take, List.length_drop]
    omega
  have hchars : Line.text ((line.drop (Token.total before)).take n) =
      (text.drop (Token.total before)).take n := by
    rw [← htext, ← Line.text_drop, Line.text, Line.text, List.map_take]
  show ((Line.paint (h.tokens state (Line.text line)).1 line).drop (Token.total before)).take n = _
  rw [htext, htokens, Line.drop_paint_append _ _ _ (by omega), Line.paint_cons,
    List.take_append_of_le_length (Nat.le_of_eq hfill.symm),
    List.take_of_length_le (Nat.le_of_eq hfill), Line.fill_eq_ofChars, hchars]

/-- The glyphs that are painted in a category have it. -/
theorem Highlighter.PaintsAt.category_eq {h : Highlighter} {state : LineState} {text : List Char}
    {place n i : Nat} {category : Category} (hpaints : h.PaintsAt state text place n category)
    {line : Line} (htext : Line.text line = text) (hle : place ≤ i) (hlt : i < place + n)
    {glyph : Glyph} (hglyph : (h.colorize line state).1[i]? = some glyph) :
    glyph.category = category := by
  have hat : (((h.colorize line state).1.drop place).take n)[i - place]? = some glyph := by
    rw [List.getElem?_take_of_lt (by omega), List.getElem?_drop, Nat.add_sub_cancel' hle]
    exact hglyph
  rw [hpaints.2 line htext, Line.ofChars, List.getElem?_map] at hat
  obtain ⟨c, -, rfl⟩ := Option.map_eq_some_iff.1 hat
  rfl

lemma Token.exists_of_mem_categories {tokens : List Token} {category : Category}
    (h : category ∈ Token.categories tokens) : ∃ token ∈ tokens, token.category = category := by
  induction tokens with
  | nil => exact absurd h List.not_mem_nil
  | cons token tokens ih =>
    rw [Token.categories, List.mem_append] at h
    rcases h with h | h
    · exact ⟨token, List.mem_cons_self, (List.eq_of_mem_replicate h).symm⟩
    · obtain ⟨other, hother, hcategory⟩ := ih h
      exact ⟨other, List.mem_cons_of_mem token hother, hcategory⟩

/-- Behind the tokens before it, a line is painted in the categories of the other tokens. -/
theorem Highlighter.exists_token_of_mem_drop {h : Highlighter} (hc : h.Covers) {state : LineState}
    {line : Line} {before others : List Token}
    (htokens : (h.tokens state (Line.text line)).1 = before ++ others) {glyph : Glyph}
    (hglyph : glyph ∈ (h.colorize line state).1.drop (Token.total before)) :
    ∃ token ∈ others, token.category = glyph.category := by
  have htotal := hc state (Line.text line)
  rw [htokens, Token.total_append, Line.length_text] at htotal
  have hpaint : (h.colorize line state).1 = Line.paint (before ++ others) line := by
    rw [← htokens]
    rfl
  rw [hpaint, Line.drop_paint_append _ _ _ (by omega)] at hglyph
  refine Token.exists_of_mem_categories ?_
  have hothers : Token.total others = (line.drop (Token.total before)).length := by
    rw [List.length_drop]
    omega
  rw [← Line.categories_paint hothers]
  exact List.mem_map_of_mem hglyph

/-- Whether some tokens stand for what is read of a text when `rest` is left of it. -/
structure Token.LeadTo (before : List Token) (text rest : List Char) : Prop where
  total_add_length : Token.total before + rest.length = text.length
  drop_total : text.drop (Token.total before) = rest

namespace Token.LeadTo

variable {before : List Token} {text rest : List Char}

lemma nil (text : List Char) : LeadTo [] text text := ⟨Nat.zero_add _, rfl⟩

/-- One more token takes what it is long of the rest. -/
theorem concat (h : LeadTo before text rest) {n : Nat} (hle : n ≤ rest.length)
    (category : Category) : LeadTo (before ++ [⟨n, category⟩]) text (rest.drop n) := by
  have htotal : Token.total (before ++ [⟨n, category⟩]) = Token.total before + n := by
    rw [Token.total_append]
    rfl
  have hlength := h.total_add_length
  constructor
  case total_add_length =>
    rw [htotal, List.length_drop]
    omega
  case drop_total => rw [htotal, ← List.drop_drop, h.drop_total]

/-- The tokens end where the rest begins. -/
theorem total_eq (h : LeadTo before text rest) :
    Token.total before = text.length - rest.length := by
  have hlength := h.total_add_length
  omega

end Token.LeadTo

/-! ## C# -/

namespace CSharp

/-- Whether the tokenizer comes to `rest` in the state `now` when it reads a text that follows a
line in `state`. -/
inductive Visits (words : Words) (state : LineState) (text : List Char) :
    LineState → List Char → Prop where
  | start : Visits words state text state text
  | step {now : LineState} {rest : List Char} (visits : Visits words state text now rest)
    (hne : rest ≠ []) :
    Visits words state text (scan words now rest).next (rest.drop (scan words now rest).length)

variable {words : Words} {state now : LineState} {text rest : List Char}

/-- The tokens of a line are some for what the tokenizer has read, then those for the rest. -/
theorem tokens_of_visits (hv : Visits words state text now rest) :
    ∃ before, (tokens words state text).1 = before ++ (tokens words now rest).1 ∧
      Token.LeadTo before text rest := by
  induction hv with
  | start => exact ⟨[], rfl, .nil text⟩
  | @step now rest visits hne ih =>
    obtain ⟨before, htokens, hlead⟩ := ih
    have hle := (scan_within words now hne).2
    refine ⟨_, ?_, hlead.concat hle (scan words now rest).category⟩
    rw [htokens, tokens_cons words now hne, List.append_assoc]
    rfl

/-- The state that a line hands on is that which the rest of it hands on. -/
theorem tokens_snd_of_visits (hv : Visits words state text now rest) :
    (tokens words state text).2 = (tokens words now rest).2 := by
  induction hv with
  | start => rfl
  | @step now rest visits hne ih =>
    rw [ih, tokens_cons words now hne]

/-- A place that a line comes to has the rest of the text behind it. -/
theorem drop_of_visits (hv : Visits words state text now rest) :
    rest.length ≤ text.length ∧ text.drop (text.length - rest.length) = rest := by
  obtain ⟨before, -, hlead⟩ := tokens_of_visits hv
  have hlength := hlead.total_add_length
  refine ⟨by omega, ?_⟩
  rw [← hlead.total_eq]
  exact hlead.drop_total

/-- Each character of a line is taken by one of the steps from a place before it on. -/
theorem exists_visits_of_le (hv : Visits words state text now rest) {i : Nat}
    (hle : text.length - rest.length ≤ i) (hi : i < text.length) :
    ∃ now' rest', Visits words state text now' rest' ∧ rest' ≠ [] ∧
      text.length - rest'.length ≤ i ∧
      i < text.length - rest'.length + (scan words now' rest').length := by
  induction hlength : rest.length using Nat.strongRecOn generalizing now rest with
  | ind length ih =>
    obtain ⟨hrest, -⟩ := drop_of_visits hv
    have hne : rest ≠ [] := List.length_pos_iff.1 (by omega)
    obtain ⟨hpos, hmost⟩ := scan_within words now hne
    by_cases hlt : i < text.length - rest.length + (scan words now rest).length
    · exact ⟨now, rest, hv, hne, hle, hlt⟩
    · have hdrop : (rest.drop (scan words now rest).length).length =
          rest.length - (scan words now rest).length := List.length_drop
      exact ih _ (by omega) (hv.step hne) (by omega) rfl

/-- What a step takes is painted in the category of the step. -/
theorem paintsAt_of_visits {language : Language}
    (hv : Visits (wordsOf language) state text now rest) (hne : rest ≠ []) :
    (highlighter language).PaintsAt state text (text.length - rest.length)
      (scan (wordsOf language) now rest).length (scan (wordsOf language) now rest).category := by
  obtain ⟨before, htokens, hlead⟩ := tokens_of_visits hv
  have hle := (scan_within (wordsOf language) now hne).2
  have hlength := hlead.total_add_length
  rw [tokens_cons (wordsOf language) now hne] at htokens
  rw [← hlead.total_eq]
  exact Highlighter.paintsAt_of_tokens (h := highlighter language) htokens (by omega)

end CSharp

/-! ## Language tables -/

namespace PatternHighlighter

/-- Whether the tokenizer comes to `rest`, no comment being open, when it reads a text that follows
a line in `state`; `seenCode` once something that is not blank stands before it. -/
inductive Visits (h : PatternHighlighter) (state : LineState) (text : List Char) :
    Bool → List Char → Prop where
  | start (hfresh : ¬(state = .blockComment ∧ h.language.commentEnd ≠ "")) :
    Visits h state text false text
  | behindComment {n : Nat} (hcarried : state = .blockComment ∧ h.language.commentEnd ≠ "")
    (hend : Marker.endOf? h.language.commentEnd.toList text = some n) :
    Visits h state text true (text.drop n)
  | step {seenCode : Bool} {c : Char} {rest : List Char} {n : Nat} {category : Category}
    (visits : Visits h state text seenCode (c :: rest))
    (hstep : h.step seenCode c rest = .token n category) :
    Visits h state text (seenCode || !Unicode.isBlank c) ((c :: rest).drop n)

variable {h : PatternHighlighter} {state : LineState} {text : List Char} {seenCode : Bool}

/-- Where a step takes a token, the tokens are that one and those of the rest. -/
theorem tokensFrom_of_token {c : Char} {rest : List Char} {n : Nat} {category : Category}
    (hstep : h.step seenCode c rest = .token n category) :
    h.tokensFrom seenCode (c :: rest) =
      let others := h.tokensFrom (seenCode || !Unicode.isBlank c) ((c :: rest).drop n)
      (⟨n, category⟩ :: others.1, others.2) := by
  -- the step takes a character, so that the recursion is on the rest behind it
  obtain ⟨k, rfl⟩ : ∃ k, n = k + 1 :=
    ⟨_, (Nat.succ_pred_eq_of_pos (step_within h hstep).1).symm⟩
  rw [tokensFrom]
  simp only [hstep, Nat.add_sub_cancel, List.drop_succ_cons]

/-- Where a step ends the line, its token is the last one. -/
theorem tokensFrom_of_last {c : Char} {rest : List Char} {category : Category} {next : LineState}
    (hstep : h.step seenCode c rest = .last category next) :
    h.tokensFrom seenCode (c :: rest) = ([⟨rest.length + 1, category⟩], next) := by
  rw [tokensFrom]
  simp only [hstep]

/-- A line that does not begin in a comment is read from its beginning. -/
theorem tokens_of_fresh (hfresh : ¬(state = .blockComment ∧ h.language.commentEnd ≠ "")) :
    h.tokens state text = h.tokensFrom false text := by
  rw [tokens, if_neg hfresh]

/-- A comment that goes on and ends in the line takes what is before its end, and the rest is read
as code. -/
theorem tokens_of_closed (hcarried : state = .blockComment ∧ h.language.commentEnd ≠ "") {n : Nat}
    (hend : Marker.endOf? h.language.commentEnd.toList text = some n) :
    h.tokens state text = (⟨n, .blockComment⟩ :: (h.tokensFrom true (text.drop n)).1,
      (h.tokensFrom true (text.drop n)).2) := by
  rw [tokens, if_pos hcarried, hend]

/-- A comment that goes on and does not end takes the whole line. -/
theorem tokens_of_open (hcarried : state = .blockComment ∧ h.language.commentEnd ≠ "")
    (hend : Marker.endOf? h.language.commentEnd.toList text = none) :
    h.tokens state text = ([⟨text.length, .blockComment⟩], .blockComment) := by
  rw [tokens, if_pos hcarried, hend]

/-- The tokens of a line are some for what the tokenizer has read, then those for the rest. -/
theorem tokens_of_visits {rest : List Char} (hv : Visits h state text seenCode rest) :
    ∃ before, (h.tokens state text).1 = before ++ (h.tokensFrom seenCode rest).1 ∧
      Token.LeadTo before text rest := by
  induction hv with
  | start hfresh =>
    refine ⟨[], ?_, .nil text⟩
    rw [tokens_of_fresh hfresh, List.nil_append]
  | @behindComment n hcarried hend =>
    refine ⟨_, ?_, (Token.LeadTo.nil text).concat (Marker.endOf?_le hend) .blockComment⟩
    rw [tokens_of_closed hcarried hend]
    rfl
  | @step seenCode c rest n category visits hstep ih =>
    obtain ⟨before, htokens, hlead⟩ := ih
    refine ⟨_, ?_, hlead.concat (step_within h hstep).2 category⟩
    rw [htokens, tokensFrom_of_token hstep, List.append_assoc]
    rfl

/-- What a step takes is painted in the category of the step. -/
theorem paintsAt_of_visits {c : Char} {rest : List Char} {n : Nat} {category : Category}
    (hv : Visits h state text seenCode (c :: rest))
    (hstep : h.step seenCode c rest = .token n category) :
    h.highlighter.PaintsAt state text (text.length - (c :: rest).length) n category := by
  obtain ⟨before, htokens, hlead⟩ := tokens_of_visits hv
  have hle := (step_within h hstep).2
  have hlength := hlead.total_add_length
  rw [tokensFrom_of_token hstep] at htokens
  rw [← hlead.total_eq]
  exact Highlighter.paintsAt_of_tokens (h := h.highlighter) htokens (by omega)

end PatternHighlighter

end Highlight
