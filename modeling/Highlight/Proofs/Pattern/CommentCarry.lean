import Highlight.Proofs.Marker
import Highlight.Proofs.Painting
import Highlight.Proofs.Pattern.Compile

/-!
# Comments that a table carries from line to line

A line in a comment belongs to it up to the first mark that ends comments, and behind the mark it is
colored as a line of its own, except that no directive can begin there: `tokensFrom_seenCode` says
that this is what the table without its preprocessor character does. What a line hands on is a
comment or nothing, and a comment only under a table that can end it (`handsOn_tokens`).
-/

namespace Highlight

/-- The table of a language without its preprocessor character. -/
def Language.withoutPreprocessor (language : Language) : Language :=
  { language with preprocessor := none }

namespace PatternHighlighter

variable {language : Language} {h : PatternHighlighter}

/-! ## Tables without a preprocessor character -/

/-- The highlighter of the table without its preprocessor character. -/
def withoutPreprocessor (h : PatternHighlighter) : PatternHighlighter :=
  { h with language := h.language.withoutPreprocessor }

/-- The preprocessor character has no part in whether a table is accepted. -/
theorem ofLanguage_withoutPreprocessor (hcompiled : ofLanguage language = .ok h) :
    ofLanguage language.withoutPreprocessor = .ok h.withoutPreprocessor := by
  obtain ⟨hvalid, rules, hrules, rfl⟩ := (ofLanguage_eq_ok_iff language h).1 hcompiled
  exact (ofLanguage_eq_ok_iff _ _).2 ⟨hvalid, rules, hrules, rfl⟩

/-- Behind code a step is that of the table without its preprocessor character, which is the same
everywhere in a line. -/
theorem step_seenCode (h : PatternHighlighter) (seenCode : Bool) (c : Char) (rest : List Char) :
    h.step true c rest = h.withoutPreprocessor.step seenCode c rest := by
  have hnone : (!seenCode && h.withoutPreprocessor.language.preprocessor == some c) = false := by
    show (!seenCode && false) = false
    rw [Bool.and_false]
  unfold step
  simp only [hnone, Bool.not_true, Bool.false_and]
  rfl

/-- Behind code the tokens are those of the table without its preprocessor character. -/
theorem tokensFrom_seenCode (h : PatternHighlighter) (seenCode : Bool) (text : List Char) :
    h.tokensFrom true text = h.withoutPreprocessor.tokensFrom seenCode text := by
  induction hlength : text.length using Nat.strongRecOn generalizing text seenCode with
  | ind length ih =>
    cases text with
    | nil => rw [tokensFrom, tokensFrom]
    | cons c rest =>
      rw [tokensFrom, tokensFrom, step_seenCode h seenCode]
      cases h.withoutPreprocessor.step seenCode c rest with
      | last category next => rfl
      | token n category =>
        -- the flag of what follows is set on one side only, and there it makes no difference
        have hshorter : (rest.drop (n - 1)).length < length := by
          rw [← hlength, List.length_drop, List.length_cons]
          omega
        simp only [Bool.true_or]
        rw [ih _ hshorter (seenCode || !Unicode.isBlank c) _ rfl]

/-! ## What a line hands on -/

/-- Whether a state may be handed on under a table: a comment that the table can end, or nothing. -/
def HandsOn (language : Language) (next : LineState) : Prop :=
  next = .normal ∨ next = .blockComment ∧ language.commentEnd ≠ ""

/-- An accepted table has a mark that ends comments if it has one that begins them. -/
theorem commentEnd_ne_of_startsWith (hvalid : language.validate = .ok ()) {text : List Char}
    (hstarts : Marker.startsWith language.commentStart.toList text = true) :
    language.commentEnd ≠ "" := by
  intro hend
  have hstart : language.commentStart ≠ "" := by
    intro hempty
    rw [hempty] at hstarts
    cases hstarts
  unfold Language.validate at hvalid
  split at hvalid
  · cases hvalid
  · rw [if_pos ⟨hstart, hend⟩] at hvalid
    cases hvalid

/-- The step that ends a line hands on a comment only where one has begun. -/
theorem handsOn_step (hvalid : h.language.validate = .ok ()) {seenCode : Bool} {c : Char}
    {rest : List Char} {category : Category} {next : LineState}
    (hstep : h.step seenCode c rest = .last category next) : HandsOn h.language next := by
  unfold step at hstep
  simp only at hstep
  split at hstep
  · cases hstep
  · split at hstep
    · rename_i hstarts
      unfold commentStep at hstep
      split at hstep
      · cases hstep
      · cases hstep
        exact .inr ⟨rfl, commentEnd_ne_of_startsWith hvalid hstarts⟩
    · split at hstep
      · cases hstep
        exact .inl rfl
      · split at hstep
        · cases hstep
          exact .inl rfl
        · -- rules give tokens, and so does the lone character
          unfold ruleStep? at hstep
          cases hmatch : matchRules? h.rules (c :: rest) with
          | none =>
            rw [hmatch] at hstep
            cases hstep
          | some found =>
            rw [hmatch] at hstep
            cases hstep

/-- What is open behind a text is a comment that the table can end, or nothing. -/
lemma handsOn_tokensFrom (hvalid : h.language.validate = .ok ()) (seenCode : Bool)
    (text : List Char) : HandsOn h.language (h.tokensFrom seenCode text).2 := by
  fun_induction tokensFrom h seenCode text with
  | case1 seenCode => exact .inl rfl
  | case2 seenCode c rest category next hstep => exact handsOn_step hvalid hstep
  | case3 seenCode c rest length category hstep others last hrest ih =>
    rw [hrest] at ih
    exact ih

lemma handsOn_tokens (hvalid : h.language.validate = .ok ()) (state : LineState)
    (text : List Char) : HandsOn h.language (h.tokens state text).2 := by
  unfold tokens
  split
  · rename_i hcomment
    split
    · exact handsOn_tokensFrom hvalid true _
    · exact .inr ⟨rfl, hcomment.2⟩
  · exact handsOn_tokensFrom hvalid false text

/-! ## Lines in a comment -/

/-- Whether a table carries its comments from line to line: up to the first mark that ends comments
a line belongs to the comment it is in, behind the mark the line is colored as one of its own under
the table without its preprocessor character, and no other state has an effect. -/
structure CarriesComments (language : Language) (h : PatternHighlighter) : Prop where
  /-- Without the mark, all of a line belongs to the comment, and so does the next one. -/
  of_open : language.commentEnd ≠ "" → ∀ line : Line,
    (∀ place, ¬ language.commentEnd.toList <+: (Line.text line).drop place) →
    h.highlighter.colorize line .blockComment = (Line.fill .blockComment line, .blockComment)
  /-- The first mark ends the comment. -/
  of_end : language.commentEnd ≠ "" → ∀ (line : Line) place,
    Marker.FirstAt language.commentEnd.toList (Line.text line) place →
    let behind := place + language.commentEnd.toList.length
    behind ≤ line.length ∧ ∃ own, ofLanguage language.withoutPreprocessor = .ok own ∧
      h.highlighter.colorize line .blockComment =
        (Line.fill .blockComment (line.take behind) ++
            (own.highlighter.colorize (line.drop behind) .normal).1,
          (own.highlighter.colorize (line.drop behind) .normal).2)
  /-- Where no comment can be ended, and behind a verbatim string, a line is one of its own. -/
  of_none : ∀ line state, language.commentEnd = "" ∨ state = .verbatimString →
    h.highlighter.colorize line state = h.highlighter.colorize line .normal
  /-- A line hands on nothing or a comment that the table can end. -/
  handsOn : ∀ line state, HandsOn language (h.highlighter.colorize line state).2
  /-- A line that consists of the mark hands on nothing when it is in a comment. -/
  of_mark : ∀ line, Line.text line = language.commentEnd.toList →
    (h.highlighter.colorize line .blockComment).2 = .normal

lemma toList_ne_nil {mark : String} (hne : mark ≠ "") : mark.toList ≠ [] := by
  intro hnil
  exact hne (String.toList_eq_nil_iff.1 hnil)

/-- A line in a comment whose end is found is colored behind it by the table without its
preprocessor character. -/
theorem colorize_of_endOf? (hne : h.language.commentEnd ≠ "") {line : Line} {n : Nat}
    (hend : Marker.endOf? h.language.commentEnd.toList (Line.text line) = some n) :
    h.highlighter.colorize line .blockComment =
      (Line.fill .blockComment (line.take n) ++
          (h.withoutPreprocessor.highlighter.colorize (line.drop n) .normal).1,
        (h.withoutPreprocessor.highlighter.colorize (line.drop n) .normal).2) := by
  have hnormal := colorize_eq h.withoutPreprocessor (line.drop n) .normal
  rw [if_neg (by simp)] at hnormal
  have hbehind : h.colorizeFrom true (line.drop n) =
      h.withoutPreprocessor.colorizeFrom false (line.drop n) := by
    unfold colorizeFrom
    rw [tokensFrom_seenCode h false]
  rw [colorize_eq, if_pos ⟨rfl, hne⟩, hend, hnormal, ← hbehind]

/-- An accepted table carries its comments from line to line. -/
theorem carriesComments (hcompiled : ofLanguage language = .ok h) :
    CarriesComments language h := by
  obtain ⟨hvalid, rules, -, hh⟩ := (ofLanguage_eq_ok_iff language h).1 hcompiled
  obtain rfl : h.language = language := by rw [hh]
  -- where the mark is first, there the tokenizer finds its end
  have hmark : ∀ line, h.language.commentEnd ≠ "" → ∀ place,
      Marker.FirstAt h.language.commentEnd.toList (Line.text line) place →
      Marker.endOf? h.language.commentEnd.toList (Line.text line) =
        some (place + h.language.commentEnd.toList.length) := by
    intro line hne place hfirst
    rw [Marker.endOf?, (Marker.find?_eq_some_iff (toList_ne_nil hne) _ place).2 hfirst]
    rfl
  constructor
  case of_open =>
    intro hne line hnowhere
    have hnone : Marker.endOf? h.language.commentEnd.toList (Line.text line) = none := by
      rw [Option.eq_none_iff_forall_ne_some]
      intro e he
      have hfirst := ((Marker.endOf?_eq_some_iff (toList_ne_nil hne) _ e).1 he).2
      exact hnowhere _ hfirst.1
    rw [colorize_eq, if_pos ⟨rfl, hne⟩, hnone]
  case of_end =>
    intro hne line place hfirst behind
    have hend := hmark line hne place hfirst
    have hle := Marker.endOf?_le hend
    rw [Line.length_text] at hle
    exact ⟨hle, h.withoutPreprocessor, ofLanguage_withoutPreprocessor hcompiled,
      colorize_of_endOf? hne hend⟩
  case of_none =>
    intro line state hnone
    have hneither : ¬ (state = .blockComment ∧ h.language.commentEnd ≠ "") := by
      intro hcomment
      cases hnone with
      | inl hempty => exact hcomment.2 hempty
      | inr hstate =>
        rw [hstate] at hcomment
        cases hcomment.1
    rw [colorize_eq, if_neg hneither, colorize_eq, if_neg (by simp)]
  case handsOn =>
    intro line state
    exact handsOn_tokens hvalid state (Line.text line)
  case of_mark =>
    intro line htext
    by_cases hne : h.language.commentEnd = ""
    · -- the line is empty, and nothing is in a comment
      rw [hne] at htext
      have hnil : line = [] := List.map_eq_nil_iff.1 htext
      rw [colorize_eq, if_neg (by simp [hne]), hnil]
      show (h.tokensFrom false []).2 = .normal
      rw [tokensFrom]
    · -- the line is the mark itself, so nothing is left behind it
      have hfirst : Marker.FirstAt h.language.commentEnd.toList (Line.text line) 0 := by
        rw [htext]
        exact Marker.firstAt_zero_iff.2 (List.prefix_refl _)
      have hend := hmark line hne 0 hfirst
      have hlength : 0 + h.language.commentEnd.toList.length = line.length := by
        rw [Nat.zero_add, ← htext, Line.length_text]
      rw [hlength] at hend
      rw [colorize_of_endOf? hne hend, List.drop_length]
      show (h.withoutPreprocessor.tokens .normal []).2 = .normal
      unfold tokens
      rw [if_neg (by simp), tokensFrom]

/-- A table with comments and a preprocessor character. -/
def directiveTable : Language :=
  { name := "T", commentStart := "/*", commentEnd := "*/", preprocessor := some '#' }

/-- Behind the end of a comment a directive cannot begin, but another comment can. -/
theorem carriesComments_directiveTable : ∃ h, ofLanguage directiveTable = .ok h ∧
    h.highlighter.colorize (Line.ofText "#b") .normal =
      (Line.ofChars ['#', 'b'] .preprocessor, .normal) ∧
    h.highlighter.colorize (Line.ofText "a*/#b/*") .blockComment =
      (Line.ofChars ['a', '*', '/'] .blockComment ++ Line.ofChars ['#', 'b'] .plain ++
        Line.ofChars ['/', '*'] .blockComment, .blockComment) := by
  have hcompiled : ofLanguage directiveTable =
      .ok ⟨directiveTable, [], Words.ofLanguage directiveTable declaration⟩ :=
    (ofLanguage_eq_ok_iff _ _).2 ⟨by decide +kernel, [], rfl, rfl⟩
  refine ⟨_, hcompiled, by decide +kernel, ?_⟩
  -- the comment ends at place 1, and what is behind it is read without directives
  have hfirst : Marker.FirstAt directiveTable.commentEnd.toList
      (Line.text (Line.ofText "a*/#b/*")) 1 :=
    (Marker.find?_eq_some_iff (by decide) _ _).1 (by decide +kernel)
  obtain ⟨-, own, hown, hcolored⟩ :=
    (carriesComments hcompiled).of_end (by decide) (Line.ofText "a*/#b/*") 1 hfirst
  rw [ofLanguage_withoutPreprocessor hcompiled] at hown
  cases hown
  rw [hcolored]
  decide +kernel

end PatternHighlighter

end Highlight
