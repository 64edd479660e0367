import Highlight.Proofs.Places
import Highlight.Proofs.Regex.LetterCase

/-!
# Letter case under a table

Where the rules of a table match as much of a text as of its lower case, where the marks of its
comments and its preprocessor character are no letters, and where its words are looked up without
their case, each step is the same in lower case (`step_lower`), and so is the line (`tokens_lower`).
-/

namespace Highlight

open Text

/-- Whether the marks of comments and the preprocessor character of a table have no ASCII
letters. -/
structure Language.HasPlainMarks (language : Language) : Prop where
  commentStart : language.commentStart.toList.any Char.isAlpha = false
  commentEnd : language.commentEnd.toList.any Char.isAlpha = false
  lineComment : language.lineComment.toList.any Char.isAlpha = false
  preprocessor : language.preprocessor.any Char.isAlpha = false

/-- Whether a rule matches equally much of texts that differ in the case of ASCII letters only. -/
def CompiledRule.IgnoresCase (rule : CompiledRule) : Prop :=
  ∀ a b, SameUpToCase a b → rule.matchBytes? a = rule.matchBytes? b

/-- A rule that ignores letter case matches as much in lower case. -/
lemma CompiledRule.matchBytes?_lower {rule : CompiledRule} (h : rule.IgnoresCase)
    (text : List Char) : rule.matchBytes? (lower text) = rule.matchBytes? text :=
  h _ _ (lower_lower text)

/-- A rule ignores case if the instructions of its program do. -/
theorem CompiledRule.ignoresCase_of_instructions {rule : CompiledRule}
    (h : ∀ i ∈ rule.program.code, i.IgnoresCase) : rule.IgnoresCase := by
  intro a b hsame
  refine hsame.apply_eq fun text => ?_
  rw [matchBytes?, matchBytes?, Regex.Program.findEnd?_lower h]
  simp only [← lower_take, utf8Length_lower]

namespace PatternHighlighter

lemma matchRules?_lower {rules : List CompiledRule} (hrules : ∀ rule ∈ rules, rule.IgnoresCase)
    (text : List Char) : matchRules? rules (lower text) = matchRules? rules text := by
  refine findSome?_congr fun rule hrule => ?_
  rw [CompiledRule.matchBytes?_lower (hrules rule hrule)]

variable {h : PatternHighlighter}

/-- Whether a highlighter has no part that depends on the case of ASCII letters. -/
structure Caseless (h : PatternHighlighter) : Prop where
  marks : h.language.HasPlainMarks
  rules : ∀ rule ∈ h.rules, rule.IgnoresCase
  words : ∀ word, h.words.categoryOf (lower word) = h.words.categoryOf word

lemma ruleStep?_lower (hh : h.Caseless) (text : List Char) :
    h.ruleStep? (lower text) = h.ruleStep? text := by
  rw [ruleStep?, ruleStep?, matchRules?_lower hh.rules]
  simp only [glyphsWithin_lower, ← lower_take, hh.words]

/-- A comment takes as much in lower case, for its marks have no letters. -/
lemma commentStep_lower {language : Language} (hmarks : language.HasPlainMarks) (opening : Nat)
    (text : List Char) : commentStep language opening (lower text) =
      commentStep language opening text := by
  rw [commentStep, commentStep, ← lower_drop, Marker.endOf?_lower hmarks.commentEnd]

/-- A step is the same in lower case. -/
theorem step_lower (hh : h.Caseless) (seenCode : Bool) (c : Char) (rest : List Char) :
    h.step seenCode c.toLower (lower rest) = h.step seenCode c rest := by
  have hpreprocessor : (h.language.preprocessor == some c.toLower) =
      (h.language.preprocessor == some c) := by
    have hmark := hh.marks.preprocessor
    cases hd : h.language.preprocessor with
    | none => rfl
    | some d =>
      rw [hd] at hmark
      rw [Bool.eq_iff_iff, beq_iff_eq, beq_iff_eq, Option.some.injEq, Option.some.injEq, eq_comm,
        toLower_eq_iff hmark, eq_comm]
  unfold step
  simp only [← lower_cons, ignoresCase_isBlank c, Marker.startsWith_lower hh.marks.commentStart,
    Marker.startsWith_lower hh.marks.lineComment, commentStep_lower hh.marks, hpreprocessor,
    ruleStep?_lower hh]

/-- The tokens of a text are those of its lower case. -/
lemma tokensFrom_lower (hh : h.Caseless) (seenCode : Bool) (text : List Char) :
    h.tokensFrom seenCode (lower text) = h.tokensFrom seenCode text := by
  induction hlength : text.length using Nat.strongRecOn generalizing seenCode text with
  | ind length ih =>
    cases text with
    | nil => rfl
    | cons c rest =>
      have hlower := step_lower hh seenCode c rest
      cases hstep : h.step seenCode c rest with
      | last category next =>
        rw [hstep] at hlower
        rw [lower_cons, tokensFrom_of_last hlower, tokensFrom_of_last hstep, length_lower]
      | token n category =>
        rw [hstep] at hlower
        obtain ⟨hpos, hle⟩ := step_within h hstep
        rw [lower_cons, tokensFrom_of_token hlower, tokensFrom_of_token hstep, ← lower_cons,
          ← lower_drop, ignoresCase_isBlank,
          ih _ (by rw [List.length_drop]; omega) _ _ rfl]

/-- The tokens of a line and the state it hands on are those of its lower case. -/
theorem tokens_lower (hh : h.Caseless) (state : LineState) (text : List Char) :
    h.tokens state (lower text) = h.tokens state text := by
  have hend := Marker.endOf?_lower hh.marks.commentEnd text
  by_cases hcarried : state = .blockComment ∧ h.language.commentEnd ≠ ""
  · cases hmark : Marker.endOf? h.language.commentEnd.toList text with
    | none =>
      rw [hmark] at hend
      rw [tokens_of_open hcarried hend, tokens_of_open hcarried hmark, length_lower]
    | some n =>
      rw [hmark] at hend
      rw [tokens_of_closed hcarried hend, tokens_of_closed hcarried hmark, ← lower_drop,
        tokensFrom_lower hh]
  · rw [tokens_of_fresh hcarried, tokens_of_fresh hcarried, tokensFrom_lower hh]

end PatternHighlighter

end Highlight
