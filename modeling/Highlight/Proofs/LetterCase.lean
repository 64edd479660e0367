import Highlight.Proofs.CSharp.LetterCase
import Highlight.Proofs.Pattern.Compile
import Highlight.Proofs.Pattern.LetterCase
import Highlight.Proofs.WordColors

/-!
# Lines that differ in letter case

Where the case of letters does not count in a table, lines that differ in the case of ASCII letters
only have the same colors and hand on the same: always under C#, and under the table itself if its
marks have no letters and its rules match such lines alike. Where it counts, it makes a difference
under C# to the colors of identifiers alone (`highlighters_ignoreCase`).
-/

namespace Highlight

open Text

/-- Whether lines that differ in the case of ASCII letters only have the same colors and hand on the
same. -/
def Highlighter.IgnoresCase (h : Highlighter) : Prop :=
  ∀ a b : Line, SameUpToCase (Line.text a) (Line.text b) → ∀ state,
    Line.categories (h.colorize a state).1 = Line.categories (h.colorize b state).1 ∧
      (h.colorize a state).2 = (h.colorize b state).2

namespace Highlighter

variable {h : Highlighter}

/-- The colors of a line are those of its tokens. -/
theorem categories_colorize (hc : h.Covers) (line : Line) (state : LineState) :
    Line.categories (h.colorize line state).1 =
      Token.categories (h.tokens state (Line.text line)).1 := by
  refine Line.categories_paint ?_
  rw [hc, Line.length_text]

/-- A highlighter whose tokens do not depend on letter case ignores it. -/
lemma ignoresCase_of_tokens (hc : h.Covers)
    (htokens : ∀ state text, h.tokens state (lower text) = h.tokens state text) :
    h.IgnoresCase := by
  intro a b hsame state
  have heq : h.tokens state (Line.text a) = h.tokens state (Line.text b) :=
    hsame.apply_eq (htokens state)
  constructor
  · rw [categories_colorize hc, categories_colorize hc, heq]
  · show (h.tokens state (Line.text a)).2 = (h.tokens state (Line.text b)).2
    rw [heq]

end Highlighter

/-! ## C# -/

namespace CSharp

/-- Whether the tokenizer comes to an identifier of `n` characters at a place of a line. -/
def IdentifierAt (language : Language) (state : LineState) (text : List Char) (place n : Nat) :
    Prop :=
  Visits (wordsOf language) state text .normal (text.drop place) ∧
    BeginsWithIdentifier (text.drop place) n

/-- Whether the case of ASCII letters makes a difference only where words are looked up. -/
structure CaseInWordsOnly (language : Language) : Prop where
  /-- It makes none where it does not count in the table. -/
  insensitive : language.caseSensitive = false → (highlighter language).IgnoresCase
  /-- The tokens are cut alike, and the line hands on the same. -/
  boundaries : ∀ {a b : List Char}, SameUpToCase a b → ∀ state,
    ((highlighter language).tokens state a).1.map Token.length =
        ((highlighter language).tokens state b).1.map Token.length ∧
      ((highlighter language).tokens state a).2 = ((highlighter language).tokens state b).2
  /-- Where two colors differ, both are colors of words, and they stand in the same identifier. -/
  colors : ∀ {a b : Line}, SameUpToCase (Line.text a) (Line.text b) → ∀ state i glyph other,
    ((highlighter language).colorize a state).1[i]? = some glyph →
    ((highlighter language).colorize b state).1[i]? = some other →
    glyph.category ≠ other.category →
    isWordCategory glyph.category = true ∧ isWordCategory other.category = true ∧
      ∃ place n, place ≤ i ∧ i < place + n ∧
        IdentifierAt language state (Line.text a) place n ∧
        IdentifierAt language state (Line.text b) place n

/-- The category with the three categories of words made one. -/
def blurWords (category : Category) : Category :=
  if isWordCategory category then .identifier else category

lemma isWordCategory_of_blurWords_eq {c d : Category} (h : blurWords c = blurWords d)
    (hne : c ≠ d) : isWordCategory c = true ∧ isWordCategory d = true := by
  have hidentifier : isWordCategory .identifier = true := rfl
  unfold blurWords at h
  cases hc : isWordCategory c <;> cases hd : isWordCategory d <;>
    simp only [hc, hd, if_true, Bool.false_eq_true, if_false] at h
  · exact absurd h hne
  · rw [h, hidentifier] at hc
    cases hc
  · rw [← h, hidentifier] at hd
    cases hd
  · exact ⟨rfl, rfl⟩

/-- Every word has one of the three categories of words. -/
theorem isWordCategory_categoryOf (language : Language) (word : List Char) :
    isWordCategory ((wordsOf language).categoryOf word) = true := by
  have hget := Words.get?_ofLanguage language declaration word
  unfold Words.categoryOf
  rw [hget]
  split_ifs <;> rfl

/-- With the categories of words made one, a word and its lower case have the same category. -/
lemma blurWords_categoryOf_lower (language : Language) (word : List Char) :
    blurWords ((wordsOf language).categoryOf (lower word)) =
      blurWords ((wordsOf language).categoryOf word) := by
  rw [blurWords, blurWords, if_pos (isWordCategory_categoryOf language _),
    if_pos (isWordCategory_categoryOf language word)]

/-- Letter case makes no difference to the colors of a line but among those of words. -/
theorem blurWords_categories_eq (language : Language) {a b : Line}
    (h : SameUpToCase (Line.text a) (Line.text b)) (state : LineState) :
    (Line.categories ((highlighter language).colorize a state).1).map blurWords =
      (Line.categories ((highlighter language).colorize b state).1).map blurWords := by
  have htokens := tokens_of_sameUpToCase (blurWords_categoryOf_lower language) h state
  rw [Highlighter.categories_colorize (covers_highlighter language),
    Highlighter.categories_colorize (covers_highlighter language), ← Token.categories_recolor,
    ← Token.categories_recolor]
  exact congrArg Token.categories htokens.1

/-- Letter case counts in the colors of words only. -/
lemma caseInWordsOnly (language : Language) : CaseInWordsOnly language where
  insensitive hcase := by
    refine Highlighter.ignoresCase_of_tokens (covers_highlighter language) fun state text => ?_
    obtain ⟨htokens, hnext⟩ :=
      tokens_lower (g := id) (Words.categoryOf_lower hcase declaration) state text
    have hid : Token.recolor id = id := rfl
    rw [hid, List.map_id, List.map_id] at htokens
    exact Prod.ext htokens hnext
  boundaries hsame state := by
    obtain ⟨htokens, hnext⟩ :=
      tokens_of_sameUpToCase (blurWords_categoryOf_lower language) hsame state
    have hlength : Token.length ∘ Token.recolor blurWords = Token.length := rfl
    have hlengths := congrArg (List.map Token.length) htokens
    rw [List.map_map, List.map_map, hlength] at hlengths
    exact ⟨hlengths, hnext⟩
  colors {a b} hsame state i glyph other hglyph hother hne := by
    have hblur := congrArg (·[i]?) (blurWords_categories_eq language hsame state)
    simp only [Line.categories, List.getElem?_map, hglyph, hother, Option.map_some,
      Option.some.injEq] at hblur
    obtain ⟨hword, hword'⟩ := isWordCategory_of_blurWords_eq hblur hne
    obtain ⟨place, n, hle, hlt, hvisits, hbegins⟩ :=
      exists_identifier_of_isWordCategory language rfl hglyph hword
    exact ⟨hword, hword', place, n, hle, hlt, ⟨hvisits, hbegins⟩,
      visits_of_sameUpToCase hsame hvisits,
      beginsWithIdentifier_of_sameUpToCase (hsame.drop place) hbegins⟩

end CSharp

/-! ## Rules -/

/-- Whether the instructions that a rule is compiled to show that it ignores case. -/
def Rule.isCaseless (rule : Rule) (caseSensitive : Bool) : Bool :=
  rule.pattern ≠ "" && (Regex.Program.ofPattern? rule.anchoredPattern (!caseSensitive)).all
    fun program => program.code.all Regex.Instruction.isCaseless

/-- A compiled rule ignores letter case where the test says so. -/
theorem Rule.ignoresCase_of_isCaseless {rule : Rule} {caseSensitive : Bool}
    (h : rule.isCaseless caseSensitive = true) {language : String} {compiled : CompiledRule}
    (hcompiled : rule.compile language caseSensitive = .ok compiled) : compiled.IgnoresCase := by
  obtain ⟨hpattern, hprogram⟩ := Bool.and_eq_true_iff.1 h
  obtain ⟨program, hsome, rfl⟩ := (compile_eq_ok_iff (of_decide_eq_true hpattern)).1 hcompiled
  rw [hsome, Option.all_some, Array.all_eq_true_iff_forall_mem] at hprogram
  exact CompiledRule.ignoresCase_of_instructions fun i hi =>
    Regex.Instruction.ignoresCase_of_isCaseless (hprogram i hi)

/-- The rules of a table ignore case if the instructions of each show it. -/
theorem PatternHighlighter.ignoresCase_of_isCaseless {language : Language} {h : PatternHighlighter}
    (hcompiled : ofLanguage language = .ok h)
    (hrules : ∀ rule ∈ language.rules, rule.isCaseless language.caseSensitive = true) :
    ∀ compiled ∈ h.rules, compiled.IgnoresCase := by
  obtain ⟨-, rules, hok, rfl⟩ := (ofLanguage_eq_ok_iff language h).1 hcompiled
  intro compiled hmem
  obtain ⟨rule, hrule, hcompile⟩ := exists_of_mem_mapM hok hmem
  exact Rule.ignoresCase_of_isCaseless (hrules rule hrule) hcompile

/-! ## All highlighters -/

/-- Under C# letter case makes a difference only where words are looked up in a table in which it
counts. Under a table in which it does not count it makes none, provided that the marks have no
letters and the rules match alike. -/
theorem highlighters_ignoreCase (language : Language) :
    CSharp.CaseInWordsOnly language ∧
      ∀ h, PatternHighlighter.ofLanguage language = .ok h → language.caseSensitive = false →
        language.HasPlainMarks → (∀ rule ∈ h.rules, rule.IgnoresCase) →
        h.highlighter.IgnoresCase := by
  refine ⟨CSharp.caseInWordsOnly language, ?_⟩
  intro h hcompiled hcase hmarks hrules
  obtain ⟨rfl, hwords⟩ := PatternHighlighter.ofLanguage_eq hcompiled
  refine Highlighter.ignoresCase_of_tokens h.covers_highlighter
    (PatternHighlighter.tokens_lower ⟨hmarks, hrules, fun word => ?_⟩)
  rw [hwords]
  exact Words.categoryOf_lower hcase _ word

/-- A table with words and strings. -/
def statements : Language :=
  { name := "T"
    keywords := ["SELECT"]
    lineComment := "--"
    commentStart := "/*"
    commentEnd := "*/"
    preprocessor := some '#'
    caseSensitive := false
    rules := [⟨"'.*?'", .string⟩, ⟨"select", .identifier⟩] }

/-- The rules of the table ignore case, and so do its highlighter and that of C# with its words. Of
the table of SQL the same is known once its rules are known to. -/
theorem highlighters_ignoreCase_statements :
    (∃ h, PatternHighlighter.ofLanguage statements = .ok h ∧ h.highlighter.IgnoresCase ∧
      Line.categories (h.highlighter.colorize (Line.ofText "SELECT 'A' --B") .normal).1 =
        Line.categories (h.highlighter.colorize (Line.ofText "select 'a' --b") .normal).1) ∧
      (CSharp.highlighter statements).IgnoresCase ∧
      ∀ h, PatternHighlighter.ofLanguage Builtin.sql = .ok h →
        (∀ rule ∈ h.rules, rule.IgnoresCase) → h.highlighter.IgnoresCase := by
  obtain ⟨hcsharp, hpatterns⟩ := highlighters_ignoreCase statements
  have hsound : statements.isSound = true := by decide +kernel
  obtain ⟨h, hcompiled⟩ := PatternHighlighter.exists_ofLanguage hsound
  have hmarks : statements.HasPlainMarks := by
    constructor <;> decide
  have hrules := PatternHighlighter.ignoresCase_of_isCaseless hcompiled (by decide +kernel)
  have hignores := hpatterns h hcompiled rfl hmarks hrules
  have hsql : Builtin.sql.HasPlainMarks := by
    constructor <;> decide
  refine ⟨⟨h, hcompiled, hignores, (hignores _ _ (by decide) .normal).1⟩,
    hcsharp.insensitive rfl, ?_⟩
  intro sql hok hrules
  exact (highlighters_ignoreCase Builtin.sql).2 sql hok rfl hsql hrules

/-- Where case counts in the same table, the color of a word changes with it. -/
example : let cased := CSharp.highlighter { statements with caseSensitive := true }
    Line.categories (cased.colorize (Line.ofText "SELECT") .normal).1 ≠
      Line.categories (cased.colorize (Line.ofText "select") .normal).1 := by
  decide +kernel

end Highlight
