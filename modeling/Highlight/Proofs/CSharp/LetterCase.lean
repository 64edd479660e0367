import Highlight.Proofs.CSharp.Identifier
import Highlight.Proofs.Places
import Highlight.Proofs.Text.LetterCase

/-!
# Letter case in C#

A scanner of C# finds the same in a text and in its lower case, for it looks for marks without
letters, for both cases of a letter, or for classes of characters that have both. So has every
recognizer the same token for both, but for the color of an identifier, which its word decides:
`tokens_lower` takes a function on colors that does not tell the colors of such words apart. The
identifiers stand at the same places (`visits_of_sameUpToCase`).
-/

namespace Highlight

/-- The token with its category replaced. -/
def Token.recolor (g : Category → Category) (token : Token) : Token :=
  { token with category := g token.category }

lemma Token.categories_recolor (g : Category → Category) (tokens : List Token) :
    Token.categories (tokens.map (Token.recolor g)) = (Token.categories tokens).map g := by
  induction tokens with
  | nil => rfl
  | cons token tokens ih =>
    rw [List.map_cons, Token.categories, Token.categories, ih, List.map_append,
      List.map_replicate]
    rfl

namespace CSharp

open Text

variable {words : Words} {text : List Char}

/-! ## Characters -/

lemma ignoresCase_isIdentifierStart : IgnoresCase isIdentifierStart :=
  ignoresCase_of_capitals (by decide)

lemma ignoresCase_isIdentifierPart : IgnoresCase isIdentifierPart :=
  ignoresCase_of_capitals (by decide)

lemma ignoresCase_isPunctuation : IgnoresCase isPunctuation := ignoresCase_of_capitals (by decide)

lemma ignoresCase_blank : IgnoresCase isBlank := ignoresCase_of_capitals (by decide)

lemma ignoresCase_isHexDigit : IgnoresCase isHexDigit := ignoresCase_of_capitals (by decide)

lemma ignoresCase_isBinaryDigit : IgnoresCase isBinaryDigit := ignoresCase_of_capitals (by decide)

lemma ignoresCase_isDigit : IgnoresCase Char.isDigit := ignoresCase_of_capitals (by decide)

lemma ignoresCase_isDigitOrBar : IgnoresCase isDigitOrBar := ignoresCase_of_capitals (by decide)

lemma ignoresCase_isSign : IgnoresCase isSign := ignoresCase_of_capitals (by decide)

lemma ignoresCase_isFloatSuffix : IgnoresCase isFloatSuffix := ignoresCase_of_capitals (by decide)

lemma ignoresCase_isIntegerSuffix : IgnoresCase isIntegerSuffix :=
  ignoresCase_of_capitals (by decide)

/-- A run of characters of both cases is as long in lower case. -/
lemma runLength_lower {p : Char → Bool} (hp : IgnoresCase p) (text : List Char) :
    runLength p (lower text) = runLength p text := by
  rw [runLength, takeWhile_lower hp, length_lower, runLength]

/-! ## Strings and characters -/

lemma quotedEnd?_lower (text : List Char) : quotedEnd? (lower text) = quotedEnd? text := by
  fun_induction quotedEnd? text with
  | case1 => rfl
  | case2 rest => rfl
  | case3 c rest ih =>
    show (quotedEnd? (lower rest)).map (· + 2) = _
    rw [ih]
  | case4 c rest hquote hbackslash ih =>
    rw [lower_cons, quotedEnd?, ih]
    · exact fun hlower => hquote ((toLower_eq_iff (by decide)).1 hlower)
    · intro d others hlower hrest
      cases rest with
      | nil => cases hrest
      | cons e rest => exact hbackslash e rest ((toLower_eq_iff (by decide)).1 hlower) rfl

lemma verbatimEnd?_lower (text : List Char) : verbatimEnd? (lower text) = verbatimEnd? text := by
  fun_induction verbatimEnd? text with
  | case1 => rfl
  | case2 rest ih =>
    show (verbatimEnd? (lower rest)).map (· + 2) = _
    rw [ih]
  | case3 rest hquote =>
    show verbatimEnd? ('"' :: lower rest) = _
    rw [verbatimEnd?]
    exact not_lower_eq_append ['"'] (by decide) hquote
  | case4 c rest hdouble hquote ih =>
    have hc : c.toLower ≠ '"' := fun hlower => hquote ((toLower_eq_iff (by decide)).1 hlower)
    rw [lower_cons, verbatimEnd?, ih]
    · exact fun others hlower => absurd hlower hc
    · exact hc

lemma plainString?_lower (text : List Char) : plainString? (lower text) = plainString? text := by
  fun_cases plainString? text with
  | case1 body =>
    show (quotedEnd? (lower body)).map (· + 1) = _
    rw [quotedEnd?_lower]
  | case2 =>
    rename_i hquote
    rw [plainString?]
    exact not_lower_eq_append ['"'] (by decide) hquote

lemma interpolatedString?_lower (text : List Char) :
    interpolatedString? (lower text) = interpolatedString? text := by
  fun_cases interpolatedString? text with
  | case1 body =>
    show (quotedEnd? (lower body)).map (· + 2) = _
    rw [quotedEnd?_lower]
  | case2 =>
    rename_i hopening
    rw [interpolatedString?]
    exact not_lower_eq_append ['$', '"'] (by decide) hopening

/-- The marks that open a verbatim string have no letters. -/
lemma verbatimOpening?_lower (text : List Char) :
    verbatimOpening? (lower text) = verbatimOpening? text := by
  fun_cases verbatimOpening? text with
  | case1 rest => rfl
  | case2 rest => rfl
  | case3 rest => rfl
  | case4 =>
    rename_i hat hdollar hatDollar
    rw [verbatimOpening?]
    · exact not_lower_eq_append ['@', '"'] (by decide) hat
    · exact not_lower_eq_append ['$', '@', '"'] (by decide) hdollar
    · exact not_lower_eq_append ['@', '$', '"'] (by decide) hatDollar

lemma charLiteral?_lower (text : List Char) : charLiteral? (lower text) = charLiteral? text := by
  -- a character and a quote behind it stand where they do in lower case
  have hclosed : ∀ {text : List Char} {d tail}, lower text = d :: '\'' :: tail →
      ∃ c others, text = c :: '\'' :: others := by
    intro text d tail hlower
    obtain ⟨c, rest, rfl, -, hrest⟩ := lower_eq_cons_iff.1 hlower
    obtain ⟨others, rfl, -⟩ := exists_of_lower_eq_append ['\''] (by decide) hrest
    exact ⟨c, others, rfl⟩
  fun_cases charLiteral? text with
  | case1 => rfl
  | case2 =>
    rename_i rest hopen
    show charLiteral? ('\'' :: '\\' :: lower rest) = none
    rw [charLiteral?]
    intro d tail hlower
    obtain ⟨c, others, hrest⟩ := hclosed hlower
    exact hopen c others hrest
  | case3 =>
    rename_i c rest hbackslash
    show charLiteral? ('\'' :: c.toLower :: '\'' :: lower rest) = some 3
    rw [charLiteral?]
    exact fun hlower => hbackslash ((toLower_eq_iff (by decide)).1 hlower)
  | case4 =>
    rename_i hescape hplain
    rw [charLiteral?]
    · exact not_lower_eq_append ['\'', '\\'] (by decide) hescape
    · intro d tail hlower
      obtain ⟨rest, rfl, hrest⟩ := exists_of_lower_eq_append ['\''] (by decide) hlower
      obtain ⟨c, others, rfl⟩ := hclosed hrest
      exact hplain c others rfl

/-! ## Numbers -/

/-- A number in another radix is as long in lower case: its mark and its digits may have both cases.
-/
lemma radixNumber?_lower (text : List Char) : radixNumber? (lower text) = radixNumber? text := by
  by_cases hzero : ∃ mark rest, text = '0' :: mark :: rest
  · obtain ⟨mark, rest, rfl⟩ := hzero
    have hhex : (mark.toLower == 'x' || mark.toLower == 'X') = (mark == 'x' || mark == 'X') :=
      ignoresCase_of_capitals (f := fun c => c == 'x' || c == 'X') (by decide) mark
    have hbinary : (mark.toLower == 'b' || mark.toLower == 'B') = (mark == 'b' || mark == 'B') :=
      ignoresCase_of_capitals (f := fun c => c == 'b' || c == 'B') (by decide) mark
    show radixNumber? ('0' :: mark.toLower :: lower rest) = _
    rw [radixNumber?, radixNumber?, hhex, hbinary]
    simp only [runLength_lower ignoresCase_isHexDigit, runLength_lower ignoresCase_isBinaryDigit,
      ← lower_drop, runLength_lower ignoresCase_isIntegerSuffix]
  · -- a zero has no case, so the lower case begins with one only if the text does
    have hlower : ∀ mark rest, lower text ≠ '0' :: mark :: rest := by
      intro mark rest hlower
      obtain ⟨tail, rfl, htail⟩ := exists_of_lower_eq_append ['0'] (by decide) hlower
      obtain ⟨c, others, rfl, -⟩ := lower_eq_cons_iff.1 htail
      exact hzero ⟨c, others, rfl⟩
    rw [radixNumber?, radixNumber?]
    · exact fun mark rest htext => hzero ⟨mark, rest, htext⟩
    · exact hlower

lemma wholePart?_lower (text : List Char) : wholePart? (lower text) = wholePart? text := by
  cases text with
  | nil => rfl
  | cons c rest =>
    have hany : ((lower rest).takeWhile isDigitOrBar).any Char.isDigit =
        (rest.takeWhile isDigitOrBar).any Char.isDigit := by
      rw [takeWhile_lower ignoresCase_isDigitOrBar, any_lower ignoresCase_isDigit]
    rw [lower_cons, wholePart?, wholePart?]
    simp only [hany, ignoresCase_isDigit c, ignoresCase_isSign c]
    rw [takeWhile_lower ignoresCase_isDigitOrBar, length_lower]

lemma fractionLength_lower (text : List Char) :
    fractionLength (lower text) = fractionLength text := by
  fun_cases fractionLength text with
  | case1 rest =>
    show 1 + runLength isDigitOrBar (lower rest) = _
    rw [runLength_lower ignoresCase_isDigitOrBar]
  | case2 =>
    rename_i hpoint
    rw [fractionLength]
    exact not_lower_eq_append ['.'] (by decide) hpoint

/-- An exponent is as long in lower case, for its mark may have both cases. -/
lemma exponentLength?_lower (text : List Char) :
    exponentLength? (lower text) = exponentLength? text := by
  cases text with
  | nil => rfl
  | cons c rest =>
    have hmark : (c.toLower == 'e' || c.toLower == 'E') = (c == 'e' || c == 'E') :=
      ignoresCase_of_capitals (f := fun c => c == 'e' || c == 'E') (by decide) c
    rw [lower_cons, exponentLength?, exponentLength?]
    simp only [hmark, any_head?_lower ignoresCase_isSign, ← lower_drop,
      runLength_lower ignoresCase_isDigit]

lemma suffixLength_lower (isInteger : Bool) (text : List Char) :
    suffixLength isInteger (lower text) = suffixLength isInteger text := by
  rw [suffixLength, suffixLength, any_head?_lower ignoresCase_isFloatSuffix,
    runLength_lower ignoresCase_isIntegerSuffix]

/-- A decimal number is as long in lower case, part by part. -/
lemma decimalNumber?_lower (text : List Char) :
    decimalNumber? (lower text) = decimalNumber? text := by
  unfold decimalNumber?
  simp only [wholePart?_lower, ← lower_drop, fractionLength_lower, exponentLength?_lower,
    suffixLength_lower]

/-- A number is as long in lower case. -/
lemma number?_lower (text : List Char) : number? (lower text) = number? text := by
  rw [number?, radixNumber?_lower, decimalNumber?_lower, number?]

/-! ## Comments and identifiers -/

lemma identifier?_lower (text : List Char) : identifier? (lower text) = identifier? text := by
  unfold identifier?
  simp only [head?_lower (c := '@') (by decide), ← lower_drop]
  cases text.drop (if text.head? = some '@' then 1 else 0) with
  | nil => rfl
  | cons c rest =>
    simp only [lower_cons, ignoresCase_isIdentifierStart c,
      runLength_lower ignoresCase_isIdentifierPart]

lemma verbatimScan_lower (opening : Nat) (text : List Char) :
    verbatimScan opening (lower text) = verbatimScan opening text := by
  rw [verbatimScan, verbatimScan, ← lower_drop, verbatimEnd?_lower, length_lower]

lemma commentScan_lower (opening : Nat) (text : List Char) :
    commentScan opening (lower text) = commentScan opening text := by
  rw [commentScan, commentScan, ← lower_drop, Marker.endOf?_lower (by decide), length_lower]

/-! ## Recognizers and steps -/

/-- The token with its category replaced. -/
def Scan.recolor (g : Category → Category) (scan : Scan) : Scan :=
  { scan with category := g scan.category }

/-- Two recolored scans are the same if they take as much, hand on the same and have colors that the
function does not tell apart. -/
lemma Scan.recolor_eq_iff {g : Category → Category} {scan other : Scan} :
    scan.recolor g = other.recolor g ↔ scan.length = other.length ∧
      g scan.category = g other.category ∧ scan.next = other.next := by
  rw [Scan.recolor, Scan.recolor, Scan.mk.injEq]

/-- Each of the nine recognizers gives a text and its lower case the same token, but for the colors
of words that `g` does not tell apart. -/
theorem recognizer_lower {g : Category → Category}
    (hwords : ∀ word, g (words.categoryOf (lower word)) = g (words.categoryOf word))
    {recognizer : Recognizer} (hr : recognizer ∈ recognizers words) (text : List Char) :
    (recognizer (lower text)).map (Scan.recolor g) = (recognizer text).map (Scan.recolor g) := by
  simp only [recognizers, List.mem_cons, List.not_mem_nil, or_false] at hr
  rcases hr with rfl | rfl | rfl | rfl | rfl | rfl | rfl | rfl | rfl
  · rw [blockComment, blockComment, Marker.startsWith_lower (by decide), commentScan_lower]
  · rw [lineComment, lineComment, Marker.startsWith_lower (by decide), length_lower]
  · rw [directive, directive, length_lower]
    simp only [head?_lower (c := '#') (by decide)]
  · rw [verbatimString, verbatimString, verbatimOpening?_lower]
    simp only [verbatimScan_lower]
  · rw [interpolatedString, interpolatedString, interpolatedString?_lower]
  · rw [plainString, plainString, plainString?_lower]
  · rw [charLiteral, charLiteral, charLiteral?_lower]
  · -- the length of an identifier is the same, and its color is that of its word
    rw [identifier, identifier, identifier?_lower, Option.map_map, Option.map_map]
    refine Option.map_congr fun n _ => ?_
    simp only [Function.comp_apply, Scan.recolor, ← lower_take, hwords]
  · rw [number, number, number?_lower]

lemma lone_lower (text : List Char) : lone (lower text) = lone text := by
  rw [lone, lone, any_head?_lower ignoresCase_isPunctuation]

/-- Outside of strings and comments a scan takes as much in lower case, and its color is that of the
lower case of its word. -/
lemma scanNormal_lower {g : Category → Category}
    (hwords : ∀ word, g (words.categoryOf (lower word)) = g (words.categoryOf word))
    (text : List Char) :
    (scanNormal words (lower text)).recolor g = (scanNormal words text).recolor g := by
  have hfind : ((recognizers words).findSome? (· (lower text))).map (Scan.recolor g) =
      ((recognizers words).findSome? (· text)).map (Scan.recolor g) := by
    rw [List.map_findSome?, List.map_findSome?]
    exact findSome?_congr fun r hr => recognizer_lower hwords hr text
  rw [scanNormal, scanNormal, ← Option.getD_map (Scan.recolor g), hfind, lone_lower,
    Option.getD_map]

/-- A step takes the same of a text and of its lower case and leads to the same state, but for the
colors of words that `g` does not tell apart. -/
theorem scan_lower {g : Category → Category}
    (hwords : ∀ word, g (words.categoryOf (lower word)) = g (words.categoryOf word))
    (state : LineState) (text : List Char) :
    (scan words state (lower text)).recolor g = (scan words state text).recolor g := by
  unfold scan
  simp only [runLength_lower ignoresCase_blank]
  by_cases hblank : 0 < runLength isBlank text
  · rw [if_pos hblank, if_pos hblank]
  · rw [if_neg hblank, if_neg hblank]
    cases state with
    | normal => exact scanNormal_lower hwords text
    | blockComment => exact congrArg _ (commentScan_lower 0 text)
    | verbatimString => exact congrArg _ (verbatimScan_lower 0 text)

/-! ## Whole lines -/

/-- Apart from colors, a step does not depend on letter case at all. -/
theorem scan_lower_plain (words : Words) (state : LineState) (text : List Char) :
    (scan words state (lower text)).length = (scan words state text).length ∧
      (scan words state (lower text)).next = (scan words state text).next := by
  have hscan : (scan words state (lower text)).recolor (fun _ => .plain) =
      (scan words state text).recolor fun _ => .plain := scan_lower (fun _ => rfl) state text
  obtain ⟨hlength, -, hnext⟩ := Scan.recolor_eq_iff.1 hscan
  exact ⟨hlength, hnext⟩

/-- A line and its lower case have the same tokens and hand on the same state, but for the colors of
words that `g` does not tell apart. -/
theorem tokens_lower {g : Category → Category}
    (hwords : ∀ word, g (words.categoryOf (lower word)) = g (words.categoryOf word))
    (state : LineState) (text : List Char) :
    (tokens words state (lower text)).1.map (Token.recolor g) =
        (tokens words state text).1.map (Token.recolor g) ∧
      (tokens words state (lower text)).2 = (tokens words state text).2 := by
  induction hlength : text.length using Nat.strongRecOn generalizing state text with
  | ind length ih =>
    by_cases hne : text = []
    · subst hne
      exact ⟨rfl, rfl⟩
    · have hlower : lower text ≠ [] := by simpa [lower] using hne
      obtain ⟨hpos, hle⟩ := scan_within words state hne
      -- the two steps are of one length and lead to one state
      obtain ⟨hsame, hcategory, hnext⟩ := Scan.recolor_eq_iff.1 (scan_lower hwords state text)
      obtain ⟨hothers, hlast⟩ := ih _ (by rw [List.length_drop]; omega)
        (scan words state text).next (text.drop (scan words state text).length) rfl
      rw [lower_drop] at hothers hlast
      rw [tokens_cons words state hlower, tokens_cons words state hne]
      simp only [List.map_cons, Token.recolor, hsame, hnext, hcategory]
      exact ⟨congrArg _ hothers, hlast⟩

/-- Lines that differ in case only have the same tokens and hand on the same state, but for the
colors of words that `g` does not tell apart. -/
theorem tokens_of_sameUpToCase {g : Category → Category}
    (hwords : ∀ word, g (words.categoryOf (lower word)) = g (words.categoryOf word))
    {a b : List Char} (h : SameUpToCase a b) (state : LineState) :
    (tokens words state a).1.map (Token.recolor g) =
        (tokens words state b).1.map (Token.recolor g) ∧
      (tokens words state a).2 = (tokens words state b).2 := by
  have ha := tokens_lower hwords state a
  have hb := tokens_lower hwords state b
  rw [h] at ha
  exact ⟨ha.1.symm.trans hb.1, ha.2.symm.trans hb.2⟩

/-! ## Places -/

variable {state now : LineState} {rest a b : List Char}

/-- The places that a line comes to, it comes to in lower case. -/
lemma visits_lower (hv : Visits words state text now rest) :
    Visits words state (lower text) now (lower rest) := by
  induction hv with
  | start => exact .start
  | @step now rest visits hne ih =>
    obtain ⟨hlength, hnext⟩ := scan_lower_plain words now rest
    have hstep := ih.step (by simpa [lower] using hne)
    rwa [hlength, hnext, ← lower_drop] at hstep

/-- A place that the lower case of a line comes to is one that the line comes to. -/
lemma exists_visits_of_lower {lowered : List Char}
    (hv : Visits words state (lower text) now lowered) :
    ∃ rest, lower rest = lowered ∧ Visits words state text now rest := by
  induction hv with
  | start => exact ⟨text, rfl, .start⟩
  | @step now lowered visits hne ih =>
    obtain ⟨rest, rfl, hrest⟩ := ih
    obtain ⟨hlength, hnext⟩ := scan_lower_plain words now rest
    rw [hlength, hnext]
    exact ⟨_, lower_drop _ _, hrest.step (by simpa [lower] using hne)⟩

/-- In lines that differ in case only the tokenizer comes to the same places. -/
theorem visits_of_sameUpToCase (h : SameUpToCase a b) {place : Nat}
    (hv : Visits words state a now (a.drop place)) :
    Visits words state b now (b.drop place) := by
  have hlower := visits_lower hv
  rw [lower_drop, h, ← lower_drop] at hlower
  obtain ⟨rest, hrest, hv'⟩ := exists_visits_of_lower hlower
  -- the rest is as long as what the place leaves
  have hlength := congrArg List.length hrest
  rw [length_lower, length_lower, List.length_drop] at hlength
  obtain ⟨-, hdrop⟩ := drop_of_visits hv'
  rw [hlength] at hdrop
  by_cases hplace : place ≤ b.length
  · rw [Nat.sub_sub_self hplace] at hdrop
    rwa [hdrop]
  · rw [List.length_eq_zero_iff.1 (hlength.trans (by omega))] at hv'
    rwa [List.drop_eq_nil_of_le (by omega)]

/-- What begins with an identifier does so in any letter case. -/
theorem beginsWithIdentifier_of_sameUpToCase (h : SameUpToCase a b) {n : Nat}
    (hword : BeginsWithIdentifier a n) : BeginsWithIdentifier b n := by
  have hsome := (identifier?_eq_some_iff a n).2 hword
  rw [h.apply_eq identifier?_lower] at hsome
  exact (identifier?_eq_some_iff b n).1 hsome

end CSharp

end Highlight
