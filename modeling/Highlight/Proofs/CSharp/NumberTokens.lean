import Highlight.Proofs.CSharp.InPlace
import Highlight.Proofs.CSharp.Literals
import Highlight.Proofs.CSharp.LongestNumeral

/-!
# Number tokens of C#

A number begins with a digit or a sign, and no recognizer that is asked before accepts there. So
where nothing is left open, the number that is read is the token, and where none is read a single
character is. `paintsNumerals` puts this together with the grammar of numerals.
-/

namespace Highlight.CSharp

/-- Whether a number can begin with a character. -/
def beginsNumber (c : Char) : Bool := c.isDigit || isSign c

variable {words : Words} {text rest : List Char} {c : Char} {n : Nat}

/-! ## What a number begins with -/

/-- A number begins with a sign or a digit. -/
theorem Reads.beginsNumber (h : Reads text n) : text.head?.any beginsNumber = true := by
  cases h with
  | radix => rfl
  | decimal _ hdecimal =>
    obtain ⟨hmantissa, -, -⟩ := hdecimal
    obtain ⟨whole, hfront, hwhole⟩ := hmantissa.holds.exists_whole
    obtain ⟨c, run, rfl, -, hc⟩ := hwhole
    obtain ⟨others, rfl⟩ := hfront.trans (List.take_prefix _ text)
    rcases hc with hc | ⟨hc, -⟩
    · simp [CSharp.beginsNumber, hc]
    · simp [CSharp.beginsNumber, hc]

/-- Of the characters that other tokens begin with, none begins a number. -/
theorem ne_of_beginsNumber (h : beginsNumber c = true) :
    isBlank c = false ∧ c ≠ '/' ∧ c ≠ '#' ∧ c ≠ '"' ∧ c ≠ '$' ∧ c ≠ '\'' ∧ c ≠ '@' ∧ c ≠ '_' := by
  refine ⟨?_, ?_, ?_, ?_, ?_, ?_, ?_, ?_⟩
  case refine_1 =>
    by_contra hblank
    rw [isBlank, Bool.not_eq_false, Bool.or_eq_true, beq_iff_eq, beq_iff_eq] at hblank
    rcases hblank with rfl | rfl <;> cases h
  all_goals
    rintro rfl
    cases h

/-- Signs and digits come before all letters. -/
lemma toNat_lt_of_beginsNumber (h : beginsNumber c = true) : c.toNat < 65 := by
  rw [beginsNumber, isSign, Bool.or_eq_true, Bool.or_eq_true, beq_iff_eq, beq_iff_eq] at h
  rcases h with h | rfl | rfl
  · rw [Char.isDigit, Bool.and_eq_true, decide_eq_true_eq, decide_eq_true_eq] at h
    have hle : c.toNat ≤ 57 := h.2
    omega
  · decide
  · decide

lemma not_isAlpha_of_toNat_lt (h : c.toNat < 65) : c.isAlpha = false := by
  rw [Bool.eq_false_iff]
  intro halpha
  rcases Bool.or_eq_true_iff.1 halpha with hupper | hlower
  · have hge : 65 ≤ c.toNat := (of_decide_eq_true hupper).1
    omega
  · have hge : 97 ≤ c.toNat := of_decide_eq_true (Bool.and_eq_true_iff.1 hlower).1
    omega

/-- No identifier begins as a number does. -/
theorem not_isIdentifierStart_of_beginsNumber (h : beginsNumber c = true) :
    isIdentifierStart c = false := by
  have hlt := toNat_lt_of_beginsNumber h
  have hbar : c ≠ '_' := (ne_of_beginsNumber h).2.2.2.2.2.2.2
  rw [isIdentifierStart, Unicode.isAlphabetic_ascii (by omega), not_isAlpha_of_toNat_lt hlt,
    beq_false_of_ne hbar]
  rfl

/-- Of the beginnings of a number only the signs are punctuation. -/
lemma isPunctuation_of_beginsNumber (h : beginsNumber c = true) :
    isPunctuation c = isSign c := by
  rw [beginsNumber, Bool.or_eq_true] at h
  cases hsign : isSign c with
  | true =>
    rw [isSign, Bool.or_eq_true, beq_iff_eq, beq_iff_eq] at hsign
    rcases hsign with rfl | rfl <;> rfl
  | false =>
    have hdigit : c.isDigit = true := by simpa [hsign] using h
    rw [Bool.eq_false_iff]
    intro hpunctuation
    -- none of the characters of punctuation is a digit
    have hnone : ∀ d, isPunctuation d = true → d.isDigit = false := by
      simp [isPunctuation]
    rw [hnone c hpunctuation] at hdigit
    cases hdigit

/-- Where a number might begin, the recognizers that are asked before decline. -/
theorem declined_of_beginsNumber (h : beginsNumber c = true) (rest : List Char) {r : Recognizer}
    (hr : r ∈ earlierRecognizers ++ [identifier words]) : r (c :: rest) = none := by
  obtain ⟨-, hslash, hhash, hquote, hdollar, htick, hat, -⟩ := ne_of_beginsNumber h
  have hstart := not_isIdentifierStart_of_beginsNumber h
  simp only [earlierRecognizers, List.cons_append, List.nil_append, List.mem_cons,
    List.not_mem_nil, or_false] at hr
  rcases hr with rfl | rfl | rfl | rfl | rfl | rfl | rfl | rfl
  · simp [blockComment, Marker.startsWith, hslash.symm]
  · simp [lineComment, Marker.startsWith, hslash.symm]
  · simp [directive, hhash]
  · simp [verbatimString, verbatimOpening?, hat, hdollar]
  · simp [interpolatedString, interpolatedString?, hdollar]
  · simp [plainString, plainString?, hquote]
  · simp [charLiteral, charLiteral?, htick]
  · simp [identifier, identifier?, hat, hstart]

/-! ## Numbers among the tokens -/

lemma number_eq (text : List Char) :
    number text = (number? text).map ({ length := ·, category := .number }) := rfl

/-- Where nothing is left open and a number might begin, the token is the number that is read, or a
single character. -/
theorem scan_of_beginsNumber (words : Words) (h : beginsNumber c = true) (rest : List Char) :
    scan words .normal (c :: rest) = (number (c :: rest)).getD (lone (c :: rest)) := by
  have hblank : runLength isBlank (c :: rest) = 0 := by
    simp [runLength, (ne_of_beginsNumber h).1]
  rw [scan_normal words hblank]
  have hsplit : recognizers words = (earlierRecognizers ++ [identifier words]) ++ [number] := rfl
  have hearlier : (earlierRecognizers ++ [identifier words]).findSome? (· (c :: rest)) = none :=
    List.findSome?_eq_none_iff.2 fun r hr => declined_of_beginsNumber h rest hr
  rw [scanNormal, hsplit, List.findSome?_append, hearlier, Option.none_or,
    List.findSome?_singleton]

/-- What is read as a number is painted in place, and the state is not written. -/
theorem run_number_of_reads {span : Span} (h : Reads (Line.text span.line) n) :
    InPlace.number.run span = some (some n,
      ⟨Line.ofChars ((Line.text span.line).take n) .number ++ span.line.drop n, span.state⟩) := by
  have hne : Line.text span.line ≠ [] := by
    intro hnil
    have hbegins := h.beginsNumber
    rw [hnil] at hbegins
    cases hbegins
  obtain ⟨c, rest, htext⟩ := List.exists_cons_of_ne_nil hne
  have hfill : Line.repaint .number span.line 0 n =
      Line.ofChars ((Line.text span.line).take n) .number ++ span.line.drop n := by
    rw [Line.repaint_zero, Line.fill_eq_ofChars, Line.text, Line.text, List.map_take]
  rw [InPlace.run_number htext, number_eq, (number?_eq_some_iff _ n).2 h, ← hfill]
  rfl

/-- Where no number is read, glyphs and state are left as they are. -/
theorem run_number_of_declines {span : Span} (hne : span.line ≠ [])
    (h : Declines (Line.text span.line)) : InPlace.number.run span = some (none, span) := by
  obtain ⟨c, rest, htext⟩ := List.exists_cons_of_ne_nil (Line.text_ne_nil hne)
  rw [InPlace.run_number htext, number_eq, (number?_eq_none_iff _).2 h]
  rfl

/-- A number that is read is a token, painted as a number, behind which nothing is left open. -/
theorem paintsAt_of_reads {language : Language} {state : LineState}
    (hv : Visits (wordsOf language) state text .normal rest) (h : Reads rest n) :
    (highlighter language).PaintsAt state text (text.length - rest.length) n .number ∧
      Visits (wordsOf language) state text .normal (rest.drop n) := by
  obtain ⟨c, others, rfl⟩ : ∃ c others, rest = c :: others := by
    cases rest with
    | nil => cases h.beginsNumber
    | cons c others => exact ⟨c, others, rfl⟩
  have hscan : scan (wordsOf language) .normal (c :: others) =
      { length := n, category := .number } := by
    rw [scan_of_beginsNumber _ (by simpa using h.beginsNumber), number_eq,
      (number?_eq_some_iff _ n).2 h]
    rfl
  have hpaints := paintsAt_of_visits hv (List.cons_ne_nil c others)
  have hnext := hv.step (List.cons_ne_nil c others)
  rw [hscan] at hpaints hnext
  exact ⟨hpaints, hnext⟩

/-- Where no number is read though one might begin, its first character is a token by itself, and
the tokenizer comes to the second. -/
theorem paintsAt_of_declines {language : Language} {state : LineState}
    (hv : Visits (wordsOf language) state text .normal (c :: rest)) (hc : beginsNumber c = true)
    (h : Declines (c :: rest)) :
    (highlighter language).PaintsAt state text (text.length - (c :: rest).length) 1
        (if isSign c then .punctuation else .plain) ∧
      Visits (wordsOf language) state text .normal rest := by
  have hscan : scan (wordsOf language) .normal (c :: rest) =
      { length := 1, category := if isSign c then .punctuation else .plain } := by
    rw [scan_of_beginsNumber _ hc, number_eq, (number?_eq_none_iff _).2 h, Option.map_none,
      Option.getD_none, lone, List.head?_cons, Option.any_some, isPunctuation_of_beginsNumber hc]
  have hpaints := paintsAt_of_visits hv (List.cons_ne_nil c rest)
  have hnext := hv.step (List.cons_ne_nil c rest)
  rw [hscan] at hpaints hnext
  exact ⟨hpaints, hnext⟩

/-- Whether the number tokens of a language are the numerals of its lines. -/
structure PaintsNumerals (language : Language) : Prop where
  /-- A number is accepted exactly as it is read, in the category of numbers. -/
  accepts : ∀ text scan,
    number text = some scan ↔ ∃ n, Reads text n ∧ scan = { length := n, category := .number }
  declines : ∀ text, number text = none ↔ Declines text
  /-- What is read is the longest prefix of the text that is a numeral. -/
  longest : ∀ text n, Reads text n → Longest IsNumeral text n
  /-- Of a span whose text is accepted the recognizer takes and paints the glyphs of the number, and
  no others, and it does not write the state. -/
  paints : ∀ span n, Reads (Line.text span.line) n →
    InPlace.number.run span = some (some n,
      ⟨Line.ofChars ((Line.text span.line).take n) .number ++ span.line.drop n, span.state⟩)
  /-- A span whose text is declined is left as it is. -/
  keeps : ∀ span : Span, span.line ≠ [] → Declines (Line.text span.line) →
    InPlace.number.run span = some (none, span)
  /-- Wherever the tokenizer comes to with nothing left open, a number that is read is the token. -/
  paintsAt : ∀ state text rest n, Visits (wordsOf language) state text .normal rest →
    Reads rest n →
      (highlighter language).PaintsAt state text (text.length - rest.length) n .number ∧
        Visits (wordsOf language) state text .normal (rest.drop n)
  /-- Where it comes to a digit or a sign with which no number is read, that stands alone. -/
  paintsAlone : ∀ state text c rest, Visits (wordsOf language) state text .normal (c :: rest) →
    beginsNumber c = true → Declines (c :: rest) →
      (highlighter language).PaintsAt state text (text.length - (c :: rest).length) 1
          (if isSign c then .punctuation else .plain) ∧
        Visits (wordsOf language) state text .normal rest

/-- Numbers are read as the grammar of numerals says, whatever the words of the language are, and
painted as they are read. -/
theorem paintsNumerals (language : Language) : PaintsNumerals language where
  accepts text scan := by
    rw [number_eq, Option.map_eq_some_iff]
    simp only [number?_eq_some_iff]
    constructor
    · intro h
      obtain ⟨n, hn, rfl⟩ := h
      exact ⟨n, hn, rfl⟩
    · intro h
      obtain ⟨n, hn, rfl⟩ := h
      exact ⟨n, hn, rfl⟩
  declines text := by
    rw [number_eq, Option.map_eq_none_iff, number?_eq_none_iff]
  longest text n h := longest_of_reads h
  paints _ _ h := run_number_of_reads h
  keeps _ hne h := run_number_of_declines hne h
  paintsAt state text rest n hv h := paintsAt_of_reads hv h
  paintsAlone state text c rest hv hc h := paintsAt_of_declines hv hc h

end Highlight.CSharp
