import Highlight.Proofs.CSharp.Continuation
import Highlight.Proofs.Words

/-!
# String literals of C#

Where nothing is left open, a string token is a literal: one of five openings with the body that
belongs to it. A verbatim literal ends with the first maximal run of quotes of odd length or goes on
on the next line, any other ends with the first quote that an even number of backslashes precedes
(`scan_eq_iff_literal`). Where no quote closes the body of the latter, the opening is painted
without a category, and no string begins in the rest of the line (`not_literal_of_unclosed`).
-/

namespace Highlight.CSharp

open Text

/-- What opens a verbatim string. -/
def verbatimOpenings : List (List Char) := [['@', '"'], ['$', '@', '"'], ['@', '$', '"']]

/-- What opens any other string. -/
def quotedOpenings : List (List Char) := [['"'], ['$', '"']]

/-- Whether a text begins with a string literal, given as a token. -/
inductive Literal : List Char → Scan → Prop where
  /-- A verbatim string that ends on its line. -/
  | verbatim {opening body : List Char} {e : Nat} (hopening : opening ∈ verbatimOpenings)
    (hend : FirstOddRunEnd '"' body e) :
    Literal (opening ++ body) { length := opening.length + e, category := .string }
  /-- A verbatim string that goes on on the next line. -/
  | unended {opening body : List Char} (hopening : opening ∈ verbatimOpenings)
    (heven : ∀ i j, MaximalRun '"' body i j → ¬ Odd (j - i)) :
    Literal (opening ++ body)
      { length := (opening ++ body).length, category := .string, next := .verbatimString }
  /-- A plain or an interpolated string. -/
  | quoted {opening body : List Char} {place : Nat} (hopening : opening ∈ quotedOpenings)
    (hclose : FirstClose body place) :
    Literal (opening ++ body) { length := opening.length + (place + 1), category := .string }

variable {words : Words} {text opening body : List Char} {s : Scan}

lemma mem_verbatimOpenings_iff : opening ∈ verbatimOpenings ↔
    opening = ['@', '"'] ∨ opening = ['$', '@', '"'] ∨ opening = ['@', '$', '"'] := by
  simp only [verbatimOpenings, List.mem_cons, List.not_mem_nil, or_false]

lemma mem_quotedOpenings_iff :
    opening ∈ quotedOpenings ↔ opening = ['"'] ∨ opening = ['$', '"'] := by
  simp only [quotedOpenings, List.mem_cons, List.not_mem_nil, or_false]

/-! ## Literals are tokens -/

/-- The scanner finds the opening of a verbatim string where one stands, and its length. -/
theorem verbatimOpening?_eq_some_iff (text : List Char) (n : Nat) :
    verbatimOpening? text = some n ↔
      ∃ opening ∈ verbatimOpenings, ∃ body, text = opening ++ body ∧ n = opening.length := by
  constructor
  · intro h
    unfold verbatimOpening? at h
    split at h <;> cases h
    · exact ⟨['@', '"'], by decide, _, rfl, rfl⟩
    · exact ⟨['$', '@', '"'], by decide, _, rfl, rfl⟩
    · exact ⟨['@', '$', '"'], by decide, _, rfl, rfl⟩
  · rintro ⟨opening, hopening, body, rfl, rfl⟩
    rw [mem_verbatimOpenings_iff] at hopening
    rcases hopening with rfl | rfl | rfl <;> rfl

/-- The recognizer for verbatim strings accepts what one of the openings begins. -/
theorem verbatimString_append (hopening : opening ∈ verbatimOpenings) (body : List Char) :
    verbatimString (opening ++ body) = some (match verbatimEnd? body with
      | some n => { length := opening.length + n, category := .string }
      | none => { length := (opening ++ body).length, category := .string,
                  next := .verbatimString }) := by
  have hmark := (verbatimOpening?_eq_some_iff (opening ++ body) opening.length).2
    ⟨opening, hopening, body, rfl, rfl⟩
  rw [verbatimString, hmark, Option.map_some, verbatimScan]
  generalize hrest : (opening ++ body).drop opening.length = rest
  obtain rfl : body = rest := List.drop_left.symm.trans hrest
  rfl

/-- Where a text does not begin with blanks, the scan is that of a token. -/
theorem scan_normal (words : Words) (hblank : runLength isBlank text = 0) :
    scan words .normal text = scanNormal words text := by
  have hzero : ¬ 0 < runLength isBlank text := by
    rw [hblank]
    exact Nat.lt_irrefl 0
  unfold scan
  exact if_neg hzero

/-- An opening of a verbatim string begins one, whatever comes behind it. -/
theorem scan_verbatimOpening (words : Words) (hopening : opening ∈ verbatimOpenings)
    (body : List Char) :
    verbatimString (opening ++ body) = some (scan words .normal (opening ++ body)) := by
  have haccept := verbatimString_append hopening body
  rw [mem_verbatimOpenings_iff] at hopening
  have hblank : runLength isBlank (opening ++ body) = 0 := by
    rcases hopening with rfl | rfl | rfl <;> rfl
  have hdeclined : ∀ r ∈ [blockComment, lineComment, directive], r (opening ++ body) = none := by
    intro r hr
    simp only [List.mem_cons, List.not_mem_nil, or_false] at hr
    rcases hopening with rfl | rfl | rfl <;> rcases hr with rfl | rfl | rfl <;> rfl
  rw [scan_normal words hblank, haccept, scanNormal_of_declined rfl hdeclined haccept]

/-- The recognizers that are asked before those for plain and interpolated strings. -/
def recognizersBefore : List Recognizer := [blockComment, lineComment, directive, verbatimString]

/-- The recognizers that are asked after those for plain and interpolated strings. -/
def recognizersBehind (words : Words) : List Recognizer :=
  [charLiteral, identifier words, number]

/-- The other recognizers decline where a plain or an interpolated string might begin. -/
theorem declined_of_quotedOpening (hopening : opening ∈ quotedOpenings) (body : List Char)
    {r : Recognizer} (hr : r ∈ recognizersBefore ++ recognizersBehind words) :
    r (opening ++ body) = none := by
  rw [mem_quotedOpenings_iff] at hopening
  simp only [recognizersBefore, recognizersBehind, List.cons_append, List.nil_append,
    List.mem_cons, List.not_mem_nil, or_false] at hr
  rcases hopening with rfl | rfl <;> rcases hr with rfl | rfl | rfl | rfl | rfl | rfl | rfl <;> rfl

/-- A plain or an interpolated string is accepted exactly if its body is closed. -/
theorem quotedString_append (hopening : opening ∈ quotedOpenings) (body : List Char) :
    (interpolatedString (opening ++ body)).or (plainString (opening ++ body)) =
      (quotedEnd? body).map fun n => { length := opening.length + n, category := .string } := by
  rw [mem_quotedOpenings_iff] at hopening
  rcases hopening with rfl | rfl
  · show (plainString ('"' :: body)) = _
    rw [plainString, plainString?, Option.map_map]
    exact Option.map_congr fun n _ => by rw [Nat.add_comm]; rfl
  · show (interpolatedString ('$' :: '"' :: body)).or none = _
    rw [Option.or_none, interpolatedString, interpolatedString?, Option.map_map]
    exact Option.map_congr fun n _ => by rw [Nat.add_comm]; rfl

/-- Where a plain or an interpolated string might begin, it is the token if its body is closed, and
else its first character stands alone. -/
theorem scan_quotedOpening (words : Words) (hopening : opening ∈ quotedOpenings)
    (body : List Char) :
    scan words .normal (opening ++ body) =
      ((quotedEnd? body).map fun n => { length := opening.length + n, category := .string }).getD
        { length := 1, category := .plain } := by
  have hdeclined : ∀ r ∈ recognizersBefore ++ recognizersBehind words, r (opening ++ body) = none :=
    fun r hr => declined_of_quotedOpening hopening body hr
  have hbefore : recognizersBefore.findSome? (· (opening ++ body)) = none :=
    List.findSome?_eq_none_iff.2 fun r hr => hdeclined r (List.mem_append_left _ hr)
  have hbehind : (recognizersBehind words).findSome? (· (opening ++ body)) = none :=
    List.findSome?_eq_none_iff.2 fun r hr => hdeclined r (List.mem_append_right _ hr)
  have hstring := quotedString_append hopening body
  have hsplit : recognizers words =
    recognizersBefore ++ ([interpolatedString, plainString] ++ recognizersBehind words) := rfl
  have htwo : [interpolatedString, plainString].findSome? (· (opening ++ body)) =
      (interpolatedString (opening ++ body)).or (plainString (opening ++ body)) := by
    rw [List.findSome?_cons, List.findSome?_singleton]
    cases interpolatedString (opening ++ body) <;> rfl
  rw [mem_quotedOpenings_iff] at hopening
  have hblank : runLength isBlank (opening ++ body) = 0 := by
    rcases hopening with rfl | rfl <;> rfl
  have hlone : lone (opening ++ body) = { length := 1, category := .plain } := by
    rcases hopening with rfl | rfl <;> rfl
  rw [scan_normal words hblank, scanNormal, hsplit, List.findSome?_append, List.findSome?_append,
    hbefore, hbehind, htwo, hstring, hlone, Option.none_or, Option.or_none]

/-- A literal is the token that a text begins with where nothing is left open. -/
theorem scan_of_literal (words : Words) (h : Literal text s) : scan words .normal text = s := by
  cases h with
  | @verbatim opening body e hopening hend =>
    have hscan := scan_verbatimOpening words hopening body
    rw [verbatimString_append hopening, (verbatimEnd?_eq_some_iff body e).2 hend] at hscan
    exact (Option.some_inj.1 hscan).symm
  | @unended opening body hopening heven =>
    have hscan := scan_verbatimOpening words hopening body
    rw [verbatimString_append hopening, (verbatimEnd?_eq_none_iff body).2 heven] at hscan
    exact (Option.some_inj.1 hscan).symm
  | @quoted opening body place hopening hclose =>
    rw [scan_quotedOpening words hopening, (quotedEnd?_eq_some_iff body _).2 ⟨place, rfl, hclose⟩]
    rfl

/-! ## No other string tokens -/

/-- Every opening of a verbatim string begins a literal, closed or not. -/
lemma exists_literal_verbatim (hopening : opening ∈ verbatimOpenings) (body : List Char) :
    ∃ s, Literal (opening ++ body) s := by
  cases hend : verbatimEnd? body with
  | some e => exact ⟨_, .verbatim hopening ((verbatimEnd?_eq_some_iff body e).1 hend)⟩
  | none => exact ⟨_, .unended hopening ((verbatimEnd?_eq_none_iff body).1 hend)⟩

/-- The opening of a string with escapes begins a literal where the body has an end. -/
lemma exists_literal_quoted (hopening : opening ∈ quotedOpenings) {body : List Char} {n : Nat}
    (hend : quotedEnd? body = some n) : ∃ s, Literal (opening ++ body) s := by
  obtain ⟨place, -, hclose⟩ := (quotedEnd?_eq_some_iff body n).1 hend
  exact ⟨_, .quoted hopening hclose⟩

/-- Of the recognizers, only those for strings give a token in the category of strings. -/
theorem exists_literal_of_recognizer {language : Language} {recognizer : Recognizer}
    (hr : recognizer ∈ recognizers (wordsOf language)) (h : recognizer text = some s)
    (hstring : s.category = .string) : ∃ s, Literal text s := by
  simp only [recognizers, List.mem_cons, List.not_mem_nil, or_false] at hr
  rcases hr with rfl | rfl | rfl | rfl | rfl | rfl | rfl | rfl | rfl
  · unfold blockComment commentScan at h
    split at h
    · cases h
      split at hstring <;> cases hstring
    · cases h
  · unfold lineComment at h
    split at h <;> cases h
    cases hstring
  · unfold directive at h
    split at h <;> cases h
    cases hstring
  · obtain ⟨n, hopening, -⟩ := Option.map_eq_some_iff.1 h
    obtain ⟨opening, hmem, body, rfl, -⟩ := (verbatimOpening?_eq_some_iff text n).1 hopening
    exact exists_literal_verbatim hmem body
  · obtain ⟨n, hn, -⟩ := Option.map_eq_some_iff.1 h
    unfold interpolatedString? at hn
    split at hn
    · obtain ⟨m, hm, -⟩ := Option.map_eq_some_iff.1 hn
      have hopening : ['$', '"'] ∈ quotedOpenings := by decide
      exact exists_literal_quoted hopening hm
    · cases hn
  · obtain ⟨n, hn, -⟩ := Option.map_eq_some_iff.1 h
    unfold plainString? at hn
    split at hn
    · obtain ⟨m, hm, -⟩ := Option.map_eq_some_iff.1 hn
      have hopening : ['"'] ∈ quotedOpenings := by decide
      exact exists_literal_quoted hopening hm
    · cases hn
  · obtain ⟨n, -, rfl⟩ := Option.map_eq_some_iff.1 h
    cases hstring
  · obtain ⟨n, -, rfl⟩ := Option.map_eq_some_iff.1 h
    -- the color of a word is never that of a string
    exact absurd hstring (Words.categoryOf_ofLanguage_ne_string language declaration _)
  · obtain ⟨n, -, rfl⟩ := Option.map_eq_some_iff.1 h
    cases hstring

/-- Where nothing is left open, the string tokens are the literals. -/
theorem scan_eq_iff_literal (language : Language) (text : List Char) (s : Scan) :
    scan (wordsOf language) .normal text = s ∧ s.category = .string ↔ Literal text s := by
  constructor
  · rintro ⟨rfl, hstring⟩
    -- a literal decides its scan, so it is enough that there is one
    suffices h : ∃ s, Literal text s by
      obtain ⟨s, hs⟩ := h
      rwa [scan_of_literal (wordsOf language) hs]
    by_cases hblank : runLength isBlank text = 0
    · rw [scan_normal _ hblank, scanNormal] at hstring
      cases hfind : (recognizers (wordsOf language)).findSome? (· text) with
      | none =>
        rw [hfind, Option.getD_none, lone] at hstring
        simp only at hstring
        split at hstring <;> cases hstring
      | some s =>
        rw [hfind, Option.getD_some] at hstring
        obtain ⟨recognizer, hr, haccept⟩ := List.exists_of_findSome?_eq_some hfind
        exact exists_literal_of_recognizer hr haccept hstring
    · rw [scan_of_blank _ _ (Nat.pos_of_ne_zero hblank)] at hstring
      cases hstring
  · intro h
    refine ⟨scan_of_literal _ h, ?_⟩
    cases h <;> rfl

/-! ## Quotes that open nothing -/

/-- Where a quote opens nothing, no quote follows on another character than a backslash. -/
theorem eq_backslash_of_unclosed (hopen : ∀ p, ¬ ClosesAt body p) {before rest : List Char}
    {c : Char} (htext : before ++ c :: '"' :: rest = '"' :: body) : c = '\\' := by
  have hquote : ClosesAt ('"' :: rest) 0 := closesAt_zero_iff.2 rfl
  cases before with
  | nil =>
    -- the quote is the first character of the body
    obtain ⟨-, rfl⟩ := List.cons.inj htext
    exact absurd hquote (hopen 0)
  | cons d before =>
    obtain ⟨-, rfl⟩ := List.cons.inj htext
    by_contra hc
    have hlast : (before ++ [c]).getLast? ≠ some '\\' := by
      simpa using hc
    have hclose := (closesAt_append_iff hlast).2 hquote
    rw [List.append_assoc] at hclose
    exact hopen _ hclose

/-- Where a quote opens nothing, no literal begins in the rest of the text. -/
theorem not_literal_of_unclosed (hopen : ∀ p, ¬ ClosesAt body p) (hsuffix : text <:+ '"' :: body) :
    ¬ Literal text s := by
  intro h
  obtain ⟨before, hbefore⟩ := hsuffix
  -- in all openings but one a quote follows on an at sign or a dollar sign
  have hsign : ∀ init c rest, c ≠ '\\' → text ≠ init ++ c :: '"' :: rest := by
    rintro init c rest hc rfl
    rw [← List.append_assoc] at hbefore
    exact hc (eq_backslash_of_unclosed hopen hbefore)
  have hverbatim : ∀ opening ∈ verbatimOpenings, ∀ rest, text ≠ opening ++ rest := by
    intro opening hopening rest
    rw [mem_verbatimOpenings_iff] at hopening
    rcases hopening with rfl | rfl | rfl
    · exact hsign [] '@' rest (by decide)
    · exact hsign ['$'] '@' rest (by decide)
    · exact hsign ['@'] '$' rest (by decide)
  cases h with
  | @verbatim opening rest e hopening hend => exact hverbatim opening hopening rest rfl
  | @unended opening rest hopening heven => exact hverbatim opening hopening rest rfl
  | @quoted opening rest place hopening hclose =>
    rw [mem_quotedOpenings_iff] at hopening
    rcases hopening with rfl | rfl
    · -- a quote that closes this literal would close the body as well
      cases before with
      | nil =>
        obtain ⟨-, rfl⟩ := List.cons.inj hbefore
        exact hopen place hclose.1
      | cons d before =>
        obtain ⟨-, rfl⟩ := List.cons.inj hbefore
        have hlast : (before ++ ['"']).getLast? ≠ some '\\' := by simp
        have hclose' := (closesAt_append_iff hlast).2 hclose.1
        rw [List.append_assoc] at hclose'
        exact hopen _ hclose'
    · exact hsign [] '$' rest (by decide) rfl

/-- Where no literal begins in the rest of a line, none of its tokens is a string. -/
theorem category_ne_string_of_mem_tokens {language : Language}
    (hnone : ∀ rest s, rest <:+ text → ¬ Literal rest s) :
    ∀ token ∈ (tokens (wordsOf language) .normal text).1, token.category ≠ .string := by
  induction hlength : text.length using Nat.strongRecOn generalizing text with
  | ind length ih =>
    by_cases hne : text = []
    · rw [hne, tokens]
      exact fun token hmem => absurd hmem List.not_mem_nil
    · have hpos := (scan_within (wordsOf language) .normal hne).1
      have hcategory : (scan (wordsOf language) .normal text).category ≠ .string := by
        intro hstring
        have hliteral := (scan_eq_iff_literal language text _).1 ⟨rfl, hstring⟩
        exact hnone text _ (List.suffix_refl text) hliteral
      rw [tokens_cons (wordsOf language) .normal hne]
      -- behind the step nothing is open, or nothing is left
      have hnext : (scan (wordsOf language) .normal text).next = .normal ∨
          text.drop (scan (wordsOf language) .normal text).length = [] := by
        by_cases hblank : runLength isBlank text = 0
        · rcases leavesOpenAtEnd_scan (wordsOf language) .normal hblank with hnormal | ⟨hall, -⟩
          · exact .inl hnormal
          · exact .inr (by rw [hall, List.drop_length])
        · rw [scan_of_blank _ _ (Nat.pos_of_ne_zero hblank)]
          exact .inl rfl
      generalize scan (wordsOf language) .normal text = first at hpos hcategory hnext
      intro token hmem
      rcases List.mem_cons.1 hmem with rfl | hmem
      · exact hcategory
      · rcases hnext with hnormal | hnil
        · rw [hnormal] at hmem
          have hshorter : (text.drop first.length).length < length := by
            have hnonempty := List.length_pos_iff.2 hne
            rw [List.length_drop]
            omega
          refine ih _ hshorter (fun rest s hsuffix => ?_) rfl token hmem
          exact hnone rest s (hsuffix.trans (List.drop_suffix first.length text))
        · rw [hnil, tokens] at hmem
          exact absurd hmem List.not_mem_nil

/-! ## Where strings end in a line -/

lemma Literal.ne_nil (h : Literal text s) : text ≠ [] := by
  cases h with
  | verbatim hopening _ =>
    rintro hnil
    obtain ⟨rfl, -⟩ := List.append_eq_nil_iff.1 hnil
    exact absurd hopening (by decide)
  | unended hopening _ =>
    rintro hnil
    obtain ⟨rfl, -⟩ := List.append_eq_nil_iff.1 hnil
    exact absurd hopening (by decide)
  | quoted hopening _ =>
    rintro hnil
    obtain ⟨rfl, -⟩ := List.append_eq_nil_iff.1 hnil
    exact absurd hopening (by decide)

/-- A literal ends with a quote, or it takes all of its line and goes on on the next one. -/
theorem Literal.ends (h : Literal text s) :
    text[s.length - 1]? = some '"' ∧ s.next = .normal ∨
      s.length = text.length ∧ s.next = .verbatimString := by
  cases h with
  | @verbatim opening body e hopening hend =>
    obtain ⟨i, hrun, -⟩ := hend
    have hlt := hrun.lt
    refine .inl ⟨?_, rfl⟩
    show (opening ++ body)[opening.length + e - 1]? = some '"'
    rw [List.getElem?_append_right (by omega)]
    exact hrun.getElem?_eq _ (by omega) (by omega)
  | @unended opening body hopening heven => exact .inr ⟨rfl, rfl⟩
  | @quoted opening body place hopening hclose =>
    refine .inl ⟨?_, rfl⟩
    show (opening ++ body)[opening.length + (place + 1) - 1]? = some '"'
    rw [List.getElem?_append_right (by omega),
      show opening.length + (place + 1) - 1 - opening.length = place by omega]
    exact hclose.1.1

/-- Whether the strings of a line that follows one in a state go from their openings to the quotes
that close them. -/
structure StringBounds (language : Language) (state : LineState) (text : List Char) : Prop where
  /-- Where nothing is open, the string tokens are the literals. -/
  token_iff : ∀ rest s,
    scan (wordsOf language) .normal rest = s ∧ s.category = .string ↔ Literal rest s
  /-- No character but a quote ends a literal. -/
  ends : ∀ rest s, Literal rest s → rest[s.length - 1]? = some '"' ∧ s.next = .normal ∨
    s.length = rest.length ∧ s.next = .verbatimString
  /-- A literal is painted as a string, and the tokenizer goes on behind it. -/
  painted : ∀ rest s, Visits (wordsOf language) state text .normal rest → Literal rest s →
    (highlighter language).PaintsAt state text (text.length - rest.length) s.length .string ∧
      Visits (wordsOf language) state text s.next (rest.drop s.length)
  /-- A verbatim string that does not end on its line is handed on. -/
  carried : ∀ rest s, Visits (wordsOf language) state text .normal rest → Literal rest s →
    s.next = .verbatimString → ((highlighter language).tokens state text).2 = .verbatimString
  /-- A plain or an interpolated string is one if some quote closes its body. -/
  string_iff : ∀ opening ∈ quotedOpenings, ∀ body,
    (scan (wordsOf language) .normal (opening ++ body)).category = .string ↔
      ∃ place, ClosesAt body place
  /-- If no quote does, the recognizers decline, the characters of the opening stand alone, and
  from there on nothing is painted as a string. -/
  unclosed : ∀ opening ∈ quotedOpenings, ∀ body,
    Visits (wordsOf language) state text .normal (opening ++ body) →
    (∀ place, ¬ ClosesAt body place) →
    plainString (opening ++ body) = none ∧ interpolatedString (opening ++ body) = none ∧
      (∀ i < opening.length, (highlighter language).PaintsAt state text
        (text.length - (opening ++ body).length + i) 1 .plain) ∧
      Visits (wordsOf language) state text .normal body ∧
      ∀ line, Line.text line = text → ∀ glyph ∈ ((highlighter language).colorize line state).1.drop
        (text.length - (opening ++ body).length), glyph.category ≠ .string

/-- At a place that a line comes to, a literal is painted whole, and the line comes to the place
behind it. -/
lemma painted_of_literal {language : Language} {state : LineState} {rest : List Char}
    (hv : Visits (wordsOf language) state text .normal rest) (h : Literal rest s) :
    (highlighter language).PaintsAt state text (text.length - rest.length) s.length .string ∧
      Visits (wordsOf language) state text s.next (rest.drop s.length) := by
  obtain ⟨hscan, hstring⟩ := (scan_eq_iff_literal language rest s).2 h
  have hpaints := paintsAt_of_visits hv h.ne_nil
  have hnext := hv.step h.ne_nil
  rw [hscan] at hpaints hnext
  rw [hstring] at hpaints
  exact ⟨hpaints, hnext⟩

/-- A verbatim string that does not end on its line is what the line hands on. -/
theorem carried_of_literal {language : Language} {state : LineState} {rest : List Char}
    (hv : Visits (wordsOf language) state text .normal rest) (h : Literal rest s)
    (hnext : s.next = .verbatimString) :
    ((highlighter language).tokens state text).2 = .verbatimString := by
  obtain ⟨-, hbehind⟩ := painted_of_literal hv h
  rcases h.ends with ⟨-, hnormal⟩ | ⟨hall, -⟩
  · rw [hnormal] at hnext
    cases hnext
  · rw [hall, List.drop_length, hnext] at hbehind
    show (tokens (wordsOf language) state text).2 = _
    rw [tokens_snd_of_visits hbehind, tokens]

/-- A string with escapes is painted as one exactly if it is closed in its line. -/
lemma string_iff_exists_closesAt (language : Language) (hopening : opening ∈ quotedOpenings)
    (body : List Char) : (scan (wordsOf language) .normal (opening ++ body)).category = .string ↔
      ∃ place, ClosesAt body place := by
  rw [scan_quotedOpening (wordsOf language) hopening]
  cases hend : quotedEnd? body with
  | some n =>
    obtain ⟨place, -, hclose, -⟩ := (quotedEnd?_eq_some_iff body n).1 hend
    exact ⟨fun _ => ⟨place, hclose⟩, fun _ => rfl⟩
  | none =>
    have hopen := (quotedEnd?_eq_none_iff body).1 hend
    constructor
    · intro h
      cases h
    · rintro ⟨place, hclose⟩
      exact absurd hclose (hopen place)

/-- A glyph that no recognizer takes has the default color, and the line comes to the next one. -/
lemma painted_of_lone {language : Language} {state : LineState} {c : Char} {rest : List Char}
    (hv : Visits (wordsOf language) state text .normal (c :: rest))
    (hscan : scan (wordsOf language) .normal (c :: rest) = { length := 1, category := .plain }) :
    (highlighter language).PaintsAt state text (text.length - (c :: rest).length) 1 .plain ∧
      Visits (wordsOf language) state text .normal rest := by
  have hpaints := paintsAt_of_visits hv (List.cons_ne_nil c rest)
  have hnext := hv.step (List.cons_ne_nil c rest)
  rw [hscan] at hpaints hnext
  exact ⟨hpaints, hnext⟩

/-- The characters of an opening whose body is not closed stand alone. -/
theorem painted_of_unclosed {language : Language} {state : LineState}
    (hopening : opening ∈ quotedOpenings)
    (hv : Visits (wordsOf language) state text .normal (opening ++ body))
    (hopen : ∀ place, ¬ ClosesAt body place) :
    (∀ i < opening.length, (highlighter language).PaintsAt state text
        (text.length - (opening ++ body).length + i) 1 .plain) ∧
      Visits (wordsOf language) state text .normal body := by
  have hend := (quotedEnd?_eq_none_iff body).2 hopen
  -- no recognizer takes an opening whose string is not closed
  have hscan : ∀ opening ∈ quotedOpenings,
      scan (wordsOf language) .normal (opening ++ body) = { length := 1, category := .plain } := by
    intro opening hopening
    rw [scan_quotedOpening _ hopening, hend]
    rfl
  have hquote := hscan ['"'] (by decide)
  rw [mem_quotedOpenings_iff] at hopening
  rcases hopening with rfl | rfl
  · obtain ⟨hpaints, hbehind⟩ := painted_of_lone hv hquote
    refine ⟨fun i hi => ?_, hbehind⟩
    obtain rfl : i = 0 := Nat.lt_one_iff.1 hi
    exact hpaints
  · -- behind the dollar sign stands the opening of a plain string, with the same body
    obtain ⟨hpaints, hbehind⟩ := painted_of_lone hv (hscan ['$', '"'] (by decide))
    obtain ⟨hpaints', hbehind'⟩ := painted_of_lone hbehind hquote
    obtain ⟨hle, -⟩ := drop_of_visits hv
    refine ⟨fun i hi => ?_, hbehind'⟩
    have hlength : (['$', '"'] ++ body).length = ('"' :: body).length + 1 := rfl
    have hi' : i = 0 ∨ i = 1 := by
      have hi : i < 2 := hi
      omega
    rcases hi' with rfl | rfl
    · exact hpaints
    · rw [hlength] at hle ⊢
      rwa [show text.length - (('"' :: body).length + 1) + 1 = text.length - ('"' :: body).length by
        omega]

/-- From an opening whose body is not closed, nothing is painted as a string. -/
theorem category_ne_string_of_unclosed {language : Language} {state : LineState}
    (hopening : opening ∈ quotedOpenings)
    (hv : Visits (wordsOf language) state text .normal (opening ++ body))
    (hopen : ∀ place, ¬ ClosesAt body place) {line : Line} (htext : Line.text line = text)
    {glyph : Glyph} (hglyph : glyph ∈ ((highlighter language).colorize line state).1.drop
      (text.length - (opening ++ body).length)) : glyph.category ≠ .string := by
  have hnone : ∀ rest s, rest <:+ opening ++ body → ¬ Literal rest s := by
    intro rest s hsuffix
    rw [mem_quotedOpenings_iff] at hopening
    rcases hopening with rfl | rfl
    · exact not_literal_of_unclosed hopen hsuffix
    · rcases List.suffix_cons_iff.1 hsuffix with rfl | hsuffix
      · -- no literal begins at the dollar sign, for its token is no string
        intro hliteral
        obtain ⟨rfl, hstring⟩ := (scan_eq_iff_literal language _ _).2 hliteral
        obtain ⟨place, hclose⟩ :=
          (string_iff_exists_closesAt language (by decide : ['$', '"'] ∈ quotedOpenings) body).1
            hstring
        exact hopen place hclose
      · exact not_literal_of_unclosed hopen hsuffix
  -- the glyph belongs to a token of the rest, which begins where no literal does
  obtain ⟨before, htokens, hlead⟩ := tokens_of_visits hv
  rw [← hlead.total_eq] at hglyph
  rw [← htext] at htokens
  obtain ⟨token, hmem, hcategory⟩ :=
    Highlighter.exists_token_of_mem_drop (covers_highlighter language) htokens hglyph
  rw [← hcategory]
  exact category_ne_string_of_mem_tokens hnone token hmem

/-- Every string of a line goes from its opening to the quote that closes it, as the parities of
quotes and of backslashes have it. -/
theorem stringBounds (language : Language) (state : LineState) (text : List Char) :
    StringBounds language state text := by
  constructor
  case token_iff => exact scan_eq_iff_literal language
  case ends => exact fun rest s h => h.ends
  case painted => exact fun rest s hv h => painted_of_literal hv h
  case carried => exact fun rest s hv h hnext => carried_of_literal hv h hnext
  case string_iff => exact fun opening hopening body =>
    string_iff_exists_closesAt language hopening body
  case unclosed =>
    intro opening hopening body hv hopen
    have hdeclined := quotedString_append hopening body
    rw [(quotedEnd?_eq_none_iff body).2 hopen, Option.map_none, Option.or_eq_none_iff] at hdeclined
    obtain ⟨hpaints, hbehind⟩ := painted_of_unclosed hopening hv hopen
    exact ⟨hdeclined.2, hdeclined.1, hpaints, hbehind, fun line htext glyph hglyph =>
      category_ne_string_of_unclosed hopening hv hopen htext hglyph⟩

end Highlight.CSharp
