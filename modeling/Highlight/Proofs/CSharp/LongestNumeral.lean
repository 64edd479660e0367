import Highlight.Proofs.CSharp.Numeral

/-!
# Numbers and longest numerals of C#

The parts of a number are read one after the other, each as long as it can be, and nothing that has
been read is given back. Still the number is the longest prefix of the text that is a numeral
(`longest_of_reads`): the character behind a shorter part belongs to the longer one, and with such a
character no later part begins.
-/

namespace Highlight.CSharp

variable {text word a b : List Char} {c : Char} {n : Nat}

/-! ## Characters that part the numerals -/

/-- The mark of a radix is not a digit, a point or the mark of any other part of a number. -/
lemma radixDigit?_mark {mark : Char} {isDigit : Char → Bool}
    (hmark : radixDigit? mark = some isDigit) :
    isDigitOrBar mark = false ∧ mark ≠ '.' ∧ isExponentMark mark = false ∧
      isFloatSuffix mark = false ∧ isIntegerSuffix mark = false := by
  unfold radixDigit? at hmark
  split at hmark
  case isTrue h => rcases h with rfl | rfl <;> decide
  case isFalse =>
    split at hmark
    case isTrue h => rcases h with rfl | rfl <;> decide
    case isFalse => cases hmark

lemma isIntegerSuffix_iff : isIntegerSuffix c = true ↔ c = 'u' ∨ c = 'U' ∨ c = 'l' ∨ c = 'L' := by
  simp [isIntegerSuffix, or_assoc]

lemma isFloatSuffix_iff : isFloatSuffix c = true ↔
    c = 'f' ∨ c = 'F' ∨ c = 'd' ∨ c = 'D' ∨ c = 'm' ∨ c = 'M' := by
  simp [isFloatSuffix, or_assoc]

/-- No radix digit can stand in the suffix of an integer. -/
theorem not_isIntegerSuffix_of_radixDigit? {mark : Char} {isDigit : Char → Bool}
    (hmark : radixDigit? mark = some isDigit) (hc : isIntegerSuffix c = true) :
    isDigit c = false := by
  rw [isIntegerSuffix_iff] at hc
  unfold radixDigit? at hmark
  split at hmark
  case isTrue =>
    cases hmark
    rcases hc with rfl | rfl | rfl | rfl <;> decide
  case isFalse =>
    split at hmark
    case isTrue =>
      cases hmark
      rcases hc with rfl | rfl | rfl | rfl <;> decide
    case isFalse => cases hmark

/-- Whether a character can stand in a suffix. -/
def isSuffixPart (c : Char) : Bool := isFloatSuffix c || isIntegerSuffix c

/-- A character that can stand in a suffix stands in no other part of a decimal literal. -/
theorem of_isSuffixPart (hc : isSuffixPart c = true) :
    isDigitOrBar c = false ∧ c ≠ '.' ∧ isExponentMark c = false ∧ c.isDigit = false := by
  rw [isSuffixPart, Bool.or_eq_true, isFloatSuffix_iff, isIntegerSuffix_iff] at hc
  rcases hc with (rfl | rfl | rfl | rfl | rfl | rfl) | rfl | rfl | rfl | rfl <;> decide

/-- The characters of a suffix are those of the two kinds of suffixes. -/
lemma IsSuffix.isSuffixPart {isInteger : Prop} (h : IsSuffix isInteger word) (hc : c ∈ word) :
    isSuffixPart c = true := by
  unfold CSharp.isSuffixPart
  rcases h with rfl | ⟨d, rfl, hd⟩ | ⟨-, hall⟩
  · cases hc
  · rw [List.mem_singleton.1 hc, hd, Bool.true_or]
  · rw [hall c hc, Bool.or_true]

/-- A suffix behind a character that stands in none is empty. -/
theorem IsSuffix.eq_nil {isInteger : Prop} (h : IsSuffix isInteger b) (hfront : a ++ b <+: text)
    (hnext : ∀ c, text[a.length]? = some c → ¬ CSharp.isSuffixPart c = true) : b = [] := by
  rcases eq_nil_or_of_isPrefix hfront with hnil | ⟨c, rest, rfl, hat⟩
  · exact hnil
  · exact absurd (h.isSuffixPart List.mem_cons_self) (hnext c hat)

/-- No suffix is longer than the one that is read. -/
theorem ReadsSuffix.length_le {isInteger own : Prop} (h : ReadsSuffix isInteger text n)
    (hword : IsSuffix own word) (hown : own → isInteger) (hfront : word <+: text) :
    word.length ≤ n := by
  rcases hword with rfl | ⟨c, rfl, hc⟩ | ⟨hinteger, hall⟩
  · exact Nat.zero_le n
  · obtain ⟨rest, rfl⟩ := hfront
    rcases h with ⟨-, rfl⟩ | ⟨hnot, -⟩
    · exact Nat.le_refl 1
    · exact absurd ⟨c, rfl, hc⟩ hnot
  · rcases h with ⟨⟨c, hhead, hc⟩, rfl⟩ | ⟨-, ⟨-, hlongest⟩ | ⟨hnot, -⟩⟩
    · -- a letter of a floating number stands first, so no letter of an integer does
      cases word with
      | nil => exact Nat.zero_le 1
      | cons d word =>
        obtain ⟨rest, rfl⟩ := hfront
        obtain rfl : d = c := Option.some.inj hhead
        have hd := hall d List.mem_cons_self
        rw [isIntegerSuffix_iff] at hd
        rcases hd with rfl | rfl | rfl | rfl <;> cases hc
    · exact hlongest.longest word hfront hall
    · exact absurd (hown hinteger) hnot

/-! ## Parts that are longest -/

/-- Behind the first character of a mantissa stand digits, underscores and a point. -/
theorem IsMantissa.isDigitOrBar_or (h : IsMantissa word) {i : Nat} (hpos : 0 < i)
    (hi : word[i]? = some c) : isDigitOrBar c = true ∨ c = '.' := by
  rcases h with h | ⟨whole, fraction, rfl, ⟨first, tail, rfl, htail, -⟩, run, rfl, hrun⟩
  · exact .inl (h.isDigitOrBar hpos hi)
  · rw [List.cons_append, List.getElem?_cons, if_neg (Nat.ne_of_gt hpos)] at hi
    rcases List.mem_append.1 (List.mem_of_getElem? hi) with hmem | hmem
    · exact .inl (htail c hmem)
    · rcases List.mem_cons.1 hmem with hpoint | hmem
      · exact .inr hpoint
      · exact .inl (hrun c hmem)

/-- Behind the first two characters of an exponent stand digits. -/
theorem IsExponent.isDigit (h : IsExponent word) {i : Nat} (htwo : 2 ≤ i)
    (hi : word[i]? = some c) : c.isDigit = true := by
  obtain ⟨mark, sign, digits, rfl, -, hsign, -, hdigits⟩ := h
  rw [List.getElem?_cons, if_neg (by omega)] at hi
  rcases hsign with rfl | ⟨s, rfl, -⟩
  · exact hdigits c (List.mem_of_getElem? hi)
  · rw [List.singleton_append, List.getElem?_cons, if_neg (by omega)] at hi
    exact hdigits c (List.mem_of_getElem? hi)

lemma IsExponent.two_le (h : IsExponent word) : 2 ≤ word.length := by
  obtain ⟨mark, sign, digits, rfl, -, -, hne, -⟩ := h
  have hpos := List.length_pos_iff.2 hne
  rw [List.length_cons, List.length_append]
  omega

/-- A text with an exponent in front begins with the mark of one. -/
lemma IsExponent.begins (h : IsExponent word) (hword : word <+: text) : BeginsExponent text := by
  obtain ⟨mark, sign, digits, rfl, hmark, -⟩ := h
  obtain ⟨rest, rfl⟩ := hword
  exact ⟨mark, rfl, hmark⟩

lemma IsMantissa.ne_nil (h : IsMantissa word) : word ≠ [] := by
  obtain ⟨whole, hwhole, hisWhole⟩ := h.exists_whole
  intro hnil
  rw [hnil, List.prefix_nil] at hwhole
  exact hisWhole.ne_nil hwhole

/-- No suffix begins where an exponent is announced. -/
theorem IsSuffix.eq_nil_of_beginsExponent {isInteger : Prop} (h : IsSuffix isInteger b)
    (hbegins : BeginsExponent text) (hfront : b <+: text) : b = [] := by
  obtain ⟨c, hhead, hmark⟩ := hbegins
  apply h.eq_nil (a := []) hfront
  intro d hd hpart
  rw [List.length_nil, ← List.head?_eq_getElem?, hhead] at hd
  rw [← Option.some.inj hd] at hpart
  rw [(of_isSuffixPart hpart).2.2.1] at hmark
  cases hmark

/-- No suffix begins where a longer exponent goes on: there stands a digit. -/
theorem IsSuffix.eq_nil_of_isExponent {isInteger : Prop} (h : IsSuffix isInteger b)
    (hexponent : IsExponent (text.take n)) (htwo : 2 ≤ a.length) (hlt : a.length < n)
    (hfront : a ++ b <+: text) : b = [] := by
  apply h.eq_nil hfront
  intro d hd hpart
  have hin : (text.take n)[a.length]? = some d := by
    rw [List.getElem?_take_of_lt hlt]
    exact hd
  have hdigit := hexponent.isDigit htwo hin
  rw [(of_isSuffixPart hpart).2.2.2] at hdigit
  cases hdigit

/-- Where a longer mantissa goes on neither an exponent nor a suffix begins. -/
theorem IsMantissa.eq_nil_and_eq_nil {isInteger : Prop} (h : IsMantissa (text.take n))
    (hpos : 0 < word.length) (hlt : word.length < n) (ha : a = [] ∨ IsExponent a)
    (hb : IsSuffix isInteger b) (hfront : word ++ (a ++ b) <+: text) : a = [] ∧ b = [] := by
  -- behind the word the longest mantissa goes on, with a digit, a bar or a point
  have hnext : ∀ c, text[word.length]? = some c → isDigitOrBar c = true ∨ c = '.' := by
    intro c hc
    have hin : (text.take n)[word.length]? = some c := by
      rw [List.getElem?_take_of_lt hlt]
      exact hc
    exact h.isDigitOrBar_or hpos hin
  have ha' : a = [] := by
    rcases ha with hnil | ha
    · exact hnil
    · obtain ⟨mark, sign, digits, rfl, hmark, -⟩ := ha
      rcases eq_nil_or_of_isPrefix hfront with hnil | ⟨c, rest, heq, hat⟩
      · cases hnil
      · obtain ⟨rfl, -⟩ := List.cons.inj heq
        rw [isExponentMark, Bool.or_eq_true, beq_iff_eq, beq_iff_eq] at hmark
        rcases hmark with rfl | rfl <;> rcases hnext _ hat with h | h <;> cases h
  refine ⟨ha', ?_⟩
  rw [ha', List.nil_append] at hfront
  apply hb.eq_nil hfront
  intro c hc hpart
  obtain ⟨hbar, hpoint, -⟩ := of_isSuffixPart hpart
  rcases hnext c hc with h | h
  · rw [hbar] at h
    cases h
  · exact hpoint h

/-- Behind the mantissa no exponent and suffix are longer than those that are read. -/
theorem length_exponent_suffix_le {isInteger own : Prop} {exponent suffix : Nat}
    (hexponent : ReadsExponent text exponent)
    (hsuffix : ReadsSuffix (isInteger ∧ exponent = 0) (text.drop exponent) suffix)
    (ha : a = [] ∨ IsExponent a) (hb : IsSuffix (own ∧ a = []) b) (hown : own → isInteger)
    (hfront : a ++ b <+: text) : (a ++ b).length ≤ exponent + suffix := by
  rw [List.length_append]
  rcases hexponent with ⟨hbegins, hlongest⟩ | ⟨hnot, rfl⟩
  · -- an exponent is announced and read
    rcases ha with rfl | ha
    · rw [hb.eq_nil_of_beginsExponent hbegins hfront]
      exact Nat.zero_le _
    · -- the word has an exponent too, which is the one read or a part of it
      have hle := hlongest.longest a ((List.prefix_append a b).trans hfront) ha
      by_cases hlt : a.length < exponent
      · rw [hb.eq_nil_of_isExponent hlongest.holds ha.two_le hlt hfront]
        exact Nat.le_add_right_of_le hle
      · obtain rfl : a.length = exponent := by omega
        have hown' : own ∧ a = [] → isInteger ∧ a.length = 0 := fun h => ⟨hown h.1, by simp [h.2]⟩
        have hsuf := hsuffix.length_le hb hown' (isPrefix_drop hfront)
        omega
  · rcases ha with rfl | ha
    · have hown' : own ∧ ([] : List Char) = [] → isInteger ∧ 0 = 0 := fun h => ⟨hown h.1, rfl⟩
      have hsuf := hsuffix.length_le hb hown' hfront
      simpa using hsuf
    · exact absurd (ha.begins ((List.prefix_append a b).trans hfront)) hnot

/-- No decimal literal is longer than the one that is read. -/
theorem ReadsDecimal.length_le (hreads : ReadsDecimal text n) (h : IsDecimalLiteral word)
    (hword : word <+: text) : word.length ≤ n := by
  obtain ⟨hmantissa, hexponent, hsuffix⟩ := hreads
  rename_i mantissa exponent suffix
  obtain ⟨own, a, b, rfl, hown, ha, hb⟩ := h
  have hown' : own <+: text := (List.prefix_append own (a ++ b)).trans hword
  have hle := hmantissa.longest own hown' hown
  rw [List.length_append]
  by_cases hlt : own.length < mantissa
  · -- the mantissa goes on, so the word has nothing behind its own
    obtain ⟨ha', hb'⟩ := hmantissa.holds.eq_nil_and_eq_nil
      (List.length_pos_iff.2 hown.ne_nil) hlt ha hb hword
    rw [ha', hb']
    show own.length + 0 ≤ _
    omega
  · obtain rfl : own.length = mantissa := by omega
    rw [take_length_of_isPrefix hown', ← List.drop_drop] at hsuffix
    have htail := length_exponent_suffix_le hexponent hsuffix ha hb id (isPrefix_drop hword)
    omega

/-- A radix literal at the beginning of a text has the digits and the suffix that are read, or
fewer. -/
theorem length_isRadixLiteral_le {mark : Char} {isDigit : Char → Bool} {rest : List Char}
    {digits suffix : Nat} (hmark : radixDigit? mark = some isDigit)
    (hdigits : Longest (AllOf isDigit) rest digits)
    (hsuffix : Longest (AllOf isIntegerSuffix) (rest.drop digits) suffix)
    (h : IsRadixLiteral word) (hword : word <+: '0' :: mark :: rest) :
    word.length ≤ 2 + digits + suffix := by
  obtain ⟨mark', isDigit', own, tail, rfl, hmark', hown, htail⟩ := h
  obtain ⟨rfl, hfront⟩ := List.cons_prefix_cons.1 (List.cons_prefix_cons.1 hword).2
  obtain rfl := Option.some.inj (hmark.symm.trans hmark')
  -- the word has the same mark, and no more digits than are read
  have hle := hdigits.longest own ((List.prefix_append own tail).trans hfront) hown
  rw [List.length_cons, List.length_cons, List.length_append]
  by_cases hlt : own.length < digits
  · -- the digits that are read go on, so the suffix of the word is empty
    have hnil : tail = [] := by
      rcases eq_nil_or_of_isPrefix hfront with hnil | ⟨c, others, rfl, hat⟩
      · exact hnil
      · have hin : c ∈ rest.take digits := by
          apply List.mem_of_getElem? (i := own.length)
          rw [List.getElem?_take_of_lt hlt]
          exact hat
        have hdigit := hdigits.holds c hin
        rw [not_isIntegerSuffix_of_radixDigit? hmark (htail c List.mem_cons_self)] at hdigit
        cases hdigit
    rw [hnil]
    show own.length + 0 + 1 + 1 ≤ _
    omega
  · obtain rfl : own.length = digits := by omega
    have hlast := hsuffix.longest tail (isPrefix_drop hfront) htail
    omega

/-- At the beginning of a radix literal, its zero is read as a decimal literal. -/
theorem decimalNumber?_radix {mark : Char} {isDigit : Char → Bool}
    (hmark : radixDigit? mark = some isDigit) (rest : List Char) :
    decimalNumber? ('0' :: mark :: rest) = some 1 := by
  obtain ⟨hbar, hpoint, hexponent, hfloat, hinteger⟩ := radixDigit?_mark hmark
  have hwhole : wholePart? ('0' :: mark :: rest) = some 1 := by
    simp [wholePart?, hbar]
  have hfraction : fractionLength (mark :: rest) = 0 := by
    simp [fractionLength, hpoint]
  have hexponent' : exponentLength? (mark :: rest) = some 0 := by
    rw [exponentLength?_cons, hexponent]
    rfl
  have hsuffix : suffixLength true (mark :: rest) = 0 := by
    simp [suffixLength, runLength, hfloat, hinteger]
  rw [decimalNumber?_of_wholePart? hwhole, List.drop_one, List.tail_cons, hfraction]
  simp only [Nat.add_zero, List.drop_one, List.tail_cons]
  rw [hexponent', Option.map_some]
  simp [hsuffix]

/-! ## Whole numbers -/

/-- What is read as an exponent is one, or nothing. -/
theorem ReadsExponent.holds (h : ReadsExponent text n) :
    n ≤ text.length ∧ (text.take n = [] ∨ IsExponent (text.take n)) := by
  rcases h with ⟨-, hlongest⟩ | ⟨-, rfl⟩
  · exact ⟨hlongest.within, .inr hlongest.holds⟩
  · exact ⟨Nat.zero_le _, .inl List.take_zero⟩

/-- What is read as a suffix is one. -/
theorem ReadsSuffix.holds {isInteger : Prop} (h : ReadsSuffix isInteger text n) :
    n ≤ text.length ∧ IsSuffix isInteger (text.take n) := by
  rcases h with ⟨⟨c, hhead, hc⟩, rfl⟩ | ⟨-, ⟨hinteger, hlongest⟩ | ⟨-, rfl⟩⟩
  · obtain ⟨rest, rfl⟩ := List.head?_eq_some_iff.1 hhead
    refine ⟨?_, .inr (.inl ⟨c, rfl, hc⟩)⟩
    rw [List.length_cons]
    omega
  · exact ⟨hlongest.within, .inr (.inr ⟨hinteger, hlongest.holds⟩)⟩
  · exact ⟨Nat.zero_le _, .inl List.take_zero⟩

/-- The decimal literal that is read is one. -/
theorem ReadsDecimal.holds (h : ReadsDecimal text n) :
    n ≤ text.length ∧ IsDecimalLiteral (text.take n) := by
  obtain ⟨hmantissa, hexponent, hsuffix⟩ := h
  rename_i mantissa exponent suffix
  have hwithin := hmantissa.within
  obtain ⟨hwithin', hexponent'⟩ := hexponent.holds
  obtain ⟨hwithin'', hsuffix'⟩ := hsuffix.holds
  rw [List.length_drop] at hwithin' hwithin''
  refine ⟨by omega, text.take mantissa, (text.drop mantissa).take exponent,
    (text.drop (mantissa + exponent)).take suffix, ?_, hmantissa.holds, hexponent', ?_⟩
  · rw [List.take_add, List.take_add, List.append_assoc]
  · have hzero : (text.drop mantissa).take exponent = [] ↔ exponent = 0 := by
      rw [← List.length_eq_zero_iff, List.length_take, List.length_drop]
      omega
    rw [hzero]
    exact hsuffix'

/-- The number that is read is a numeral, and no longer prefix of the text is one. -/
theorem longest_of_reads (h : Reads text n) : Longest IsNumeral text n := by
  cases h with
  | @radix mark isDigit rest digits suffix hmark hdigits hsuffix =>
    have hwithin := hdigits.within
    have hwithin' := hsuffix.within
    rw [List.length_drop] at hwithin'
    constructor
    case within =>
      rw [List.length_cons, List.length_cons]
      omega
    case holds =>
      refine .inl ⟨mark, isDigit, _, _, ?_, hmark, hdigits.holds, hsuffix.holds⟩
      rw [show 2 + digits + suffix = (digits + suffix) + 1 + 1 by omega, List.take_succ_cons,
        List.take_succ_cons, List.take_add]
    case longest =>
      intro word hword hnumeral
      rcases hnumeral with hradix | hdecimal
      · exact length_isRadixLiteral_le hmark hdigits hsuffix hradix hword
      · -- as a decimal number the text is a zero only, for the mark ends it
        have hzero := (decimalNumber?_eq_some_iff _ 1).1 (decimalNumber?_radix hmark rest)
        have hone := hzero.length_le hdecimal hword
        omega
  | decimal hradix hdecimal =>
    obtain ⟨hwithin, hliteral⟩ := hdecimal.holds
    refine ⟨hwithin, .inr hliteral, ?_⟩
    intro word hword hnumeral
    rcases hnumeral with ⟨mark, isDigit, digits, tail, rfl, hmark, -⟩ | hdecimal'
    · obtain ⟨rest, rfl⟩ := hword
      exact absurd ⟨mark, _, rfl, by rw [hmark]; rfl⟩ hradix
    · exact hdecimal.length_le hdecimal' hword

end Highlight.CSharp
