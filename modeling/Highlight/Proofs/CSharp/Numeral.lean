import Highlight.Proofs.CSharp.Identifier
import Highlight.Proofs.Places
import Mathlib.Tactic.ByContra

/-!
# Numerals of C#

A numeral is a radix literal (`0x1F`, `0b10`) or a decimal one: a mantissa, an exponent, a suffix.
`Reads` says how a number is read off a text, each of its parts being as long as it can be, and
`Declines` where none is read; both are about the characters alone. `number?_eq_some_iff` and
`number?_eq_none_iff` join them to the scanner.
-/

namespace Highlight.CSharp

/-! ## Longest prefixes -/

/-- Whether the longest prefix of a text with a property has `n` characters. -/
structure Longest (P : List Char → Prop) (text : List Char) (n : Nat) : Prop where
  within : n ≤ text.length
  holds : P (text.take n)
  longest : ∀ word, word <+: text → P word → word.length ≤ n

/-- Whether all characters of a word satisfy a condition. -/
def AllOf (p : Char → Bool) (word : List Char) : Prop := ∀ c ∈ word, p c = true

variable {P : List Char → Prop} {p : Char → Bool} {text word a b : List Char} {c : Char}
  {n m : Nat}

lemma Longest.eq (h : Longest P text n) (h' : Longest P text m) : n = m := by
  have hle := h'.longest _ (List.take_prefix n text) h.holds
  have hge := h.longest _ (List.take_prefix m text) h'.holds
  rw [List.length_take, Nat.min_eq_left h.within] at hle
  rw [List.length_take, Nat.min_eq_left h'.within] at hge
  omega

/-- A scanner that finds a longest prefix wherever there is a prefix finds all of them. -/
theorem eq_some_iff_longest {found : Option Nat} (hsome : ∀ n, found = some n → Longest P text n)
    (hnone : found = none → ∀ word, word <+: text → ¬ P word) (n : Nat) :
    found = some n ↔ Longest P text n := by
  constructor
  · exact hsome n
  · intro h
    cases hfound : found with
    | none => exact absurd h.holds (hnone hfound _ (List.take_prefix n text))
    | some k => rw [(hsome k hfound).eq h]

/-- A word that is a prefix of a text is what the text begins with. -/
theorem take_length_of_isPrefix (h : word <+: text) : text.take word.length = word := by
  obtain ⟨rest, rfl⟩ := h
  exact List.take_left

/-- Behind the first part of a prefix stands the second. -/
theorem isPrefix_drop (h : a ++ b <+: text) : b <+: text.drop a.length := by
  obtain ⟨rest, rfl⟩ := h
  rw [List.append_assoc, List.drop_left]
  exact List.prefix_append b rest

/-- The second part of a prefix is empty or begins with the character behind the first part. -/
theorem eq_nil_or_of_isPrefix (h : a ++ b <+: text) :
    b = [] ∨ ∃ c rest, b = c :: rest ∧ text[a.length]? = some c := by
  cases b with
  | nil => exact .inl rfl
  | cons c rest =>
    obtain ⟨others, rfl⟩ := h
    refine .inr ⟨c, rest, rfl, ?_⟩
    simp

/-- A run of characters that satisfy a condition goes on as long as they do. -/
theorem longest_runLength (p : Char → Bool) (text : List Char) :
    Longest (AllOf p) text (runLength p text) := by
  obtain ⟨hle, hall, hnext⟩ := (runLength_eq_iff p text _).1 rfl
  refine ⟨hle, hall, fun word hword hp => ?_⟩
  by_contra hlt
  -- the character behind the run would belong to the word
  have hin : runLength p text < word.length := by omega
  have hat : text[runLength p text]? = some word[runLength p text] := by
    obtain ⟨rest, rfl⟩ := hword
    rw [List.getElem?_append_left hin, List.getElem?_eq_getElem hin]
  have hfalse := hnext _ hat
  rw [hp _ (List.getElem_mem hin)] at hfalse
  cases hfalse

/-- The longest beginning in a class is the run of its characters. -/
lemma longest_allOf_iff (p : Char → Bool) (text : List Char) (n : Nat) :
    Longest (AllOf p) text n ↔ runLength p text = n := by
  constructor
  · intro h
    exact (longest_runLength p text).eq h
  · intro h
    rw [← h]
    exact longest_runLength p text

/-! ## Numerals -/

/-- The digits that a letter behind a zero announces. -/
def radixDigit? (mark : Char) : Option (Char → Bool) :=
  if mark = 'x' ∨ mark = 'X' then some Text.isHexDigit
  else if mark = 'b' ∨ mark = 'B' then some isBinaryDigit
  else none

/-- Whether a word is a radix literal: a zero, a letter, the digits that it announces, of which
there may be none, and the suffix of an integer. -/
def IsRadixLiteral (word : List Char) : Prop :=
  ∃ mark isDigit digits suffix, word = '0' :: mark :: (digits ++ suffix) ∧
    radixDigit? mark = some isDigit ∧ AllOf isDigit digits ∧ AllOf isIntegerSuffix suffix

/-- Whether a word is the whole part of a decimal literal: digits and underscores behind a digit, or
behind a sign, and then with a digit among them. -/
def IsWhole (word : List Char) : Prop :=
  ∃ c run, word = c :: run ∧ AllOf isDigitOrBar run ∧
    (c.isDigit = true ∨ isSign c = true ∧ ∃ d ∈ run, d.isDigit = true)

/-- Whether a word is a fraction: a point with digits and underscores, of which there may be none.
-/
def IsFraction (word : List Char) : Prop := ∃ run, word = '.' :: run ∧ AllOf isDigitOrBar run

/-- Whether a word is a mantissa: a whole part, or one with a fraction. -/
def IsMantissa (word : List Char) : Prop :=
  IsWhole word ∨ ∃ whole fraction, word = whole ++ fraction ∧ IsWhole whole ∧ IsFraction fraction

/-- Whether a character begins an exponent. -/
def isExponentMark (c : Char) : Bool := c == 'e' || c == 'E'

/-- Whether a word is an exponent: a letter, a sign or none, and at least one digit. -/
def IsExponent (word : List Char) : Prop :=
  ∃ mark sign digits, word = mark :: (sign ++ digits) ∧ isExponentMark mark = true ∧
    (sign = [] ∨ ∃ s, sign = [s] ∧ isSign s = true) ∧ digits ≠ [] ∧ AllOf Char.isDigit digits

/-- Whether a word is the suffix of a number: nothing, one letter of a floating number, or the
letters of an integer behind one. -/
def IsSuffix (isInteger : Prop) (word : List Char) : Prop :=
  word = [] ∨ (∃ c, word = [c] ∧ isFloatSuffix c = true) ∨ isInteger ∧ AllOf isIntegerSuffix word

/-- Whether a word is a decimal literal. It is an integer if it has neither a point nor an exponent.
-/
def IsDecimalLiteral (word : List Char) : Prop :=
  ∃ mantissa exponent suffix, word = mantissa ++ (exponent ++ suffix) ∧ IsMantissa mantissa ∧
    (exponent = [] ∨ IsExponent exponent) ∧ IsSuffix ('.' ∉ mantissa ∧ exponent = []) suffix

/-- Whether a word is a numeral. -/
def IsNumeral (word : List Char) : Prop := IsRadixLiteral word ∨ IsDecimalLiteral word

/-! ## How a number is read -/

/-- Whether a text begins with a zero and a letter that announces digits. -/
def BeginsRadix (text : List Char) : Prop :=
  ∃ mark rest, text = '0' :: mark :: rest ∧ (radixDigit? mark).isSome = true

/-- Whether a text begins with the letter of an exponent. -/
def BeginsExponent (text : List Char) : Prop := ∃ c, text.head? = some c ∧ isExponentMark c = true

/-- Whether a text begins with the suffix of a floating number. -/
def BeginsFloatSuffix (text : List Char) : Prop := ∃ c, text.head? = some c ∧ isFloatSuffix c = true

/-- Whether an exponent of `n` characters is read; none is read where no letter announces it. -/
def ReadsExponent (text : List Char) (n : Nat) : Prop :=
  BeginsExponent text ∧ Longest IsExponent text n ∨ ¬ BeginsExponent text ∧ n = 0

/-- Whether a suffix of `n` characters is read: one letter of a floating number, else the letters of
an integer behind one. -/
def ReadsSuffix (isInteger : Prop) (text : List Char) (n : Nat) : Prop :=
  BeginsFloatSuffix text ∧ n = 1 ∨
    ¬ BeginsFloatSuffix text ∧
      (isInteger ∧ Longest (AllOf isIntegerSuffix) text n ∨ ¬ isInteger ∧ n = 0)

/-- Whether a decimal literal of `n` characters is read: the longest mantissa, then an exponent,
then a suffix. -/
inductive ReadsDecimal : List Char → Nat → Prop where
  | parts {text : List Char} {mantissa exponent suffix : Nat}
    (hmantissa : Longest IsMantissa text mantissa)
    (hexponent : ReadsExponent (text.drop mantissa) exponent)
    (hsuffix : ReadsSuffix ('.' ∉ text.take mantissa ∧ exponent = 0)
      (text.drop (mantissa + exponent)) suffix) :
    ReadsDecimal text (mantissa + exponent + suffix)

/-- Whether a number of `n` characters is read off the beginning of a text. -/
inductive Reads : List Char → Nat → Prop where
  /-- Behind a zero and a letter, all the digits that the letter announces, then all the letters of
  an integer suffix. -/
  | radix {mark : Char} {isDigit : Char → Bool} {rest : List Char} {digits suffix : Nat}
    (hmark : radixDigit? mark = some isDigit) (hdigits : Longest (AllOf isDigit) rest digits)
    (hsuffix : Longest (AllOf isIntegerSuffix) (rest.drop digits) suffix) :
    Reads ('0' :: mark :: rest) (2 + digits + suffix)
  /-- Everywhere else a decimal literal. -/
  | decimal {text : List Char} {n : Nat} (hradix : ¬ BeginsRadix text)
    (hdecimal : ReadsDecimal text n) : Reads text n

/-- Whether no decimal literal is read off a text: it begins with no mantissa, or its mantissa is
followed by the letter of an exponent that has no digits. -/
def DeclinesDecimal (text : List Char) : Prop :=
  (∀ word, word <+: text → ¬ IsMantissa word) ∨
    ∃ mantissa, Longest IsMantissa text mantissa ∧ BeginsExponent (text.drop mantissa) ∧
      ∀ word, word <+: text.drop mantissa → ¬ IsExponent word

/-- Whether no number is read off a text. -/
def Declines (text : List Char) : Prop := ¬ BeginsRadix text ∧ DeclinesDecimal text

/-! ## The parts of a number -/

lemma radixNumber?_cons (mark : Char) (rest : List Char) :
    radixNumber? ('0' :: mark :: rest) = (radixDigit? mark).map fun isDigit =>
      2 + runLength isDigit rest +
        runLength isIntegerSuffix (rest.drop (runLength isDigit rest)) := by
  unfold radixNumber? radixDigit?
  by_cases hx : mark = 'x' ∨ mark = 'X'
  · simp [hx]
  · by_cases hb : mark = 'b' ∨ mark = 'B'
    · have hmark : mark ≠ 'x' ∧ mark ≠ 'X' := not_or.1 hx
      simp [hmark, hb]
    · have hmark : mark ≠ 'x' ∧ mark ≠ 'X' := not_or.1 hx
      have hmark' : mark ≠ 'b' ∧ mark ≠ 'B' := not_or.1 hb
      simp [hmark, hmark']

/-- A number in another radix is refused only where its two marks do not stand. -/
theorem radixNumber?_eq_none_iff (text : List Char) :
    radixNumber? text = none ↔ ¬ BeginsRadix text := by
  constructor
  · intro h hbegins
    obtain ⟨mark, rest, rfl, hmark⟩ := hbegins
    rw [radixNumber?_cons, Option.map_eq_none_iff] at h
    rw [h] at hmark
    cases hmark
  · intro h
    by_contra hsome
    obtain ⟨n, hn⟩ := Option.ne_none_iff_exists'.1 hsome
    -- only a text of this form is looked at
    obtain ⟨mark, rest, rfl⟩ : ∃ mark rest, text = '0' :: mark :: rest := by
      unfold radixNumber? at hn
      split at hn
      · exact ⟨_, _, rfl⟩
      · cases hn
    rw [radixNumber?_cons] at hn
    obtain ⟨isDigit, hdigit, -⟩ := Option.map_eq_some_iff.1 hn
    exact h ⟨mark, rest, rfl, by rw [hdigit]; rfl⟩

lemma isDigitOrBar_of_isDigit (h : c.isDigit = true) : isDigitOrBar c = true := by
  rw [isDigitOrBar, h, Bool.true_or]

/-- Where the scanner finds no whole part there is none. -/
theorem not_isWhole_of_wholePart? (h : wholePart? text = none) (hword : word <+: text) :
    ¬ IsWhole word := by
  intro hwhole
  obtain ⟨c, run, rfl, hrun, hdigit⟩ := hwhole
  obtain ⟨others, rfl⟩ := hword
  -- the digit of the word is one of the run that the scanner sees
  have hany : c.isDigit = true ∨ isSign c = true ∧
      ((run ++ others).takeWhile isDigitOrBar).any Char.isDigit = true := by
    cases hdigit with
    | inl hc => exact .inl hc
    | inr hsign =>
      obtain ⟨hc, d, hd, hdigit⟩ := hsign
      refine .inr ⟨hc, List.any_eq_true.2 ⟨d, ?_, hdigit⟩⟩
      have hsplit : (run ++ others).takeWhile isDigitOrBar =
          run ++ others.takeWhile isDigitOrBar := List.takeWhile_append_of_pos hrun
      rw [hsplit]
      exact List.mem_append_left _ hd
  unfold wholePart? at h
  rw [List.cons_append] at h
  simp only at h
  rw [← Bool.and_eq_true, ← Bool.or_eq_true] at hany
  rw [if_pos hany] at h
  cases h

/-- A text begins with a whole part exactly if the scanner finds one, and it finds the longest. -/
theorem wholePart?_eq_some_iff (text : List Char) (n : Nat) :
    wholePart? text = some n ↔ Longest IsWhole text n := by
  apply eq_some_iff_longest
  case hsome =>
    intro n h
    cases text with
    | nil => cases h
    | cons c rest =>
      obtain ⟨hle, hall, -⟩ := (runLength_eq_iff isDigitOrBar rest _).1 rfl
      unfold wholePart? at h
      simp only at h
      split at h
      case isFalse => cases h
      case isTrue hdigit =>
        cases h
        show Longest IsWhole (c :: rest) (1 + runLength isDigitOrBar rest)
        rw [Nat.add_comm]
        refine ⟨Nat.succ_le_succ hle, ⟨c, _, List.take_succ_cons, hall, ?_⟩, ?_⟩
        · rw [Bool.or_eq_true, Bool.and_eq_true, List.any_eq_true] at hdigit
          have htake : rest.take (runLength isDigitOrBar rest) = rest.takeWhile isDigitOrBar := by
            exact take_length_of_isPrefix (List.takeWhile_prefix isDigitOrBar)
          rw [htake]
          exact hdigit
        · intro word hword hwhole
          -- a whole part is a first character and a run, which cannot be longer than the one taken
          obtain ⟨d, run, rfl, hrun, -⟩ := hwhole
          have hfront := (List.cons_prefix_cons.1 hword).2
          exact Nat.succ_le_succ ((longest_runLength isDigitOrBar rest).longest run hfront hrun)
  case hnone => exact fun h word hword => not_isWhole_of_wholePart? h hword

/-! ### Mantissas -/

/-- Behind its first character, a whole part consists of digits and underscores. -/
theorem IsWhole.isDigitOrBar (h : IsWhole word) {i : Nat} (hpos : 0 < i)
    (hi : word[i]? = some c) : isDigitOrBar c = true := by
  obtain ⟨first, run, rfl, hrun, -⟩ := h
  rw [List.getElem?_cons, if_neg (Nat.ne_of_gt hpos)] at hi
  exact hrun c (List.mem_of_getElem? hi)

lemma IsWhole.ne_nil (h : IsWhole word) : word ≠ [] := by
  obtain ⟨c, run, rfl, -⟩ := h
  exact List.cons_ne_nil c run

lemma isDigitOrBar_point : isDigitOrBar '.' = false := by decide

/-- No whole part has a point in it. -/
lemma IsWhole.point_not_mem (h : IsWhole word) : '.' ∉ word := by
  intro hmem
  obtain ⟨c, run, rfl, hrun, hc⟩ := h
  rcases List.mem_cons.1 hmem with hpoint | hmem
  · rw [← hpoint] at hc
    revert hc
    simp [isSign]
  · have hbar := hrun '.' hmem
    rw [isDigitOrBar_point] at hbar
    cases hbar

/-- A fraction goes on as long as its digits do; without a point there is none. -/
theorem isFraction_take_fractionLength (text : List Char) :
    fractionLength text = 0 ∧ (∀ rest, text ≠ '.' :: rest) ∨
      IsFraction (text.take (fractionLength text)) := by
  unfold fractionLength
  split
  case h_1 rest =>
    refine .inr ⟨rest.take (runLength isDigitOrBar rest), ?_, (longest_runLength _ rest).holds⟩
    rw [Nat.add_comm, List.take_succ_cons]
  case h_2 hpoint => exact .inl ⟨rfl, fun rest h => hpoint rest h⟩

/-- No fraction is longer than the one that the scanner takes. -/
lemma IsFraction.length_le (h : IsFraction word) (hword : word <+: text) :
    word.length ≤ fractionLength text := by
  obtain ⟨run, rfl, hrun⟩ := h
  obtain ⟨rest, rfl⟩ := hword
  rw [List.cons_append]
  show run.length + 1 ≤ 1 + runLength isDigitOrBar (run ++ rest)
  have hle := (longest_runLength isDigitOrBar (run ++ rest)).longest run
    (List.prefix_append run rest) hrun
  omega

/-- The mantissa is the whole part with the fraction behind it. -/
theorem longest_mantissa (hwhole : Longest IsWhole text n) :
    Longest IsMantissa text (n + fractionLength (text.drop n)) := by
  have hfraction := fractionLength_le (text.drop n)
  rw [List.length_drop] at hfraction
  have hwithin := hwhole.within
  constructor
  case within => omega
  case holds =>
    rcases isFraction_take_fractionLength (text.drop n) with ⟨hzero, -⟩ | hpoint
    · rw [hzero, Nat.add_zero]
      exact .inl hwhole.holds
    · exact .inr ⟨text.take n, _, List.take_add, hwhole.holds, hpoint⟩
  case longest =>
    intro word hword hmantissa
    rcases hmantissa with hword' | ⟨whole, fraction, rfl, hwhole', hpoint⟩
    · exact Nat.le_add_right_of_le (hwhole.longest word hword hword')
    · have hle := hwhole.longest whole ((List.prefix_append _ _).trans hword) hwhole'
      -- a point cannot stand within the longest whole part
      have hlength : whole.length = n := by
        by_contra hne
        rcases eq_nil_or_of_isPrefix hword with rfl | ⟨c, rest, rfl, hat⟩
        · obtain ⟨run, hnil, -⟩ := hpoint
          cases hnil
        · obtain ⟨run, hrun, -⟩ := hpoint
          obtain ⟨rfl, -⟩ := List.cons.inj hrun
          have hin : (text.take n)[whole.length]? = some '.' := by
            rw [List.getElem?_take_of_lt (by omega)]
            exact hat
          have hbar := hwhole.holds.isDigitOrBar (List.length_pos_iff.2 hwhole'.ne_nil) hin
          rw [isDigitOrBar_point] at hbar
          cases hbar
      have hrest := hpoint.length_le (isPrefix_drop hword)
      rw [hlength] at hrest
      rw [List.length_append, hlength]
      omega

/-- A mantissa begins with a whole part. -/
theorem IsMantissa.exists_whole (h : IsMantissa word) :
    ∃ whole, whole <+: word ∧ IsWhole whole := by
  rcases h with h | ⟨whole, fraction, rfl, h, -⟩
  · exact ⟨word, List.prefix_refl word, h⟩
  · exact ⟨whole, List.prefix_append whole fraction, h⟩

/-- A mantissa has a point exactly if a fraction is read behind its whole part. -/
theorem point_not_mem_iff (hwhole : Longest IsWhole text n) :
    '.' ∉ text.take (n + fractionLength (text.drop n)) ↔ fractionLength (text.drop n) = 0 := by
  have hnone := hwhole.holds.point_not_mem
  rw [List.take_add, List.mem_append, not_or, and_iff_right hnone]
  constructor
  · intro hpoint
    rcases isFraction_take_fractionLength (text.drop n) with ⟨hzero, -⟩ | ⟨run, hrun, -⟩
    · exact hzero
    · rw [hrun] at hpoint
      exact absurd List.mem_cons_self hpoint
  · intro hzero
    rw [hzero, List.take_zero]
    exact List.not_mem_nil

/-! ### Exponents and suffixes -/

lemma not_isDigit_of_isSign (h : isSign c = true) : c.isDigit = false := by
  rw [isSign, Bool.or_eq_true, beq_iff_eq, beq_iff_eq] at h
  rcases h with rfl | rfl <;> decide

/-- The sign that may stand ahead of the digits of an exponent. -/
theorem isPrefix_drop_sign {sign digits rest : List Char}
    (hsign : sign = [] ∨ ∃ s, sign = [s] ∧ isSign s = true) (hdigits : AllOf Char.isDigit digits)
    (hne : digits ≠ []) (hword : sign ++ digits <+: rest) :
    sign.length = (if rest.head?.any isSign = true then 1 else 0) ∧
      digits <+: rest.drop sign.length := by
  refine ⟨?_, isPrefix_drop hword⟩
  obtain ⟨others, rfl⟩ := hword
  rcases hsign with rfl | ⟨s, rfl, hs⟩
  · obtain ⟨d, digits, rfl⟩ := List.exists_cons_of_ne_nil hne
    have hd := hdigits d List.mem_cons_self
    have hnone : isSign d = false := by
      by_contra hsign
      rw [not_isDigit_of_isSign (eq_true_of_ne_false hsign)] at hd
      cases hd
    simp [hnone]
  · simp [hs]

/-- Every exponent that a text begins with has the sign that the scanner sees, and its digits are
among those that the scanner counts. -/
theorem IsExponent.length_le {rest : List Char} {mark : Char} (h : IsExponent word)
    (hword : word <+: mark :: rest) :
    let sign := if rest.head?.any isSign = true then 1 else 0
    0 < runLength Char.isDigit (rest.drop sign) ∧
      word.length ≤ 1 + sign + runLength Char.isDigit (rest.drop sign) := by
  intro sign
  obtain ⟨first, signs, digits, rfl, -, hsign, hne, hdigits⟩ := h
  obtain ⟨-, hword⟩ := List.cons_prefix_cons.1 hword
  obtain ⟨hlength, hbehind⟩ := isPrefix_drop_sign hsign hdigits hne hword
  rw [hlength] at hbehind
  have hle := (longest_runLength Char.isDigit (rest.drop sign)).longest digits hbehind hdigits
  have hpos := List.length_pos_iff.2 hne
  rw [List.length_cons, List.length_append, hlength]
  exact ⟨by omega, by omega⟩

lemma exponentLength?_cons (c : Char) (rest : List Char) :
    exponentLength? (c :: rest) =
      let sign := if rest.head?.any isSign = true then 1 else 0
      let digits := runLength Char.isDigit (rest.drop sign)
      if isExponentMark c = true then if digits = 0 then none else some (1 + sign + digits)
      else some 0 := rfl

/-- Behind the letter of an exponent the scanner takes its sign and all its digits. -/
theorem longest_exponent {mark : Char} {rest : List Char} (hmark : isExponentMark mark = true)
    (h : exponentLength? (mark :: rest) = some n) : Longest IsExponent (mark :: rest) n := by
  rw [exponentLength?_cons] at h
  simp only [if_pos hmark] at h
  generalize hs : (if rest.head?.any isSign = true then 1 else 0) = sign at h
  split at h
  case isTrue => cases h
  case isFalse hdigits =>
    cases h
    -- behind the mark and an optional sign the digits are taken as far as they go
    have hrun := longest_runLength Char.isDigit (rest.drop sign)
    have hwithin := hrun.within
    rw [List.length_drop] at hwithin
    constructor
    case within =>
      rw [List.length_cons]
      omega
    case holds =>
      refine ⟨mark, rest.take sign, _, ?_, hmark, ?_, ?_, hrun.holds⟩
      · rw [show 1 + sign + runLength Char.isDigit (rest.drop sign) =
          (sign + runLength Char.isDigit (rest.drop sign)) + 1 by omega, List.take_succ_cons,
          List.take_add]
      · split at hs
        case isTrue hsign =>
          obtain ⟨s, hhead, hs'⟩ := (Option.any_eq_true _ _).1 hsign
          obtain ⟨others, rfl⟩ := List.head?_eq_some_iff.1 hhead
          exact .inr ⟨s, by rw [← hs]; rfl, hs'⟩
        case isFalse => exact .inl (by rw [← hs]; rfl)
      · intro hnil
        rw [List.take_eq_nil_iff] at hnil
        rcases hnil with hzero | hnil
        · exact hdigits hzero
        · rw [hnil] at hdigits
          exact hdigits rfl
    case longest =>
      intro word hword hexponent
      have hle := (hexponent.length_le hword).2
      rwa [hs] at hle

lemma beginsExponent_cons_iff (c : Char) (rest : List Char) :
    BeginsExponent (c :: rest) ↔ isExponentMark c = true := by
  simp [BeginsExponent]

/-- The scanner takes an exponent where one is announced, and nothing elsewhere. -/
theorem exponentLength?_eq_some_iff (text : List Char) (n : Nat) :
    exponentLength? text = some n ↔ ReadsExponent text n := by
  cases text with
  | nil =>
    have hnot : ¬ BeginsExponent [] := by simp [BeginsExponent]
    show some 0 = some n ↔ _
    rw [ReadsExponent, Option.some_inj, eq_comm]
    simp [hnot]
  | cons c rest =>
    rw [ReadsExponent, beginsExponent_cons_iff]
    by_cases hmark : isExponentMark c = true
    · have hiff : exponentLength? (c :: rest) = some n ↔ Longest IsExponent (c :: rest) n := by
        apply eq_some_iff_longest
        case hsome => exact fun n h => longest_exponent hmark h
        case hnone =>
          intro h word hword hexponent
          -- the scanner refuses a mark only where no digits come behind it
          have hpos := (hexponent.length_le hword).1
          rw [exponentLength?_cons] at h
          simp only [if_pos hmark] at h
          rw [if_neg (Nat.ne_of_gt hpos)] at h
          cases h
      rw [hiff]
      simp [hmark]
    · rw [exponentLength?_cons]
      simp only [if_neg hmark]
      rw [Option.some_inj, eq_comm]
      simp [hmark]

/-- The scanner fails where an exponent is announced and has no digits. -/
theorem exponentLength?_eq_none_iff (text : List Char) :
    exponentLength? text = none ↔
      BeginsExponent text ∧ ∀ word, word <+: text → ¬ IsExponent word := by
  cases hfound : exponentLength? text with
  | some n =>
    constructor
    · intro h
      cases h
    · rintro ⟨hbegins, hnone⟩
      rcases (exponentLength?_eq_some_iff text n).1 hfound with ⟨-, hlongest⟩ | ⟨hnot, -⟩
      · exact absurd hlongest.holds (hnone _ (List.take_prefix n text))
      · exact absurd hbegins hnot
  | none =>
    refine iff_of_true rfl ⟨?_, ?_⟩
    · by_contra hnot
      rw [(exponentLength?_eq_some_iff text 0).2 (.inr ⟨hnot, rfl⟩)] at hfound
      cases hfound
    · intro word hword hexponent
      cases text with
      | nil =>
        rw [List.prefix_nil] at hword
        rw [hword] at hexponent
        obtain ⟨mark, sign, digits, hnil, -⟩ := hexponent
        cases hnil
      | cons c rest =>
        -- an exponent in the text has digits, and then the scanner would have taken them
        have hpos := (hexponent.length_le hword).1
        rw [exponentLength?_cons] at hfound
        simp only at hfound
        rw [if_neg (Nat.ne_of_gt hpos)] at hfound
        split at hfound <;> cases hfound

/-- The scanner takes the suffix that may stand behind what it has read. -/
theorem suffixLength_eq_iff {isInteger : Bool} {integer : Prop}
    (hinteger : isInteger = true ↔ integer) (text : List Char) (n : Nat) :
    suffixLength isInteger text = n ↔ ReadsSuffix integer text n := by
  have hbegins : text.head?.any isFloatSuffix = true ↔ BeginsFloatSuffix text :=
    Option.any_eq_true _ _
  unfold suffixLength ReadsSuffix
  rw [longest_allOf_iff, ← hinteger]
  by_cases hfloat : BeginsFloatSuffix text
  · rw [if_pos (hbegins.2 hfloat), eq_comm]
    simp [hfloat]
  · rw [if_neg (mt hbegins.1 hfloat)]
    cases isInteger with
    | true => simp [hfloat]
    | false =>
      simp only [Bool.false_eq_true, if_false, false_and, false_or]
      rw [eq_comm]
      simp [hfloat]

/-! ## Whole numbers -/

/-- Where no whole part is found, the text begins with no mantissa. -/
theorem wholePart?_eq_none_iff (text : List Char) :
    wholePart? text = none ↔ ∀ word, word <+: text → ¬ IsMantissa word := by
  constructor
  · intro h word hword hmantissa
    obtain ⟨whole, hfront, hwhole⟩ := hmantissa.exists_whole
    exact not_isWhole_of_wholePart? h (hfront.trans hword) hwhole
  · intro h
    by_contra hsome
    obtain ⟨n, hn⟩ := Option.ne_none_iff_exists'.1 hsome
    exact h _ (List.take_prefix n text) (.inl ((wholePart?_eq_some_iff text n).1 hn).holds)

/-- Behind a whole part the other parts are read one after the other. -/
theorem decimalNumber?_of_wholePart? {whole : Nat} (hwhole : wholePart? text = some whole) :
    decimalNumber? text =
      let mantissa := whole + fractionLength (text.drop whole)
      (exponentLength? (text.drop mantissa)).map fun exponent => mantissa + exponent +
        suffixLength (fractionLength (text.drop whole) = 0 && exponent = 0)
          (text.drop (mantissa + exponent)) := by
  unfold decimalNumber?
  rw [hwhole, Option.bind_eq_bind, Option.bind_some]
  simp only
  cases exponentLength? (text.drop (whole + fractionLength (text.drop whole))) with
  | none => rfl
  | some exponent => rfl

/-- A decimal literal is read part by part. -/
theorem decimalNumber?_eq_some_iff (text : List Char) (n : Nat) :
    decimalNumber? text = some n ↔ ReadsDecimal text n := by
  constructor
  · intro h
    cases hwhole : wholePart? text with
    | none =>
      unfold decimalNumber? at h
      rw [hwhole] at h
      cases h
    | some whole =>
      have hlongest := (wholePart?_eq_some_iff text whole).1 hwhole
      rw [decimalNumber?_of_wholePart? hwhole] at h
      obtain ⟨exponent, hexponent, rfl⟩ := Option.map_eq_some_iff.1 h
      -- each part is the longest that fits behind the ones before it
      refine .parts (longest_mantissa hlongest)
        ((exponentLength?_eq_some_iff _ _).1 hexponent) ((suffixLength_eq_iff ?_ _ _).1 rfl)
      rw [point_not_mem_iff hlongest]
      simp
  · intro h
    cases h with
    | @parts mantissa exponent suffix hmantissa hexponent hsuffix =>
      cases hwhole : wholePart? text with
      | none =>
        exact absurd hmantissa.holds
          ((wholePart?_eq_none_iff text).1 hwhole _ (List.take_prefix mantissa text))
      | some whole =>
        have hlongest := (wholePart?_eq_some_iff text whole).1 hwhole
        obtain rfl := hmantissa.eq (longest_mantissa hlongest)
        rw [decimalNumber?_of_wholePart? hwhole]
        simp only
        rw [(exponentLength?_eq_some_iff _ _).2 hexponent, Option.map_some, Option.some_inj,
          (suffixLength_eq_iff _ _ _).2 hsuffix]
        rw [point_not_mem_iff hlongest]
        simp

/-- A decimal literal is declined where it has no mantissa or an exponent without digits. -/
theorem decimalNumber?_eq_none_iff (text : List Char) :
    decimalNumber? text = none ↔ DeclinesDecimal text := by
  unfold DeclinesDecimal
  rw [← wholePart?_eq_none_iff]
  cases hwhole : wholePart? text with
  | none =>
    refine iff_of_true ?_ (.inl rfl)
    unfold decimalNumber?
    rw [hwhole]
    rfl
  | some whole =>
    have hlongest := longest_mantissa ((wholePart?_eq_some_iff text whole).1 hwhole)
    rw [decimalNumber?_of_wholePart? hwhole]
    simp only
    rw [Option.map_eq_none_iff, exponentLength?_eq_none_iff]
    constructor
    · intro h
      exact .inr ⟨_, hlongest, h⟩
    · intro h
      rcases h with h | ⟨mantissa, hmantissa, h⟩
      · cases h
      · rwa [← hmantissa.eq hlongest]

/-- A number is found exactly as it is read. -/
theorem number?_eq_some_iff (text : List Char) (n : Nat) :
    number? text = some n ↔ Reads text n := by
  unfold number?
  by_cases hradix : BeginsRadix text
  · obtain ⟨mark, rest, rfl, hmark⟩ := hradix
    obtain ⟨isDigit, hdigit⟩ := Option.isSome_iff_exists.1 hmark
    -- with the mark of a radix the rest is two runs
    have hruns : Longest (AllOf isIntegerSuffix) (rest.drop (runLength isDigit rest))
        (runLength isIntegerSuffix (rest.drop (runLength isDigit rest))) :=
      longest_runLength _ _
    rw [radixNumber?_cons, hdigit, Option.map_some, Option.some_or, Option.some_inj]
    constructor
    · intro h
      rw [← h]
      exact .radix hdigit (longest_runLength isDigit rest) hruns
    · intro h
      cases h with
      | @radix _ isDigit' _ digits suffix hmark' hdigits hsuffix =>
        cases hdigit.symm.trans hmark'
        obtain rfl := (longest_runLength isDigit rest).eq hdigits
        rw [hruns.eq hsuffix]
      | decimal hnot _ => exact absurd ⟨mark, rest, rfl, hmark⟩ hnot
  · rw [(radixNumber?_eq_none_iff text).2 hradix, Option.none_or, decimalNumber?_eq_some_iff]
    constructor
    · exact .decimal hradix
    · intro h
      cases h with
      | radix hmark _ _ => exact absurd ⟨_, _, rfl, by rw [hmark]; rfl⟩ hradix
      | decimal _ hdecimal => exact hdecimal

/-- The scanner takes no number exactly where `Declines` holds. -/
theorem number?_eq_none_iff (text : List Char) : number? text = none ↔ Declines text := by
  rw [number?, Option.or_eq_none_iff, radixNumber?_eq_none_iff, decimalNumber?_eq_none_iff]
  rfl

/-- A point and underscores may stand before an exponent. -/
example : number? ['1', '.', '_', 'e', '5', 'f', ';'] = some 6 := by decide

end Highlight.CSharp
