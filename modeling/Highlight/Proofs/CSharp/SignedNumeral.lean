import Highlight.Proofs.CSharp.LongestNumeral

/-!
# Signs before numerals of C#

A sign is part of a decimal literal, so that a number is read behind it as it is without it. A radix
literal has no sign: behind one only the zero is read, and what the letter announces is no number.
-/

namespace Highlight.CSharp

/-- Whether a sign before a text leaves the number that is read off the text as it is. -/
structure KeepsNumber (sign : Char) (text : List Char) : Prop where
  accepts : ∀ n, number? text = some n → number? (sign :: text) = some (n + 1)
  declines : number? text = none → number? (sign :: text) = none

variable {sign digit : Char} {rest text : List Char}

/-- Behind a sign there is no number in another radix. -/
lemma radixNumber?_sign (hsign : isSign sign = true) (text : List Char) :
    radixNumber? (sign :: text) = none := by
  rw [radixNumber?_eq_none_iff]
  intro h
  obtain ⟨mark, rest, heq, -⟩ := h
  obtain ⟨rfl, -⟩ := List.cons.inj heq
  cases hsign

/-- The digits behind a sign are those of the whole part without it. -/
theorem wholePart?_sign (hsign : isSign sign = true) (hdigit : digit.isDigit = true)
    (rest : List Char) :
    wholePart? (sign :: digit :: rest) = (wholePart? (digit :: rest)).map (· + 1) := by
  have hbar : isDigitOrBar digit = true := isDigitOrBar_of_isDigit hdigit
  have hafter : wholePart? (digit :: rest) = some (1 + runLength isDigitOrBar rest) := by
    simp [wholePart?, hdigit, runLength]
  have hbefore : wholePart? (sign :: digit :: rest) =
      some (1 + (runLength isDigitOrBar rest + 1)) := by
    simp [wholePart?, hsign, hdigit, hbar, runLength]
  rw [hbefore, hafter, Option.map_some, Nat.add_assoc]

/-- Before a digit, a sign is one more character of a decimal literal. -/
theorem decimalNumber?_sign (hsign : isSign sign = true) (hdigit : digit.isDigit = true)
    (rest : List Char) :
    decimalNumber? (sign :: digit :: rest) = (decimalNumber? (digit :: rest)).map (· + 1) := by
  have hwhole := wholePart?_sign hsign hdigit rest
  cases hfound : wholePart? (digit :: rest) with
  | none =>
    rw [hfound] at hwhole
    unfold decimalNumber?
    rw [hwhole, hfound]
    rfl
  | some whole =>
    rw [hfound, Option.map_some] at hwhole
    rw [decimalNumber?_of_wholePart? hwhole, decimalNumber?_of_wholePart? hfound]
    -- behind the whole part both scanners see the same text
    simp only [Nat.add_right_comm whole 1, List.drop_succ_cons]
    rw [Option.map_map]
    refine Option.map_congr fun exponent _ => ?_
    show whole + fractionLength (List.drop whole (digit :: rest)) + 1 + exponent + _ = _ + 1
    rw [Nat.add_right_comm _ 1 exponent, List.drop_succ_cons, Nat.add_right_comm]

/-- Before a digit, a sign is one more character of the number, unless it stands before a radix
literal. -/
theorem number?_sign (hsign : isSign sign = true) (hdigit : digit.isDigit = true)
    (hradix : ¬ BeginsRadix (digit :: rest)) :
    number? (sign :: digit :: rest) = (number? (digit :: rest)).map (· + 1) := by
  rw [number?, number?, radixNumber?_sign hsign, (radixNumber?_eq_none_iff _).2 hradix,
    Option.none_or, Option.none_or, decimalNumber?_sign hsign hdigit]

/-- Behind a sign only the zero of a radix literal is read. -/
theorem number?_sign_radix (hsign : isSign sign = true) (h : BeginsRadix text) :
    number? (sign :: text) = some 2 := by
  obtain ⟨mark, rest, rfl, hmark⟩ := h
  obtain ⟨isDigit, hisDigit⟩ := Option.isSome_iff_exists.1 hmark
  rw [number?, radixNumber?_sign hsign, Option.none_or, decimalNumber?_sign hsign (by decide),
    decimalNumber?_radix hisDigit]
  rfl

/-- A radix literal is at least its zero and the letter behind that. -/
theorem exists_number?_radix (h : BeginsRadix text) : ∃ n, number? text = some n ∧ 2 ≤ n := by
  obtain ⟨mark, rest, rfl, hmark⟩ := h
  obtain ⟨isDigit, hisDigit⟩ := Option.isSome_iff_exists.1 hmark
  rw [number?, radixNumber?_cons, hisDigit, Option.map_some, Option.some_or]
  exact ⟨_, rfl, by omega⟩

/-- A sign before a text that begins with a digit leaves the number that is read as it is exactly if
the text does not begin with a radix literal; of such a literal only the zero is read. -/
theorem keepsNumber_iff (sign digit : Char) (rest : List Char) (hsign : isSign sign = true)
    (hdigit : digit.isDigit = true) :
    (KeepsNumber sign (digit :: rest) ↔ ¬ BeginsRadix (digit :: rest)) ∧
      (BeginsRadix (digit :: rest) → number? (sign :: digit :: rest) = some 2) := by
  refine ⟨⟨?_, ?_⟩, number?_sign_radix hsign⟩
  · intro hkeeps hradix
    obtain ⟨n, hn, hle⟩ := exists_number?_radix hradix
    have hmore := hkeeps.accepts n hn
    rw [number?_sign_radix hsign hradix] at hmore
    have heq := Option.some.inj hmore
    omega
  · intro hradix
    have hmap := number?_sign hsign hdigit hradix
    constructor
    case accepts =>
      intro n hn
      rw [hmap, hn, Option.map_some]
    case declines =>
      intro hnone
      rw [hmap, hnone, Option.map_none]

/-- The law and its exception on `-1.5f` and `+0x1`. -/
theorem keepsNumber_fraction : KeepsNumber '-' ['1', '.', '5', 'f'] ∧
    number? ['+', '0', 'x', '1'] = some 2 := by
  refine ⟨(keepsNumber_iff '-' '1' ['.', '5', 'f'] (by decide) (by decide)).1.2 ?_,
    (keepsNumber_iff '+' '0' ['x', '1'] (by decide) (by decide)).2 ⟨'x', ['1'], rfl, by decide⟩⟩
  intro h
  obtain ⟨mark, rest, heq, -⟩ := h
  cases heq

/-- A sign before a hexadecimal literal takes all its digits from the number. -/
theorem not_keepsNumber_hexadecimal : ¬ KeepsNumber '+' ['0', 'x', '1'] := by
  intro h
  have hmore := h.accepts 3 (by decide)
  revert hmore
  decide

end Highlight.CSharp
