import Highlight.CSharp.Tokens
import Highlight.Proofs.Tokens
import Mathlib.Tactic.Lemma

/-!
# Lengths of C# tokens

Every recognizer that accepts takes at least one character and no more than there are. The scanners
come first, each with the bound on the length it gives; `recognizer_within` collects the nine
recognizers, and `scan_within` is the bound for a step of the tokenizer in any state.
-/

namespace Highlight.CSharp

variable {text : List Char} {n : Nat}

lemma runLength_le (p : Char → Bool) (text : List Char) : runLength p text ≤ text.length := by
  rw [runLength]
  exact (List.takeWhile_prefix p).length_le

/-! ## Strings and characters -/

lemma quotedEnd?_within (h : quotedEnd? text = some n) : Within n text := by
  fun_induction quotedEnd? text generalizing n with
  | case1 => cases h
  | case2 rest =>
    cases h
    exact ⟨Nat.one_pos, Nat.succ_le_succ (Nat.zero_le _)⟩
  | case3 c rest ih =>
    obtain ⟨m, hm, rfl⟩ := Option.map_eq_some_iff.1 h
    exact (ih hm).succ_cons.succ_cons
  | case4 c rest _ _ ih =>
    obtain ⟨m, hm, rfl⟩ := Option.map_eq_some_iff.1 h
    exact (ih hm).succ_cons

lemma verbatimEnd?_within (h : verbatimEnd? text = some n) : Within n text := by
  fun_induction verbatimEnd? text generalizing n with
  | case1 => cases h
  | case2 rest ih =>
    obtain ⟨m, hm, rfl⟩ := Option.map_eq_some_iff.1 h
    exact (ih hm).succ_cons.succ_cons
  | case3 rest =>
    cases h
    exact ⟨Nat.one_pos, Nat.succ_le_succ (Nat.zero_le _)⟩
  | case4 c rest _ _ ih =>
    obtain ⟨m, hm, rfl⟩ := Option.map_eq_some_iff.1 h
    exact (ih hm).succ_cons

lemma plainString?_within (h : plainString? text = some n) : Within n text := by
  unfold plainString? at h
  split at h
  · obtain ⟨m, hm, rfl⟩ := Option.map_eq_some_iff.1 h
    exact (quotedEnd?_within hm).succ_cons
  · cases h

lemma interpolatedString?_within (h : interpolatedString? text = some n) : Within n text := by
  unfold interpolatedString? at h
  split at h
  · obtain ⟨m, hm, rfl⟩ := Option.map_eq_some_iff.1 h
    exact (quotedEnd?_within hm).succ_cons.succ_cons
  · cases h

lemma verbatimOpening?_within (h : verbatimOpening? text = some n) : Within n text := by
  unfold verbatimOpening? at h
  split at h <;> cases h <;> exact ⟨by decide, by simp only [List.length_cons]; omega⟩

lemma charLiteral?_within (h : charLiteral? text = some n) : Within n text := by
  unfold charLiteral? at h
  split at h
  · split at h
    · cases h
      exact ⟨by decide, by simp only [List.length_cons]; omega⟩
    · cases h
  · cases h
    exact ⟨by decide, by simp only [List.length_cons]; omega⟩
  · cases h

/-! ## Identifiers and numbers -/

lemma identifier?_within (h : identifier? text = some n) : Within n text := by
  unfold identifier? at h
  simp only at h
  -- the mark is counted and dropped alike, so its presence does not matter
  generalize hm : (if text.head? = some '@' then 1 else 0) = mark at h
  cases hd : text.drop mark with
  | nil =>
    rw [hd] at h
    cases h
  | cons c rest =>
    rw [hd] at h
    have hlen := congrArg List.length hd
    have hrun := runLength_le isIdentifierPart rest
    rw [List.length_drop, List.length_cons] at hlen
    simp only at h
    split at h
    · cases h
      exact ⟨by omega, by omega⟩
    · cases h

/-- A number in another radix is in the text, its mark and its suffix included. -/
lemma radixNumber?_within (h : radixNumber? text = some n) : Within n text := by
  unfold radixNumber? at h
  split at h
  · rename_i mark rest
    -- whatever the digits are, they and the suffix behind them lie in the rest
    have hliteral : ∀ isDigit, Within (2 + runLength isDigit rest +
        runLength isIntegerSuffix (rest.drop (runLength isDigit rest))) ('0' :: mark :: rest) := by
      intro isDigit
      have hdigits := runLength_le isDigit rest
      have hsuffix := runLength_le isIntegerSuffix (rest.drop (runLength isDigit rest))
      rw [List.length_drop] at hsuffix
      exact ⟨by omega, by simp only [List.length_cons]; omega⟩
    simp only at h
    split at h
    · cases h
      exact hliteral _
    · split at h
      · cases h
        exact hliteral _
      · cases h
  · cases h

/-- The whole part of a number is in the text, its sign included. -/
lemma wholePart?_within (h : wholePart? text = some n) : Within n text := by
  unfold wholePart? at h
  split at h
  · cases h
  · rename_i c rest
    have hdigits := runLength_le isDigitOrBar rest
    simp only at h
    split at h
    · cases h
      rw [runLength] at hdigits
      exact ⟨by omega, by rw [List.length_cons]; omega⟩
    · cases h

lemma fractionLength_le (text : List Char) : fractionLength text ≤ text.length := by
  unfold fractionLength
  split
  · rename_i rest
    have hdigits := runLength_le isDigitOrBar rest
    rw [List.length_cons]
    omega
  · exact Nat.zero_le _

lemma exponentLength?_le (h : exponentLength? text = some n) : n ≤ text.length := by
  unfold exponentLength? at h
  split at h
  · cases h
    exact Nat.zero_le _
  · rename_i c rest
    simp only at h
    split at h
    · generalize hs : (if rest.head?.any isSign = true then 1 else 0) = sign at h
      have hdigits := runLength_le Char.isDigit (rest.drop sign)
      rw [List.length_drop] at hdigits
      split at h
      · cases h
      · cases h
        rw [List.length_cons]
        omega
    · cases h
      exact Nat.zero_le _

lemma suffixLength_le (isInteger : Bool) (text : List Char) :
    suffixLength isInteger text ≤ text.length := by
  unfold suffixLength
  split
  · rename_i h
    cases text with
    | nil => cases h
    | cons c rest => exact Nat.succ_le_succ (Nat.zero_le _)
  · split
    · exact runLength_le _ _
    · exact Nat.zero_le _

/-- A decimal number is in the text: each of its parts is in what the ones before it leave. -/
lemma decimalNumber?_within (h : decimalNumber? text = some n) : Within n text := by
  unfold decimalNumber? at h
  obtain ⟨whole, hwhole, h⟩ := Option.bind_eq_some_iff.1 h
  obtain ⟨exponent, hexponent, h⟩ := Option.bind_eq_some_iff.1 h
  cases h
  have hw := wholePart?_within hwhole
  have hf := fractionLength_le (text.drop whole)
  have he := exponentLength?_le hexponent
  -- each part is read behind the ones before, so the four lengths add up within the text
  have hs := suffixLength_le
    (fractionLength (text.drop whole) = 0 && exponent = 0)
    (text.drop (whole + fractionLength (text.drop whole) + exponent))
  rw [List.length_drop] at hf he hs
  exact ⟨Nat.add_pos_left (Nat.add_pos_left (Nat.add_pos_left hw.1 _) _) _, by
    have := hw.2
    omega⟩

lemma number?_within (h : number? text = some n) : Within n text := by
  rcases Option.or_eq_some_iff.1 h with hr | ⟨-, hd⟩
  · exact radixNumber?_within hr
  · exact decimalNumber?_within hd

/-! ## Recognizers and steps -/

/-- The scan of a verbatim string takes something, and no more than there is. -/
lemma verbatimScan_within (opening : Nat) (h : text ≠ []) :
    Within (verbatimScan opening text).length text := by
  unfold verbatimScan
  split
  · rename_i m hm
    exact (verbatimEnd?_within hm).add_of_drop
  · exact Within.length h

lemma commentScan_within (opening : Nat) (h : text ≠ []) :
    Within (commentScan opening text).length text := by
  unfold commentScan
  split
  · rename_i m hm
    exact Within.add_of_drop ⟨Marker.endOf?_pos hm, Marker.endOf?_le hm⟩
  · exact Within.length h

lemma startsWith_ne_nil {mark : List Char} (h : Marker.startsWith mark text = true) :
    text ≠ [] := by
  rintro rfl
  cases mark with
  | nil => cases h
  | cons c mark => cases h

/-- Each of the nine recognizers takes at least one character and at most what is left. -/
theorem recognizer_within {words : Words} {recognizer : Recognizer} {scan : Scan}
    (hr : recognizer ∈ recognizers words) (h : recognizer text = some scan) :
    Within scan.length text := by
  simp only [recognizers, List.mem_cons, List.not_mem_nil, or_false] at hr
  rcases hr with rfl | rfl | rfl | rfl | rfl | rfl | rfl | rfl | rfl
  · unfold blockComment at h
    split at h
    · cases h
      exact commentScan_within 2 (startsWith_ne_nil ‹_›)
    · cases h
  · unfold lineComment at h
    split at h
    · cases h
      exact Within.length (startsWith_ne_nil ‹_›)
    · cases h
  · unfold directive at h
    split at h
    · rename_i hhead
      cases h
      exact Within.length fun hnil => by rw [hnil] at hhead; cases hhead
    · cases h
  · obtain ⟨opening, hopening, rfl⟩ := Option.map_eq_some_iff.1 h
    have hne := verbatimOpening?_within hopening
    exact verbatimScan_within opening (List.length_pos_iff.1 (Nat.lt_of_lt_of_le hne.1 hne.2))
  · obtain ⟨n, hn, rfl⟩ := Option.map_eq_some_iff.1 h
    exact interpolatedString?_within hn
  · obtain ⟨n, hn, rfl⟩ := Option.map_eq_some_iff.1 h
    exact plainString?_within hn
  · obtain ⟨n, hn, rfl⟩ := Option.map_eq_some_iff.1 h
    exact charLiteral?_within hn
  · obtain ⟨n, hn, rfl⟩ := Option.map_eq_some_iff.1 h
    exact identifier?_within hn
  · obtain ⟨n, hn, rfl⟩ := Option.map_eq_some_iff.1 h
    exact number?_within hn

/-- Outside of strings and comments every scan takes something, and no more than there is. -/
lemma scanNormal_within (words : Words) (h : text ≠ []) :
    Within (scanNormal words text).length text := by
  unfold scanNormal
  cases hfind : (recognizers words).findSome? (· text) with
  | some scan =>
    obtain ⟨recognizer, hr, haccept⟩ := List.exists_of_findSome?_eq_some hfind
    exact recognizer_within hr haccept
  | none => exact Within.one h

/-- A step of the tokenizer takes at least one character and at most what is left, in every state.
-/
theorem scan_within (words : Words) (state : LineState) (h : text ≠ []) :
    Within (scan words state text).length text := by
  unfold scan
  simp only
  split
  · rename_i hblank
    exact ⟨hblank, runLength_le _ _⟩
  · split
    · exact verbatimScan_within 0 h
    · exact commentScan_within 0 h
    · exact scanNormal_within words h

/-- A recognizer that declines has no part in a step: the first one that accepts decides it. -/
theorem scanNormal_of_declined {words : Words} {declined later : List Recognizer}
    {recognizer : Recognizer} {scan : Scan}
    (hsplit : recognizers words = declined ++ recognizer :: later)
    (hdeclined : ∀ r ∈ declined, r text = none) (haccept : recognizer text = some scan) :
    scanNormal words text = scan := by
  have hnone : declined.findSome? (· text) = none := List.findSome?_eq_none_iff.2 hdeclined
  rw [scanNormal, hsplit, List.findSome?_append, hnone, Option.none_or,
    List.findSome?_cons, haccept]
  rfl

/-! ## Whole lines -/

/-- The tokens of a text that is not empty are that of the first scan and those of what the scan
leaves. -/
lemma tokens_cons (words : Words) (state : LineState) (h : text ≠ []) :
    tokens words state text =
      let first := scan words state text
      let rest := tokens words first.next (text.drop first.length)
      (⟨first.length, first.category⟩ :: rest.1, rest.2) := by
  cases text with
  | nil => exact absurd rfl h
  | cons c rest =>
    -- the recursion is on the rest behind the first character, which every step takes
    obtain ⟨k, hk⟩ : ∃ k, (scan words state (c :: rest)).length = k + 1 :=
      ⟨_, (Nat.succ_pred_eq_of_pos (scan_within words state h).1).symm⟩
    rw [tokens]
    simp only [hk, Nat.add_sub_cancel, List.drop_succ_cons]

/-- The tokens of a line cut it. -/
theorem cuts_tokens (words : Words) (state : LineState) (text : List Char) :
    Token.Cuts (tokens words state text).1 text.length := by
  fun_induction tokens words state text with
  | case1 state => exact Token.Cuts.nil
  | case2 state c rest first others last hrest ih =>
    have hscan : Within first.length (c :: rest) :=
      scan_within words state (List.cons_ne_nil c rest)
    refine Token.Cuts.cons hscan ?_
    rw [hrest, List.length_drop] at ih
    have hpos := hscan.1
    rwa [List.length_cons, show rest.length + 1 - first.length = rest.length - (first.length - 1) by
      omega]

end Highlight.CSharp
