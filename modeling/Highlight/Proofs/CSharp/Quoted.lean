import Highlight.Proofs.CSharp.Bounds
import Highlight.Proofs.Text.MaximalRun

/-!
# Where strings end

A verbatim string ends with the first maximal run of quotes that is of odd length
(`verbatimEnd?_eq_some_iff`), any other string with the first quote that has an even number of
backslashes before it (`quotedEnd?_eq_some_iff`). The scanners take two characters at a time, which
changes neither of the parities.
-/

namespace Highlight.CSharp

open Text

variable {text body : List Char} {c : Char} {e n p : Nat}

/-! ## Verbatim strings -/

/-- The body of a verbatim string goes up to the end of the first run of quotes of odd length. -/
theorem verbatimEnd?_eq_some_iff (text : List Char) (e : Nat) :
    verbatimEnd? text = some e ↔ FirstOddRunEnd '"' text e := by
  fun_induction verbatimEnd? text generalizing e with
  | case1 =>
    constructor
    · intro h
      cases h
    · rintro ⟨i, hrun, -⟩
      exact absurd hrun (not_maximalRun_of_not_mem List.not_mem_nil)
  | case2 rest ih =>
    rw [firstOddRunEnd_cons_cons_iff, ← ih, Option.map_eq_some_iff]
    constructor
    · rintro ⟨m, hm, rfl⟩
      exact ⟨by omega, hm⟩
    · rintro ⟨hle, h⟩
      exact ⟨e - 2, h, by omega⟩
  | case3 rest hnext =>
    -- the quote stands alone
    have hrest : rest[0]? ≠ some '"' := by
      intro hfirst
      obtain ⟨tail, rfl⟩ := List.head?_eq_some_iff.1 (List.head?_eq_getElem?.trans hfirst)
      exact hnext tail rfl
    have hone := firstOddRunEnd_replicate_append_iff (c := '"') (k := 1) (e := e) hrest
    rw [if_pos odd_one] at hone
    rw [Option.some_inj, eq_comm]
    exact hone.symm
  | case4 c rest hpair hquote ih =>
    have hc : '"' ∉ [c] := by
      intro hmem
      obtain rfl : '"' = c := List.mem_singleton.1 hmem
      exact hquote rfl
    have hcons : FirstOddRunEnd '"' ([c] ++ rest) e ↔ [c].length ≤ e ∧
        FirstOddRunEnd '"' rest (e - [c].length) :=
      firstOddRunEnd_append_iff_of_not_mem hc
    rw [List.singleton_append, List.length_singleton] at hcons
    rw [hcons, ← ih, Option.map_eq_some_iff]
    constructor
    · rintro ⟨m, hm, rfl⟩
      exact ⟨by omega, hm⟩
    · rintro ⟨hle, h⟩
      exact ⟨e - 1, h, by omega⟩

/-- A verbatim string goes on on the next line if all runs of quotes are of even length. -/
theorem verbatimEnd?_eq_none_iff (text : List Char) :
    verbatimEnd? text = none ↔ ∀ i j, MaximalRun '"' text i j → ¬ Odd (j - i) := by
  rw [Option.eq_none_iff_forall_ne_some]
  constructor
  · intro h i j hrun hodd
    obtain ⟨e, he⟩ := exists_firstOddRunEnd_iff.2 ⟨i, j, hrun, hodd⟩
    exact h e ((verbatimEnd?_eq_some_iff text e).2 he)
  · intro h e he
    obtain ⟨i, hrun, hodd, -⟩ := (verbatimEnd?_eq_some_iff text e).1 he
    exact h i e hrun hodd

/-! ## Other strings -/

/-- Whether a quote stands at a place of the body of a string with an even number of backslashes
directly before it. -/
def ClosesAt (body : List Char) (place : Nat) : Prop :=
  body[place]? = some '"' ∧ Even (runBefore '\\' body place)

theorem ClosesAt.lt_length (h : ClosesAt body p) : p < body.length :=
  (List.getElem?_eq_some_iff.1 h.1).1

/-- A quote at the beginning closes, for no backslash stands before it. -/
theorem closesAt_zero_iff : ClosesAt body 0 ↔ body[0]? = some '"' := by
  rw [ClosesAt, runBefore_zero]
  exact and_iff_left Even.zero

/-- A character that is no backslash has no part in what closes the rest. -/
theorem closesAt_cons_iff (hc : c ≠ '\\') : ClosesAt (c :: body) (p + 1) ↔ ClosesAt body p := by
  unfold ClosesAt
  rw [List.getElem?_cons_succ]
  refine and_congr_right fun hquote => ?_
  have hle := Nat.le_of_lt (List.getElem?_eq_some_iff.1 hquote).1
  rw [runBefore_cons c hle, if_neg fun h => hc h.2]

/-- Neither has anything that does not end with a backslash. -/
theorem closesAt_append_iff {before : List Char} (hlast : before.getLast? ≠ some '\\') :
    ClosesAt (before ++ body) (before.length + p) ↔ ClosesAt body p := by
  unfold ClosesAt
  rw [runBefore_append hlast, List.getElem?_append_right (Nat.le_add_right _ _),
    Nat.add_sub_cancel_left]

/-- Neither has a backslash with the character behind it. -/
theorem closesAt_cons_cons_iff :
    ClosesAt ('\\' :: c :: body) (p + 2) ↔ ClosesAt body p := by
  unfold ClosesAt
  rw [List.getElem?_cons_succ, List.getElem?_cons_succ]
  refine and_congr_right fun hquote => ?_
  exact even_runBefore_cons_cons c (Nat.le_of_lt (List.getElem?_eq_some_iff.1 hquote).1)

/-- The character behind a backslash closes nothing. -/
theorem not_closesAt_one : ¬ ClosesAt ('\\' :: body) 1 := by
  rintro ⟨-, heven⟩
  have hone : runBefore '\\' ('\\' :: body) (0 + 1) = 1 := by
    rw [runBefore_cons '\\' (Nat.zero_le body.length), runBefore_zero, if_pos ⟨rfl, rfl⟩]
  rw [show (1 : Nat) = 0 + 1 from rfl, hone] at heven
  exact absurd heven (by decide)

/-- Whether `place` is that of the first quote that closes the body of a string. -/
def FirstClose (body : List Char) (place : Nat) : Prop :=
  ClosesAt body place ∧ ∀ q < place, ¬ ClosesAt body q

/-- The first closing quote behind characters that close nothing and change no parity. -/
theorem firstClose_shift {before : List Char} {k : Nat}
    (hshift : ∀ q, ClosesAt (before ++ body) (q + k) ↔ ClosesAt body q)
    (hbefore : ∀ q < k, ¬ ClosesAt (before ++ body) q) (p : Nat) :
    FirstClose (before ++ body) p ↔ k ≤ p ∧ FirstClose body (p - k) := by
  constructor
  · rintro ⟨hclose, hfirst⟩
    have hk : k ≤ p := by
      by_contra hlt
      exact hbefore p (by omega) hclose
    refine ⟨hk, (hshift (p - k)).1 (by rwa [Nat.sub_add_cancel hk]), fun q hq hclose' => ?_⟩
    exact hfirst (q + k) (by omega) ((hshift q).2 hclose')
  · rintro ⟨hk, hclose, hfirst⟩
    refine ⟨?_, fun q hq hclose' => ?_⟩
    · have hclose' := (hshift (p - k)).2 hclose
      rwa [Nat.sub_add_cancel hk] at hclose'
    · by_cases hlt : q < k
      · exact hbefore q hlt hclose'
      · -- a place behind the beginning is one of the body
        refine hfirst (q - k) (by omega) ((hshift (q - k)).1 ?_)
        rwa [Nat.sub_add_cancel (by omega)]

/-- What is read behind `k` characters ends behind the first closing quote if these shift it. -/
theorem map_add_eq_some_iff {found : Option Nat} {whole : List Char} {k : Nat}
    (hfound : ∀ m, found = some m ↔ ∃ p, m = p + 1 ∧ FirstClose body p)
    (hshift : ∀ p, FirstClose whole p ↔ k ≤ p ∧ FirstClose body (p - k)) (n : Nat) :
    found.map (· + k) = some n ↔ ∃ p, n = p + 1 ∧ FirstClose whole p := by
  rw [Option.map_eq_some_iff]
  constructor
  · rintro ⟨m, hm, rfl⟩
    obtain ⟨p, rfl, hfirst⟩ := (hfound m).1 hm
    refine ⟨p + k, Nat.add_right_comm p 1 k, (hshift _).2 ⟨Nat.le_add_left k p, ?_⟩⟩
    rwa [Nat.add_sub_cancel]
  · rintro ⟨p, rfl, hfirst⟩
    obtain ⟨hle, hfirst⟩ := (hshift p).1 hfirst
    exact ⟨p - k + 1, (hfound _).2 ⟨p - k, rfl, hfirst⟩, by omega⟩

/-- The body of a string goes up to its first closing quote. -/
theorem quotedEnd?_eq_some_iff (body : List Char) (n : Nat) :
    quotedEnd? body = some n ↔ ∃ p, n = p + 1 ∧ FirstClose body p := by
  fun_induction quotedEnd? body generalizing n with
  | case1 =>
    constructor
    · intro h
      cases h
    · rintro ⟨p, -, hclose, -⟩
      exact absurd hclose.lt_length (Nat.not_lt_zero p)
  | case2 rest =>
    -- a quote at the beginning closes, and nothing comes before it
    have hzero : ClosesAt ('"' :: rest) 0 := closesAt_zero_iff.2 rfl
    constructor
    · intro h
      cases h
      exact ⟨0, rfl, hzero, fun q hq => absurd hq (Nat.not_lt_zero q)⟩
    · rintro ⟨p, rfl, -, hfirst⟩
      have hp : p = 0 := by
        by_contra hne
        exact hfirst 0 (by omega) hzero
      rw [hp]
  | case3 c rest ih =>
    -- neither a backslash nor what it escapes closes the body
    have hbefore : ∀ q < 2, ¬ ClosesAt (['\\', c] ++ rest) q := by
      intro q hq
      obtain rfl | rfl : q = 0 ∨ q = 1 := by omega
      · rw [closesAt_zero_iff]
        simp
      · exact not_closesAt_one
    have hshift : ∀ p, FirstClose (['\\', c] ++ rest) p ↔ 2 ≤ p ∧ FirstClose rest (p - 2) :=
      firstClose_shift (fun _ => closesAt_cons_cons_iff) hbefore
    exact map_add_eq_some_iff ih hshift n
  | case4 c rest hquote hpair ih =>
    by_cases hc : c = '\\'
    · -- a backslash that nothing follows
      obtain rfl : rest = [] := by
        cases rest with
        | nil => rfl
        | cons d rest => exact absurd rfl (hpair d rest hc)
      constructor
      · intro h
        cases h
      · rintro ⟨p, -, hclose, -⟩
        obtain rfl : p = 0 := Nat.lt_one_iff.1 hclose.lt_length
        rw [closesAt_zero_iff, hc] at hclose
        simp at hclose
    · have hbefore : ∀ q < 1, ¬ ClosesAt ([c] ++ rest) q := by
        intro q hq
        obtain rfl : q = 0 := Nat.lt_one_iff.1 hq
        rw [closesAt_zero_iff]
        intro hfirst
        exact hquote (Option.some_inj.1 hfirst)
      have hshift : ∀ p, FirstClose ([c] ++ rest) p ↔ 1 ≤ p ∧ FirstClose rest (p - 1) :=
        firstClose_shift (fun _ => closesAt_cons_iff hc) hbefore
      exact map_add_eq_some_iff ih hshift n

/-- A string is not closed on its line if none of the quotes closes it. -/
theorem quotedEnd?_eq_none_iff (body : List Char) :
    quotedEnd? body = none ↔ ∀ p, ¬ ClosesAt body p := by
  rw [Option.eq_none_iff_forall_ne_some]
  constructor
  · intro h p hclose
    classical
    have hex : ∃ p, ClosesAt body p := ⟨p, hclose⟩
    exact h _ ((quotedEnd?_eq_some_iff body _).2
      ⟨Nat.find hex, rfl, Nat.find_spec hex, fun q hq => Nat.find_min hex hq⟩)
  · intro h n hn
    obtain ⟨p, -, hclose, -⟩ := (quotedEnd?_eq_some_iff body n).1 hn
    exact h p hclose

end Highlight.CSharp
