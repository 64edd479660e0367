import Mathlib.Algebra.Order.Ring.Nat
import Mathlib.Algebra.Order.Ring.Canonical
import Mathlib.Algebra.Ring.Parity
import Mathlib.Data.Nat.Find

/-!
# Maximal runs of a character

A maximal run is a stretch of one character whose neighbours are other characters. Runs of a text
are those of its parts where the cut between the parts does not go through a run
(`maximalRun_append_iff`), and so is the end of the first run of odd length
(`firstOddRunEnd_append_iff`). `runBefore` is the length of the run that ends at a place.
-/

namespace Highlight.Text

variable {c : Char} {text before rest : List Char} {i j k e : Nat}

/-- Whether the places of a text from `i` up to `j`, without `j`, hold a character that the places
next to them do not hold. -/
structure MaximalRun (c : Char) (text : List Char) (i j : Nat) : Prop where
  lt : i < j
  getElem?_eq : ∀ k, i ≤ k → k < j → text[k]? = some c
  ne_before : ∀ k, k + 1 = i → text[k]? ≠ some c
  ne_behind : text[j]? ≠ some c

/-- Whether `e` is the end of the first maximal run of a character that has an odd length. -/
def FirstOddRunEnd (c : Char) (text : List Char) (e : Nat) : Prop :=
  ∃ i, MaximalRun c text i e ∧ Odd (e - i) ∧
    ∀ i' j', MaximalRun c text i' j' → Odd (j' - i') → i ≤ i'

lemma MaximalRun.le_length (h : MaximalRun c text i j) : j ≤ text.length := by
  have hlt := h.lt
  have hlast := h.getElem?_eq (j - 1) (by omega) (by omega)
  have hbound := (List.getElem?_eq_some_iff.1 hlast).1
  omega

lemma not_maximalRun_of_not_mem (hc : c ∉ text) : ¬ MaximalRun c text i j := by
  intro h
  exact hc (List.mem_of_getElem? (h.getElem?_eq i (Nat.le_refl i) h.lt))

/-! ## Runs of two parts -/

namespace MaximalRun

/-- A run that begins behind the cut is one of the second part. -/
theorem of_append_right (h : MaximalRun c (before ++ rest) i j) (hi : before.length ≤ i) :
    MaximalRun c rest (i - before.length) (j - before.length) := by
  have hlt := h.lt
  refine ⟨by omega, fun k hik hkj => ?_, fun k hk => ?_, ?_⟩
  · have hat := h.getElem?_eq (k + before.length) (by omega) (by omega)
    rwa [List.getElem?_append_right (by omega), Nat.add_sub_cancel] at hat
  · have hat := h.ne_before (k + before.length) (by omega)
    rwa [List.getElem?_append_right (by omega), Nat.add_sub_cancel] at hat
  · have hat := h.ne_behind
    rwa [List.getElem?_append_right (by omega)] at hat

/-- A run that begins before the cut is one of the first part: if it did not end there, it would go
over the cut. -/
theorem of_append_left (hcut : before[before.length - 1]? ≠ some c ∨ rest[0]? ≠ some c)
    (h : MaximalRun c (before ++ rest) i j) (hi : i < before.length) :
    MaximalRun c before i j := by
  -- a run that begins in the first text does not go on into the second
  have hj : j ≤ before.length := by
    by_contra hj
    have hlast := h.getElem?_eq (before.length - 1) (by omega) (by omega)
    have hfirst := h.getElem?_eq before.length (by omega) (by omega)
    rw [List.getElem?_append_left (by omega)] at hlast
    rw [List.getElem?_append_right (Nat.le_refl _), Nat.sub_self] at hfirst
    rcases hcut with hcut | hcut
    · exact hcut hlast
    · exact hcut hfirst
  refine ⟨h.lt, fun k hik hkj => ?_, fun k hk => ?_, fun hat => ?_⟩
  · rw [← List.getElem?_append_left (by omega)]
    exact h.getElem?_eq k hik hkj
  · rw [← List.getElem?_append_left (by omega)]
    exact h.ne_before k hk
  · have hlt := (List.getElem?_eq_some_iff.1 hat).1
    rw [← List.getElem?_append_left hlt] at hat
    exact h.ne_behind hat

/-- A run of the first of two texts is one of both where the cut does not go through it. -/
theorem append_left (hcut : before[before.length - 1]? ≠ some c ∨ rest[0]? ≠ some c)
    (h : MaximalRun c before i j) : MaximalRun c (before ++ rest) i j := by
  have hlt := h.lt
  have hle := h.le_length
  refine ⟨hlt, fun k hik hkj => ?_, fun k hk => ?_, ?_⟩
  · rw [List.getElem?_append_left (by omega)]
    exact h.getElem?_eq k hik hkj
  · rw [List.getElem?_append_left (by omega)]
    exact h.ne_before k hk
  · by_cases hj : j < before.length
    · rw [List.getElem?_append_left hj]
      exact h.ne_behind
    · -- the run ends at the cut
      have hlast := h.getElem?_eq (before.length - 1) (by omega) (by omega)
      rw [List.getElem?_append_right (by omega), show j - before.length = 0 by omega]
      exact hcut.resolve_left fun hne => hne hlast

/-- A run of the second of two texts is one of both where the cut does not go through it. -/
lemma append_right (hcut : before[before.length - 1]? ≠ some c ∨ rest[0]? ≠ some c)
    (hi : before.length ≤ i) (h : MaximalRun c rest (i - before.length) (j - before.length)) :
    MaximalRun c (before ++ rest) i j := by
  have hlt := h.lt
  refine ⟨by omega, fun k hik hkj => ?_, fun k hk => ?_, ?_⟩
  · rw [List.getElem?_append_right (by omega)]
    exact h.getElem?_eq _ (by omega) (by omega)
  · by_cases hcase : before.length ≤ k
    · rw [List.getElem?_append_right hcase]
      exact h.ne_before _ (by omega)
    · -- the run begins at the cut
      have hfirst := h.getElem?_eq 0 (by omega) (by omega)
      rw [List.getElem?_append_left (by omega), show k = before.length - 1 by omega]
      exact hcut.resolve_right fun hne => hne hfirst
  · rw [List.getElem?_append_right (by omega)]
    exact h.ne_behind

end MaximalRun

/-- A run that does not go over the cut between two parts is a run of the one or of the other. -/
theorem maximalRun_append_iff (hcut : before[before.length - 1]? ≠ some c ∨ rest[0]? ≠ some c) :
    MaximalRun c (before ++ rest) i j ↔ MaximalRun c before i j ∨
      before.length ≤ i ∧ MaximalRun c rest (i - before.length) (j - before.length) := by
  constructor
  · intro h
    by_cases hi : before.length ≤ i
    · exact .inr ⟨hi, h.of_append_right hi⟩
    · exact .inl (h.of_append_left hcut (Nat.lt_of_not_le hi))
  · rintro (h | ⟨hi, h⟩)
    · exact h.append_left hcut
    · exact h.append_right hcut hi

/-- A text of one character has one run. -/
theorem maximalRun_replicate_iff :
    MaximalRun c (List.replicate k c) i j ↔ 0 < k ∧ i = 0 ∧ j = k := by
  have hat : ∀ m, m < k → (List.replicate k c)[m]? = some c := fun m hm => by
    rw [List.getElem?_replicate, if_pos hm]
  constructor
  · intro h
    have hlt := h.lt
    have hle := h.le_length
    rw [List.length_replicate] at hle
    -- the run cannot begin later or end earlier, for the same character stands there
    have hi : i = 0 := by
      by_contra hne
      exact h.ne_before (i - 1) (by omega) (hat _ (by omega))
    have hj : ¬ j < k := fun hj => h.ne_behind (hat j hj)
    omega
  · rintro ⟨hk, rfl, rfl⟩
    refine ⟨hk, fun m _ hm => hat m hm, fun m hm => absurd hm (Nat.succ_ne_zero m), ?_⟩
    rw [List.getElem?_replicate, if_neg (Nat.lt_irrefl j)]
    simp

/-- Where the first part has runs of even length only, the first odd run is that of the rest. -/
theorem firstOddRunEnd_append_iff
    (hcut : before[before.length - 1]? ≠ some c ∨ rest[0]? ≠ some c)
    (heven : ∀ i j, MaximalRun c before i j → ¬ Odd (j - i)) :
    FirstOddRunEnd c (before ++ rest) e ↔
      before.length ≤ e ∧ FirstOddRunEnd c rest (e - before.length) := by
  -- an odd run of the whole is one of the rest
  have hodd : ∀ i j, MaximalRun c (before ++ rest) i j ∧ Odd (j - i) ↔ before.length ≤ i ∧
      MaximalRun c rest (i - before.length) (j - before.length) ∧ Odd (j - i) := by
    intro i j
    rw [maximalRun_append_iff hcut]
    constructor
    · rintro ⟨h | ⟨hi, h⟩, hlength⟩
      · exact absurd hlength (heven i j h)
      · exact ⟨hi, h, hlength⟩
    · rintro ⟨hi, h, hlength⟩
      exact ⟨.inr ⟨hi, h⟩, hlength⟩
  constructor
  · rintro ⟨i, hrun, hlength, hfirst⟩
    obtain ⟨hi, hrun', -⟩ := (hodd i e).1 ⟨hrun, hlength⟩
    have hlt := hrun.lt
    refine ⟨by omega, i - before.length, hrun', ?_, fun i' j' hother hodd' => ?_⟩
    · rwa [show e - before.length - (i - before.length) = e - i by omega]
    · have hshift := (hodd (i' + before.length) (j' + before.length)).2
      rw [Nat.add_sub_cancel, Nat.add_sub_cancel, Nat.add_sub_add_right] at hshift
      obtain ⟨hrun'', hodd''⟩ := hshift ⟨by omega, hother, hodd'⟩
      have hle := hfirst _ _ hrun'' (by rwa [Nat.add_sub_add_right])
      omega
  · rintro ⟨he, i, hrun, hlength, hfirst⟩
    have hlt := hrun.lt
    have hshift := (hodd (i + before.length) e).2
    rw [Nat.add_sub_cancel, show e - (i + before.length) = e - before.length - i by omega] at hshift
    obtain ⟨hrun', -⟩ := hshift ⟨by omega, hrun, hlength⟩
    refine ⟨i + before.length, hrun', ?_, fun i' j' hother hodd' => ?_⟩
    · rwa [show e - (i + before.length) = e - before.length - i by omega]
    · obtain ⟨hi', hother', -⟩ := (hodd i' j').1 ⟨hother, hodd'⟩
      have hle := hfirst _ _ hother'
      rw [show j' - before.length - (i' - before.length) = j' - i' by omega] at hle
      have hle' := hle hodd'
      omega

/-- What does not hold the character does not count. -/
theorem firstOddRunEnd_append_iff_of_not_mem (hc : c ∉ before) :
    FirstOddRunEnd c (before ++ rest) e ↔
      before.length ≤ e ∧ FirstOddRunEnd c rest (e - before.length) :=
  firstOddRunEnd_append_iff (.inl fun hat => hc (List.mem_of_getElem? hat))
    fun _ _ h => absurd h (not_maximalRun_of_not_mem hc)

/-- A run at the beginning counts if it is of odd length. -/
theorem firstOddRunEnd_replicate_append_iff (hrest : rest[0]? ≠ some c) :
    FirstOddRunEnd c (List.replicate k c ++ rest) e ↔
      if Odd k then e = k else k ≤ e ∧ FirstOddRunEnd c rest (e - k) := by
  by_cases hk : Odd k
  · rw [if_pos hk]
    have hrun : MaximalRun c (List.replicate k c ++ rest) 0 k :=
      (maximalRun_append_iff (.inr hrest)).2 (.inl (maximalRun_replicate_iff.2 ⟨hk.pos, rfl, rfl⟩))
    constructor
    · rintro ⟨i, hfound, -, hfirst⟩
      -- no run begins before the first, and the one that begins with it ends where it does
      have hi : i = 0 := Nat.le_zero.1 (hfirst 0 k hrun hk)
      subst hi
      have hlt := hfound.lt
      rcases lt_trichotomy e k with hek | rfl | hke
      · exact absurd (hrun.getElem?_eq e (Nat.zero_le e) hek) hfound.ne_behind
      · rfl
      · exact absurd (hfound.getElem?_eq k (Nat.zero_le k) hke) hrun.ne_behind
    · rintro rfl
      exact ⟨0, hrun, hk, fun i' _ _ _ => Nat.zero_le i'⟩
  · rw [if_neg hk]
    have heven : ∀ i j, MaximalRun c (List.replicate k c) i j → ¬ Odd (j - i) := by
      intro i j h
      obtain ⟨-, rfl, rfl⟩ := maximalRun_replicate_iff.1 h
      exact hk
    rw [firstOddRunEnd_append_iff (.inr hrest) heven, List.length_replicate]

/-- Each text begins with a run of a character, which may be empty. -/
theorem exists_eq_replicate_append (c : Char) (text : List Char) :
    ∃ k rest, text = List.replicate k c ++ rest ∧ rest[0]? ≠ some c := by
  induction text with
  | nil => exact ⟨0, [], rfl, by simp⟩
  | cons d text ih =>
    by_cases hd : d = c
    · obtain ⟨k, rest, rfl, hrest⟩ := ih
      exact ⟨k + 1, rest, by rw [hd, List.replicate_succ, List.cons_append], hrest⟩
    · exact ⟨0, d :: text, rfl, by simpa using hd⟩

/-- Two more characters in front of a text change no parity. -/
theorem firstOddRunEnd_cons_cons_iff :
    FirstOddRunEnd c (c :: c :: text) e ↔ 2 ≤ e ∧ FirstOddRunEnd c text (e - 2) := by
  obtain ⟨k, rest, rfl, hrest⟩ := exists_eq_replicate_append c text
  have hcons : c :: c :: (List.replicate k c ++ rest) = List.replicate (k + 2) c ++ rest := by
    rw [List.replicate_succ, List.replicate_succ, List.cons_append, List.cons_append]
  rw [hcons, firstOddRunEnd_replicate_append_iff hrest, firstOddRunEnd_replicate_append_iff hrest]
  have hparity : Odd (k + 2) ↔ Odd k := by
    rw [Nat.odd_add]
    simp
  by_cases hk : Odd k
  · rw [if_pos hk, if_pos (hparity.2 hk)]
    have hpos := hk.pos
    omega
  · rw [if_neg hk, if_neg (mt hparity.1 hk), Nat.sub_sub, Nat.add_comm 2 k]
    constructor
    · rintro ⟨hle, h⟩
      exact ⟨by omega, by omega, h⟩
    · rintro ⟨hle, hle', h⟩
      exact ⟨by omega, h⟩

/-- Where there is a run of odd length, there is a first one. -/
theorem exists_firstOddRunEnd_iff :
    (∃ e, FirstOddRunEnd c text e) ↔ ∃ i j, MaximalRun c text i j ∧ Odd (j - i) := by
  constructor
  · rintro ⟨e, i, hrun, hodd, -⟩
    exact ⟨i, e, hrun, hodd⟩
  · intro h
    classical
    obtain ⟨j, hrun, hodd⟩ := Nat.find_spec h
    exact ⟨j, Nat.find h, hrun, hodd, fun i' j' hrun' hodd' => Nat.find_min' h ⟨j', hrun', hodd'⟩⟩

/-! ## The run before a place -/

/-- The number of times that a character stands directly before a place, one next to the other. -/
def runBefore (c : Char) (text : List Char) (place : Nat) : Nat :=
  ((text.take place).reverse.takeWhile (· == c)).length

lemma runBefore_zero (c : Char) (text : List Char) : runBefore c text 0 = 0 := by
  rw [runBefore, List.take_zero]
  rfl

lemma runBefore_le (c : Char) (text : List Char) (place : Nat) :
    runBefore c text place ≤ place := by
  have hrun := (List.takeWhile_prefix (· == c) (l := (text.take place).reverse)).length_le
  rw [List.length_reverse, List.length_take] at hrun
  exact Nat.le_trans hrun (Nat.min_le_left _ _)

/-- A run that reaches back to the beginning of a text goes on in what stands before it. -/
theorem runBefore_cons {place : Nat} (d : Char) (h : place ≤ text.length) :
    runBefore c (d :: text) (place + 1) =
      if runBefore c text place = place ∧ d = c then place + 1 else runBefore c text place := by
  have hlength : (text.take place).reverse.length = place := by
    rw [List.length_reverse, List.length_take, Nat.min_eq_left h]
  unfold runBefore
  rw [List.take_succ_cons, List.reverse_cons, List.takeWhile_append, hlength]
  by_cases hall : ((text.take place).reverse.takeWhile (· == c)).length = place
  · rw [if_pos hall, List.length_append, hlength]
    by_cases hd : d = c
    · rw [if_pos ⟨hall, hd⟩, List.takeWhile_cons_of_pos (by simpa using hd)]
      rfl
    · rw [if_neg (fun h => hd h.2), List.takeWhile_cons_of_neg (by simpa using hd), hall]
      rfl
  · rw [if_neg hall, if_neg fun h => hall h.1]

/-- A run does not go on in what ends with another character. -/
theorem runBefore_append (hlast : before.getLast? ≠ some c) (text : List Char) (place : Nat) :
    runBefore c (before ++ text) (before.length + place) = runBefore c text place := by
  have hstop : before.reverse.takeWhile (· == c) = [] := by
    cases hreverse : before.reverse with
    | nil => rfl
    | cons d others =>
      have hd : d ≠ c := by
        rintro rfl
        rw [← List.head?_reverse, hreverse] at hlast
        exact hlast rfl
      exact List.takeWhile_cons_of_neg (by simpa using hd)
  unfold runBefore
  rw [List.take_length_add_append, List.reverse_append, List.takeWhile_append, hstop,
    List.append_nil]
  split
  · rename_i hall
    rw [(List.takeWhile_prefix _).eq_of_length hall]
  · rfl

/-- What stands before a pair does not count, and neither does its parity if the pair begins with
the character. -/
theorem even_runBefore_cons_cons {place : Nat} (d : Char) (h : place ≤ text.length) :
    Even (runBefore c (c :: d :: text) (place + 2)) ↔ Even (runBefore c text place) := by
  have hle := runBefore_le c text place
  have hnext : place + 1 ≤ (d :: text).length := Nat.succ_le_succ h
  rw [runBefore_cons c hnext, runBefore_cons d h]
  by_cases hall : runBefore c text place = place ∧ d = c
  · rw [if_pos hall, if_pos ⟨rfl, rfl⟩, hall.1, Nat.even_add_one, Nat.even_add_one, not_not]
  · rw [if_neg hall, if_neg (by omega)]

end Highlight.Text
