import Highlight.Marker

/-!
# The first place of a mark

`find?` gives the least place where a mark stands (`find?_eq_some_iff`), and it gives none exactly
where the mark stands nowhere. What holds no character that the mark begins with can be left out in
front (`firstAt_append_iff`), and so can what lies before the place from which a search begins
(`findFrom?_eq`).
-/

namespace Highlight.Marker

variable {mark before text : List Char} {m c : Char} {place e : Nat}

/-- Whether a mark stands at a place of a text and at none before it. -/
def FirstAt (mark text : List Char) (place : Nat) : Prop :=
  mark <+: text.drop place ∧ ∀ q < place, ¬ mark <+: text.drop q

/-- A mark that is not empty is asked for as a prefix. -/
theorem startsWith_iff (hne : mark ≠ []) : startsWith mark text = true ↔ mark <+: text := by
  cases mark with
  | nil => exact absurd rfl hne
  | cons m mark =>
    rw [startsWith, Bool.and_eq_true, List.isPrefixOf_iff_prefix]
    exact and_iff_right rfl

/-- The first match is at the beginning if the text begins with the mark. -/
theorem firstAt_zero_iff : FirstAt mark text 0 ↔ mark <+: text := by
  rw [FirstAt, List.drop_zero]
  exact and_iff_left fun q hq => absurd hq (Nat.not_lt_zero q)

/-- Behind a character at which the mark does not stand, its first place is that in the rest. -/
theorem firstAt_cons_iff (h : ¬ mark <+: c :: text) :
    FirstAt mark (c :: text) place ↔ 1 ≤ place ∧ FirstAt mark text (place - 1) := by
  constructor
  · rintro ⟨hstands, hfirst⟩
    cases place with
    | zero => exact absurd hstands h
    | succ place =>
      refine ⟨Nat.succ_pos place, hstands, fun q hq => ?_⟩
      have hlater := hfirst (q + 1) (Nat.succ_lt_succ hq)
      rwa [List.drop_succ_cons] at hlater
  · rintro ⟨hpos, hstands, hfirst⟩
    obtain ⟨k, rfl⟩ : ∃ k, place = k + 1 := ⟨place - 1, by omega⟩
    rw [Nat.add_sub_cancel] at hstands hfirst
    refine ⟨hstands, fun q hq => ?_⟩
    cases q with
    | zero => exact h
    | succ q =>
      rw [List.drop_succ_cons]
      exact hfirst q (by omega)

/-- A search finds the first place of a mark that is not empty. -/
theorem find?_eq_some_iff (hne : mark ≠ []) (text : List Char) (place : Nat) :
    find? mark text = some place ↔ FirstAt mark text place := by
  induction text generalizing place with
  | nil =>
    constructor
    · intro h
      cases h
    · rintro ⟨hstands, -⟩
      rw [List.drop_nil, List.prefix_nil] at hstands
      exact absurd hstands hne
  | cons c text ih =>
    rw [find?]
    by_cases h : startsWith mark (c :: text) = true
    · -- nothing comes before the first place
      have hzero : FirstAt mark (c :: text) 0 := firstAt_zero_iff.2 ((startsWith_iff hne).1 h)
      rw [if_pos h, Option.some_inj]
      constructor
      · rintro rfl
        exact hzero
      · rintro ⟨-, hfirst⟩
        cases place with
        | zero => rfl
        | succ place => exact absurd hzero.1 (hfirst 0 (Nat.succ_pos place))
    · rw [if_neg h, Option.map_eq_some_iff, firstAt_cons_iff (mt (startsWith_iff hne).2 h), ← ih]
      constructor
      · rintro ⟨k, hk, rfl⟩
        exact ⟨Nat.succ_pos k, hk⟩
      · rintro ⟨hpos, hk⟩
        exact ⟨place - 1, hk, by omega⟩

/-- What a search finds ends behind the first place of the mark. -/
theorem endOf?_eq_some_iff (hne : mark ≠ []) (text : List Char) (e : Nat) :
    endOf? mark text = some e ↔ mark.length ≤ e ∧ FirstAt mark text (e - mark.length) := by
  rw [endOf?, Option.map_eq_some_iff]
  constructor
  · rintro ⟨place, hfind, rfl⟩
    refine ⟨Nat.le_add_left _ _, ?_⟩
    rw [Nat.add_sub_cancel]
    exact (find?_eq_some_iff hne text place).1 hfind
  · rintro ⟨hle, hfirst⟩
    exact ⟨_, (find?_eq_some_iff hne text _).2 hfirst, Nat.sub_add_cancel hle⟩

/-- What does not hold the first character of a mark can be left out in front. -/
theorem firstAt_append_iff (hm : m ∉ before) :
    FirstAt (m :: mark) (before ++ text) place ↔
      before.length ≤ place ∧ FirstAt (m :: mark) text (place - before.length) := by
  induction before generalizing place with
  | nil => simp
  | cons c before ih =>
    have hc : ¬ m :: mark <+: c :: (before ++ text) := by
      intro hprefix
      obtain ⟨rfl, -⟩ := List.cons_prefix_cons.1 hprefix
      exact hm List.mem_cons_self
    rw [List.cons_append, firstAt_cons_iff hc, ih fun hmem => hm (List.mem_cons_of_mem c hmem),
      List.length_cons, Nat.sub_sub, Nat.add_comm 1]
    constructor
    · rintro ⟨hpos, hle, hfirst⟩
      exact ⟨by omega, hfirst⟩
    · rintro ⟨hle, hfirst⟩
      exact ⟨by omega, by omega, hfirst⟩

/-! ## Looking from a place on -/

/-- The first place of a text, from `start` on, at which the mark stands. -/
def findFrom? (mark text : List Char) (start : Nat) : Option Nat :=
  (List.range' start (text.length - start)).find? fun place => startsWith mark (text.drop place)

/-- To look from a place on is to look through what stands behind it. -/
theorem findFrom?_eq (mark text : List Char) (start : Nat) :
    findFrom? mark text start = (find? mark (text.drop start)).map (start + ·) := by
  generalize hrest : text.drop start = rest
  induction rest generalizing start with
  | nil =>
    have hlength := List.drop_eq_nil_iff.1 hrest
    rw [findFrom?, Nat.sub_eq_zero_of_le hlength]
    rfl
  | cons c rest ih =>
    have hlt : start < text.length := by
      refine Nat.lt_of_not_le fun hle => ?_
      rw [List.drop_eq_nil_of_le hle] at hrest
      cases hrest
    -- one place further on the loop goes over the rest
    have hnext : text.drop (start + 1) = rest := by
      rw [← List.drop_drop, hrest]
      rfl
    have hfrom := ih (start + 1) hnext
    rw [findFrom?] at hfrom
    rw [findFrom?, show text.length - start = text.length - (start + 1) + 1 by omega,
      List.range'_succ, List.find?_cons, hrest, find?]
    cases hstands : startsWith mark (c :: rest) with
    | true => rfl
    | false =>
      simp only [hfrom, Option.map_map, Bool.false_eq_true, if_false]
      refine congrArg (Option.map · (find? mark rest)) (funext fun place => ?_)
      show start + 1 + place = start + (place + 1)
      omega

end Highlight.Marker
