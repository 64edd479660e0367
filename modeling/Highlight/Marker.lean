/-!
# Markers

Finding the marks that begin and end comments. An empty mark is found nowhere.
-/

namespace Highlight.Marker

/-- Whether a text begins with the mark. -/
def startsWith (mark text : List Char) : Bool :=
  !mark.isEmpty && mark.isPrefixOf text

/-- The number of characters before the first place where the mark stands. -/
def find? (mark : List Char) : List Char → Option Nat
  | [] => none
  | c :: rest =>
    if startsWith mark (c :: rest) then some 0 else (find? mark rest).map (· + 1)

/-- The number of characters up to the end of the first place where the mark stands. -/
def endOf? (mark text : List Char) : Option Nat :=
  (find? mark text).map (· + mark.length)

/-- A mark that is found ends within the text. -/
theorem endOf?_le {mark text : List Char} {n : Nat} (h : endOf? mark text = some n) :
    n ≤ text.length := by
  induction text generalizing n with
  | nil => simp [endOf?, find?] at h
  | cons c rest ih =>
    unfold endOf? find? at h
    split at h
    case isTrue hs =>
      have hp : mark <+: c :: rest :=
        List.isPrefixOf_iff_prefix.1 (Bool.and_eq_true_iff.1 hs).2
      simp only [Option.map_some, Option.some.injEq] at h
      have := hp.length_le
      omega
    case isFalse =>
      rw [Option.map_map] at h
      obtain ⟨k, hk, rfl⟩ := Option.map_eq_some_iff.1 h
      have := ih (n := k + mark.length) (by simp [endOf?, hk])
      simp only [Function.comp_apply, List.length_cons]
      omega

/-- A mark that is found has a character, so its end lies behind the beginning. -/
theorem endOf?_pos {mark text : List Char} {n : Nat} (h : endOf? mark text = some n) : 0 < n := by
  cases mark with
  | nil =>
    have : ∀ text, find? [] text = none := by
      intro text
      induction text with
      | nil => rfl
      | cons c rest ih => simp [find?, startsWith, ih]
    simp [endOf?, this] at h
  | cons m mark =>
    obtain ⟨k, _, rfl⟩ := Option.map_eq_some_iff.1 h
    exact Nat.add_pos_right k (Nat.succ_pos _)

end Highlight.Marker
