import Highlight.Text.Lines
import Mathlib.Data.List.DropRight
import Mathlib.Data.List.TakeDrop

/-!
# Lines, trimmed texts and texts split at a mark

The lines of a text, what trimming leaves of it, and where it is split, said without the way it is
done.
-/

namespace Highlight.Text

open Highlight.Unicode

/-! ## Lines -/

/-- Whether a text is cut into lines. A line ends with a line feed, to which a carriage return in
front of it belongs, or with the text if something comes behind the last line feed. -/
inductive CutInto : List Char → List (List Char) → Prop
  /-- There are no lines where there is no text. -/
  | nil : CutInto [] []
  /-- What no line feed ends is a line with all its characters. -/
  | last {line : List Char} (hne : line ≠ []) (hfeed : '\n' ∉ line) : CutInto line [line]
  /-- A line in front of a line feed. -/
  | feed {line rest : List Char} {others : List (List Char)} (hfeed : '\n' ∉ line)
    (hreturn : line.getLast? ≠ some '\r') (hrest : CutInto rest others) :
    CutInto (line ++ '\n' :: rest) (line :: others)
  /-- A line in front of a carriage return and a line feed. -/
  | returnFeed {line rest : List Char} {others : List (List Char)} (hfeed : '\n' ∉ line)
    (hrest : CutInto rest others) : CutInto (line ++ '\r' :: '\n' :: rest) (line :: others)

/-- Characters that are no line feeds are added to the line that is being read. -/
theorem linesFrom_append {line : List Char} (hfeed : '\n' ∉ line) (current rest : List Char) :
    linesFrom current (line ++ rest) = linesFrom (line.reverse ++ current) rest := by
  induction line generalizing current with
  | nil => rfl
  | cons c line ih =>
    obtain ⟨hc, hline⟩ := not_or.1 (mt List.mem_cons.2 hfeed)
    show (if c = '\n' then _ else linesFrom (c :: current) (line ++ rest)) = _
    rw [if_neg fun heq => hc heq.symm, ih hline, List.reverse_cons, List.append_assoc,
      List.singleton_append]

/-- A line feed ends a line that does not end with a carriage return. -/
theorem linesFrom_feed {current : List Char} (hreturn : current.head? ≠ some '\r')
    (rest : List Char) :
    linesFrom current ('\n' :: rest) = current.reverse :: linesFrom [] rest := by
  rw [linesFrom, if_pos rfl]
  rintro line rfl
  exact hreturn rfl

/-- Every text is cut into lines in some way. -/
theorem exists_cutInto (text : List Char) : ∃ others, CutInto text others := by
  -- the induction is on the length, since a line is taken off as a whole
  induction hlength : text.length using Nat.strongRecOn generalizing text with
  | ind length ih =>
    by_cases hmem : '\n' ∈ text
    case neg =>
      by_cases hne : text = []
      · exact ⟨[], hne ▸ .nil⟩
      · exact ⟨[text], .last hne hmem⟩
    case pos =>
      obtain ⟨line, rest, rfl, hfeed⟩ := List.eq_append_cons_of_mem hmem
      rw [List.length_append, List.length_cons] at hlength
      obtain ⟨others, hrest⟩ := ih rest.length (by omega) rest rfl
      by_cases hreturn : line.getLast? = some '\r'
      · obtain ⟨front, rfl⟩ := List.getLast?_eq_some_iff.1 hreturn
        rw [List.append_assoc, List.singleton_append]
        exact ⟨front :: others, .returnFeed (fun h => hfeed (List.mem_append_left _ h)) hrest⟩
      · exact ⟨line :: others, .feed hfeed hreturn hrest⟩

/-- The lines of a text are those that it is cut into, in the one way there is. -/
theorem lines_eq_iff (text : List Char) (others : List (List Char)) :
    lines text = others ↔ CutInto text others := by
  have hlines : ∀ others, CutInto text others → lines text = others := by
    intro others hcut
    induction hcut with
    | nil => rfl
    | @last line hne hfeed =>
      have happend := linesFrom_append hfeed [] []
      rw [List.append_nil, List.append_nil] at happend
      rw [lines, happend, linesFrom, if_neg (by simpa using hne), List.reverse_reverse]
    | @feed line rest others hfeed hreturn _ ih =>
      rw [lines, linesFrom_append hfeed, List.append_nil,
        linesFrom_feed (by rwa [List.head?_reverse]), List.reverse_reverse]
      exact congrArg (line :: ·) ih
    | @returnFeed line rest others hfeed _ ih =>
      rw [lines, linesFrom_append hfeed, List.append_nil]
      show line.reverse.reverse :: linesFrom [] rest = _
      rw [List.reverse_reverse]
      exact congrArg (line :: ·) ih
  constructor
  · rintro rfl
    obtain ⟨others, hcut⟩ := exists_cutInto text
    rwa [hlines others hcut]
  · exact hlines others

/-! ## Blanks at the ends, and a mark -/

/-- Nothing is left of a text exactly if all of it is blank. -/
theorem trim_eq_nil_iff (text : List Char) : trim text = [] ↔ ∀ c ∈ text, isBlank c = true := by
  show (text.dropWhile isBlank).rdropWhile isBlank = [] ↔ _
  rw [List.rdropWhile_eq_nil_iff]
  constructor
  · intro h
    rw [← List.dropWhile_eq_nil_iff]
    by_contra hne
    -- what is left behind the leading blanks would begin with a character that is not blank
    exact Bool.false_ne_true
      ((List.head_dropWhile_not isBlank hne).symm.trans (h _ (List.head_mem hne)))
  · intro h c hmem
    exact h c ((List.dropWhile_suffix isBlank).subset hmem)

/-- A text is split at the first place where the mark stands. -/
theorem splitOnce_eq_some_iff {mark : Char} {text before after : List Char} :
    splitOnce mark text = some (before, after) ↔
      text = before ++ mark :: after ∧ mark ∉ before := by
  rw [splitOnce, List.span_eq_takeWhile_dropWhile]
  constructor
  · intro h
    cases hafter : text.dropWhile (· != mark) with
    | nil =>
      rw [hafter] at h
      cases h
    | cons c rest =>
      rw [hafter] at h
      cases h
      -- what is left of the text begins with the mark
      have hne : text.dropWhile (· != mark) ≠ [] := by
        rw [hafter]
        exact List.cons_ne_nil c after
      have hmark := List.head_dropWhile_not (· != mark) hne
      simp only [hafter, List.head_cons, bne_eq_false_iff_eq] at hmark
      rw [← hmark, ← hafter, hmark, List.takeWhile_append_dropWhile]
      refine ⟨rfl, fun hmem => ?_⟩
      have hself := List.mem_takeWhile_imp hmem
      rw [bne_self_eq_false] at hself
      cases hself
  · rintro ⟨rfl, hmem⟩
    have hbefore : ∀ c ∈ before, (c != mark) = true := by
      intro c hc
      exact bne_iff_ne.2 fun heq => hmem (heq ▸ hc)
    rw [List.takeWhile_append_of_pos hbefore, List.dropWhile_append_of_pos hbefore,
      List.takeWhile_cons_of_neg (by simp), List.dropWhile_cons_of_neg (by simp), List.append_nil]

end Highlight.Text
