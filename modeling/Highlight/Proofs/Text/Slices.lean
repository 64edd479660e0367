import Highlight.Glyph
import Highlight.Rule
import Mathlib.Tactic.Lemma

/-!
# Slices

A text is sliced by bytes and a line by glyphs. Both are taken here as they are where a bound that
is not met ends the program: there is no slice of a text at a byte that lies inside a character, and
none of a line behind its end. Where the first characters of a text have `n` bytes in UTF-8, the
text is sliced at `n` between these characters and the others (`from?_utf8Length`,
`upTo?_utf8Length`).
-/

namespace Highlight

variable {line : Line} {category : Category} {start count : Nat}

lemma utf8ByteSize_ofList (text : List Char) :
    (String.ofList text).utf8ByteSize = utf8Length text := by
  induction text with
  | nil => rfl
  | cons c rest ih =>
    rw [String.ofList_cons, String.utf8ByteSize_append, String.utf8ByteSize_singleton, ih]
    rfl

lemma utf8Length_append (before rest : List Char) :
    utf8Length (before ++ rest) = utf8Length before + utf8Length rest := by
  rw [← utf8ByteSize_ofList, String.ofList_append, String.utf8ByteSize_append, utf8ByteSize_ofList,
    utf8ByteSize_ofList]

namespace Text

/-- The text from a byte on, unless that is inside a character or behind the end. -/
def from? (text : String) (byte : Nat) : Option String :=
  if h : String.Pos.Raw.IsValid text ⟨byte⟩ then some (text.sliceFrom (text.pos ⟨byte⟩ h)).copy
  else none

/-- The text before a byte, unless that is inside a character or behind the end. -/
def upTo? (text : String) (byte : Nat) : Option String :=
  if h : String.Pos.Raw.IsValid text ⟨byte⟩ then some (text.sliceTo (text.pos ⟨byte⟩ h)).copy
  else none

/-- The bytes of the first characters lead to the place behind them. -/
theorem exists_splits (text : List Char) (n : Nat) :
    ∃ h : String.Pos.Raw.IsValid (String.ofList text) ⟨utf8Length (text.take n)⟩,
      (String.pos _ _ h).Splits (String.ofList (text.take n)) (String.ofList (text.drop n)) := by
  have happend : String.ofList text =
      String.ofList (text.take n) ++ String.ofList (text.drop n) := by
    rw [← String.ofList_append, List.take_append_drop]
  have hend : (⟨utf8Length (text.take n)⟩ : String.Pos.Raw) =
      (String.ofList (text.take n)).rawEndPos := by
    rw [← utf8ByteSize_ofList]
    rfl
  exact ⟨String.Pos.Raw.isValid_iff_exists_append.2 ⟨_, _, happend, hend⟩, happend, hend⟩

/-- Behind the bytes of its first characters a text has the others. -/
theorem from?_utf8Length (text : List Char) (n : Nat) :
    from? (String.ofList text) (utf8Length (text.take n)) = some (String.ofList (text.drop n)) := by
  obtain ⟨hvalid, hsplits⟩ := exists_splits text n
  rw [from?, dif_pos hvalid, (String.Pos.splits _).eq_right hsplits]

/-- Up to the bytes of its first characters a text has these. -/
theorem upTo?_utf8Length (text : List Char) (n : Nat) :
    upTo? (String.ofList text) (utf8Length (text.take n)) = some (String.ofList (text.take n)) := by
  obtain ⟨hvalid, hsplits⟩ := exists_splits text n
  rw [upTo?, dif_pos hvalid, (String.Pos.splits _).eq_left hsplits]

-- the first character has two bytes
example : from? "äb" 1 = none ∧ from? "äb" 2 = some "b" := by decide +kernel

/-- A boundary of characters that is not at the beginning stands behind one of the characters. -/
theorem exists_take_of_isValid {text : List Char} {byte : Nat} (hpos : 0 < byte)
    (hvalid : String.Pos.Raw.IsValid (String.ofList text) ⟨byte⟩) :
    ∃ n, 0 < n ∧ n ≤ text.length ∧ byte = utf8Length (text.take n) := by
  obtain ⟨k, hk⟩ := String.Pos.Raw.isValid_ofList.1 hvalid
  rw [utf8ByteSize_ofList] at hk
  obtain rfl : byte = utf8Length (text.take k) := hk
  have hne : text.take k ≠ [] := by
    intro hnil
    rw [hnil] at hpos
    exact absurd hpos (Nat.lt_irrefl 0)
  have hlength := List.length_pos_iff.2 hne
  refine ⟨(text.take k).length, hlength, List.length_take_le' _ _, ?_⟩
  rw [List.length_take, ← List.take_eq_take_min]

end Text

namespace Line

/-- The glyphs from `start` up to `stop`, if these are in order and within the line. -/
def slice? (line : Line) (start stop : Nat) : Option Line :=
  if start ≤ stop ∧ stop ≤ line.length then some ((line.drop start).take (stop - start)) else none

/-- The line with the glyphs from `start` up to `stop` in one category. -/
def paintSlice? (category : Category) (line : Line) (start stop : Nat) : Option Line :=
  (slice? line start stop).map fun glyphs =>
    line.take start ++ fill category glyphs ++ line.drop stop

/-- The line with `count` glyphs from `start` on in one category, where it has so many. -/
def repaint (category : Category) (line : Line) (start count : Nat) : Line :=
  line.take start ++ fill category ((line.drop start).take count) ++ line.drop (start + count)

/-- Repainting from the beginning fills the first glyphs and keeps the others. -/
lemma repaint_zero (category : Category) (line : Line) (count : Nat) :
    repaint category line 0 count = fill category (line.take count) ++ line.drop count := by
  rw [repaint, List.take_zero, List.nil_append, List.drop_zero, Nat.zero_add]

lemma slice?_add (h : start + count ≤ line.length) :
    slice? line start (start + count) = some ((line.drop start).take count) := by
  rw [slice?, if_pos ⟨Nat.le_add_right _ _, h⟩, Nat.add_sub_cancel_left]

/-- A slice within the line can be painted. -/
theorem paintSlice?_add (h : start + count ≤ line.length) :
    paintSlice? category line start (start + count) = some (repaint category line start count) := by
  rw [paintSlice?, slice?_add h, Option.map_some]
  rfl

/-- The glyphs at the beginning of a line. -/
theorem slice?_zero (h : count ≤ line.length) : slice? line 0 count = some (line.take count) := by
  have hslice := slice?_add (show 0 + count ≤ line.length by omega)
  rwa [Nat.zero_add] at hslice

/-- The line with its first glyphs painted. -/
theorem paintSlice?_zero (h : count ≤ line.length) :
    paintSlice? category line 0 count = some (repaint category line 0 count) := by
  have hpaint : paintSlice? category line 0 (0 + count) = _ :=
    paintSlice?_add (show 0 + count ≤ line.length by omega)
  rwa [Nat.zero_add] at hpaint

/-- A line can be painted from a place to its end. -/
theorem paintSlice?_length (h : start ≤ line.length) :
    paintSlice? category line start line.length =
      some (line.take start ++ fill category (line.drop start)) := by
  rw [paintSlice?, slice?, if_pos ⟨h, Nat.le_refl _⟩, Option.map_some, List.drop_length,
    List.append_nil, ← List.length_drop, List.take_length]

lemma text_slice (line : Line) (start count : Nat) :
    Line.text ((line.drop start).take count) = ((Line.text line).drop start).take count := by
  rw [Line.text, Line.text, List.map_take, List.map_drop]

@[simp] lemma text_repaint (category : Category) (line : Line) (start count : Nat) :
    Line.text (repaint category line start count) = Line.text line := by
  rw [repaint, text_append, text_append, text_fill, ← text_append, ← text_append,
    List.append_assoc, ← List.drop_drop, List.take_append_drop, List.take_append_drop]

@[simp] lemma length_repaint (category : Category) (line : Line) (start count : Nat) :
    (repaint category line start count).length = line.length := by
  rw [← length_text, text_repaint, length_text]

/-- The glyphs up to the end of those that are painted. -/
theorem take_repaint (category : Category) (h : start + count ≤ line.length) :
    (repaint category line start count).take (start + count) =
      line.take start ++ fill category ((line.drop start).take count) := by
  refine List.take_left' ?_
  rw [List.length_append, fill, List.length_map, List.length_take, List.length_take,
    List.length_drop]
  omega

/-- The glyphs behind those that are painted. -/
theorem drop_repaint (category : Category) (h : start + count ≤ line.length) :
    (repaint category line start count).drop (start + count) = line.drop (start + count) := by
  refine List.drop_left' ?_
  rw [List.length_append, fill, List.length_map, List.length_take, List.length_take,
    List.length_drop]
  omega

/-- Glyphs that are painted in the rest of a line are painted in the line. -/
theorem take_append_repaint_drop (category : Category) (line : Line) (start count : Nat) :
    line.take start ++ repaint category (line.drop start) 0 count =
      repaint category line start count := by
  rw [repaint_zero, repaint, List.drop_drop, List.append_assoc]

end Line

end Highlight
