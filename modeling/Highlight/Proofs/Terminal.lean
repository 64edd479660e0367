import Highlight.Proofs.Runs
import Highlight.Terminal
import Mathlib.Tactic.Lemma

/-!
# The text of a line on a terminal

A line is written as its characters are, but for tabs and for the escapes of its runs. `Expands` is
what is meant by expanding tabs, and `expands_expandFrom` says that it is done. The column is
carried on from run to run, so each run is written as it stands in the whole line
(`writeRuns_of_tiles`), and where one ends and the next begins does not show in the text
(`append_flatten_written`).
-/

namespace Highlight

namespace Terminal

/-- Whether `written` is a text with its tabs expanded, `column` columns behind the beginning of the
line: a tab becomes at least one blank, and ends at the next multiple of `width`. -/
inductive Expands (width : Nat) : (column : Nat) → (text written : List Char) → Prop where
  | nil {column : Nat} : Expands width column [] []
  | char {column : Nat} {c : Char} {text written : List Char} (hchar : c ≠ '\t')
    (rest : Expands width (column + 1) text written) :
    Expands width column (c :: text) (c :: written)
  | tab {column n : Nat} {text written : List Char} (hpos : 0 < n) (hle : n ≤ width)
    (hstop : width ∣ column + n) (rest : Expands width (column + n) text written) :
    Expands width column ('\t' :: text) (List.replicate n ' ' ++ written)

namespace Expands

variable {width column : Nat} {text written : List Char}

/-- Apart from blanks and tabs all characters are written, in their order, and no others. -/
theorem filter_eq (h : Expands width column text written) :
    written.filter (fun c => c ≠ ' ') = text.filter (fun c => c ≠ ' ' ∧ c ≠ '\t') := by
  induction h with
  | nil => rfl
  | char hchar rest ih =>
    rw [List.filter_cons, List.filter_cons, ih]
    simp only [hchar, ne_eq, not_false_eq_true, and_true]
  | @tab column n text written hpos hle hstop rest ih =>
    have hblanks : (List.replicate n ' ').filter (fun c => c ≠ ' ') = [] := by
      rw [List.filter_eq_nil_iff]
      intro c hmem
      rw [List.eq_of_mem_replicate hmem]
      decide
    rw [List.filter_append, hblanks, List.nil_append, ih, List.filter_cons_of_neg (by decide)]

/-- A text without tabs is written as it is. -/
theorem eq_of_not_mem (h : Expands width column text written) (htab : '\t' ∉ text) :
    written = text := by
  induction h with
  | nil => rfl
  | char hchar rest ih =>
    rw [ih fun hmem => htab (List.mem_cons_of_mem _ hmem)]
  | tab hpos hle hstop rest ih => exact absurd List.mem_cons_self htab

/-- Nothing but characters of the text and blanks is written. -/
theorem mem_or_eq_of_mem (h : Expands width column text written) {c : Char} (hc : c ∈ written) :
    c ∈ text ∨ c = ' ' := by
  induction h with
  | nil => exact absurd hc List.not_mem_nil
  | char hchar rest ih =>
    rcases List.mem_cons.1 hc with rfl | hc
    · exact .inl List.mem_cons_self
    · exact (ih hc).imp_left (List.mem_cons_of_mem _)
  | tab hpos hle hstop rest ih =>
    rcases List.mem_append.1 hc with hc | hc
    · exact .inr (List.eq_of_mem_replicate hc)
    · exact (ih hc).imp_left (List.mem_cons_of_mem _)

end Expands

variable (terminal : Terminal)

lemma width_pos : 0 < terminal.width :=
  Nat.le_max_right _ _

/-- The blanks for a tab reach from the column to the multiple of the width behind it. -/
theorem width_dvd_add (column : Nat) :
    terminal.width ∣ column + (terminal.width - column % terminal.width) := by
  have hcolumn := Nat.mod_lt column terminal.width_pos
  have hdiv := Nat.div_add_mod column terminal.width
  refine ⟨column / terminal.width + 1, ?_⟩
  rw [Nat.mul_add, Nat.mul_one]
  omega

/-- What is written from a column on are the characters with their tabs expanded. -/
theorem expands_expandFrom (column : Nat) (text : List Char) :
    Expands terminal.width column text (terminal.expandFrom column text) := by
  induction text generalizing column with
  | nil => exact .nil
  | cons c text ih =>
    rw [expandFrom]
    by_cases htab : c = '\t'
    · subst htab
      have hcolumn := Nat.mod_lt column terminal.width_pos
      have hexpand : terminal.expand column '\t' =
          List.replicate (terminal.width - column % terminal.width) ' ' := rfl
      simp only [hexpand, List.length_replicate]
      exact .tab (by omega) (Nat.sub_le _ _) (terminal.width_dvd_add column) (ih _)
    · have hexpand : terminal.expand column c = [c] := if_neg htab
      rw [hexpand]
      exact .char htab (ih _)

example : (Terminal.mk false 4).expandFrom 0 ['a', '\t', 'b', '\t'] =
    ['a', ' ', ' ', ' ', 'b', ' ', ' ', ' '] := by decide

/-! ## Runs -/

variable {terminal}

/-- A text with each tab replaced by blanks: where `c` characters have been written, by
`width - c % width` of them. -/
def expandTabs (width : Nat) (text : List Char) : List Char :=
  text.foldl (fun written c =>
    written ++ if c = '\t' then List.replicate (width - written.length % width) ' ' else [c]) []

/-- What is written for the characters of a span when those in front of it have been written. -/
def written (width : Nat) (text : List Char) (span : Span) : List Char :=
  (expandTabs width (text.take span.stop)).drop (expandTabs width (text.take span.start)).length

/-- What is written for some characters is not changed by those that come behind. -/
theorem expandTabs_append (text others : List Char) :
    expandTabs terminal.width (text ++ others) = expandTabs terminal.width text ++
      terminal.expandFrom (expandTabs terminal.width text).length others := by
  induction others generalizing text with
  | nil => rw [List.append_nil, expandFrom, List.append_nil]
  | cons c others ih =>
    have hone : expandTabs terminal.width (text ++ [c]) = expandTabs terminal.width text ++
        terminal.expand (expandTabs terminal.width text).length c := by
      rw [expandTabs, List.foldl_append]
      rfl
    rw [List.append_cons, ih, hone, List.append_assoc, List.length_append, expandFrom]

lemma expandTabs_eq (text : List Char) :
    expandTabs terminal.width text = terminal.expandFrom 0 text :=
  expandTabs_append [] text

/-- Up to the end of a span is written what is written up to its beginning, then its characters from
there on. -/
theorem expandTabs_take_stop (text : List Char) {span : Span} (hle : span.start ≤ span.stop) :
    expandTabs terminal.width (text.take span.stop) =
      expandTabs terminal.width (text.take span.start) ++
        terminal.expandFrom (expandTabs terminal.width (text.take span.start)).length
          ((text.drop span.start).take span.length) := by
  have hsplit : text.take span.stop =
      text.take span.start ++ (text.drop span.start).take span.length := by
    rw [← List.take_add, Span.length, Nat.add_sub_cancel' hle]
  rw [hsplit, expandTabs_append]

/-- A span is written with its tabs replaced from the column on at which it begins. -/
lemma written_eq (text : List Char) {span : Span} (hle : span.start ≤ span.stop) :
    written terminal.width text span =
      terminal.expandFrom (expandTabs terminal.width (text.take span.start)).length
        ((text.drop span.start).take span.length) := by
  rw [written, expandTabs_take_stop text hle, List.drop_left]

/-- What is written of a span goes on where the text before it ends. -/
lemma append_written (text : List Char) {span : Span} (hle : span.start ≤ span.stop) :
    expandTabs terminal.width (text.take span.start) ++ written terminal.width text span =
      expandTabs terminal.width (text.take span.stop) := by
  rw [expandTabs_take_stop text hle, written_eq text hle]

/-- Wherever the characters from one place to another are cut, the pieces are written as the whole
is. -/
theorem append_flatten_written (text : List Char) {start stop : Nat} {spans : List Span}
    (h : Span.Tiles start spans stop) :
    expandTabs terminal.width (text.take start) ++
        (spans.map (written terminal.width text)).flatten =
      expandTabs terminal.width (text.take stop) := by
  induction h with
  | nil => rw [List.map_nil, List.flatten_nil, List.append_nil]
  | cons hle rest ih =>
    rw [List.map_cons, List.flatten_cons, ← List.append_assoc, append_written text hle, ih]

/-- Runs that follow one another are each written as they stand in the whole line. -/
theorem writeRuns_of_tiles (line : Line) {start stop : Nat} {spans : List Span}
    (h : Span.Tiles start spans stop) :
    terminal.writeRuns line (expandTabs terminal.width ((Line.text line).take start)).length spans =
      String.join (spans.map fun span =>
        terminal.writeRun span.category (written terminal.width (Line.text line) span)) := by
  induction h with
  | nil => rfl
  | @cons span spans stop hle rest ih =>
    have htext : Line.text ((line.drop span.start).take span.length) =
        ((Line.text line).drop span.start).take span.length := by
      rw [Line.text, Line.text, List.map_take, List.map_drop]
    rw [writeRuns, htext, ← written_eq _ hle, ← List.length_append, append_written _ hle, ih,
      List.map_cons, String.join_cons]

/-- A line is written run by run. -/
theorem writeLine_eq (line : Line) :
    terminal.writeLine line = String.join ((Line.runs line).map fun span =>
      terminal.writeRun span.category (written terminal.width (Line.text line) span)) ++ "\n" := by
  have hruns := terminal.writeRuns_of_tiles line (Line.tiles_runs line)
  exact congrArg (· ++ "\n") hruns

/-- Wherever a line is cut, the pieces together are the line with its tabs expanded. -/
theorem flatten_written (line : Line) {spans : List Span}
    (h : Span.Tiles 0 spans line.length) :
    (spans.map (written terminal.width (Line.text line))).flatten =
      expandTabs terminal.width (Line.text line) := by
  have hflatten := terminal.append_flatten_written (Line.text line) h
  rwa [← Line.length_text, List.take_length] at hflatten

/-- Without colors a line is written as its characters with their tabs expanded. -/
theorem writeLine_plain (hplain : terminal.color = false) (line : Line) :
    terminal.writeLine line = String.ofList (terminal.expandFrom 0 (Line.text line)) ++ "\n" := by
  -- without colors a run is its text
  have hrun : ∀ category text, terminal.writeRun category text = String.ofList text := by
    intro category text
    rw [writeRun, hplain]
    rfl
  have hjoin : ∀ spans : List Span, String.join (spans.map fun span =>
      String.ofList (written terminal.width (Line.text line) span)) =
        String.ofList (spans.map (written terminal.width (Line.text line))).flatten := by
    intro spans
    induction spans with
    | nil => rfl
    | cons span spans ih =>
      rw [List.map_cons, String.join_cons, ih, List.map_cons, List.flatten_cons,
        String.ofList_append]
  rw [writeLine_eq]
  simp only [hrun]
  rw [hjoin, flatten_written line (Line.tiles_runs line), expandTabs_eq]

end Terminal

end Highlight
