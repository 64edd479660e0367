import Highlight.Proofs.Terminal

/-!
# Styled lines

In color each run of a line is written between the escapes that begin its style and the one that
ends all styles (`begin_eq`, `reset_eq`). So no style reaches into the next run, and what is left
without the escapes is the line as it is written without colors (`visible_writeLine`). `renders`
puts this together with the text of the runs, which does not depend on the colors.
-/

namespace Highlight.Terminal

variable {terminal : Terminal} {line : Line}

/-- The escapes in front of a run. -/
def opening (terminal : Terminal) (category : Category) : String :=
  if terminal.color then begin category.style else ""

/-- The escape behind a run. -/
def closing (terminal : Terminal) : String :=
  if terminal.color then reset else ""

/-- What is left of characters without the escapes among them, each of which reaches from an escape
character to the next `m`; `inEscape` while an escape goes on. -/
def visibleFrom (inEscape : Bool) : List Char → List Char
  | [] => []
  | c :: rest =>
    if inEscape then visibleFrom (c != 'm') rest
    else if c = '\x1b' then visibleFrom true rest
    else c :: visibleFrom false rest

/-- What is left of a text without its escapes. -/
def visible (text : String) : List Char := visibleFrom false text.toList

lemma writeRun_eq (category : Category) (text : List Char) :
    terminal.writeRun category text =
      terminal.opening category ++ String.ofList text ++ terminal.closing := by
  unfold writeRun opening closing
  cases terminal.color with
  | true => rfl
  | false =>
    show String.ofList text = "" ++ String.ofList text ++ ""
    rw [String.empty_append, String.append_empty]

/-! ## Escapes are not visible -/

/-- An escape goes on up to its `m`. -/
lemma visibleFrom_true (parameters rest : List Char) (hend : 'm' ∉ parameters) :
    visibleFrom true (parameters ++ 'm' :: rest) = visibleFrom false rest := by
  induction parameters with
  | nil => rfl
  | cons c parameters ih =>
    have hc : (c != 'm') = true := by
      rw [bne_iff_ne]
      exact fun h => hend (h ▸ List.mem_cons_self)
    rw [List.cons_append, visibleFrom, if_pos rfl, hc]
    exact ih fun hmem => hend (List.mem_cons_of_mem c hmem)

/-- Whether nothing of a text is visible, whatever comes behind it. -/
def IsHidden (text : String) : Prop :=
  ∀ rest, visibleFrom false (text.toList ++ rest) = visibleFrom false rest

lemma isHidden_empty : IsHidden "" := fun _ => rfl

lemma IsHidden.append {first second : String} (hfirst : IsHidden first)
    (hsecond : IsHidden second) : IsHidden (first ++ second) := by
  intro rest
  rw [String.toList_append, List.append_assoc, hfirst, hsecond]

/-- An escape is hidden if there is no `m` among its parameters. -/
lemma isHidden_escape {parameters : String} (hend : 'm' ∉ parameters.toList) :
    IsHidden (escape parameters) := by
  intro rest
  have hescape : (escape parameters).toList ++ rest =
      '\x1b' :: (('[' :: parameters.toList) ++ 'm' :: rest) := by
    rw [escape, String.toList_append, String.toList_append]
    simp
  have hbracket : 'm' ∉ '[' :: parameters.toList := by
    rw [List.mem_cons, not_or]
    exact ⟨by decide, hend⟩
  rw [hescape, visibleFrom, if_neg Bool.false_ne_true, if_pos rfl,
    visibleFrom_true _ _ hbracket]

lemma isHidden_foreground (color : Color) : IsHidden (foreground color) := by
  unfold foreground
  cases color <;> exact isHidden_escape (by decide)

lemma isHidden_begin (style : Style) : IsHidden (begin style) := by
  have hbold : IsHidden (if style.bold then escape "1" else "") := by
    cases style.bold
    · exact isHidden_empty
    · exact isHidden_escape (by decide)
  have hitalic : IsHidden (if style.italic then escape "3" else "") := by
    cases style.italic
    · exact isHidden_empty
    · exact isHidden_escape (by decide)
  unfold begin
  split
  · exact isHidden_empty
  · exact ((isHidden_foreground style.foreground).append hbold).append hitalic

/-- What opens a run is hidden. -/
lemma isHidden_opening (terminal : Terminal) (category : Category) :
    IsHidden (terminal.opening category) := by
  unfold opening
  split
  · exact isHidden_begin category.style
  · exact isHidden_empty

lemma isHidden_closing (terminal : Terminal) : IsHidden terminal.closing := by
  unfold closing
  split
  · exact isHidden_escape (by decide)
  · exact isHidden_empty

/-! ## Everything else is visible -/

/-- Text without escapes is visible as it is. -/
lemma visibleFrom_append {text : List Char} (hplain : '\x1b' ∉ text) (rest : List Char) :
    visibleFrom false (text ++ rest) = text ++ visibleFrom false rest := by
  induction text with
  | nil => rfl
  | cons c text ih =>
    have hc : c ≠ '\x1b' := fun h => hplain (h ▸ List.mem_cons_self)
    rw [List.cons_append, visibleFrom, if_neg Bool.false_ne_true, if_neg hc,
      ih fun hmem => hplain (List.mem_cons_of_mem c hmem), List.cons_append]

/-- Replacing tabs brings no escapes. -/
lemma not_mem_written {text : List Char} (hplain : '\x1b' ∉ text) (span : Span) :
    '\x1b' ∉ written terminal.width text span := by
  intro hmem
  have hstop := List.mem_of_mem_drop hmem
  rw [expandTabs_eq] at hstop
  rcases (terminal.expands_expandFrom 0 _).mem_or_eq_of_mem hstop with htext | hblank
  · exact hplain (List.mem_of_mem_take htext)
  · revert hblank
    decide

/-- Of a run its text is visible. -/
lemma visibleFrom_writeRun (category : Category) {text : List Char} (hplain : '\x1b' ∉ text)
    (rest : List Char) :
    visibleFrom false ((terminal.writeRun category text).toList ++ rest) =
      text ++ visibleFrom false rest := by
  rw [writeRun_eq, String.toList_append, String.toList_append, String.toList_ofList,
    List.append_assoc, List.append_assoc, isHidden_opening, visibleFrom_append hplain,
    isHidden_closing]

/-- Of some runs their texts are visible. -/
theorem visibleFrom_join {text : List Char} (hplain : '\x1b' ∉ text) (spans : List Span)
    (rest : List Char) :
    visibleFrom false ((String.join (spans.map fun span =>
        terminal.writeRun span.category (written terminal.width text span))).toList ++ rest) =
      (spans.map (written terminal.width text)).flatten ++ visibleFrom false rest := by
  induction spans with
  | nil => rfl
  | cons span spans ih =>
    rw [List.map_cons, String.join_cons, String.toList_append, List.append_assoc,
      visibleFrom_writeRun _ (not_mem_written hplain span), ih, List.map_cons, List.flatten_cons,
      List.append_assoc]

/-- Without its escapes a line in color is the line without colors. -/
theorem visible_writeLine (hplain : '\x1b' ∉ Line.text line) :
    visible (terminal.writeLine line) =
      expandTabs terminal.width (Line.text line) ++ ['\n'] := by
  have hfeed : visibleFrom false "\n".toList = ['\n'] := rfl
  rw [visible, writeLine_eq, String.toList_append, visibleFrom_join hplain,
    flatten_written _ (Line.tiles_runs line), hfeed]

/-! ## Lines -/

/-- Behind a tab the column is a multiple of the tab width, whatever comes behind. -/
theorem width_dvd_length (before after : List Char) :
    terminal.width ∣ (expandTabs terminal.width (before ++ ['\t'])).length ∧
      expandTabs terminal.width (before ++ ['\t']) <+:
        expandTabs terminal.width (before ++ '\t' :: after) := by
  constructor
  · rw [expandTabs, List.foldl_append]
    show terminal.width ∣ (expandTabs terminal.width before ++ List.replicate _ ' ').length
    rw [List.length_append, List.length_replicate]
    exact terminal.width_dvd_add _
  · rw [List.append_cons before '\t' after, expandTabs_append (before ++ ['\t']) after]
    exact List.prefix_append _ _

/-! ## What the escapes are -/

/-- What ends all styles is the escape with the parameter zero. -/
theorem reset_eq : reset = "\x1b[0m" := rfl

/-- A color of the palette is given by its number, and the color of the terminal by an escape of its
own. -/
theorem foreground_eq (color : Color) : foreground color =
    color.code?.elim "\x1b[39m" fun code => "\x1b[38;5;" ++ toString code ++ "m" := by
  unfold foreground escape
  cases color.code? with
  | none => rfl
  | some code =>
    show "\x1b[" ++ ("38;5;" ++ toString code) ++ "m" = _
    rw [← String.append_assoc]
    rfl

/-- A style other than the default one begins with its color, then come bold and italics. -/
theorem begin_eq (style : Style) (hdefault : style ≠ {}) : begin style =
    foreground style.foreground ++ (if style.bold then "\x1b[1m" else "") ++
      (if style.italic then "\x1b[3m" else "") := by
  rw [begin, Style.isDefault, beq_false_of_ne hdefault]
  rfl

lemma begin_default : begin {} = "" := rfl

/-- Whether a terminal keeps the characters of a line and contains the styles of its runs; a tab
width of zero counts as one. -/
structure Renders (terminal : Terminal) (line : Line) : Prop where
  /-- Run by run a line is written as the escapes of the style, the text and the escape that ends
  all styles, where there are escapes in color only; a line feed comes last. -/
  writeLine_eq : terminal.writeLine line = String.join ((Line.runs line).map fun span =>
    terminal.opening span.category ++
      String.ofList (written (max terminal.tabWidth 1) (Line.text line) span) ++
        terminal.closing) ++ "\n"
  /-- Without colors no escapes are written. -/
  plain_escapes : terminal.color = false → ∀ category : Category,
    terminal.opening category = "" ∧ terminal.closing = ""
  /-- In color an escape that ends all styles stands behind every run. -/
  closing_eq : terminal.color = true → terminal.closing = "\x1b[0m"
  /-- In color nothing stands in front of a run of the default style, and in front of any other run
  the escape of its color, and those of bold and of italics where its style has them. -/
  opening_eq : terminal.color = true → ∀ category : Category,
    terminal.opening category =
      if category.style = {} then ""
      else (category.style.foreground.code?.elim "\x1b[39m" fun code =>
          "\x1b[38;5;" ++ toString code ++ "m") ++
        (if category.style.bold then "\x1b[1m" else "") ++
        (if category.style.italic then "\x1b[3m" else "")
  /-- The runs follow one another from the beginning of the line to its end. -/
  tiles_runs : Span.Tiles 0 (Line.runs line) line.length
  /-- Wherever the line is cut, the texts together are its characters with tabs expanded. -/
  flatten_written : ∀ spans, Span.Tiles 0 spans line.length →
    (spans.map (written (max terminal.tabWidth 1) (Line.text line))).flatten =
      expandTabs (max terminal.tabWidth 1) (Line.text line)
  /-- Behind every tab the column is a multiple of the tab width. -/
  dvd_length : ∀ before after, Line.text line = before ++ '\t' :: after →
    max terminal.tabWidth 1 ∣ (expandTabs (max terminal.tabWidth 1) (before ++ ['\t'])).length ∧
      expandTabs (max terminal.tabWidth 1) (before ++ ['\t']) <+:
        expandTabs (max terminal.tabWidth 1) (Line.text line)
  /-- Without colors nothing but this text is written, whatever the colors of the line are. -/
  plain_eq : ∀ other, Line.text other = Line.text line →
    { terminal with color := false }.writeLine other =
      String.ofList (expandTabs (max terminal.tabWidth 1) (Line.text line)) ++ "\n"
  /-- In color the same is left without the escapes, if the line has no escape character itself. -/
  visible_eq : ∀ other, Line.text other = Line.text line → '\x1b' ∉ Line.text line →
    visible (terminal.writeLine other) =
      expandTabs (max terminal.tabWidth 1) (Line.text line) ++ ['\n']

/-- Every line keeps its characters and contains its styles, on every terminal. -/
theorem renders (terminal : Terminal) (line : Line) : terminal.Renders line where
  writeLine_eq := by
    have hline := terminal.writeLine_eq line
    simp only [writeRun_eq] at hline
    exact hline
  plain_escapes hcolor category := by
    rw [opening, closing, hcolor]
    exact ⟨rfl, rfl⟩
  closing_eq hcolor := by
    rw [closing, if_pos hcolor, reset_eq]
  opening_eq hcolor category := by
    rw [opening, if_pos hcolor]
    split
    case isTrue hdefault => rw [hdefault, begin_default]
    case isFalse hdefault => rw [begin_eq _ hdefault, foreground_eq]
  tiles_runs := Line.tiles_runs line
  flatten_written spans hspans := Terminal.flatten_written line hspans
  dvd_length before after htext := by
    rw [htext]
    exact width_dvd_length before after
  plain_eq other htext := by
    have hplain := { terminal with color := false : Terminal }.writeLine_plain rfl other
    rw [← expandTabs_eq, htext] at hplain
    exact hplain
  visible_eq other htext hplain := by
    rw [← htext] at hplain ⊢
    exact visible_writeLine hplain

end Highlight.Terminal
