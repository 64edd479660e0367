import Highlight.Proofs.Runs
import Mathlib.Data.List.SplitBy

/-!
# The runs of a line are its longest stretches of one category

`RunPartition` is what is meant by cutting a line into its longest stretches of one category. The
runs of a line do that (`runPartition_runs`), and nothing else does: the categories of such spans
are those of the line, split where neighbours differ (`map_categories_eq_splitBy`), and spans that
follow one another are given by their categories (`Span.Tiles.eq_of_map_categories`).
-/

namespace Highlight

namespace Span

/-- The categories that a span stands for, one for each of its glyphs. -/
def categories (span : Span) : List Category :=
  List.replicate span.length span.category

variable {span other : Span} {spans others : List Span} {start stop place : Nat}

lemma isEmpty_eq_false_iff : span.isEmpty = false ↔ span.start < span.stop := by
  rw [isEmpty, decide_eq_false_iff_not, Nat.not_le]

lemma contains_iff : span.contains place = true ↔ span.start ≤ place ∧ place < span.stop := by
  rw [contains, Bool.and_eq_true, decide_eq_true_iff, decide_eq_true_iff]

lemma categories_ne_nil (h : span.isEmpty = false) : span.categories ≠ [] := by
  have hlt := isEmpty_eq_false_iff.1 h
  rw [categories, Ne, List.replicate_eq_nil_iff, length]
  omega

/-- A span that is not empty is given by its start and its categories. -/
theorem eq_of_categories_eq (hspan : span.isEmpty = false) (hother : other.isEmpty = false)
    (hstart : span.start = other.start) (h : span.categories = other.categories) :
    span = other := by
  have hlt := isEmpty_eq_false_iff.1 hspan
  have hlt' := isEmpty_eq_false_iff.1 hother
  obtain ⟨hlength, hcategory⟩ := List.replicate_inj.1 h
  have hstop : span.stop = other.stop := by
    rw [length, length] at hlength
    omega
  have hcategory : span.category = other.category := by
    refine hcategory.resolve_left fun hzero => ?_
    rw [length] at hzero
    omega
  cases span
  cases other
  simp_all

/-! ## Spans that follow one another -/

/-- Spans that are not empty and of which each starts where the one before it ends follow one
another from the start of the first. -/
theorem exists_tiles (hstarts : ∀ first ∈ spans.head?, first.start = start)
    (hfollows : spans.IsChain fun span next => next.start = span.stop)
    (hnonempty : ∀ span ∈ spans, span.isEmpty = false) : ∃ stop, Tiles start spans stop := by
  induction spans generalizing start with
  | nil => exact ⟨start, .nil⟩
  | cons span spans ih =>
    obtain ⟨hnext, hfollows⟩ := List.isChain_cons.1 hfollows
    obtain ⟨stop, hrest⟩ := ih hnext hfollows fun other hmem =>
      hnonempty other (List.mem_cons_of_mem span hmem)
    obtain rfl := hstarts span rfl
    exact ⟨stop, .cons (isEmpty_eq_false_iff.1 (hnonempty span List.mem_cons_self)).le hrest⟩

lemma tiles_nil_iff : Tiles start [] stop ↔ start = stop := by
  constructor
  · intro h
    cases h
    rfl
  · rintro rfl
    exact .nil

/-- The first of adjoining spans begins where they do, and the others adjoin it. -/
lemma tiles_cons_iff :
    Tiles start (span :: spans) stop ↔
      span.start = start ∧ span.start ≤ span.stop ∧ Tiles span.stop spans stop := by
  constructor
  · intro h
    generalize hall : span :: spans = all at h
    cases h with
    | nil => cases hall
    | cons hle rest =>
      cases hall
      exact ⟨rfl, hle, rest⟩
  · rintro ⟨rfl, hle, rest⟩
    exact .cons hle rest

namespace Tiles

lemma starts (h : Tiles start spans stop) : ∀ first ∈ spans.head?, first.start = start := by
  cases h with
  | nil =>
    intro first hfirst
    cases hfirst
  | cons hle rest =>
    intro first hfirst
    cases hfirst
    rfl

/-- Each of adjoining spans begins where the one before it ends. -/
lemma follows (h : Tiles start spans stop) :
    spans.IsChain fun span next => next.start = span.stop := by
  induction h with
  | nil => exact .nil
  | cons hle rest ih => exact List.isChain_cons.2 ⟨rest.starts, ih⟩

lemma stops (h : Tiles start spans stop) : ∀ last ∈ spans.getLast?, last.stop = stop := by
  induction h with
  | nil =>
    intro last hlast
    cases hlast
  | @cons span spans stop hle rest ih =>
    intro last hlast
    rw [List.getLast?_cons] at hlast
    cases hlast
    cases hspans : spans.getLast? with
    | none =>
      rw [List.getLast?_eq_none_iff] at hspans
      subst hspans
      exact tiles_nil_iff.1 rest
    | some last => exact ih last hspans

/-- Spans that follow one another from a place on are given by their categories. -/
theorem eq_of_map_categories {stop' : Nat} (h : Tiles start spans stop)
    (h' : Tiles start others stop') (hnonempty : ∀ span ∈ spans, span.isEmpty = false)
    (hnonempty' : ∀ span ∈ others, span.isEmpty = false)
    (hcategories : spans.map categories = others.map categories) : spans = others := by
  induction h generalizing others with
  | nil => exact (List.map_eq_nil_iff.1 hcategories.symm).symm
  | @cons span spans stop hle rest ih =>
    cases others with
    | nil => cases hcategories
    | cons other others =>
      obtain ⟨hfirst, hbehind⟩ := List.cons.inj hcategories
      obtain rfl : span = other :=
        eq_of_categories_eq (hnonempty span List.mem_cons_self)
          (hnonempty' other List.mem_cons_self) (h'.starts other rfl).symm hfirst
      have hrest := (tiles_cons_iff.1 h').2.2
      rw [ih hrest (fun span hmem => hnonempty span (List.mem_cons_of_mem _ hmem))
        (fun span hmem => hnonempty' span (List.mem_cons_of_mem _ hmem)) hbehind]

/-- Spans that follow one another contain nothing before they start. -/
theorem start_le_of_mem (h : Tiles start spans stop) (hmem : span ∈ spans) :
    start ≤ span.start := by
  induction h with
  | nil => cases hmem
  | cons hle rest ih =>
    rcases List.mem_cons.1 hmem with rfl | hmem
    · exact Nat.le_refl _
    · exact hle.trans (ih hmem)

end Tiles

end Span

namespace Line

/-- Whether spans cut a line into its longest stretches of one category. -/
structure RunPartition (line : Line) (spans : List Span) : Prop where
  /-- No span is empty. -/
  nonempty : ∀ span ∈ spans, span.isEmpty = false
  /-- The first span starts with the line. -/
  starts : ∀ first ∈ spans.head?, first.start = 0
  /-- Every other span starts where the one before it ends. -/
  follows : spans.IsChain fun span next => next.start = span.stop
  /-- The last span ends with the line. -/
  stops : ∀ last ∈ spans.getLast?, last.stop = line.length
  /-- Neighbouring spans are of different categories. -/
  differs : spans.IsChain fun span next => next.category ≠ span.category
  /-- Every glyph lies in one of the spans only, and has its category. -/
  contains : ∀ place glyph, (line)[place]? = some glyph →
    ∃ span, spans.filter (·.contains place) = [span] ∧ span.category = glyph.category
  /-- The categories of the spans, put together, are those of the line. -/
  expands : spans.flatMap Span.categories = categories line

variable {line run rest : Line} {category : Category} {spans others : List Span} {start : Nat}

/-! ## The runs of a line -/

/-- Whether spans cut a line that begins at `start` into stretches of one category, none of them
empty and neighbours of different categories. -/
inductive CutAt : (start : Nat) → Line → List Span → Prop where
  | nil {start : Nat} : CutAt start [] []
  | cons {start : Nat} {category : Category} {run rest : Line} {spans : List Span}
    (hne : run ≠ []) (hrun : ∀ glyph ∈ run, glyph.category = category)
    (hnext : ∀ next ∈ spans.head?, next.category ≠ category)
    (hrest : CutAt (start + run.length) rest spans) :
    CutAt start (run ++ rest) (⟨start, start + run.length, category⟩ :: spans)

/-- The run that is growing is the first of those to come. -/
theorem category_of_mem_head?_runsFrom (current : Span) (rest : Line) :
    ∀ next ∈ (runsFrom current rest).head?, next.category = current.category := by
  induction rest generalizing current with
  | nil =>
    intro next hnext
    cases hnext
    rfl
  | cons glyph rest ih =>
    rw [runsFrom]
    by_cases hsame : glyph.category = current.category
    · rw [if_pos hsame]
      exact ih { current with stop := current.stop + 1 }
    · rw [if_neg hsame]
      intro next hnext
      cases hnext
      rfl

/-- The run that is growing and those behind it cut its glyphs and the rest of the line. -/
theorem cutAt_runsFrom (hne : run ≠ []) (hrun : ∀ glyph ∈ run, glyph.category = category)
    (start : Nat) (rest : Line) :
    CutAt start (run ++ rest) (runsFrom ⟨start, start + run.length, category⟩ rest) := by
  induction rest generalizing start run category with
  | nil => exact .cons hne hrun (fun next hnext => by cases hnext) .nil
  | cons glyph rest ih =>
    rw [runsFrom]
    by_cases hsame : glyph.category = category
    · -- the run that is open grows by the glyph
      have hgrown : ∀ other ∈ run ++ [glyph], other.category = category := by
        intro other hmem
        rcases List.mem_append.1 hmem with hmem | hmem
        · exact hrun other hmem
        · rwa [List.mem_singleton.1 hmem]
      have hlength : start + run.length + 1 = start + (run ++ [glyph]).length := by
        rw [List.length_append, List.length_singleton, Nat.add_assoc]
      rw [if_pos hsame, List.append_cons, hlength]
      exact ih (List.append_ne_nil_of_right_ne_nil run (List.cons_ne_nil glyph [])) hgrown start
    · rw [if_neg hsame]
      refine .cons hne hrun (fun next hnext => ?_) ?_
      · rw [category_of_mem_head?_runsFrom _ rest next hnext]
        exact hsame
      · refine ih (List.cons_ne_nil glyph []) (fun other hmem => ?_) (start + run.length)
        rw [List.mem_singleton.1 hmem]

/-- The loop that finds the runs cuts the line. -/
lemma cutAt_runs (line : Line) : CutAt 0 line (runs line) := by
  cases line with
  | nil => exact .nil
  | cons glyph rest =>
    refine cutAt_runsFrom (List.cons_ne_nil glyph []) (fun other hmem => ?_) 0 rest
    rw [List.mem_singleton.1 hmem]

namespace CutAt

/-- No run is empty. -/
lemma nonempty (h : CutAt start line spans) : ∀ span ∈ spans, span.isEmpty = false := by
  induction h with
  | nil =>
    intro span hmem
    cases hmem
  | cons hne hrun hnext hrest ih =>
    intro span hmem
    rcases List.mem_cons.1 hmem with rfl | hmem
    · exact Span.isEmpty_eq_false_iff.2 (Nat.lt_add_of_pos_right (List.length_pos_iff.2 hne))
    · exact ih span hmem

/-- The runs adjoin from the beginning of the line to its end. -/
lemma tiles (h : CutAt start line spans) : Span.Tiles start spans (start + line.length) := by
  induction h with
  | nil => exact .nil
  | @cons start category run rest spans hne hrun hnext hrest ih =>
    rw [List.length_append, ← Nat.add_assoc]
    have hle : start ≤ start + run.length := Nat.le_add_right _ _
    exact @Span.Tiles.cons ⟨start, start + run.length, category⟩ _ _ hle ih

/-- Neighbouring runs have different categories. -/
lemma differs (h : CutAt start line spans) :
    spans.IsChain fun span next => next.category ≠ span.category := by
  induction h with
  | nil => exact .nil
  | cons hne hrun hnext hrest ih => exact List.isChain_cons.2 ⟨hnext, ih⟩

/-- The runs have the categories of the line. -/
theorem expands (h : CutAt start line spans) :
    spans.flatMap Span.categories = categories line := by
  induction h with
  | nil => rfl
  | @cons start category run rest spans hne hrun hnext hrest ih =>
    have hcategories : categories run = List.replicate run.length category := by
      refine List.eq_replicate_iff.2 ⟨List.length_map _, fun other hmem => ?_⟩
      obtain ⟨glyph, hglyph, rfl⟩ := List.mem_map.1 hmem
      exact hrun glyph hglyph
    rw [List.flatMap_cons, ih, categories_append, hcategories, Span.categories, Span.length,
      Nat.add_sub_cancel_left]

/-- A glyph lies in one of the spans only, since each starts where the one before it ends. -/
theorem contains (h : CutAt start line spans) {place : Nat} {glyph : Glyph}
    (hglyph : (line)[place]? = some glyph) :
    ∃ span, spans.filter (·.contains (start + place)) = [span] ∧
      span.category = glyph.category := by
  induction h generalizing place with
  | nil => cases hglyph
  | @cons start category run rest spans hne hrun hnext hrest ih =>
    by_cases hlt : place < run.length
    · rw [List.getElem?_append_left hlt] at hglyph
      -- the spans behind the first one begin behind the place
      have hnone : spans.filter (·.contains (start + place)) = [] := by
        refine List.filter_eq_nil_iff.2 fun span hmem hcontains => ?_
        have hstart := hrest.tiles.start_le_of_mem hmem
        have hle := (Span.contains_iff.1 hcontains).1
        omega
      have hfirst : Span.contains ⟨start, start + run.length, category⟩ (start + place) = true :=
        Span.contains_iff.2 ⟨Nat.le_add_right start place, Nat.add_lt_add_left hlt start⟩
      exact ⟨⟨start, start + run.length, category⟩,
        by rw [List.filter_cons, if_pos hfirst, hnone],
        (hrun glyph (List.mem_of_getElem? hglyph)).symm⟩
    · rw [List.getElem?_append_right (Nat.le_of_not_lt hlt)] at hglyph
      obtain ⟨span, hfilter, hcategory⟩ := ih hglyph
      rw [show start + run.length + (place - run.length) = start + place by omega] at hfilter
      have hbefore : ¬ Span.contains ⟨start, start + run.length, category⟩ (start + place) := by
        intro hcontains
        exact hlt (Nat.lt_of_add_lt_add_left (Span.contains_iff.1 hcontains).2)
      exact ⟨span, by rw [List.filter_cons, if_neg hbefore, hfilter], hcategory⟩

end CutAt

/-- The runs of a line are its longest stretches of one category. -/
theorem runPartition_runs (line : Line) : RunPartition line (runs line) where
  nonempty := (cutAt_runs line).nonempty
  starts := (tiles_runs line).starts
  follows := (tiles_runs line).follows
  stops := (tiles_runs line).stops
  differs := (cutAt_runs line).differs
  contains place glyph hglyph := by
    have hcontains := (cutAt_runs line).contains hglyph
    rwa [Nat.zero_add] at hcontains
  expands := (cutAt_runs line).expands

/-! ## No other spans -/

/-- The categories of the spans are those of the line, split where neighbours differ. -/
theorem RunPartition.map_categories_eq_splitBy (h : RunPartition line spans) :
    spans.map Span.categories = (categories line).splitBy (· == ·) := by
  rw [← h.expands, List.flatMap_def]
  symm
  apply List.splitBy_flatten
  · intro hmem
    obtain ⟨span, hspan, hnil⟩ := List.mem_map.1 hmem
    exact Span.categories_ne_nil (h.nonempty span hspan) hnil
  · intro piece hmem
    obtain ⟨span, -, rfl⟩ := List.mem_map.1 hmem
    exact List.isChain_replicate_of_rel _ BEq.rfl
  · rw [List.isChain_map]
    refine h.differs.imp_of_mem_imp fun span next hspan hnext hdiffers => ?_
    refine ⟨Span.categories_ne_nil (h.nonempty span hspan),
      Span.categories_ne_nil (h.nonempty next hnext), ?_⟩
    simp only [Span.categories, List.getLast_replicate, List.head_replicate]
    exact beq_eq_false_iff_ne.2 hdiffers.symm

/-- A line has one partition into runs. -/
theorem RunPartition.eq (h : RunPartition line spans) (h' : RunPartition line others) :
    spans = others := by
  obtain ⟨stop, htiles⟩ := Span.exists_tiles h.starts h.follows h.nonempty
  obtain ⟨stop', htiles'⟩ := Span.exists_tiles h'.starts h'.follows h'.nonempty
  refine htiles.eq_of_map_categories htiles' h.nonempty h'.nonempty ?_
  rw [h.map_categories_eq_splitBy, h'.map_categories_eq_splitBy]

/-- The runs of a line, and no other spans, are its longest stretches of one category. -/
theorem runPartition_iff (line : Line) (spans : List Span) :
    RunPartition line spans ↔ spans = runs line := by
  constructor
  · intro h
    exact h.eq (runPartition_runs line)
  · rintro rfl
    exact runPartition_runs line

example : runs [⟨'a', .identifier⟩, ⟨'b', .identifier⟩, ⟨' ', .plain⟩, ⟨'1', .number⟩] =
    [⟨0, 2, .identifier⟩, ⟨2, 3, .plain⟩, ⟨3, 4, .number⟩] := by decide

end Line

end Highlight
