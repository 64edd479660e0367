import Highlight.CommandLine
import Highlight.Proofs.Cache.Reset
import Highlight.Proofs.Registry.Budget
import Highlight.Proofs.Registry.History
import Highlight.Proofs.Terminal

/-!
# What the program writes

A run on a file writes the lines of the file as one pass colors them. The passes through the cache
end, for each of them colors a line at least, and they leave what one pass leaves. So the number of
lines in a pass does not show, and without colors neither does the language (`printsFile`).
-/

namespace Highlight

namespace HighlightCache

/-- The passes that begin with a new cache end, and they color the lines as one pass does. -/
theorem settle_new {h : Highlighter} (hpos : 0 < h.maxLinesPerFrame) (lines : Buffer) :
    (settle h {} lines).1.isUpToDate lines.length = true ∧
      (settle h {} lines).2.1 = Buffer.painted h lines := by
  obtain ⟨hend, -, hall⟩ := (begun_new h lines).settleBy (fun _ => h.maxLinesPerFrame)
    (lines.length + 1)
  have hsum := hall (Nat.sub_le_of_le_add (Nat.le_succ_of_le (Nat.le_refl _)))
  rw [settleBy_const hpos] at hend hsum
  rw [hsum] at hend
  have hdone := hend.isUpToDate_iff.2 rfl
  rw [hend.length_lines] at hdone
  exact ⟨hdone, hend.lines_eq_painted⟩

/-- Once the cache is up to date, further passes change nothing. -/
theorem settleWithin_add {h : Highlighter} {cache : HighlightCache} {lines : Buffer} {passes : Nat}
    (hu : (settleWithin h passes cache lines).1.isUpToDate
      (settleWithin h passes cache lines).2.1.length = true) (more : Nat) :
    settleWithin h (passes + more) cache lines = settleWithin h passes cache lines := by
  induction passes generalizing cache lines with
  | zero =>
    cases more with
    | zero => rfl
    | succ more => exact if_pos hu
  | succ passes ih =>
    rw [Nat.succ_add]
    by_cases hdone : cache.isUpToDate lines.length = true
    · rw [settleWithin, settleWithin, if_pos hdone, if_pos hdone]
    · rw [settleWithin, if_neg hdone] at hu
      rw [settleWithin, settleWithin, if_neg hdone, if_neg hdone]
      simp only [ih hu]

end HighlightCache

lemma Buffer.painted_withMaxLines (h : Highlighter) (budget : Nat) (lines : Buffer) :
    painted (h.withMaxLines budget) lines = painted h lines := by
  have hpass : ∀ carry, passFrom (h.withMaxLines budget) carry lines = passFrom h carry lines := by
    intro carry
    induction lines generalizing carry with
    | nil => rfl
    | cons line lines ih =>
      rw [passFrom, passFrom, Highlighter.colorize_withMaxLines, ih]
  rw [painted, painted, pass, pass, hpass]

namespace CommandLine

/-- What is written about the words that options ask for. -/
def tooltipLines (highlighter : Highlighter) (options : Options) : String :=
  String.join (options.tooltips.map (tooltipLine highlighter))

/-- What a run with options writes under some settings. -/
def highlightWith (files : Files Id) (settings : Settings) (options : Options) : Outcome :=
  match (highlighterFor files settings options).run with
  | .error failure => { output := "", failure := some failure }
  | .ok highlighter =>
    let tooltips := tooltipLines highlighter options
    match options.file with
    | none => { output := tooltips }
    | some file =>
      match (files.read file).run with
      | .error cause => { output := tooltips, failure := some (.file cause) }
      | .ok text => { output := tooltips ++ render settings highlighter text }

lemma highlight_eq_highlightWith (files : Files Id) (environment : Environment)
    (options : Options) : (highlight files environment options).run =
      highlightWith files (Settings.load files environment).run options := by
  unfold highlight highlightWith
  rw [Id.run_bind, Id.run_bind]
  cases (highlighterFor files (Settings.load files environment).run options).run with
  | error failure => rfl
  | ok highlighter =>
    simp only
    cases options.file with
    | none => rfl
    | some file =>
      simp only
      rw [Id.run_bind]
      cases (files.read file).run with
      | error cause => rfl
      | ok text => rfl

/-! ## Two budgets -/

section Budget

variable (files : Files Id) (settings : Settings) (options : Options) (budget : Nat)

/-- The tables of a directory are added alike under every budget. -/
lemma alike_addDirectory {a b : Registry} (h : Registry.SameLanguages budget a b) :
    Alike (Registry.SameLanguages budget) (addDirectory files settings a).run
      (addDirectory files { settings with maxLinesPerFrame := budget } b).run := by
  unfold addDirectory
  cases settings.languageDirectory with
  | none => exact h
  | some directory =>
    simp only
    rw [Id.run_bind, Id.run_bind]
    cases (Language.loadDirectory files directory).run with
    | error cause => exact h
    | ok languages => exact Alike.foldlM (fun a b language h => h.addLanguage language) languages h

/-- Tables are added alike to registries that differ in their budgets only. -/
lemma alike_addFiles {a b : Registry} (h : Registry.SameLanguages budget a b)
    (paths : List String) :
    Alike (Registry.SameLanguages budget) (addFiles files a paths).run
      (addFiles files b paths).run := by
  induction paths generalizing a b with
  | nil => exact h
  | cons path paths ih =>
    rw [addFiles, addFiles, Id.run_bind, Id.run_bind]
    cases (Language.load files path).run with
    | error cause => exact rfl
    | ok language =>
      simp only
      rcases (h.addLanguage language).cases with ⟨fault, ha, hb⟩ | ⟨a', b', ha, hb, hab⟩
      · rw [ha, hb]
        exact rfl
      · rw [ha, hb]
        exact ih hab

lemma alike_languageName {a b : Registry} (h : Registry.SameLanguages budget a b) :
    languageName b options = languageName a options := by
  unfold languageName Registry.detect?
  rw [h.languageOf_eq]

/-- Under two budgets a run finds the same highlighter, or it fails in the same way. -/
theorem alike_highlighterFor :
    Alike (fun highlighter other => other = highlighter.withMaxLines budget)
      (highlighterFor files settings options).run
      (highlighterFor files { settings with maxLinesPerFrame := budget } options).run := by
  unfold highlighterFor
  -- the built-in languages
  rcases (Registry.alike_withMaxLines settings.maxLinesPerFrame budget).cases with
    ⟨fault, ha, hb⟩ | ⟨a, b, ha, hb, hbuiltin⟩
  · rw [ha, hb]
    exact rfl
  rw [ha, hb]
  simp only [Id.run_bind]
  -- those of the directory
  rcases (alike_addDirectory files settings budget hbuiltin).cases with
    ⟨fault, ha, hb⟩ | ⟨a, b, ha, hb, hdirectory⟩
  · rw [ha, hb]
    exact rfl
  rw [ha, hb]
  simp only [Id.run_bind]
  -- those of the language files
  rcases (alike_addFiles files budget hdirectory options.languageFiles).cases with
    ⟨fault, ha, hb⟩ | ⟨a, b, ha, hb, hfiles⟩
  · rw [ha, hb]
    exact rfl
  rw [ha, hb]
  simp only [Id.run_pure]
  -- the name is the same, and so is what is found under it but for the budget
  rw [alike_languageName options budget hfiles]
  cases languageName a options with
  | error failure => exact rfl
  | ok name =>
    show Alike _ ((a.require name).mapError _) ((b.require name).mapError _)
    rcases (hfiles.require name).cases with ⟨fault, ha, hb⟩ | ⟨h, h', ha, hb, hbudget⟩
    · rw [ha, hb]
      exact rfl
    · rw [ha, hb]
      exact hbudget

end Budget

variable {files : Files Id} {settings : Settings} {options : Options}

/-- The highlighter that a run finds colors a line at least in each pass. -/
theorem maxLinesPerFrame_pos {highlighter : Highlighter}
    (hhighlighter : (highlighterFor files settings options).run = .ok highlighter) :
    0 < highlighter.maxLinesPerFrame := by
  have hself : Alike (fun h h' => h' = h.withMaxLines settings.maxLinesPerFrame)
      (highlighterFor files settings options).run (highlighterFor files settings options).run :=
    alike_highlighterFor files settings options settings.maxLinesPerFrame
  rw [hhighlighter] at hself
  have hbudget : highlighter = highlighter.withMaxLines settings.maxLinesPerFrame := hself
  rw [hbudget]
  exact Registry.le_maxLinesPerFrame_withMaxLines highlighter settings.maxLinesPerFrame

/-! ## What is written for a file -/

/-- How lines are written under some settings. -/
def terminalOf (settings : Settings) : Terminal :=
  { color := settings.color, tabWidth := settings.tabWidth }

/-- The lines of a text are written as one pass colors them. -/
theorem render_eq_writeLines {highlighter : Highlighter}
    (hpos : 0 < highlighter.maxLinesPerFrame) (settings : Settings) (text : String) :
    render settings highlighter text =
      (terminalOf settings).writeLines (Buffer.painted highlighter (bufferOf text)) := by
  show (terminalOf settings).writeLines
    (HighlightCache.settle highlighter {} (bufferOf text)).2.1 = _
  rw [(HighlightCache.settle_new hpos (bufferOf text)).2]

/-- The lines of a pass are written one after the other. -/
lemma writeLines_painted (highlighter : Highlighter) (settings : Settings) (text : String) :
    (terminalOf settings).writeLines (Buffer.painted highlighter (bufferOf text)) =
      String.join ((Buffer.pass highlighter (bufferOf text)).map fun colored =>
        (terminalOf settings).writeLine colored.1) := by
  rw [Terminal.writeLines, Buffer.painted, List.map_map]
  rfl

/-- The number of lines in a pass does not show in what is written. -/
theorem render_withMaxLines {highlighter : Highlighter} (hpos : 0 < highlighter.maxLinesPerFrame)
    (settings : Settings) (budget : Nat) (text : String) :
    render { settings with maxLinesPerFrame := budget } (highlighter.withMaxLines budget) text =
      render settings highlighter text := by
  have hbudget : 0 < (highlighter.withMaxLines budget).maxLinesPerFrame :=
    Registry.le_maxLinesPerFrame_withMaxLines highlighter budget
  rw [render_eq_writeLines hbudget, render_eq_writeLines hpos, Buffer.painted_withMaxLines]
  rfl

/-- Whatever a run writes, and however it fails, does not depend on the number of lines in a pass.
-/
theorem highlightWith_maxLinesPerFrame (files : Files Id) (settings : Settings) (options : Options)
    (budget : Nat) :
    highlightWith files { settings with maxLinesPerFrame := budget } options =
      highlightWith files settings options := by
  unfold highlightWith
  rcases (alike_highlighterFor files settings options budget).cases with
    ⟨failure, ha, hb⟩ | ⟨highlighter, other, ha, hb, rfl⟩
  · rw [ha, hb]
  · have hpos := maxLinesPerFrame_pos ha
    rw [ha, hb]
    have htooltips : tooltipLines (highlighter.withMaxLines budget) options =
        tooltipLines highlighter options := rfl
    simp only [htooltips, render_withMaxLines hpos]

/-- A pass keeps the characters of the lines. -/
theorem map_text_pass (highlighter : Highlighter) (text : String) :
    (Buffer.pass highlighter (bufferOf text)).map (fun colored => Line.text colored.1) =
      Text.lines text.toList := by
  have hpass : (Buffer.pass highlighter (bufferOf text)).map (fun colored => Line.text colored.1) =
      (Buffer.painted highlighter (bufferOf text)).map Line.text := by
    rw [Buffer.painted, List.map_map]
    rfl
  rw [hpass, ← Buffer.map_text_uncolored, Buffer.uncolored_painted, Buffer.map_text_uncolored,
    bufferOf, List.map_map]
  have hline : Line.text ∘ (Line.ofChars · .plain) = id :=
    funext fun line => Line.text_ofChars line .plain
  rw [hline, List.map_id]

/-- Without colors each line of a text is written as its characters with their tabs expanded. -/
theorem render_plain {highlighter : Highlighter} (hpos : 0 < highlighter.maxLinesPerFrame)
    {settings : Settings} (hplain : settings.color = false) (text : String) :
    render settings highlighter text =
      String.join ((Text.lines text.toList).map fun line =>
        String.ofList ((terminalOf settings).expandFrom 0 line) ++ "\n") := by
  rw [render_eq_writeLines hpos, writeLines_painted, ← map_text_pass highlighter, List.map_map]
  refine congrArg String.join (List.map_congr_left fun colored _ => ?_)
  exact Terminal.writeLine_plain hplain colored.1

/-- Whether a run with options writes the text of a file as one pass with a highlighter colors it,
behind the tooltips. -/
structure PrintsFile (files : Files Id) (environment : Environment) (arguments : List String)
    (options : Options) (highlighter : Highlighter) (text : String) : Prop where
  /-- The passes through the cache end with a cache that is up to date, and further passes would
  change nothing. -/
  settles : (HighlightCache.settle highlighter {} (bufferOf text)).1.isUpToDate
    (bufferOf text).length = true
  settled : ∀ more, HighlightCache.settleWithin highlighter ((bufferOf text).length + 1 + more) {}
    (bufferOf text) = HighlightCache.settle highlighter {} (bufferOf text)
  succeeds : (run files environment arguments).run.failure = none
  /-- The lines of the text are written in the colors of one pass. -/
  output_eq : (run files environment arguments).run.output = tooltipLines highlighter options ++
    String.join ((Buffer.pass highlighter (bufferOf text)).map fun colored =>
      (terminalOf (Settings.load files environment).run).writeLine colored.1)
  /-- The number of lines in a pass does not show. -/
  run_eq_highlightWith : ∀ budget, (run files environment arguments).run =
    highlightWith files
      { (Settings.load files environment).run with maxLinesPerFrame := budget } options
  run_eq_of_budget : ∀ other budget, (Settings.load files other).run =
      { (Settings.load files environment).run with maxLinesPerFrame := budget } →
    (run files other arguments).run = (run files environment arguments).run
  /-- Without colors the language does not show: the characters of each line are written, with their
  tabs expanded, and a line feed. -/
  output_eq_of_plain : (Settings.load files environment).run.color = false →
    (run files environment arguments).run.output = tooltipLines highlighter options ++
      String.join ((Text.lines text.toList).map fun line => String.ofList
        ((terminalOf (Settings.load files environment).run).expandFrom 0 line) ++ "\n")
  /-- Tabs become blanks, and no other character is lost, added, altered or moved. -/
  expands : ∀ line written,
    written = (terminalOf (Settings.load files environment).run).expandFrom 0 line →
    Terminal.Expands (terminalOf (Settings.load files environment).run).width 0 line written ∧
      written.filter (fun c => c ≠ ' ') = line.filter (fun c => c ≠ ' ' ∧ c ≠ '\t') ∧
      ('\t' ∉ line → written = line)

/-- Every run on a file that can be read, with a language that is found, prints the file. -/
theorem printsFile (files : Files Id) (environment : Environment) {arguments : List String}
    {options : Options} {file text : String} {highlighter : Highlighter}
    (hparse : Command.parse arguments = .ok (.highlight options))
    (hfile : options.file = some file) (hread : (files.read file).run = .ok text)
    (hhighlighter : (highlighterFor files (Settings.load files environment).run options).run =
      .ok highlighter) :
    PrintsFile files environment arguments options highlighter text := by
  have hpos := maxLinesPerFrame_pos hhighlighter
  obtain ⟨hsettles, hlines⟩ := HighlightCache.settle_new hpos (bufferOf text)
  -- other settings change nothing about the arguments
  have hwith : ∀ other, (run files other arguments).run =
      highlightWith files (Settings.load files other).run options := by
    intro other
    rw [run, hparse]
    exact highlight_eq_highlightWith files other options
  have houtput : (run files environment arguments).run =
      { output := tooltipLines highlighter options ++
          render (Settings.load files environment).run highlighter text } := by
    rw [hwith, highlightWith, hhighlighter]
    simp only [hfile, hread]
  constructor
  case settles => exact hsettles
  case settled =>
    refine HighlightCache.settleWithin_add ?_
    show (HighlightCache.settle highlighter {} (bufferOf text)).1.isUpToDate
      (HighlightCache.settle highlighter {} (bufferOf text)).2.1.length = true
    rw [hlines, Buffer.length_painted]
    exact hsettles
  case succeeds => rw [houtput]
  case output_eq => rw [houtput, render_eq_writeLines hpos, writeLines_painted]
  case run_eq_highlightWith =>
    intro budget
    exact (hwith environment).trans (highlightWith_maxLinesPerFrame files _ options budget).symm
  case run_eq_of_budget =>
    intro other budget hother
    rw [hwith other, hother, highlightWith_maxLinesPerFrame, hwith environment]
  case output_eq_of_plain =>
    intro hplain
    rw [houtput, render_plain hpos hplain]
  case expands =>
    rintro line written rfl
    have hexpands :=
      (terminalOf (Settings.load files environment).run).expands_expandFrom 0 line
    exact ⟨hexpands, hexpands.filter_eq, hexpands.eq_of_not_mem⟩

/-- A settings file that turns colors off and lets a pass color one line, and a text of three lines.
-/
def plainFiles : Files Id where
  read path :=
    if path = "settings" then .ok "color = no\nmax-lines-per-frame = 1\n"
    else if path = "notes" then .ok "\tint x;\r\n\n  y"
    else .error .notFound
  list _ := .error .notFound

/-- Three passes are made for these files, and the tab is written as four blanks. -/
theorem run_plainFiles :
    (run plainFiles { settingsPath := some "settings" } ["-l", "C#", "notes"]).run =
      { output := "    int x;\n\n  y\n" } := by
  have hsettings : (Settings.load plainFiles { settingsPath := some "settings" }).run =
      { maxLinesPerFrame := 1, color := false } := by decide +kernel
  obtain ⟨registry, hregistry, hrequire⟩ := Registry.exists_require_builtin 1
  obtain ⟨highlighter, hhighlighter⟩ := hrequire Builtin.csharp List.mem_cons_self
  have hfound : (highlighterFor plainFiles
      (Settings.load plainFiles { settingsPath := some "settings" }).run
      { file := some "notes", language := some "C#" }).run = .ok highlighter := by
    rw [hsettings, highlighterFor, hregistry]
    show (registry.require "C#").mapError _ = _
    rw [show registry.require "C#" = .ok highlighter from hhighlighter]
    rfl
  have hparse : Command.parse ["-l", "C#", "notes"] =
      .ok (.highlight { file := some "notes", language := some "C#" }) := by decide +kernel
  -- the theorem says what the run writes, line by line
  have hprints := printsFile plainFiles { settingsPath := some "settings" } hparse rfl rfl hfound
  have hfailure := hprints.succeeds
  have houtput := hprints.output_eq_of_plain (by rw [hsettings])
  have hlines : String.join ((Text.lines "\tint x;\r\n\n  y".toList).map fun line =>
      String.ofList ((terminalOf { maxLinesPerFrame := 1, color := false }).expandFrom 0 line) ++
        "\n") = "    int x;\n\n  y\n" := by decide +kernel
  rw [hsettings, hlines] at houtput
  generalize (run plainFiles _ _).run = outcome at hfailure houtput
  obtain ⟨output, failure⟩ := outcome
  obtain rfl : failure = none := hfailure
  obtain rfl : output = "    int x;\n\n  y\n" := houtput
  rfl

end CommandLine

end Highlight
