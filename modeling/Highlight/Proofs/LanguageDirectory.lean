import Highlight.Proofs.CommandLine
import Highlight.Proofs.FirstFault

/-!
# A directory of language files with one file more

The tables of the settings' directory are registered in the order of the names of their files. A
file that gives no table is passed over, whatever is wrong with it, and no run shows that it is
there. A table that is read but does not compile ends every run that highlights. So a file without
use goes unnoticed exactly if it gives no table or if another table does not compile either
(`fate_of_addsFile`).
-/

namespace Highlight

namespace Language

/-- The names of the language files among the names of a directory, in order. -/
def fileNames (names : List String) : List String :=
  (names.filter fun name => Path.extension? name == some "toml").mergeSort (· ≤ ·)

/-- The table that a file of a directory gives, if it gives one. -/
def loadFrom? (files : Files Id) (directory name : String) : Option Language :=
  (load files (Path.join directory name)).run.toOption

/-- The tables that the files of a directory give, in the order of the names of the files. -/
def tablesOf (files : Files Id) (directory : String) (names : List String) : List Language :=
  (fileNames names).filterMap (loadFrom? files directory)

/-- A directory that can be listed is loaded with the tables of its files that can be. -/
lemma loadDirectory_eq {files : Files Id} {directory : String} {names : List String}
    (hlist : (files.list directory).run = .ok names) :
    (loadDirectory files directory).run = .ok (tablesOf files directory names) := by
  unfold loadDirectory
  rw [Id.run_bind, hlist]
  simp only [Id.run_bind, Id.run_pure, List.idRun_mapM]
  rw [tablesOf, fileNames, pathsIn, List.map_map, List.filterMap_map]
  rfl

lemma pairwise_fileNames (names : List String) : (fileNames names).Pairwise (· ≤ ·) := by
  have hsorted := @List.pairwise_mergeSort String (fun a b => decide (a ≤ b))
    (fun a b c hab hbc => decide_eq_true
      (String.le_trans (of_decide_eq_true hab) (of_decide_eq_true hbc)))
    (fun a b => by simpa using String.le_total a b)
    (names.filter fun name => Path.extension? name == some "toml")
  exact hsorted.imp of_decide_eq_true

/-- The files are the listed names that end as tables do. -/
lemma perm_fileNames (names : List String) :
    (fileNames names).Perm (names.filter fun name => Path.extension? name == some "toml") :=
  List.mergeSort_perm _ _

/-- One name more goes in between the others. -/
theorem exists_fileNames_eq {names names' : List String} {name : String}
    (hname : Path.extension? name = some "toml") (hperm : names'.Perm (name :: names)) :
    ∃ earlier later, fileNames names = earlier ++ later ∧
      fileNames names' = earlier ++ name :: later := by
  have hkept : (fileNames names').Perm (name :: fileNames names) := by
    refine (perm_fileNames names').trans ((hperm.filter _).trans ?_)
    rw [List.filter_cons_of_pos (by simp [hname])]
    exact (perm_fileNames names).symm.cons name
  obtain ⟨earlier, later, hsplit⟩ := List.append_of_mem (hkept.symm.mem_iff.1 List.mem_cons_self)
  refine ⟨earlier, later, ?_, hsplit⟩
  rw [hsplit] at hkept
  have hrest : (fileNames names).Perm (earlier ++ later) :=
    (List.perm_middle.symm.trans hkept).cons_inv.symm
  -- both are sorted lists of the same names
  have hsorted := pairwise_fileNames names'
  rw [hsplit] at hsorted
  have hsorted' : (earlier ++ later).Pairwise (· ≤ ·) :=
    hsorted.sublist ((List.sublist_cons_self name later).append_left earlier)
  exact hrest.eq_of_pairwise (fun a b _ _ => String.le_antisymm) (pairwise_fileNames names) hsorted'

/-- A table that a file gives has passed its check. -/
theorem validate_of_loadFrom? {files : Files Id} {directory name : String} {language : Language}
    (h : loadFrom? files directory name = some language) : language.validate = .ok () := by
  unfold loadFrom? load at h
  rw [Id.run_bind] at h
  cases hread : (files.read (Path.join directory name)).run with
  | error cause =>
    rw [hread] at h
    cases h
  | ok text =>
    rw [hread] at h
    simp only [Id.run_pure] at h
    cases hparse : parse text (Path.join directory name) with
    | error cause =>
      rw [hparse] at h
      cases h
    | ok found =>
      rw [hparse] at h
      cases h
      -- a file is validated when it is read
      exact validate_of_parse hparse

end Language

namespace PatternHighlighter

/-- A table that passes its check and is faulty nevertheless has a rule whose pattern is empty or
does not compile. -/
theorem exists_rule_of_error {language : Language} {fault : LanguageError}
    (hvalid : language.validate = .ok ()) (h : ofLanguage language = .error fault) :
    ∃ rule ∈ language.rules, rule.pattern = "" ∨
      Regex.Program.ofPattern? rule.anchoredPattern (!language.caseSensitive) = none := by
  obtain ⟨before, rule, behind, hrules, -, hfault⟩ :=
    (Language.firstFault_iff_of_validate hvalid).1 (ofLanguage_eq_error_iff.1 h)
  refine ⟨rule, ?_, ?_⟩
  · rw [hrules]
    exact List.mem_append_right before List.mem_cons_self
  · cases hfault with
    | emptyPattern hpattern => exact .inl hpattern
    | invalidPattern hpattern hprogram => exact .inr hprogram

end PatternHighlighter

namespace Registry

/-- What keeps a table from being registered, if anything does. -/
def fault? (language : Language) : Option LanguageError :=
  match PatternHighlighter.ofLanguage language with
  | .error fault => some fault
  | .ok _ => none

lemma fault?_eq_some_iff {language : Language} {fault : LanguageError} :
    fault? language = some fault ↔ PatternHighlighter.ofLanguage language = .error fault := by
  unfold fault?
  cases PatternHighlighter.ofLanguage language with
  | error other => simp
  | ok patterns => simp

lemma exists_fault_iff {tables : List Language} :
    (∃ fault, tables.findSome? fault? = some fault) ↔
      ∃ language ∈ tables, ∃ fault, PatternHighlighter.ofLanguage language = .error fault := by
  constructor
  · rintro ⟨fault, hfault⟩
    obtain ⟨language, hmem, hlanguage⟩ := List.exists_of_findSome?_eq_some hfault
    exact ⟨language, hmem, fault, fault?_eq_some_iff.1 hlanguage⟩
  · rintro ⟨language, hmem, fault, hlanguage⟩
    rw [← Option.isSome_iff_exists, List.findSome?_isSome_iff]
    exact ⟨language, hmem, by rw [fault?_eq_some_iff.2 hlanguage]; rfl⟩

/-- A table with a fault is refused by every registry, with that fault. -/
lemma addLanguage_of_fault {language : Language} {fault : LanguageError}
    (h : fault? language = some fault) (registry : Registry) :
    registry.addLanguage language = .error fault := by
  rw [addLanguage, fault?_eq_some_iff.1 h]
  rfl

/-- A table without a fault is registered, and no name is lost by that. -/
theorem exists_addLanguage {language : Language} (h : fault? language = none)
    (registry : Registry) : ∃ after, registry.addLanguage language = .ok after ∧
      ∀ name, (registry.get? name).isSome = true → (after.get? name).isSome = true := by
  unfold fault? at h
  unfold addLanguage
  cases hpatterns : PatternHighlighter.ofLanguage language with
  | error other =>
    rw [hpatterns] at h
    cases h
  | ok patterns =>
    refine ⟨_, rfl, fun name hname => ?_⟩
    rw [get?_addHighlighter]
    split
    · rfl
    · exact hname

/-- Registering tables ends with the first fault. -/
theorem foldlM_addLanguage_of_fault {tables : List Language} {fault : LanguageError}
    (h : tables.findSome? fault? = some fault) (registry : Registry) :
    tables.foldlM addLanguage registry = .error fault := by
  induction tables generalizing registry with
  | nil => cases h
  | cons language tables ih =>
    rw [List.findSome?_cons] at h
    rw [List.foldlM_cons]
    cases hfault : fault? language with
    | some other =>
      rw [hfault] at h
      cases h
      rw [addLanguage_of_fault hfault]
      rfl
    | none =>
      rw [hfault] at h
      obtain ⟨after, hafter, -⟩ := exists_addLanguage hfault registry
      rw [hafter]
      exact ih h after

/-- Tables without a fault are all registered, and no name is lost by that. -/
theorem exists_foldlM_addLanguage {tables : List Language}
    (h : tables.findSome? fault? = none) (registry : Registry) :
    ∃ after, tables.foldlM addLanguage registry = .ok after ∧
      ∀ name, (registry.get? name).isSome = true → (after.get? name).isSome = true := by
  induction tables generalizing registry with
  | nil => exact ⟨registry, rfl, fun name hname => hname⟩
  | cons language tables ih =>
    rw [List.findSome?_cons] at h
    cases hfault : fault? language with
    | some other =>
      rw [hfault] at h
      cases h
    | none =>
      rw [hfault] at h
      obtain ⟨next, hnext, hkept⟩ := exists_addLanguage hfault registry
      obtain ⟨after, hafter, hall⟩ := ih h next
      refine ⟨after, ?_, fun name hname => hall name (hkept name hname)⟩
      rw [List.foldlM_cons, hnext]
      exact hafter

end Registry

namespace CommandLine

open Highlight.Language (fileNames loadFrom? tablesOf)
open Highlight.Registry (fault?)

variable {before after files : Files Id} {environment : Environment} {settings : Settings}
  {directory name : String} {names : List String} {options : Options}

/-- The files that a command line names. -/
def namedFiles (arguments : List String) : List String :=
  match Command.parse arguments with
  | .ok (.highlight options) => options.file.toList ++ options.languageFiles
  | _ => []

/-- The tables of the directory are registered in the order of the names of their files. -/
theorem addDirectory_eq (hdirectory : settings.languageDirectory = some directory)
    (hlist : (files.list directory).run = .ok names) (registry : Registry) :
    (addDirectory files settings registry).run =
      (tablesOf files directory names).foldlM Registry.addLanguage registry := by
  unfold addDirectory
  rw [hdirectory]
  simp only
  rw [Id.run_bind, Language.loadDirectory_eq hlist]
  rfl

/-- A run that highlights ends with the first fault of a table of the directory. -/
theorem highlightWith_of_fault (hdirectory : settings.languageDirectory = some directory)
    (hlist : (files.list directory).run = .ok names) {fault : LanguageError}
    (hfault : (tablesOf files directory names).findSome? fault? = some fault)
    (options : Options) :
    highlightWith files settings options =
      { output := "", failure := some (.language fault) } := by
  obtain ⟨registry, hregistry, -⟩ := Registry.exists_withMaxLines settings.maxLinesPerFrame
  have hadded := addDirectory_eq hdirectory hlist registry
  rw [Registry.foldlM_addLanguage_of_fault hfault] at hadded
  have hfailed : (highlighterFor files settings options).run = .error (.language fault) := by
    rw [highlighterFor, hregistry]
    simp only [Id.run_bind, hadded]
    rfl
  rw [highlightWith, hfailed]

/-- Where the tables of the directory have no fault, a run that asks for a built-in language and
for nothing else succeeds and writes nothing. -/
theorem highlightWith_of_no_fault (hdirectory : settings.languageDirectory = some directory)
    (hlist : (files.list directory).run = .ok names)
    (hfault : (tablesOf files directory names).findSome? fault? = none) :
    highlightWith files settings { language := some Builtin.csharp.name } = { output := "" } := by
  obtain ⟨registry, hregistry, hrequire⟩ :=
    Registry.exists_require_builtin settings.maxLinesPerFrame
  -- the languages that are built in are still there when the tables have been added
  have hbuiltin := (Registry.exists_require_iff registry _).1
    (hrequire Builtin.csharp List.mem_cons_self)
  obtain ⟨filled, hfilled, hkept⟩ := Registry.exists_foldlM_addLanguage hfault registry
  have hadded := (addDirectory_eq hdirectory hlist registry).trans hfilled
  obtain ⟨highlighter, hfound⟩ :=
    (Registry.exists_require_iff filled _).2 (hkept _ hbuiltin)
  have hhighlighter : (highlighterFor files settings
      { language := some Builtin.csharp.name }).run = .ok highlighter := by
    rw [highlighterFor, hregistry]
    simp only [Id.run_bind, hadded]
    show (filled.require Builtin.csharp.name).mapError _ = _
    rw [hfound]
    rfl
  rw [highlightWith, hhighlighter]
  rfl

/-! ## Two file systems -/

/-- What is loaded from a path depends on what is read there only. -/
lemma load_congr {path : String} (h : (after.read path).run = (before.read path).run) :
    (Language.load after path).run = (Language.load before path).run := by
  unfold Language.load
  rw [Id.run_bind, Id.run_bind, h]

/-- The settings depend on what is read at their path only. -/
lemma settings_congr (h : ∀ path, Settings.path? environment = some path →
    (after.read path).run = (before.read path).run) :
    (Settings.load after environment).run = (Settings.load before environment).run := by
  unfold Settings.load
  cases hpath : Settings.path? environment with
  | none => rfl
  | some path =>
    simp only
    rw [Id.run_bind, Id.run_bind, h path hpath]

/-- The tables that the arguments name depend on what is read at their paths only. -/
lemma addFiles_congr {paths : List String}
    (h : ∀ path ∈ paths, (after.read path).run = (before.read path).run) (registry : Registry) :
    (addFiles after registry paths).run = (addFiles before registry paths).run := by
  induction paths generalizing registry with
  | nil => rfl
  | cons path paths ih =>
    rw [addFiles, addFiles, Id.run_bind, Id.run_bind, load_congr (h path List.mem_cons_self)]
    cases (Language.load before path).run with
    | error cause => rfl
    | ok language =>
      simp only
      cases registry.addLanguage language with
      | error cause => rfl
      | ok next => exact ih (fun other hother => h other (List.mem_cons_of_mem path hother)) next

/-- A run shows of the files no more than the tables of the directory and what the command line
names. -/
theorem highlightWith_congr
    (hdirectory : ∀ registry, (addDirectory after settings registry).run =
      (addDirectory before settings registry).run)
    (hnamed : ∀ path ∈ options.file.toList ++ options.languageFiles,
      (after.read path).run = (before.read path).run) :
    highlightWith after settings options = highlightWith before settings options := by
  have hfiles : ∀ registry, (addFiles after registry options.languageFiles).run =
      (addFiles before registry options.languageFiles).run :=
    addFiles_congr fun path hpath => hnamed path (List.mem_append_right _ hpath)
  have hhighlighter : (highlighterFor after settings options).run =
      (highlighterFor before settings options).run := by
    unfold highlighterFor
    cases Registry.withMaxLines settings.maxLinesPerFrame with
    | error cause => rfl
    | ok registry =>
      simp only
      rw [Id.run_bind, Id.run_bind, hdirectory]
      cases (addDirectory before settings registry).run with
      | error cause => rfl
      | ok registry =>
        simp only
        rw [Id.run_bind, Id.run_bind, hfiles]
  unfold highlightWith
  rw [hhighlighter]
  cases (highlighterFor before settings options).run with
  | error failure => rfl
  | ok highlighter =>
    simp only
    cases hfile : options.file with
    | none => rfl
    | some file =>
      have hread := hnamed file (by rw [hfile]; exact List.mem_cons_self)
      simp only [hread]

/-- Whether a second file system holds one language file more than a first in the directory that the
settings name, the other files there and the settings themselves being the same. -/
structure AddsFile (before after : Files Id) (environment : Environment) (directory : String)
    (names : List String) (name : String) : Prop where
  directory_eq : (Settings.load before environment).run.languageDirectory = some directory
  list_before : (before.list directory).run = .ok names
  list_after : ∃ names', (after.list directory).run = .ok names' ∧ names'.Perm (name :: names)
  extension_eq : Path.extension? name = some "toml"
  read_settings : ∀ path, Settings.path? environment = some path →
    (after.read path).run = (before.read path).run
  read_others : ∀ other ∈ names, (after.read (Path.join directory other)).run =
    (before.read (Path.join directory other)).run

namespace AddsFile

/-- The table of the new file comes in between the tables that were there. -/
theorem exists_tablesOf_eq (h : AddsFile before after environment directory names name) :
    ∃ names' earlier later, (after.list directory).run = .ok names' ∧
      tablesOf before directory names = earlier ++ later ∧
      tablesOf after directory names' =
        earlier ++ (loadFrom? after directory name).toList ++ later := by
  obtain ⟨names', hlist, hperm⟩ := h.list_after
  obtain ⟨earlier, later, hbefore, hafter⟩ :=
    Language.exists_fileNames_eq h.extension_eq hperm
  -- the files that were there hold what they held
  have hsame : ∀ other ∈ fileNames names,
      loadFrom? after directory other = loadFrom? before directory other := by
    intro other hother
    have hmem := List.mem_of_mem_filter ((Language.perm_fileNames names).mem_iff.1 hother)
    unfold loadFrom?
    rw [load_congr (h.read_others other hmem)]
  refine ⟨names', earlier.filterMap (loadFrom? before directory),
    later.filterMap (loadFrom? before directory), hlist, ?_, ?_⟩
  · rw [tablesOf, hbefore, List.filterMap_append]
  · rw [tablesOf, hafter, List.filterMap_append, List.append_assoc]
    rw [hbefore] at hsame
    have hearlier := List.filterMap_congr fun other hother =>
      hsame other (List.mem_append_left later hother)
    have hlater := List.filterMap_congr fun other hother =>
      hsame other (List.mem_append_right earlier hother)
    rw [hearlier, Registry.filterMap_cons_eq_append, hlater]

lemma settings_eq (h : AddsFile before after environment directory names name) :
    (Settings.load after environment).run = (Settings.load before environment).run :=
  settings_congr h.read_settings

/-- The first fault of the directory is that of the new table or one that was there. -/
theorem fault_iff (h : AddsFile before after environment directory names name) :
    ∃ names', (after.list directory).run = .ok names' ∧
      ((tablesOf after directory names').findSome? fault? = none ↔
        (tablesOf before directory names).findSome? fault? = none ∧
          (loadFrom? after directory name).bind fault? = none) := by
  obtain ⟨names', earlier, later, hlist, hbefore, hafter⟩ := h.exists_tablesOf_eq
  refine ⟨names', hlist, ?_⟩
  rw [hbefore, hafter]
  simp only [List.findSome?_append, Option.or_eq_none_iff]
  have hnew : (loadFrom? after directory name).toList.findSome? fault? =
      (loadFrom? after directory name).bind fault? := by
    cases loadFrom? after directory name with
    | none => rfl
    | some language => exact List.findSome?_singleton
  rw [hnew, and_assoc, and_assoc]
  exact and_congr_right fun _ => and_comm

end AddsFile

/-- Whether a file cannot be turned into a highlighter: it gives no table, or a table with a fault.
-/
def Unusable (files : Files Id) (directory name : String) : Prop :=
  ∀ language, loadFrom? files directory name = some language →
    ∃ fault, PatternHighlighter.ofLanguage language = .error fault

/-- An unusable file that loads has a fault. -/
lemma Unusable.exists_fault (h : Unusable files directory name)
    (hsome : (loadFrom? files directory name).isSome = true) :
    ∃ fault, (loadFrom? files directory name).bind fault? = some fault := by
  obtain ⟨language, hlanguage⟩ := Option.isSome_iff_exists.1 hsome
  obtain ⟨fault, hfault⟩ := h language hlanguage
  exact ⟨fault, by rw [hlanguage]; exact Registry.fault?_eq_some_iff.2 hfault⟩

/-- A run that highlights does so with the settings that it loads first. -/
lemma run_highlight {arguments : List String}
    (hparse : Command.parse arguments = .ok (.highlight options)) :
    (run files environment arguments).run =
      highlightWith files (Settings.load files environment).run options := by
  rw [run, hparse]
  exact highlight_eq_highlightWith files environment options

/-- A command line that asks for no highlighting leaves the files alone. -/
theorem run_congr_of_parse {arguments : List String}
    (hparse : ∀ options, Command.parse arguments ≠ .ok (.highlight options)) :
    (run after environment arguments).run = (run before environment arguments).run := by
  unfold run
  cases hcommand : Command.parse arguments with
  | error cause => rfl
  | ok command =>
    cases command with
    | help => rfl
    | version => rfl
    | highlight options => exact absurd hcommand (hparse options)

/-- The files that a run reads are the one to highlight and the named tables. -/
lemma namedFiles_of_parse {arguments : List String}
    (hparse : Command.parse arguments = .ok (.highlight options)) :
    namedFiles arguments = options.file.toList ++ options.languageFiles := by
  rw [namedFiles, hparse]

/-- A command line that asks for a built-in language and for nothing else. -/
theorem parse_csharp : Command.parse ["-l", "C#"] =
    .ok (.highlight { language := some Builtin.csharp.name }) := by decide +kernel

/-- What a file without use does to a directory of language files and to the runs of the program. -/
structure Fate (before after : Files Id) (environment : Environment) (directory : String)
    (names : List String) (name : String) : Prop where
  /-- The tables that the files give are registered in the order of the names of the files. -/
  registered : ∀ registry,
    (addDirectory before (Settings.load before environment).run registry).run =
      (tablesOf before directory names).foldlM Registry.addLanguage registry
  sorted : (fileNames names).Pairwise (· ≤ ·)
  /-- A file that gives no table is passed over: the tables are registered as before, and no command
  line shows the difference, unless it names a file in which the two systems differ. -/
  passed_over : loadFrom? after directory name = none →
    (∀ registry, (addDirectory after (Settings.load after environment).run registry).run =
      (addDirectory before (Settings.load before environment).run registry).run) ∧
    ∀ arguments,
      (∀ path ∈ namedFiles arguments, (after.read path).run = (before.read path).run) →
      (run after environment arguments).run = (run before environment arguments).run
  /-- A table that is read is without use because of a pattern that is empty or does not compile. -/
  by_pattern : ∀ language, loadFrom? after directory name = some language →
    ∃ rule ∈ language.rules, rule.pattern = "" ∨
      Regex.Program.ofPattern? rule.anchoredPattern (!language.caseSensitive) = none
  /-- A table that does not compile ends every run that highlights, without any output and with the
  first fault in the order of the names. -/
  fatal : (loadFrom? after directory name).isSome = true →
    ∃ names' fault, (after.list directory).run = .ok names' ∧
      (tablesOf after directory names').findSome? fault? = some fault ∧
      ∀ arguments options, Command.parse arguments = .ok (.highlight options) →
        (run after environment arguments).run =
          { output := "", failure := some (.language fault) }
  /-- No command line shows the difference if the file gives no table or if the table of another
  file has a fault, and only then. -/
  unnoticed_iff : (∀ arguments,
      (∀ path ∈ namedFiles arguments, (after.read path).run = (before.read path).run) →
      (run after environment arguments).run.status = (run before environment arguments).run.status ∧
        (run after environment arguments).run.output =
          (run before environment arguments).run.output) ↔
    loadFrom? after directory name = none ∨
      ∃ language ∈ tablesOf before directory names,
        ∃ fault, PatternHighlighter.ofLanguage language = .error fault

namespace AddsFile

/-- A file that does not load changes nothing, neither for the registry nor for a run that does not
name it. -/
lemma passed_over (h : AddsFile before after environment directory names name)
    (hnone : loadFrom? after directory name = none) :
    (∀ registry, (addDirectory after (Settings.load after environment).run registry).run =
      (addDirectory before (Settings.load before environment).run registry).run) ∧
    ∀ arguments,
      (∀ path ∈ namedFiles arguments, (after.read path).run = (before.read path).run) →
      (run after environment arguments).run = (run before environment arguments).run := by
  -- the tables of the directory are the same, for the file gives none
  have hdirectory : ∀ registry,
      (addDirectory after (Settings.load after environment).run registry).run =
        (addDirectory before (Settings.load before environment).run registry).run := by
    intro registry
    obtain ⟨names', earlier, later, hlist, hbefore, hafter⟩ := h.exists_tablesOf_eq
    rw [h.settings_eq, addDirectory_eq h.directory_eq hlist,
      addDirectory_eq h.directory_eq h.list_before, hafter, hbefore, hnone, Option.toList_none,
      List.append_nil]
  refine ⟨hdirectory, fun arguments hnamed => ?_⟩
  by_cases hparse : ∃ options, Command.parse arguments = .ok (.highlight options)
  · obtain ⟨options, hparse⟩ := hparse
    rw [namedFiles_of_parse hparse] at hnamed
    rw [h.settings_eq] at hdirectory
    rw [run_highlight hparse, run_highlight hparse, h.settings_eq]
    exact highlightWith_congr hdirectory hnamed
  · exact run_congr_of_parse fun options hoptions => hparse ⟨options, hoptions⟩

/-- A fault of the new table or of one that was there ends every run that highlights. -/
theorem fatal (h : AddsFile before after environment directory names name)
    (hfault : (∃ fault, (tablesOf before directory names).findSome? fault? = some fault) ∨
      ∃ fault, (loadFrom? after directory name).bind fault? = some fault) :
    ∃ names' fault, (after.list directory).run = .ok names' ∧
      (tablesOf after directory names').findSome? fault? = some fault ∧
      ∀ arguments options, Command.parse arguments = .ok (.highlight options) →
        (run after environment arguments).run =
          { output := "", failure := some (.language fault) } := by
  obtain ⟨names', hlist, hiff⟩ := h.fault_iff
  -- the first fault is among the old tables or in the new one
  have hsome : ∃ fault, (tablesOf after directory names').findSome? fault? = some fault := by
    rw [← Option.ne_none_iff_exists', ne_eq, hiff]
    rintro ⟨hbefore, hnew⟩
    rcases hfault with ⟨fault, hfault⟩ | ⟨fault, hfault⟩
    · rw [hbefore] at hfault
      cases hfault
    · rw [hnew] at hfault
      cases hfault
  obtain ⟨fault, hfirst⟩ := hsome
  refine ⟨names', fault, hlist, hfirst, fun arguments options hparse => ?_⟩
  rw [run_highlight hparse]
  refine highlightWith_of_fault ?_ hlist hfirst options
  rw [h.settings_eq]
  exact h.directory_eq

end AddsFile

/-- A file without use in the directory of language files goes unnoticed if it gives no table, and
it ends every run that highlights if its table does not compile. -/
theorem fate_of_addsFile (h : AddsFile before after environment directory names name)
    (hunusable : Unusable after directory name) :
    Fate before after environment directory names name := by
  constructor
  case registered => exact addDirectory_eq h.directory_eq h.list_before
  case sorted => exact Language.pairwise_fileNames names
  case passed_over => exact h.passed_over
  case by_pattern =>
    intro language hlanguage
    obtain ⟨fault, hfault⟩ := hunusable language hlanguage
    exact PatternHighlighter.exists_rule_of_error (Language.validate_of_loadFrom? hlanguage) hfault
  case fatal => exact fun hsome => h.fatal (.inr (hunusable.exists_fault hsome))
  case unnoticed_iff =>
    rw [← Registry.exists_fault_iff]
    constructor
    · intro hsame
      by_contra hnone
      rw [not_or] at hnone
      obtain ⟨hload, hbefore⟩ := hnone
      -- a run that asks for a built-in language tells the two apart
      have hfaultless : (tablesOf before directory names).findSome? fault? = none :=
        Option.not_isSome_iff_eq_none.1 (mt Option.isSome_iff_exists.1 hbefore)
      have hquiet := highlightWith_of_no_fault h.directory_eq h.list_before hfaultless
      obtain ⟨names', fault, -, -, hfatal⟩ :=
        h.fatal (.inr (hunusable.exists_fault (Option.isSome_iff_ne_none.2 hload)))
      have hstatus := (hsame ["-l", "C#"] (by rw [namedFiles_of_parse parse_csharp]; simp)).1
      rw [hfatal _ _ parse_csharp, run_highlight parse_csharp, hquiet] at hstatus
      exact Nat.one_ne_zero hstatus
    · rintro (hload | hbefore) arguments hnamed
      · rw [(h.passed_over hload).2 arguments hnamed]
        exact ⟨rfl, rfl⟩
      · by_cases hparse : ∃ options, Command.parse arguments = .ok (.highlight options)
        · obtain ⟨options, hparse⟩ := hparse
          obtain ⟨names', fault, -, -, hfatal⟩ := h.fatal (.inl hbefore)
          obtain ⟨other, hother⟩ := hbefore
          rw [hfatal _ _ hparse, run_highlight hparse,
            highlightWith_of_fault h.directory_eq h.list_before hother]
          exact ⟨rfl, rfl⟩
        · rw [run_congr_of_parse fun options hoptions => hparse ⟨options, hoptions⟩]
          exact ⟨rfl, rfl⟩

/-- Settings that name a directory of language files, and the names and texts of the files there. -/
def tableFiles (tables : List (String × String)) : Files Id where
  read path :=
    if path = "settings" then .ok "language-dir = tables\n"
    else match tables.find? fun table => Path.join "tables" table.1 == path with
      | some table => .ok table.2
      | none => .error .notFound
  list path := if path = "tables" then .ok (tables.map (·.1)) else .error .notFound

/-- A table that compiles. -/
def notesTable : String × String := ("notes.toml", "name = \"Notes\"\nkeywords = [\"todo\"]\n")

/-- A table that is read and whose only pattern does not compile. -/
def unclosedTable : String × String :=
  ("unclosed.toml", "name = \"Unclosed\"\nrules = [[\"(\", \"String\"]]\n")

/-- The failing table is one file more in a directory with a good one. -/
lemma addsFile_unclosedTable :
    AddsFile (tableFiles [notesTable]) (tableFiles [unclosedTable, notesTable])
      { settingsPath := some "settings" } "tables" ["notes.toml"] "unclosed.toml" where
  directory_eq := by decide +kernel
  list_before := rfl
  list_after := ⟨["unclosed.toml", "notes.toml"], rfl, .refl _⟩
  extension_eq := by decide +kernel
  read_settings := by
    rintro path hpath
    cases hpath
    rfl
  read_others := by decide +kernel

lemma unusable_unclosedTable :
    Unusable (tableFiles [unclosedTable, notesTable]) "tables" "unclosed.toml" := by
  have hfault : (loadFrom? (tableFiles [unclosedTable, notesTable]) "tables" "unclosed.toml").map
      fault? = some (some (.invalidPattern "(" "Unclosed")) := by decide +kernel
  intro language hlanguage
  rw [hlanguage] at hfault
  exact ⟨_, Registry.fault?_eq_some_iff.1 (Option.some.inj hfault)⟩

theorem fate_unclosedTable :
    Fate (tableFiles [notesTable]) (tableFiles [unclosedTable, notesTable])
      { settingsPath := some "settings" } "tables" ["notes.toml"] "unclosed.toml" :=
  fate_of_addsFile addsFile_unclosedTable unusable_unclosedTable

/-- The pattern that does not compile turns a run that succeeds into a run that fails. -/
theorem status_unclosedTable :
    (run (tableFiles [notesTable]) { settingsPath := some "settings" } ["-l", "C#"]).run.status =
        0 ∧
      (run (tableFiles [unclosedTable, notesTable]) { settingsPath := some "settings" }
        ["-l", "C#"]).run.status = 1 := by
  have hfaultless : (tablesOf (tableFiles [notesTable]) "tables" ["notes.toml"]).findSome? fault? =
      none := by decide +kernel
  have hload : (loadFrom? (tableFiles [unclosedTable, notesTable]) "tables"
      "unclosed.toml").isSome = true := by decide +kernel
  obtain ⟨names', fault, -, -, hfatal⟩ :=
    addsFile_unclosedTable.fatal (.inr (unusable_unclosedTable.exists_fault hload))
  constructor
  · rw [run_highlight parse_csharp, highlightWith_of_no_fault addsFile_unclosedTable.directory_eq
      addsFile_unclosedTable.list_before hfaultless]
    rfl
  · rw [hfatal _ _ parse_csharp]
    rfl

end CommandLine

end Highlight
