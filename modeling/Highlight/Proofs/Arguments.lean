import Highlight.Arguments
import Mathlib.Tactic.Lemma

/-!
# What a command line asks for

A command line is read from left to right as groups of arguments (`ArgumentGroup`): an option with
the argument behind it, a flag for more messages, or a file. What complete groups ask for is put
together from what those of each kind say, in their order (`optionsOf`), so that groups of
different kinds can change places. Behind them something settles the answer (`Settles`), and what
follows that is not read. Every command line is made up of complete groups and of what settles it,
and that in one way only (`followsGroups`).
-/

namespace Highlight

/-! ## Groups of arguments -/

/-- What a group of arguments is for. -/
inductive ArgumentKind where
  | language
  | languageFile
  | tooltip
  | verbose
  | veryVerbose
  | file
deriving DecidableEq

namespace Command

/-- The options with a value. -/
def valueOptions : List (String × ArgumentKind) :=
  [("-l", .language), ("--lang", .language), ("--language-file", .languageFile),
    ("-t", .tooltip), ("--tooltip", .tooltip)]

/-- The flags for more messages. -/
def verboseFlags : List (String × ArgumentKind) :=
  [("-v", .verbose), ("--verbose", .verbose), ("-vv", .veryVerbose)]

/-- The options that begin a group. -/
def groupOptions : List (String × ArgumentKind) :=
  valueOptions ++ verboseFlags

/-- The options that are answered at once. -/
def questions : List (String × Command) :=
  [("-h", .help), ("--help", .help), ("-V", .version), ("--version", .version)]

/-- The names of all options. -/
def optionNames : List String :=
  questions.map Prod.fst ++ groupOptions.map Prod.fst

/-- Whether an argument begins as options do. -/
def LooksLikeOption (argument : String) : Prop :=
  argument.toList.head? = some '-'

end Command

open Command in
/-- A complete group of arguments. -/
inductive ArgumentGroup where
  /-- An option and the argument behind it, whatever that looks like. -/
  | option (name : String) (kind : ArgumentKind) (value : String)
      (known : (name, kind) ∈ valueOptions)
  /-- A flag for more messages. -/
  | flag (name : String) (kind : ArgumentKind) (known : (name, kind) ∈ verboseFlags)
  /-- A file. -/
  | file (path : String) (plain : ¬ LooksLikeOption path)

namespace ArgumentGroup

/-- What a group is for. -/
def kind : ArgumentGroup → ArgumentKind
  | option _ kind _ _ => kind
  | flag _ kind _ => kind
  | file _ _ => .file

/-- The argument that a group is given for. -/
def said : ArgumentGroup → String
  | option _ _ value _ => value
  | flag name _ _ => name
  | file path _ => path

/-- The arguments that a group consists of. -/
def arguments : ArgumentGroup → List String
  | option name _ value _ => [name, value]
  | flag name _ _ => [name]
  | file path _ => [path]

/-- The arguments that groups consist of, one group after the other. -/
def write (groups : List ArgumentGroup) : List String :=
  groups.flatMap arguments

/-- What the groups of a kind say, in their order. -/
def saidOf (kind : ArgumentKind) (groups : List ArgumentGroup) : List String :=
  (groups.filter (·.kind = kind)).map said

/-- Whether groups name one file at most. -/
def OneFile (groups : List ArgumentGroup) : Prop :=
  (saidOf .file groups).length ≤ 1

/-- What groups ask for: the file, the language named last, all language files and all words in
their order, and the verbosity, to which a flag adds one or two and which ends at 255. -/
def optionsOf (groups : List ArgumentGroup) : Options where
  file := (saidOf .file groups).head?
  language := (saidOf .language groups).getLast?
  languageFiles := saidOf .languageFile groups
  tooltips := saidOf .tooltip groups
  verbosity :=
    min ((saidOf .verbose groups).length + 2 * (saidOf .veryVerbose groups).length) 255

variable {group : ArgumentGroup} {groups more : List ArgumentGroup} {kind : ArgumentKind}

/-- The words of the first group are written first, whatever stands behind the groups. -/
lemma write_cons_append (rest : List String) :
    write (group :: groups) ++ rest = group.arguments ++ (write groups ++ rest) := by
  rw [write, List.flatMap_cons, List.append_assoc]
  rfl

/-- What is said about a kind comes in the order of the groups. -/
lemma saidOf_append :
    saidOf kind (groups ++ more) = saidOf kind groups ++ saidOf kind more := by
  rw [saidOf, List.filter_append, List.map_append]
  rfl

lemma saidOf_singleton :
    saidOf kind [group] = if group.kind = kind then [group.said] else [] := by
  rw [saidOf, List.filter_cons, List.filter_nil]
  simp only [decide_eq_true_eq]
  split <;> rfl

/-- The first groups of groups that name one file at most name one file at most. -/
lemma OneFile.of_append (h : OneFile (groups ++ more)) : OneFile groups := by
  rw [OneFile, saidOf_append, List.length_append] at h
  exact Nat.le_of_add_right_le h

/-- In front of a file there is no other. -/
theorem OneFile.saidOf_file (h : OneFile (groups ++ [group])) (hkind : group.kind = .file) :
    saidOf .file groups = [] := by
  rw [OneFile, saidOf_append, saidOf_singleton, if_pos hkind, List.length_append,
    List.length_singleton] at h
  exact List.length_eq_zero_iff.1 (Nat.le_zero.1 (Nat.le_of_add_le_add_right h))

/-- Another group keeps to one file, unless it is a second one. -/
theorem OneFile.concat (h : OneFile groups) (group : ArgumentGroup) :
    OneFile (groups ++ [group]) ∨ group.kind = .file ∧ saidOf .file groups ≠ [] := by
  rw [OneFile, saidOf_append, saidOf_singleton, List.length_append]
  by_cases hkind : group.kind = .file
  · rw [if_pos hkind]
    by_cases hnil : saidOf .file groups = []
    · rw [hnil]
      exact .inl (Nat.le_refl 1)
    · exact .inr ⟨hkind, hnil⟩
  · rw [if_neg hkind]
    exact .inl h

/-- Groups name one file at most, or there are a first and a second file. -/
lemma oneFile_or_exists (groups : List ArgumentGroup) :
    OneFile groups ∨ ∃ first second later, saidOf .file groups = first :: second :: later := by
  unfold OneFile
  rcases saidOf .file groups with _ | ⟨first, _ | ⟨second, later⟩⟩
  · exact .inl (Nat.zero_le 1)
  · exact .inl (Nat.le_refl 1)
  · exact .inr ⟨first, second, later, rfl⟩

end ArgumentGroup

namespace Command

open ArgumentGroup

/-! ## What stands behind the groups -/

/-- What settles the answer to a command line behind complete groups, and that answer. -/
inductive Settles (groups : List ArgumentGroup) :
    List String → Except ArgumentError Command → Prop where
  /-- Nothing: what the groups ask for is done. -/
  | complete : Settles groups [] (.ok (.highlight (optionsOf groups)))
  /-- An option that is answered at once. -/
  | question {name : String} {command : Command} (rest : List String)
      (known : (name, command) ∈ questions) : Settles groups (name :: rest) (.ok command)
  /-- An option that is not known. -/
  | unknownOption {name : String} (rest : List String) (option : LooksLikeOption name)
      (unknown : name ∉ optionNames) :
      Settles groups (name :: rest) (.error (.unknownOption name))
  /-- A file, though there is one among the groups. -/
  | secondFile {path : String} (rest : List String) (plain : ¬ LooksLikeOption path)
      (named : saidOf .file groups ≠ []) :
      Settles groups (path :: rest) (.error (.unexpectedArgument path))
  /-- An option that has to have a value and stands at the end. -/
  | missingValue {name : String} {kind : ArgumentKind} (known : (name, kind) ∈ valueOptions) :
      Settles groups [name] (.error (.missingValue name))

/-- Whether a command line consists of complete groups, one file at most among them, and of what
settles the answer. -/
structure Reads (arguments : List String) (groups : List ArgumentGroup) (rest : List String)
    (answer : Except ArgumentError Command) : Prop where
  written : arguments = write groups ++ rest
  oneFile : OneFile groups
  settled : Settles groups rest answer

variable {arguments rest rest' : List String} {name path : String}
  {kind kind' : ArgumentKind} {command : Command} {options : Options}
  {group other : ArgumentGroup} {groups more others : List ArgumentGroup}
  {answer answer' : Except ArgumentError Command}

/-! ## The names of options -/

lemma mem_groupOptions_of_value (known : (name, kind) ∈ valueOptions) :
    (name, kind) ∈ groupOptions :=
  List.mem_append_left verboseFlags known

lemma mem_groupOptions_of_flag (known : (name, kind) ∈ verboseFlags) :
    (name, kind) ∈ groupOptions :=
  List.mem_append_right valueOptions known

lemma mem_optionNames_iff : name ∈ optionNames ↔
    (∃ command, (name, command) ∈ questions) ∨ ∃ kind, (name, kind) ∈ groupOptions := by
  simp only [optionNames, List.mem_append, List.mem_map, Prod.exists, exists_and_right,
    exists_eq_right]

lemma mem_optionNames (known : (name, kind) ∈ groupOptions) : name ∈ optionNames :=
  mem_optionNames_iff.2 (.inr ⟨kind, known⟩)

lemma looksLikeOption_of_mem (h : name ∈ optionNames) : LooksLikeOption name := by
  have hall : ∀ name ∈ optionNames, name.toList.head? = some '-' := by decide
  exact hall name h

/-- No name that begins a group is answered at once. -/
lemma notMem_questions (known : (name, kind) ∈ groupOptions) : (name, command) ∉ questions := by
  have hall : ∀ entry ∈ groupOptions, ∀ question ∈ questions, entry.1 ≠ question.1 := by decide
  exact fun known' => hall _ known _ known' rfl

lemma notMem_verboseFlags (known : (name, kind) ∈ valueOptions) :
    (name, kind') ∉ verboseFlags := by
  have hall : ∀ option ∈ valueOptions, ∀ flag ∈ verboseFlags, option.1 ≠ flag.1 := by decide
  exact fun known' => hall _ known _ known' rfl

/-- An option is for one kind of groups. -/
theorem kind_unique (known : (name, kind) ∈ groupOptions)
    (known' : (name, kind') ∈ groupOptions) : kind = kind' := by
  have hall : ∀ entry ∈ groupOptions, ∀ other ∈ groupOptions,
      entry.1 = other.1 → entry.2 = other.2 := by decide
  exact hall _ known _ known' rfl

lemma kind_ne_file (known : (name, kind) ∈ groupOptions) : kind ≠ .file := by
  have hall : ∀ entry ∈ groupOptions, entry.2 ≠ .file := by decide
  exact hall _ known

/-- The test of the parser for an option is `LooksLikeOption`. -/
theorem startsWith_iff : name.startsWith "-" = true ↔ LooksLikeOption name := by
  rw [String.startsWith_string_iff, LooksLikeOption, List.head?_eq_some_iff]
  exact exists_congr fun rest => eq_comm

/-! ## Reading one argument -/

/-- The options with what a group of a kind says. -/
def record (options : Options) (said : String) : ArgumentKind → Options
  | .language => { options with language := some said }
  | .languageFile => { options with languageFiles := options.languageFiles ++ [said] }
  | .tooltip => { options with tooltips := options.tooltips ++ [said] }
  | .verbose => moreVerbose options 1
  | .veryVerbose => moreVerbose options 2
  | .file => { options with file := some said }

/-- A question is answered whatever has been read and whatever comes behind it. -/
lemma parseFrom_question (known : (name, command) ∈ questions) :
    parseFrom options (name :: rest) = .ok command := by
  simp only [questions, List.mem_cons, List.not_mem_nil, or_false, Prod.mk.injEq] at known
  obtain ⟨rfl, rfl⟩ | ⟨rfl, rfl⟩ | ⟨rfl, rfl⟩ | ⟨rfl, rfl⟩ := known <;> cases rest <;> rfl

/-- An option with a value takes the next argument, whatever that looks like, and is refused if
there is none. -/
lemma parseFrom_option (known : (name, kind) ∈ valueOptions) :
    parseFrom options [name] = .error (.missingValue name) ∧ ∀ value rest,
      parseFrom options (name :: value :: rest) = parseFrom (record options value kind) rest := by
  simp only [valueOptions, List.mem_cons, List.not_mem_nil, or_false, Prod.mk.injEq] at known
  obtain ⟨rfl, rfl⟩ | ⟨rfl, rfl⟩ | ⟨rfl, rfl⟩ | ⟨rfl, rfl⟩ | ⟨rfl, rfl⟩ := known <;>
    exact ⟨rfl, fun _ _ => rfl⟩

/-- A flag is recorded and takes nothing else. -/
lemma parseFrom_flag (known : (name, kind) ∈ verboseFlags) :
    parseFrom options (name :: rest) = parseFrom (record options name kind) rest := by
  simp only [verboseFlags, List.mem_cons, List.not_mem_nil, or_false, Prod.mk.injEq] at known
  obtain ⟨rfl, rfl⟩ | ⟨rfl, rfl⟩ | ⟨rfl, rfl⟩ := known <;> cases rest <;> rfl

/-- An argument that is no option is refused if it looks like one, and otherwise it is the file. -/
theorem parseFrom_of_notMem (h : name ∉ optionNames) :
    parseFrom options (name :: rest) =
      if name.startsWith "-" then .error (.unknownOption name)
      else if options.file.isSome then .error (.unexpectedArgument name)
      else parseFrom (record options name .file) rest := by
  simp only [optionNames, questions, groupOptions, valueOptions, verboseFlags, List.map_cons,
    List.map_nil, List.cons_append, List.nil_append, List.mem_cons, List.not_mem_nil, or_false,
    not_or] at h
  rw [parseFrom.eq_def]
  simp only [h, or_self, if_false]
  rfl

/-- An argument that does not look like an option is the file, unless there is one. -/
lemma parseFrom_file (h : ¬ LooksLikeOption path) :
    parseFrom options (path :: rest) =
      if options.file.isSome then .error (.unexpectedArgument path)
      else parseFrom (record options path .file) rest := by
  rw [parseFrom_of_notMem (mt looksLikeOption_of_mem h), if_neg (mt startsWith_iff.1 h)]

/-- A second file is refused. -/
theorem parseFrom_secondFile (h : ¬ LooksLikeOption path) (hfile : saidOf .file groups ≠ []) :
    parseFrom (optionsOf groups) (path :: rest) = .error (.unexpectedArgument path) := by
  refine (parseFrom_file h).trans (if_pos ?_)
  rw [Option.isSome_iff_ne_none]
  exact mt List.head?_eq_none_iff.1 hfile

/-- What settles the answer is answered so. -/
theorem Settles.parseFrom_eq (h : Settles groups rest answer) :
    parseFrom (optionsOf groups) rest = answer := by
  cases h with
  | complete => rfl
  | question rest known => exact parseFrom_question known
  | unknownOption rest option unknown =>
    rw [parseFrom_of_notMem unknown, if_pos (startsWith_iff.2 option)]
  | secondFile rest plain named => exact parseFrom_secondFile plain named
  | missingValue known => exact (parseFrom_option known).1

/-! ## Reading groups -/

/-- The last group is recorded in the options of the groups before it. -/
lemma optionsOf_concat (h : OneFile (groups ++ [group])) :
    optionsOf (groups ++ [group]) = record (optionsOf groups) group.said group.kind := by
  unfold optionsOf
  simp only [saidOf_append, saidOf_singleton]
  cases hkind : group.kind with
  | file => simp [record, h.saidOf_file hkind]
  | verbose | veryVerbose =>
    -- the sum is cut at 255 once or with every flag, which comes to the same
    simp only [record, moreVerbose, maxVerbosity, reduceCtorEq, if_true, if_false, List.append_nil,
      List.length_append, List.length_singleton, Options.mk.injEq, true_and]
    omega
  | _ => simp [record]

/-- A group is added to those read before. -/
theorem parseFrom_group (h : OneFile (groups ++ [group])) (rest : List String) :
    parseFrom (optionsOf groups) (group.arguments ++ rest) =
      parseFrom (optionsOf (groups ++ [group])) rest := by
  rw [optionsOf_concat h]
  cases group with
  | option name kind value known => exact (parseFrom_option known).2 value rest
  | flag name kind known => exact parseFrom_flag known
  | file path plain =>
    refine (parseFrom_file plain).trans (if_neg ?_)
    rw [optionsOf, h.saidOf_file rfl]
    exact Bool.false_ne_true

/-- Groups are added to those read before. -/
theorem parseFrom_write (h : OneFile (groups ++ more)) (rest : List String) :
    parseFrom (optionsOf groups) (write more ++ rest) =
      parseFrom (optionsOf (groups ++ more)) rest := by
  induction more generalizing groups with
  | nil =>
    rw [List.append_nil]
    rfl
  | cons group more ih =>
    rw [List.append_cons] at h ⊢
    rw [write_cons_append, parseFrom_group h.of_append]
    exact ih h

/-- Complete groups with one file at most are read to their end. -/
theorem parse_write (h : OneFile groups) (rest : List String) :
    parse (write groups ++ rest) = parseFrom (optionsOf groups) rest := by
  have hone : OneFile ([] ++ groups) := h
  exact parseFrom_write hone rest

/-- The answer that a reading ends with is the one that the parser gives. -/
lemma Reads.parse_eq (h : Reads arguments groups rest answer) : parse arguments = answer := by
  rw [h.written, parse_write h.oneFile, h.settled.parseFrom_eq]

/-! ## The order of groups -/

/-- A group for a file is one argument, which is no option. -/
theorem arguments_of_kind_eq_file (h : group.kind = .file) :
    group.arguments = [group.said] ∧ ¬ LooksLikeOption group.said := by
  cases group with
  | option name kind value known => exact absurd h (kind_ne_file (mem_groupOptions_of_value known))
  | flag name kind known => exact absurd h (kind_ne_file (mem_groupOptions_of_flag known))
  | file path plain => exact ⟨rfl, plain⟩

/-- Of several files the second is refused. -/
theorem parseFrom_write_of_files {first second : String} {later : List String} (h : OneFile groups)
    (hfiles : saidOf .file (groups ++ more) = first :: second :: later) (rest : List String) :
    parseFrom (optionsOf groups) (write more ++ rest) = .error (.unexpectedArgument second) := by
  induction more generalizing groups with
  | nil =>
    rw [List.append_nil] at hfiles
    rw [OneFile, hfiles] at h
    exact absurd (Nat.le_of_succ_le_succ h) (Nat.not_succ_le_zero _)
  | cons group more ih =>
    rw [write_cons_append]
    rw [List.append_cons] at hfiles
    rcases h.concat group with hone | ⟨hkind, hnamed⟩
    · rw [parseFrom_group hone]
      exact ih hone hfiles
    · -- the groups read before name the first file, so that this one names the second
      obtain ⟨file, hfile⟩ : ∃ file, saidOf .file groups = [file] :=
        List.length_eq_one_iff.1 (Nat.le_antisymm h (List.length_pos_iff.2 hnamed))
      rw [saidOf_append, saidOf_append, saidOf_singleton, if_pos hkind, hfile] at hfiles
      obtain ⟨hargument, hplain⟩ := arguments_of_kind_eq_file hkind
      obtain rfl : group.said = second := (List.cons_eq_cons.1 (List.cons_eq_cons.1 hfiles).2).1
      rw [hargument]
      exact parseFrom_secondFile hplain hnamed

/-- The answer depends only on what the groups of each kind say, in their order, and on what stands
behind the groups. -/
theorem parse_write_congr (h : ∀ kind, saidOf kind groups = saidOf kind others)
    (rest : List String) : parse (write groups ++ rest) = parse (write others ++ rest) := by
  rcases oneFile_or_exists groups with hone | ⟨first, second, later, hfiles⟩
  · have hother : OneFile others := by rwa [OneFile, ← h]
    rw [parse_write hone, parse_write hother]
    unfold optionsOf
    simp only [h]
  · have hnone : OneFile [] := Nat.zero_le 1
    have hother : saidOf .file others = first :: second :: later := by rwa [← h]
    exact (parseFrom_write_of_files hnone hfiles rest).trans
      (parseFrom_write_of_files hnone hother rest).symm

/-- Groups of different kinds can change places. -/
theorem parse_write_swap (h : group.kind ≠ other.kind) (rest : List String) :
    parse (write groups ++ (group.arguments ++ (other.arguments ++ rest))) =
      parse (write groups ++ (other.arguments ++ (group.arguments ++ rest))) := by
  have hwrite : ∀ first second : ArgumentGroup,
      write groups ++ (first.arguments ++ (second.arguments ++ rest)) =
        write (groups ++ [first] ++ [second]) ++ rest := by
    intro first second
    simp only [write, List.flatMap_append, List.flatMap_singleton, List.append_assoc]
  rw [hwrite, hwrite]
  refine parse_write_congr (fun kind => ?_) rest
  simp only [saidOf_append, saidOf_singleton, List.append_assoc]
  by_cases hkind : group.kind = kind
  · have hother : other.kind ≠ kind := fun hother => h (hkind.trans hother.symm)
    rw [if_neg hother, List.append_nil, List.nil_append]
  · rw [if_neg hkind, List.append_nil, List.nil_append]

/-! ## One reading of each command line -/

/-- A command line goes on with another group or with what settles the answer. -/
theorem exists_group_or_settles (h : OneFile groups) (arguments : List String) :
    (∃ group rest, arguments = group.arguments ++ rest ∧ OneFile (groups ++ [group])) ∨
      ∃ answer, Settles groups arguments answer := by
  cases arguments with
  | nil => exact .inr ⟨_, .complete⟩
  | cons name rest =>
    by_cases hname : name ∈ optionNames
    · obtain ⟨command, known⟩ | ⟨kind, known⟩ := mem_optionNames_iff.1 hname
      · exact .inr ⟨_, .question rest known⟩
      · -- a group of another kind than the file leaves one file at most
        have hroom : ∀ group : ArgumentGroup, group.kind = kind → OneFile (groups ++ [group]) :=
          fun group hkind => (h.concat group).resolve_right fun hfile =>
            kind_ne_file known (hkind.symm.trans hfile.1)
        rcases List.mem_append.1 known with hvalue | hflag
        · cases rest with
          | nil => exact .inr ⟨_, .missingValue hvalue⟩
          | cons value rest =>
            exact .inl ⟨.option name kind value hvalue, rest, rfl, hroom _ rfl⟩
        · exact .inl ⟨.flag name kind hflag, rest, rfl, hroom _ rfl⟩
    · by_cases hoption : LooksLikeOption name
      · exact .inr ⟨_, .unknownOption rest hoption hname⟩
      · by_cases hfile : saidOf .file groups = []
        · refine .inl ⟨.file name hoption, rest, rfl, ?_⟩
          exact (h.concat _).resolve_right fun hnamed => hnamed.2 hfile
        · exact .inr ⟨_, .secondFile rest hoption hfile⟩

/-- Behind groups read before, a command line is read to what settles the answer. -/
theorem exists_settles (h : OneFile groups) (arguments : List String) :
    ∃ more rest answer, arguments = write more ++ rest ∧ OneFile (groups ++ more) ∧
      Settles (groups ++ more) rest answer := by
  induction hlength : arguments.length using Nat.strongRecOn generalizing arguments groups with
  | ind n ih =>
    obtain ⟨group, rest, rfl, hone⟩ | ⟨answer, hsettles⟩ := exists_group_or_settles h arguments
    · -- a group takes one argument at least
      have hshorter : rest.length < n := by
        rw [← hlength, List.length_append]
        cases group <;> simp [ArgumentGroup.arguments]
      obtain ⟨more, rest, answer, rfl, hmore, hsettles⟩ := ih _ hshorter hone rest rfl
      rw [← List.append_cons] at hmore hsettles
      exact ⟨group :: more, rest, answer, (write_cons_append rest).symm, hmore, hsettles⟩
    · refine ⟨[], arguments, answer, rfl, ?_, ?_⟩
      · rwa [List.append_nil]
      · rwa [List.append_nil]

/-- Every command line has a reading that ends with the answer of the parser. -/
lemma exists_reads (arguments : List String) :
    ∃ groups rest, Reads arguments groups rest (parse arguments) := by
  have hnone : OneFile [] := Nat.zero_le 1
  obtain ⟨groups, rest, answer, harguments, hone, hsettles⟩ := exists_settles hnone arguments
  have hreads : Reads arguments groups rest answer := ⟨harguments, hone, hsettles⟩
  exact ⟨groups, rest, hreads.parse_eq ▸ hreads⟩

/-- The first of several groups can be told. -/
theorem arguments_append_inj (h : group.arguments ++ rest = other.arguments ++ rest') :
    group = other ∧ rest = rest' := by
  have hplain : ∀ {name kind}, (name, kind) ∈ groupOptions → LooksLikeOption name :=
    fun known => looksLikeOption_of_mem (mem_optionNames known)
  -- the first word tells which kind of group it is, for an option has one kind and no file looks
  -- like one
  cases group with
  | option name kind value known =>
    have hknown := mem_groupOptions_of_value known
    cases other with
    | option name' kind' value' known' =>
      obtain ⟨rfl, hrest⟩ := List.cons_eq_cons.1 h
      obtain ⟨rfl, rfl⟩ := List.cons_eq_cons.1 hrest
      obtain rfl := kind_unique hknown (mem_groupOptions_of_value known')
      exact ⟨rfl, rfl⟩
    | flag name' kind' known' =>
      obtain ⟨rfl, -⟩ := List.cons_eq_cons.1 h
      exact absurd known' (notMem_verboseFlags known)
    | file path plain =>
      obtain ⟨rfl, -⟩ := List.cons_eq_cons.1 h
      exact absurd (hplain hknown) plain
  | flag name kind known =>
    have hknown := mem_groupOptions_of_flag known
    cases other with
    | option name' kind' value' known' =>
      obtain ⟨rfl, -⟩ := List.cons_eq_cons.1 h
      exact absurd known (notMem_verboseFlags known')
    | flag name' kind' known' =>
      obtain ⟨rfl, rfl⟩ := List.cons_eq_cons.1 h
      obtain rfl := kind_unique hknown (mem_groupOptions_of_flag known')
      exact ⟨rfl, rfl⟩
    | file path plain =>
      obtain ⟨rfl, -⟩ := List.cons_eq_cons.1 h
      exact absurd (hplain hknown) plain
  | file path plain =>
    cases other with
    | option name' kind' value' known' =>
      obtain ⟨rfl, -⟩ := List.cons_eq_cons.1 h
      exact absurd (hplain (mem_groupOptions_of_value known')) plain
    | flag name' kind' known' =>
      obtain ⟨rfl, -⟩ := List.cons_eq_cons.1 h
      exact absurd (hplain (mem_groupOptions_of_flag known')) plain
    | file path' plain' =>
      obtain ⟨rfl, rfl⟩ := List.cons_eq_cons.1 h
      exact ⟨rfl, rfl⟩

/-- Of the options that begin a group only one without its value settles the answer. -/
theorem Settles.of_groupOptions (h : Settles groups (name :: rest) answer)
    (known : (name, kind) ∈ groupOptions) : (name, kind) ∈ valueOptions ∧ rest = [] := by
  have hname := mem_optionNames known
  cases h with
  | question _ known' => exact absurd known' (notMem_questions known)
  | unknownOption _ _ unknown => exact absurd hname unknown
  | secondFile _ plain _ => exact absurd (looksLikeOption_of_mem hname) plain
  | missingValue known' =>
    obtain rfl := kind_unique known (mem_groupOptions_of_value known')
    exact ⟨known', rfl⟩

/-- Of the arguments that look like no option only a second file settles the answer. -/
theorem Settles.of_plain (h : Settles groups (path :: rest) answer)
    (plain : ¬ LooksLikeOption path) : saidOf .file groups ≠ [] := by
  have hunknown := mt looksLikeOption_of_mem plain
  cases h with
  | question _ known => exact absurd (mem_optionNames_iff.2 (.inl ⟨_, known⟩)) hunknown
  | unknownOption _ option _ => exact absurd option plain
  | secondFile _ _ named => exact named
  | missingValue known => exact absurd (mem_optionNames (mem_groupOptions_of_value known)) hunknown

/-- A group that can stand behind others does not settle the answer. -/
theorem Settles.not_oneFile (h : Settles groups (group.arguments ++ rest) answer) :
    ¬ OneFile (groups ++ [group]) := by
  intro hone
  cases group with
  | option name kind value known =>
    exact absurd (h.of_groupOptions (mem_groupOptions_of_value known)).2 (List.cons_ne_nil _ _)
  | flag name kind known =>
    exact absurd known
      (notMem_verboseFlags (h.of_groupOptions (mem_groupOptions_of_flag known)).1)
  | file path plain => exact h.of_plain plain (hone.saidOf_file rfl)

/-- Nothing that settles an answer can be taken for further groups. -/
lemma Settles.eq_nil (h : Settles groups (write more ++ rest) answer)
    (hone : OneFile (groups ++ more)) : more = [] := by
  cases more with
  | nil => rfl
  | cons group more =>
    rw [write_cons_append] at h
    rw [List.append_cons] at hone
    exact absurd hone.of_append h.not_oneFile

/-- Two readings of a command line that begin with the same groups are the same. -/
lemma Settles.unique (groups : List ArgumentGroup)
    (hsplit : write more ++ rest = write others ++ rest') (hone : OneFile (groups ++ more))
    (hone' : OneFile (groups ++ others)) (h : Settles (groups ++ more) rest answer)
    (h' : Settles (groups ++ others) rest' answer') : more = others ∧ rest = rest' := by
  -- where one reading comes to its end, the other cannot go on with a group
  induction more generalizing groups others with
  | nil =>
    obtain rfl : rest = write others ++ rest' := hsplit
    rw [List.append_nil] at h
    obtain rfl := h.eq_nil hone'
    exact ⟨rfl, rfl⟩
  | cons group more ih =>
    cases others with
    | nil =>
      obtain rfl : write (group :: more) ++ rest = rest' := hsplit
      rw [List.append_nil] at h'
      exact absurd (h'.eq_nil hone) (List.cons_ne_nil _ _)
    | cons other others =>
      rw [write_cons_append, write_cons_append] at hsplit
      obtain ⟨rfl, hrest⟩ := arguments_append_inj hsplit
      rw [List.append_cons] at hone hone' h h'
      obtain ⟨rfl, rfl⟩ := ih _ hrest hone hone' h h'
      exact ⟨rfl, rfl⟩

/-- A command line can be read in one way only. -/
theorem Reads.unique (h : Reads arguments groups rest answer)
    (h' : Reads arguments others rest' answer') : groups = others ∧ rest = rest' :=
  Settles.unique [] (h.written.symm.trans h'.written) h.oneFile h'.oneFile h.settled h'.settled

/-- Whether a refusal says in words what is wrong with an argument. -/
inductive Blames (name : String) (cause : ArgumentError) : Prop where
  | unknown (option : LooksLikeOption name) (unknown : name ∉ optionNames)
      (message : cause.message = "unknown option: " ++ name)
  | unexpected (plain : ¬ LooksLikeOption name)
      (message : cause.message = "unexpected argument: " ++ name)
  | incomplete {kind : ArgumentKind} (known : (name, kind) ∈ valueOptions)
      (message : cause.message = name ++ " needs a value")

/-- A refusal is for the argument that the groups end at. -/
theorem Settles.exists_blames {cause : ArgumentError} (h : Settles groups rest (.error cause)) :
    ∃ name later, rest = name :: later ∧ Blames name cause := by
  cases h with
  | unknownOption later option unknown => exact ⟨_, later, rfl, .unknown option unknown rfl⟩
  | secondFile later plain named => exact ⟨_, later, rfl, .unexpected plain rfl⟩
  | missingValue known => exact ⟨_, [], rfl, .incomplete known rfl⟩

/-- Whether an answer to a command line is the one that its groups ask for. -/
structure FollowsGroups (arguments : List String) (answer : Except ArgumentError Command) :
    Prop where
  /-- Complete groups with one file at most are answered by what they ask for, if nothing stands
  behind them, and otherwise by what settles the answer, whatever follows that. -/
  answered : ∀ groups rest other, Reads arguments groups rest other → answer = other
  /-- Every command line is made up so. -/
  reads : ∃ groups rest, Reads arguments groups rest answer
  /-- It is made up so in one way only. -/
  unambiguous : ∀ groups others rest rest' other other', Reads arguments groups rest other →
    Reads arguments others rest' other' → groups = others ∧ rest = rest'
  /-- A refusal says what is wrong with the argument behind the groups. -/
  worded : ∀ groups rest cause, Reads arguments groups rest (.error cause) →
    ∃ name later, rest = name :: later ∧ Blames name cause
  /-- Two neighbouring groups of different kinds can change places, whatever stands behind them. -/
  swapped : ∀ groups (group other : ArgumentGroup) rest, group.kind ≠ other.kind →
    arguments = write groups ++ (group.arguments ++ (other.arguments ++ rest)) →
    parse (write groups ++ (other.arguments ++ (group.arguments ++ rest))) = answer
  /-- So can any number of groups, as long as those of each kind say the same in the same order. -/
  reordered : ∀ groups others rest, (∀ kind, saidOf kind groups = saidOf kind others) →
    arguments = write groups ++ rest → parse (write others ++ rest) = answer

/-- The answer to a command line is the one that its groups ask for. -/
theorem followsGroups (arguments : List String) : FollowsGroups arguments (parse arguments) where
  answered groups rest other h := h.parse_eq
  reads := exists_reads arguments
  unambiguous _ _ _ _ _ _ h h' := h.unique h'
  worded _ _ _ h := h.settled.exists_blames
  swapped groups group other rest hkind hwritten := by
    rw [hwritten, parse_write_swap hkind]
  reordered groups others rest hsaid hwritten := by
    rw [hwritten, parse_write_congr hsaid]

/-- The argument behind an option with a value is the value also where it looks like an option. -/
example : parse ["-t", "--help", "-l", "-vv", "-v", "-vv"] =
    .ok (.highlight { language := some "-vv", tooltips := ["--help"], verbosity := 3 }) := rfl

end Command

end Highlight
