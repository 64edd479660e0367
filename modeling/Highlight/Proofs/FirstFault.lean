import Highlight.LanguageFile
import Highlight.Proofs.Pattern.Compile
import Highlight.Proofs.Text.Lines

/-!
# The first fault of a table

A language file gives a table that holds its fields as they are (`toLanguage_eq_ok_iff`), or the
first fault of the file: a color that there is not, in the order of the rules, else a blank name,
else a mark that begins comments without one that ends them (`toLanguage_eq_error_iff`). A table
gives a highlighter, or the first fault of the table: that of its check, else that of the first rule
that does not compile (`ofLanguage_eq_error_iff`). A table that comes from a file has passed the
check, so only a pattern can be its fault.
-/

namespace Highlight

/-! ## Traversals -/

section Traversal

variable {α β ε : Type} {f : α → Except ε β} {xs : List α} {fault : ε}

lemma mapM_cons_eq_error_iff {x : α} :
    (x :: xs).mapM f = .error fault ↔
      f x = .error fault ∨ (∃ y, f x = .ok y) ∧ xs.mapM f = .error fault := by
  rw [List.mapM_cons]
  cases hx : f x with
  | error other =>
    constructor
    · intro h
      cases h
      exact .inl rfl
    · rintro (h | ⟨⟨y, hy⟩, -⟩)
      · cases h
        rfl
      · cases hy
  | ok y =>
    cases hxs : xs.mapM f with
    | error other =>
      constructor
      · intro h
        cases h
        exact .inr ⟨⟨y, rfl⟩, rfl⟩
      · rintro (h | ⟨-, h⟩)
        · cases h
        · cases h
          rfl
    | ok ys =>
      constructor
      · intro h
        cases h
      · rintro (h | ⟨-, h⟩)
        · cases h
        · cases h

/-- A traversal fails with the failure of the first item in order that fails. -/
theorem mapM_eq_error_iff :
    xs.mapM f = .error fault ↔ ∃ before x behind, xs = before ++ x :: behind ∧
      (∀ other ∈ before, ∃ y, f other = .ok y) ∧ f x = .error fault := by
  induction xs with
  | nil =>
    constructor
    · intro h
      cases h
    · rintro ⟨before, x, behind, hxs, -⟩
      cases List.append_eq_nil_iff.1 hxs.symm |>.2
  | cons x xs ih =>
    rw [mapM_cons_eq_error_iff]
    constructor
    · rintro (hx | ⟨hx, hrest⟩)
      · exact ⟨[], x, xs, rfl, fun other hmem => absurd hmem List.not_mem_nil, hx⟩
      · obtain ⟨before, z, behind, rfl, hbefore, hz⟩ := ih.1 hrest
        exact ⟨x :: before, z, behind, rfl, List.forall_mem_cons.2 ⟨hx, hbefore⟩, hz⟩
    · rintro ⟨before, z, behind, hxs, hbefore, hz⟩
      cases before with
      | nil =>
        cases hxs
        exact .inl hz
      | cons y before =>
        cases hxs
        obtain ⟨hy, hbefore⟩ := List.forall_mem_cons.1 hbefore
        exact .inr ⟨hy, ih.2 ⟨before, z, behind, rfl, hbefore, hz⟩⟩

/-- A traversal succeeds exactly if it does so for each item. -/
theorem exists_mapM_iff : (∃ ys, xs.mapM f = .ok ys) ↔ ∀ x ∈ xs, ∃ y, f x = .ok y := by
  constructor
  · rintro ⟨ys, hys⟩
    induction xs generalizing ys with
    | nil => exact fun x hmem => absurd hmem List.not_mem_nil
    | cons x xs ih =>
      obtain ⟨y, rest, hy, hrest, -⟩ := mapM_cons_eq_ok_iff.1 hys
      exact List.forall_mem_cons.2 ⟨⟨y, hy⟩, ih rest hrest⟩
  · exact exists_mapM xs

/-- A traversal by a function that undoes another gives the items that the other is applied to. -/
theorem mapM_eq_ok_iff_eq_map {g : β → α} (h : ∀ x y, f x = .ok y ↔ x = g y) {ys : List β} :
    xs.mapM f = .ok ys ↔ xs = ys.map g := by
  induction xs generalizing ys with
  | nil =>
    rw [@eq_comm _ [], List.map_eq_nil_iff]
    constructor
    · intro hys
      cases hys
      rfl
    · rintro rfl
      rfl
  | cons x xs ih =>
    rw [mapM_cons_eq_ok_iff, @eq_comm _ (x :: xs), List.map_eq_cons_iff]
    constructor
    · rintro ⟨y, rest, hy, hrest, rfl⟩
      exact ⟨y, rest, rfl, ((h x y).1 hy).symm, (ih.1 hrest).symm⟩
    · rintro ⟨y, rest, rfl, hy, hrest⟩
      exact ⟨y, rest, (h x y).2 hy.symm, ih.2 hrest.symm, rfl⟩

end Traversal

/-! ## The check of a table -/

/-- What is wrong with a name and the marks around comments: the name is blank, or else there is a
mark that begins comments and none that ends them. -/
inductive CheckFault (name commentStart commentEnd : String) : LanguageError → Prop where
  | missingName (hname : Text.trim name.toList = []) :
    CheckFault name commentStart commentEnd .missingName
  | missingCommentEnd (hname : Text.trim name.toList ≠ []) (hstart : commentStart ≠ "")
    (hend : commentEnd = "") :
    CheckFault name commentStart commentEnd (.missingCommentEnd name)

namespace Language

variable {language : Language} {fault : LanguageError}

lemma trim_name_eq_nil_iff (language : Language) :
    Text.trim language.name.toList = [] ↔
      language.name.toList.all Unicode.isBlank = true := by
  rw [Text.trim_eq_nil_iff, List.all_eq_true]

/-- The check fails with what is wrong with the name or the marks. -/
theorem validate_eq_error_iff :
    language.validate = .error fault ↔
      CheckFault language.name language.commentStart language.commentEnd fault := by
  unfold validate
  by_cases hname : language.name.toList.all Unicode.isBlank = true
  · have htrim := language.trim_name_eq_nil_iff.2 hname
    rw [if_pos hname]
    constructor
    · intro h
      cases h
      exact .missingName htrim
    · rintro (hname' | ⟨hname', -, -⟩)
      · rfl
      · exact absurd htrim hname'
  · have htrim := mt language.trim_name_eq_nil_iff.1 hname
    rw [if_neg hname]
    by_cases hmarks : language.commentStart ≠ "" ∧ language.commentEnd = ""
    · rw [if_pos hmarks]
      constructor
      · intro h
        cases h
        exact .missingCommentEnd htrim hmarks.1 hmarks.2
      · rintro (hname' | -)
        · exact absurd hname' htrim
        · rfl
    · rw [if_neg hmarks]
      constructor
      · intro h
        cases h
      · rintro (hname' | ⟨-, hstart, hend⟩)
        · exact absurd hname' htrim
        · exact absurd ⟨hstart, hend⟩ hmarks

/-- The check passes where the name is not blank and the marks belong together. -/
theorem validate_eq_ok_iff :
    language.validate = .ok () ↔ Text.trim language.name.toList ≠ [] ∧
      (language.commentStart = "" ∨ language.commentEnd ≠ "") := by
  have hfault : language.validate = .ok () ↔ ∀ fault, language.validate ≠ .error fault := by
    cases language.validate with
    | error fault => simp
    | ok => simp
  simp only [hfault, ne_eq, validate_eq_error_iff]
  constructor
  · intro h
    have hname : Text.trim language.name.toList ≠ [] := fun hname => h _ (.missingName hname)
    refine ⟨hname, ?_⟩
    by_contra hmarks
    push Not at hmarks
    exact h _ (.missingCommentEnd hname hmarks.1 hmarks.2)
  · rintro ⟨hname, hmarks⟩ fault (hname' | ⟨-, hstart, hend⟩)
    · exact hname hname'
    · rcases hmarks with hmarks | hmarks
      · exact hstart hmarks
      · exact hmarks hend

end Language

/-! ## Language files -/

/-- A category is found by its own name only. -/
lemma Category.ofName?_eq_some_iff {text : String} {category : Category} :
    ofName? text = some category ↔ category.name = text := by
  constructor
  · intro h
    rw [ofName?] at h
    have hname := List.find?_some h
    exact beq_iff_eq.1 hname
  · rintro rfl
    exact ofName?_name category

/-- Whether a text is the name of a category. -/
def IsColor (text : String) : Prop := ∃ category : Category, category.name = text

/-- The entry of a language file that a rule is written to. -/
def RuleEntry.ofRule (rule : Rule) : RuleEntry where
  pattern := rule.pattern
  color := rule.category.name

namespace LanguageFile

/-- The language file that a table is written to. -/
def ofLanguage (language : Language) : LanguageFile where
  name := language.name
  extensions := language.extensions
  keywords := language.keywords
  identifiers := language.identifiers
  rules := language.rules.map RuleEntry.ofRule
  lineComment := language.lineComment
  commentStart := language.commentStart
  commentEnd := language.commentEnd
  preprocessor := language.preprocessor
  caseSensitive := language.caseSensitive
  autoIndentation := language.autoIndentation

/-- The first fault of a language file: the color of the first rule whose color is no category, else
what is wrong with the name or the marks. -/
inductive FirstFault (file : LanguageFile) : LoadError → Prop where
  | unknownColor {before behind : List RuleEntry} {entry : RuleEntry}
    (hrules : file.rules = before ++ entry :: behind)
    (hbefore : ∀ other ∈ before, IsColor other.color) (hunknown : ¬ IsColor entry.color) :
    FirstFault file (.unknownColor entry.color)
  | invalid {fault : LanguageError} (hcolors : ∀ entry ∈ file.rules, IsColor entry.color)
    (hfault : CheckFault file.name file.commentStart file.commentEnd fault) :
    FirstFault file (.invalid fault)

variable {file : LanguageFile} {language : Language} {entry : RuleEntry} {rule : Rule}
  {fault : LoadError}

/-- An entry gives a rule exactly if it is what that rule is written as. -/
lemma toRule_eq_ok_iff : toRule entry = .ok rule ↔ entry = RuleEntry.ofRule rule := by
  unfold toRule
  cases hcolor : Category.ofName? entry.color with
  | none =>
    constructor
    · intro h
      cases h
    · rintro rfl
      rw [RuleEntry.ofRule, Category.ofName?_name] at hcolor
      cases hcolor
  | some category =>
    have hname := Category.ofName?_eq_some_iff.1 hcolor
    constructor
    · intro h
      cases h
      rw [RuleEntry.ofRule, hname]
    · rintro rfl
      rw [RuleEntry.ofRule, Category.ofName?_name] at hcolor
      cases hcolor
      rfl

lemma exists_toRule_iff : (∃ rule, toRule entry = .ok rule) ↔ IsColor entry.color := by
  constructor
  · rintro ⟨rule, hrule⟩
    rw [toRule_eq_ok_iff.1 hrule]
    exact ⟨rule.category, rfl⟩
  · rintro ⟨category, hname⟩
    refine ⟨⟨entry.pattern, category⟩, toRule_eq_ok_iff.2 ?_⟩
    rw [RuleEntry.ofRule, hname]

/-- The only fault of an entry is its color, which the fault names. -/
lemma toRule_eq_error_iff :
    toRule entry = .error fault ↔ ¬ IsColor entry.color ∧ fault = .unknownColor entry.color := by
  rw [← exists_toRule_iff]
  unfold toRule
  cases Category.ofName? entry.color with
  | none => simp [eq_comm]
  | some category => simp

/-- The rules are read exactly if all of their colors are categories. -/
theorem exists_mapM_toRule_iff :
    (∃ rules, file.rules.mapM toRule = .ok rules) ↔
      ∀ entry ∈ file.rules, IsColor entry.color := by
  simp only [exists_mapM_iff, exists_toRule_iff]

/-- The table that a language file stands for, with these rules, before it is checked. -/
def withRules (file : LanguageFile) (rules : List Rule) : Language where
  name := file.name
  extensions := file.extensions
  keywords := file.keywords
  identifiers := file.identifiers
  rules
  lineComment := file.lineComment
  commentStart := file.commentStart
  commentEnd := file.commentEnd
  preprocessor := file.preprocessor
  caseSensitive := file.caseSensitive
  autoIndentation := file.autoIndentation

/-- A file whose entries all give rules is the language with these rules, if that is valid. -/
lemma toLanguage_of_rules {rules : List Rule} (hrules : file.rules.mapM toRule = .ok rules) :
    file.toLanguage = ((file.withRules rules).validate.mapError LoadError.invalid).map
      fun _ => file.withRules rules := by
  unfold toLanguage
  rw [hrules]
  simp only [bind, Except.bind]
  split
  · rename_i hvalid
    have hvalid : (file.withRules rules).validate = .ok () := hvalid
    rw [hvalid]
    rfl
  · rename_i cause hvalid
    have hvalid : (file.withRules rules).validate = .error cause := hvalid
    rw [hvalid]
    rfl

/-- A fault of the entries comes before all others. -/
lemma toLanguage_of_error (h : file.rules.mapM toRule = .error fault) :
    file.toLanguage = .error fault := by
  unfold toLanguage
  rw [h]
  rfl

/-- A file is what a language is written as if the rules and all the rest are. -/
lemma eq_ofLanguage_iff : file = ofLanguage language ↔
    file.rules = language.rules.map RuleEntry.ofRule ∧
      file.withRules language.rules = language := by
  cases file
  cases language
  simp only [ofLanguage, withRules, LanguageFile.mk.injEq, Language.mk.injEq]
  tauto

/-- A file gives a table exactly if it is what the table is written to and the table passes its
check. -/
theorem toLanguage_eq_ok_iff :
    file.toLanguage = .ok language ↔ file = ofLanguage language ∧ language.validate = .ok () := by
  cases hrules : file.rules.mapM toRule with
  | error cause =>
    rw [toLanguage_of_error hrules]
    constructor
    · intro h
      cases h
    · rintro ⟨hfile, -⟩
      -- an entry that is written from a rule gives that rule, so the traversal does not fail
      have hok := (mapM_eq_ok_iff_eq_map fun _ _ => toRule_eq_ok_iff).2
        (eq_ofLanguage_iff.1 hfile).1
      rw [hrules] at hok
      cases hok
  | ok rules =>
    have hwritten := (mapM_eq_ok_iff_eq_map fun _ _ => toRule_eq_ok_iff).1 hrules
    rw [toLanguage_of_rules hrules, eq_ofLanguage_iff]
    constructor
    · intro h
      cases hvalid : (file.withRules rules).validate with
      | error cause =>
        rw [hvalid] at h
        cases h
      | ok =>
        rw [hvalid] at h
        cases h
        exact ⟨⟨hwritten, rfl⟩, hvalid⟩
    · rintro ⟨⟨hlanguage, hfields⟩, hvalid⟩
      rw [(mapM_eq_ok_iff_eq_map fun _ _ => toRule_eq_ok_iff).2 hlanguage] at hrules
      cases hrules
      rw [hfields, hvalid]
      rfl

/-- A file that gives no table has the first of its faults. -/
theorem toLanguage_eq_error_iff : file.toLanguage = .error fault ↔ file.FirstFault fault := by
  cases hrules : file.rules.mapM toRule with
  | error cause =>
    rw [toLanguage_of_error hrules]
    obtain ⟨before, entry, behind, hsplit, hbefore, hentry⟩ := mapM_eq_error_iff.1 hrules
    obtain ⟨hunknown, rfl⟩ := toRule_eq_error_iff.1 hentry
    constructor
    · intro h
      cases h
      exact .unknownColor hsplit (fun other hmem => exists_toRule_iff.1 (hbefore other hmem))
        hunknown
    · rintro (@⟨before', behind', entry', hsplit', hbefore', hunknown'⟩ | ⟨hcolors, -⟩)
      · -- the first failure of the traversal is one only
        have hother := mapM_eq_error_iff.2 ⟨before', entry', behind', hsplit',
          fun other hmem => exists_toRule_iff.2 (hbefore' other hmem),
          toRule_eq_error_iff.2 ⟨hunknown', rfl⟩⟩
        exact congrArg Except.error (Except.error.inj (hrules.symm.trans hother))
      · refine absurd (hcolors entry ?_) hunknown
        rw [hsplit]
        exact List.mem_append_right before List.mem_cons_self
  | ok rules =>
    -- all colors are known, so that only the validation can fail
    have hcolors := exists_mapM_toRule_iff.1 ⟨rules, hrules⟩
    rw [toLanguage_of_rules hrules]
    constructor
    · intro h
      cases hvalid : (file.withRules rules).validate with
      | error cause =>
        rw [hvalid] at h
        cases h
        exact .invalid hcolors (Language.validate_eq_error_iff.1 hvalid)
      | ok =>
        rw [hvalid] at h
        cases h
    · rintro (@⟨before, behind, entry, hsplit, hbefore, hunknown⟩ | @⟨cause, -, hcause⟩)
      · refine absurd (hcolors entry ?_) hunknown
        rw [hsplit]
        exact List.mem_append_right before List.mem_cons_self
      · have hvalid : (file.withRules rules).validate = .error cause :=
          Language.validate_eq_error_iff.2 hcause
        rw [hvalid]
        rfl

end LanguageFile

/-! ## Compiled tables -/

/-- What is wrong with a rule of a table: there is no pattern, or it is no valid one. -/
inductive Rule.Fault (language : Language) (rule : Rule) : LanguageError → Prop where
  | emptyPattern (hpattern : rule.pattern = "") :
    Fault language rule (.emptyPattern language.name)
  | invalidPattern (hpattern : rule.pattern ≠ "")
    (hprogram : Regex.Program.ofPattern? rule.anchoredPattern (!language.caseSensitive) = none) :
    Fault language rule (.invalidPattern rule.pattern language.name)

namespace Language

/-- Whether a rule of a table compiles. -/
def Compiles (language : Language) (rule : Rule) : Prop :=
  ∃ compiled, rule.compile language.name language.caseSensitive = .ok compiled

/-- The first fault of the rules of a table, in their order. -/
def FirstRuleFault (language : Language) (fault : LanguageError) : Prop :=
  ∃ before rule behind, language.rules = before ++ rule :: behind ∧
    (∀ other ∈ before, language.Compiles other) ∧ rule.Fault language fault

/-- The first fault of a table: that of its check, else that of its rules. -/
inductive FirstFault (language : Language) : LanguageError → Prop where
  | check {fault : LanguageError} (hfault : language.validate = .error fault) :
    FirstFault language fault
  | rule {fault : LanguageError} (hvalid : language.validate = .ok ())
    (hfault : language.FirstRuleFault fault) : FirstFault language fault

variable {language : Language} {rule : Rule} {fault : LanguageError}

/-- Compiling a rule fails with what is wrong with it. -/
theorem compile_eq_error_iff :
    rule.compile language.name language.caseSensitive = .error fault ↔
      rule.Fault language fault := by
  unfold Rule.compile
  by_cases hpattern : rule.pattern = ""
  · rw [if_pos hpattern]
    constructor
    · intro h
      cases h
      exact .emptyPattern hpattern
    · rintro (- | ⟨hne, -⟩)
      · rfl
      · exact absurd hpattern hne
  · rw [if_neg hpattern]
    cases hprogram :
        Regex.Program.ofPattern? rule.anchoredPattern (!language.caseSensitive) with
    | none =>
      constructor
      · intro h
        cases h
        exact .invalidPattern hpattern hprogram
      · rintro (hempty | -)
        · exact absurd hempty hpattern
        · rfl
    | some program =>
      constructor
      · intro h
        cases h
      · rintro (hempty | ⟨-, hnone⟩)
        · exact absurd hempty hpattern
        · rw [hprogram] at hnone
          cases hnone

/-- The first fault of a table that passes its check is that of its rules. -/
theorem firstFault_iff_of_validate (hvalid : language.validate = .ok ()) :
    language.FirstFault fault ↔ language.FirstRuleFault fault := by
  constructor
  · rintro (hfault | ⟨-, hfault⟩)
    · rw [hvalid] at hfault
      cases hfault
    · exact hfault
  · exact fun hfault => .rule hvalid hfault

/-- The rules of a table fail to compile with the first of their faults. -/
theorem mapM_compile_eq_error_iff :
    (language.rules.mapM fun rule => rule.compile language.name language.caseSensitive) =
        .error fault ↔ language.FirstRuleFault fault := by
  simp only [mapM_eq_error_iff, compile_eq_error_iff]
  exact Iff.rfl

end Language

namespace PatternHighlighter

variable {language : Language} {fault : LanguageError}

/-- A table that gives no highlighter has the first of its faults. -/
theorem ofLanguage_eq_error_iff :
    ofLanguage language = .error fault ↔ language.FirstFault fault := by
  unfold ofLanguage
  cases hvalid : language.validate with
  | error cause =>
    constructor
    · intro h
      cases h
      exact .check hvalid
    · rintro (hfault | ⟨hok, -⟩)
      · rw [hvalid] at hfault
        cases hfault
        rfl
      · rw [hvalid] at hok
        cases hok
  | ok =>
    -- the checks pass, so the fault is the first one of the rules
    rw [Language.firstFault_iff_of_validate hvalid, ← Language.mapM_compile_eq_error_iff]
    cases language.rules.mapM fun rule => rule.compile language.name language.caseSensitive with
    | error cause =>
      constructor
      · intro h
        cases h
        rfl
      · intro h
        cases h
        rfl
    | ok rules =>
      constructor
      · intro h
        cases h
      · intro h
        cases h

/-- A table gives a highlighter exactly if its check passes and each of its rules compiles. -/
theorem exists_ofLanguage_iff :
    (∃ patterns, ofLanguage language = .ok patterns) ↔
      language.validate = .ok () ∧ ∀ rule ∈ language.rules, language.Compiles rule := by
  have hrules : (∀ rule ∈ language.rules, language.Compiles rule) ↔ ∃ rules,
      (language.rules.mapM fun rule => rule.compile language.name language.caseSensitive) =
        .ok rules := exists_mapM_iff.symm
  rw [hrules]
  constructor
  · rintro ⟨patterns, hpatterns⟩
    obtain ⟨hvalid, rules, hcompiled, -⟩ := (ofLanguage_eq_ok_iff language patterns).1 hpatterns
    exact ⟨hvalid, rules, hcompiled⟩
  · rintro ⟨hvalid, rules, hcompiled⟩
    exact ⟨_, (ofLanguage_eq_ok_iff language _).2 ⟨hvalid, rules, hcompiled, rfl⟩⟩

end PatternHighlighter

/-! ## From the file to the highlighter -/

namespace LanguageFile

/-- A file gives a table exactly if its colors are categories, its name is not blank and its marks
around comments belong together. -/
theorem exists_toLanguage_iff {file : LanguageFile} :
    (∃ language, file.toLanguage = .ok language) ↔
      (∀ entry ∈ file.rules, IsColor entry.color) ∧ Text.trim file.name.toList ≠ [] ∧
        (file.commentStart = "" ∨ file.commentEnd ≠ "") := by
  rw [← exists_mapM_toRule_iff]
  constructor
  · rintro ⟨language, hlanguage⟩
    obtain ⟨rfl, hvalid⟩ := toLanguage_eq_ok_iff.1 hlanguage
    exact ⟨⟨language.rules, (mapM_eq_ok_iff_eq_map fun _ _ => toRule_eq_ok_iff).2 rfl⟩,
      Language.validate_eq_ok_iff.1 hvalid⟩
  · rintro ⟨⟨rules, hrules⟩, hcheck⟩
    have hvalid : (file.withRules rules).validate = .ok () := Language.validate_eq_ok_iff.2 hcheck
    rw [toLanguage_of_rules hrules, hvalid]
    exact ⟨_, rfl⟩

end LanguageFile

namespace Language

/-- A table that is read from a text has passed its check. -/
theorem validate_of_parse {text origin : String} {language : Language}
    (h : parse text origin = .ok language) : language.validate = .ok () := by
  unfold parse at h
  split at h
  · exact (LanguageFile.toLanguage_eq_ok_iff.1 h).2
  · cases h

/-- Whether a language file gives the table that is written in it or the first of its faults, and a
table the highlighter for it or the first of its faults. -/
structure ReportsFirstFault (file : LanguageFile) (language : Language) : Prop where
  /-- A file gives a table exactly if its colors are categories, its name is not blank and its marks
  around comments belong together. -/
  gives : (∃ table, file.toLanguage = .ok table) ↔
    (∀ entry ∈ file.rules, IsColor entry.color) ∧ Text.trim file.name.toList ≠ [] ∧
      (file.commentStart = "" ∨ file.commentEnd ≠ "")
  /-- The table is the one that is written as the file, field by field and rule by rule, and it
  passes its check. -/
  keeps : file.toLanguage = .ok language ↔
    file = LanguageFile.ofLanguage language ∧ language.validate = .ok ()
  /-- Any other file is refused for its first fault. -/
  refuses : ∀ fault, file.toLanguage = .error fault ↔ file.FirstFault fault
  /-- The check of a table fails with what is wrong with its name or its marks. -/
  checks : ∀ fault, language.validate = .error fault ↔
    CheckFault language.name language.commentStart language.commentEnd fault
  /-- A table gives a highlighter exactly if it passes its check and each of its rules compiles. -/
  compiles : (∃ patterns, PatternHighlighter.ofLanguage language = .ok patterns) ↔
    language.validate = .ok () ∧ ∀ rule ∈ language.rules, language.Compiles rule
  /-- Any other table is refused for its first fault. -/
  rejects : ∀ fault, PatternHighlighter.ofLanguage language = .error fault ↔
    language.FirstFault fault
  /-- The fault of a table that is read from a text is that of a rule. -/
  parsed : ∀ text origin, parse text origin = .ok language →
    ∀ fault, PatternHighlighter.ofLanguage language = .error fault ↔
      language.FirstRuleFault fault

/-- Tables are read and compiled as they are written, and the first fault is reported. -/
theorem reportsFirstFault (file : LanguageFile) (language : Language) :
    ReportsFirstFault file language where
  gives := LanguageFile.exists_toLanguage_iff
  keeps := LanguageFile.toLanguage_eq_ok_iff
  refuses fault := LanguageFile.toLanguage_eq_error_iff
  checks fault := validate_eq_error_iff
  compiles := PatternHighlighter.exists_ofLanguage_iff
  rejects fault := PatternHighlighter.ofLanguage_eq_error_iff
  parsed text origin hparse fault := by
    rw [PatternHighlighter.ofLanguage_eq_error_iff]
    exact firstFault_iff_of_validate (validate_of_parse hparse)

/-- Of several faults in a file, an unknown color comes before a blank name. -/
example : LanguageFile.toLanguage
    { name := " ", rules := [⟨"x", "Purple"⟩], commentStart := "--" } =
      .error (.unknownColor "Purple") := by decide

end Language

end Highlight
