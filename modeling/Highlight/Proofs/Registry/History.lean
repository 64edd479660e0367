import Highlight.Proofs.Pattern.Compile
import Highlight.Proofs.Registry.Calls

/-!
# What a registry answers

The answers of a registry are those of its history, the registrations made up to now: a name or an
extension stands for what the last registration with it says. `Follows` carries that over from call
to call, a call that fails adding nothing, and the registry of the built-in languages starts with
their registrations.
-/

namespace Highlight

/-- One registration of a language. -/
structure Registration where
  name : String
  extensions : List String
  highlighter : Highlighter
  /-- Whether the registry has made the highlighter, from a table. -/
  built : Bool

namespace Registration

/-- Whether a registration lists an extension, which is given in lower case. -/
def lists (registration : Registration) (extension : String) : Bool :=
  decide (extension ∈ registration.extensions.map Unicode.lowerCaseText)

lemma lists_iff {registration : Registration} {extension : String} :
    registration.lists extension = true ↔
      extension ∈ registration.extensions.map Unicode.lowerCaseText :=
  decide_eq_true_iff

/-- The last registration of a history that satisfies a condition. -/
def latest? (p : Registration → Bool) (history : List Registration) : Option Registration :=
  history.reverse.find? p

/-- The latest registration of a kind is the last one if it is of that kind. -/
lemma latest?_concat (p : Registration → Bool) (history : List Registration)
    (registration : Registration) :
    latest? p (history ++ [registration]) =
      if p registration = true then some registration else latest? p history := by
  unfold latest?
  rw [List.reverse_concat, List.find?_cons]
  cases p registration <;> rfl

lemma mem_of_latest? {p : Registration → Bool} {history : List Registration}
    {registration : Registration} (h : latest? p history = some registration) :
    registration ∈ history :=
  List.mem_reverse.1 (List.mem_of_find?_eq_some h)

/-- A condition that some registration of a history satisfies has a last one. -/
theorem isSome_latest? {p : Registration → Bool} {history : List Registration}
    {registration : Registration} (hmem : registration ∈ history) (hp : p registration = true) :
    (latest? p history).isSome = true :=
  List.find?_isSome.2 ⟨registration, List.mem_reverse.2 hmem, hp⟩

/-- The registration of a table by its rules alone, if it compiles. -/
def ofLanguage? (budget : Nat) (language : Language) : Option Registration :=
  match PatternHighlighter.ofLanguage language with
  | .ok patterns => some {
      name := language.name
      extensions := language.extensions
      highlighter := patterns.highlighter.withMaxLines budget
      built := true }
  | .error _ => none

/-- The registration of a built-in table. -/
def ofBuiltin? (budget : Nat) (language : Language) : Option Registration :=
  if language.name = Builtin.csharp.name then some {
      name := language.name
      extensions := language.extensions
      highlighter := (CSharp.highlighter language).withMaxLines budget
      built := true }
  else ofLanguage? budget language

/-- The registration that a call makes, if it does not fail. -/
def ofCall? (budget : Nat) : Registry.Call → Option Registration
  | .addLanguage language => ofLanguage? budget language
  | .addHighlighter name extensions highlighter =>
    some { name, extensions, highlighter, built := false }

/-- The registrations of the built-in languages, then those that calls make. -/
def history (budget : Nat) (calls : List Registry.Call) : List Registration :=
  Builtin.all.filterMap (ofBuiltin? budget) ++ calls.filterMap (ofCall? budget)

end Registration

namespace Registry

open Registration

/-- Whether a registry with a bound on lines holds what the registrations of a history say. -/
structure Follows (registry : Registry) (budget : Nat) (history : List Registration) : Prop where
  maxLinesPerFrame_eq : registry.maxLinesPerFrame = budget
  get?_eq : ∀ name, registry.get? name =
    (latest? (fun registration => registration.name == name) history).map (·.highlighter)
  languageOf_eq : ∀ extension, registry.languageOf[extension]? =
    (latest? (fun registration => registration.lists extension) history).map (·.name)
  /-- The highlighters that the registry has made color a line at least in each pass. -/
  built : ∀ registration ∈ history, registration.built = true →
    1 ≤ registration.highlighter.maxLinesPerFrame

/-- Setting extensions sets those that are listed, in lower case, and no others. -/
theorem getElem?_foldl_insert (extensions : List String) (name : String)
    (languageOf : Std.TreeMap String String) (extension : String) :
    (extensions.foldl
      (fun languageOf listed => languageOf.insert (Unicode.lowerCaseText listed) name)
      languageOf)[extension]? =
      if extension ∈ extensions.map Unicode.lowerCaseText then some name
      else languageOf[extension]? := by
  induction extensions generalizing languageOf with
  | nil => rfl
  | cons listed extensions ih =>
    rw [List.foldl_cons, ih, getElem?_insert, List.map_cons]
    by_cases hrest : extension ∈ extensions.map Unicode.lowerCaseText
    · rw [if_pos hrest, if_pos (List.mem_cons_of_mem _ hrest)]
    · rw [if_neg hrest]
      by_cases hlisted : Unicode.lowerCaseText listed = extension
      · rw [if_pos hlisted, if_pos (List.mem_cons.2 (.inl hlisted.symm))]
      · rw [if_neg hlisted, if_neg]
        intro hmem
        rcases List.mem_cons.1 hmem with heq | hmem
        · exact hlisted heq.symm
        · exact hrest hmem

/-- A registration that is made is added to the history. -/
theorem Follows.addHighlighter {registry : Registry} {budget : Nat} {history : List Registration}
    (hf : registry.Follows budget history) (registration : Registration)
    (hbuilt : registration.built = true → 1 ≤ registration.highlighter.maxLinesPerFrame) :
    (registry.addHighlighter registration.name registration.extensions
      registration.highlighter).Follows budget (history ++ [registration]) := by
  constructor
  case maxLinesPerFrame_eq => exact hf.maxLinesPerFrame_eq
  case get?_eq =>
    intro name
    rw [latest?_concat, get?_addHighlighter]
    by_cases hname : registration.name = name
    · rw [if_pos hname, if_pos (beq_iff_eq.2 hname), Option.map_some]
    · rw [if_neg hname, if_neg (mt beq_iff_eq.1 hname)]
      exact hf.get?_eq name
  case languageOf_eq =>
    intro extension
    -- the extensions are those of the last registration that lists them
    have hmap := getElem?_foldl_insert registration.extensions registration.name
      registry.languageOf extension
    refine hmap.trans ?_
    rw [latest?_concat]
    by_cases hlists : extension ∈ registration.extensions.map Unicode.lowerCaseText
    · rw [if_pos hlists, if_pos (lists_iff.2 hlists), Option.map_some]
    · rw [if_neg hlists, if_neg (mt lists_iff.1 hlists)]
      exact hf.languageOf_eq extension
  case built =>
    intro other hmem
    rcases List.mem_append.1 hmem with hmem | hmem
    · exact hf.built other hmem
    · rw [List.mem_singleton.1 hmem]
      exact hbuilt

lemma le_maxLinesPerFrame_withMaxLines (highlighter : Highlighter) (lines : Nat) :
    1 ≤ (highlighter.withMaxLines lines).maxLinesPerFrame :=
  Nat.le_max_right lines 1

/-- A table that compiles is added to the history, and one that does not compile is a fault. -/
theorem Follows.addLanguage {registry : Registry} {budget : Nat} {history : List Registration}
    (hf : registry.Follows budget history) (language : Language) :
    match registry.addLanguage language with
    | .ok after => after.Follows budget (history ++ (ofLanguage? budget language).toList)
    | .error fault => PatternHighlighter.ofLanguage language = .error fault ∧
        ofLanguage? budget language = none := by
  unfold Registry.addLanguage ofLanguage?
  cases PatternHighlighter.ofLanguage language with
  | error fault => exact ⟨rfl, rfl⟩
  | ok patterns =>
    have hadded := hf.addHighlighter
      { name := language.name
        extensions := language.extensions
        highlighter := patterns.highlighter.withMaxLines registry.maxLinesPerFrame
        built := true }
      fun _ => le_maxLinesPerFrame_withMaxLines _ _
    -- the history names the budget, the registry stores it
    rw [hf.maxLinesPerFrame_eq] at hadded
    show (registry.addHighlighter _ _ (patterns.highlighter.withMaxLines _)).Follows budget _
    rw [hf.maxLinesPerFrame_eq]
    exact hadded

/-- What one call keeps: a call that succeeds adds its registration, one that fails adds none. -/
theorem Follows.after {registry : Registry} {budget : Nat} {history : List Registration}
    (hf : registry.Follows budget history) (call : Call) :
    (registry.after call).Follows budget (history ++ (ofCall? budget call).toList) := by
  unfold Registry.after Call.change
  cases call with
  | addHighlighter name extensions highlighter =>
    simp only [Change.run_addHighlighter]
    exact hf.addHighlighter { name, extensions, highlighter, built := false } (fun h => nomatch h)
  | addLanguage language =>
    have hadded := hf.addLanguage language
    simp only [Change.run_addLanguage]
    cases hlanguage : registry.addLanguage language with
    | ok after =>
      rw [hlanguage] at hadded
      exact hadded
    | error fault =>
      rw [hlanguage] at hadded
      -- a refused table leaves no registration and changes nothing
      obtain ⟨-, hnone⟩ := hadded
      show registry.Follows budget (history ++ (ofLanguage? budget language).toList)
      rw [hnone, Option.toList_none, List.append_nil]
      exact hf

lemma filterMap_cons_eq_append {α β : Type} (f : α → Option β) (x : α) (xs : List α) :
    (x :: xs).filterMap f = (f x).toList ++ xs.filterMap f := by
  rw [List.filterMap_cons]
  cases f x <;> rfl

/-- What a run of calls keeps. -/
theorem Follows.afterAll {registry : Registry} {budget : Nat} {history : List Registration}
    (hf : registry.Follows budget history) (calls : List Call) :
    (registry.afterAll calls).Follows budget (history ++ calls.filterMap (ofCall? budget)) := by
  induction calls generalizing registry history with
  | nil =>
    rw [List.filterMap_nil, List.append_nil]
    exact hf
  | cons call calls ih =>
    have hrest := ih (hf.after call)
    rw [filterMap_cons_eq_append, ← List.append_assoc]
    exact hrest

/-! ## The built-in languages -/

/-- A registry without languages follows the empty history. -/
lemma follows_empty (budget : Nat) :
    ({ maxLinesPerFrame := budget } : Registry).Follows budget [] :=
  ⟨rfl, fun _ => rfl, fun _ => rfl, fun _ hmem => absurd hmem List.not_mem_nil⟩

/-- A sound language that is built in is registered and recorded. -/
lemma Follows.exists_addBuiltin {registry : Registry} {budget : Nat}
    {history : List Registration} (hf : registry.Follows budget history) {language : Language}
    (hsound : language.isSound = true) :
    ∃ after, registry.addBuiltin language = .ok after ∧
      after.Follows budget (history ++ (ofBuiltin? budget language).toList) := by
  unfold addBuiltin ofBuiltin?
  by_cases hname : language.name = Builtin.csharp.name
  · rw [if_pos hname, if_pos hname, hf.maxLinesPerFrame_eq]
    refine ⟨_, rfl, ?_⟩
    exact hf.addHighlighter
      { name := language.name
        extensions := language.extensions
        highlighter := (CSharp.highlighter language).withMaxLines budget
        built := true }
      fun _ => le_maxLinesPerFrame_withMaxLines _ _
  · rw [if_neg hname, if_neg hname]
    have hadded := hf.addLanguage language
    cases hlanguage : registry.addLanguage language with
    | ok after =>
      rw [hlanguage] at hadded
      exact ⟨after, rfl, hadded⟩
    | error fault =>
      rw [hlanguage] at hadded
      -- a sound table compiles, so it is not refused
      obtain ⟨patterns, hpatterns⟩ := PatternHighlighter.exists_ofLanguage hsound
      rw [hpatterns] at hadded
      cases hadded.1

/-- Sound languages that are built in are registered one after the other. -/
lemma Follows.exists_foldlM_addBuiltin {registry : Registry} {budget : Nat}
    {history : List Registration} (hf : registry.Follows budget history)
    (languages : List Language) (hsound : ∀ language ∈ languages, language.isSound = true) :
    ∃ after, languages.foldlM addBuiltin registry = .ok after ∧
      after.Follows budget (history ++ languages.filterMap (ofBuiltin? budget)) := by
  induction languages generalizing registry history with
  | nil =>
    refine ⟨registry, rfl, ?_⟩
    rw [List.filterMap_nil, List.append_nil]
    exact hf
  | cons language languages ih =>
    obtain ⟨next, hnext, hfollows⟩ := hf.exists_addBuiltin (hsound language List.mem_cons_self)
    obtain ⟨after, hafter, hall⟩ := ih hfollows fun other hmem =>
      hsound other (List.mem_cons_of_mem _ hmem)
    refine ⟨after, ?_, ?_⟩
    · rw [List.foldlM_cons, hnext]
      exact hafter
    · rw [filterMap_cons_eq_append, ← List.append_assoc]
      exact hall

/-- The registry of the built-in languages is there for every bound on lines. -/
theorem exists_withMaxLines (budget : Nat) :
    ∃ registry, withMaxLines budget = .ok registry ∧
      registry.Follows budget (Builtin.all.filterMap (ofBuiltin? budget)) :=
  (follows_empty budget).exists_foldlM_addBuiltin Builtin.all Builtin.isSound_of_mem_all

/-! ## Answers -/

/-- Whether the answers of a registry fit together and are those of a history. -/
structure Answers (registry : Registry) (history : List Registration) : Prop where
  /-- A name has the highlighter that was registered for it last. -/
  require_eq : ∀ name, registry.require name =
    match latest? (fun registration => registration.name == name) history with
    | some registration => .ok registration.highlighter
    | none => .error ⟨name⟩
  /-- The language of a file is the one that has listed its extension last. -/
  detect?_eq : ∀ path, registry.detect? path = (Path.extension? path).bind fun extension =>
    (latest? (fun registration => registration.lists (Unicode.lowerCaseText extension))
      history).map (·.name)
  /-- A language that a file has is there. -/
  require_of_detect? : ∀ path name, registry.detect? path = some name →
    ∃ highlighter, registry.require name = .ok highlighter
  names_increasing : registry.names.Pairwise (· < ·)
  mem_names_iff : ∀ name, name ∈ registry.names ↔
    ∃ highlighter, registry.require name = .ok highlighter
  built : ∀ registration ∈ history, registration.built = true →
    1 ≤ registration.highlighter.maxLinesPerFrame
  /-- A table with a fault is not registered, and nothing has changed when that is noticed. -/
  addLanguage_eq : ∀ language, (Change.addLanguage language).run registry =
    match PatternHighlighter.ofLanguage language with
    | .ok patterns => .ok ⟨⟩ (registry.addHighlighter language.name language.extensions
        (patterns.highlighter.withMaxLines registry.maxLinesPerFrame))
    | .error fault => .error fault registry

lemma names_pairwise (registry : Registry) : registry.names.Pairwise (· < ·) := by
  have hordered : registry.highlighters.keys.Pairwise (fun a b => compare a b = .lt) :=
    Std.TreeMap.ordered_keys
  exact hordered.imp compareOfLessAndEq_eq_lt.1

lemma exists_require_iff (registry : Registry) (name : String) :
    (∃ highlighter, registry.require name = .ok highlighter) ↔
      (registry.get? name).isSome = true := by
  unfold require
  cases registry.get? name with
  | none => simp
  | some highlighter => simp

lemma mem_names_iff_isSome (registry : Registry) (name : String) :
    name ∈ registry.names ↔ (registry.get? name).isSome = true :=
  Std.TreeMap.mem_keys.trans Std.TreeMap.mem_iff_isSome_getElem?

/-- A registry that follows a history answers by it. -/
theorem Follows.answers {registry : Registry} {budget : Nat} {history : List Registration}
    (hf : registry.Follows budget history) : registry.Answers history := by
  have hdetect : ∀ path, registry.detect? path = (Path.extension? path).bind fun extension =>
      (latest? (fun registration => registration.lists (Unicode.lowerCaseText extension))
        history).map (·.name) := by
    intro path
    unfold detect?
    simp only [hf.languageOf_eq]
  constructor
  case require_eq =>
    intro name
    unfold require
    rw [hf.get?_eq]
    cases latest? (fun registration => registration.name == name) history <;> rfl
  case detect?_eq => exact hdetect
  case require_of_detect? =>
    intro path name hname
    rw [exists_require_iff, hf.get?_eq, Option.isSome_map]
    -- the registration that lists the extension has the name, so the name has a last registration
    rw [hdetect] at hname
    obtain ⟨extension, -, hlatest⟩ := Option.bind_eq_some_iff.1 hname
    obtain ⟨registration, hlast, rfl⟩ := Option.map_eq_some_iff.1 hlatest
    exact isSome_latest? (mem_of_latest? hlast) (beq_self_eq_true _)
  case names_increasing => exact names_pairwise registry
  case mem_names_iff =>
    intro name
    rw [exists_require_iff, mem_names_iff_isSome]
  case built => exact hf.built
  case addLanguage_eq =>
    intro language
    rw [Change.run_addLanguage]
    unfold Registry.addLanguage
    cases PatternHighlighter.ofLanguage language <;> rfl

/-- A sound language that is built in has a registration in its own name. -/
lemma exists_ofBuiltin? (budget : Nat) {language : Language} (hsound : language.isSound = true) :
    ∃ registration, ofBuiltin? budget language = some registration ∧
      registration.name = language.name := by
  unfold ofBuiltin?
  by_cases hname : language.name = Builtin.csharp.name
  · rw [if_pos hname]
    exact ⟨_, rfl, rfl⟩
  · obtain ⟨patterns, hpatterns⟩ := PatternHighlighter.exists_ofLanguage hsound
    rw [if_neg hname, ofLanguage?, hpatterns]
    exact ⟨_, rfl, rfl⟩

/-- Every built-in language is found under its name. -/
theorem exists_require_builtin (budget : Nat) :
    ∃ registry, withMaxLines budget = .ok registry ∧ ∀ language ∈ Builtin.all,
      ∃ highlighter, registry.require language.name = .ok highlighter := by
  obtain ⟨registry, hregistry, hfollows⟩ := exists_withMaxLines budget
  refine ⟨registry, hregistry, fun language hmem => ?_⟩
  obtain ⟨registration, hregistration, hname⟩ :=
    exists_ofBuiltin? budget (Builtin.isSound_of_mem_all language hmem)
  rw [exists_require_iff, hfollows.get?_eq, Option.isSome_map]
  exact isSome_latest? (List.mem_filterMap.2 ⟨language, hmem, hregistration⟩) (beq_iff_eq.2 hname)

/-- After all calls, in whatever order they come and whether they fail or not, a registry answers by
the registrations of the built-in languages and those of the calls. -/
theorem answers_afterAll (budget : Nat) :
    ∃ registry, withMaxLines budget = .ok registry ∧ ∀ calls : List Call,
      (registry.afterAll calls).Answers (history budget calls) := by
  obtain ⟨registry, hregistry, hfollows⟩ := exists_withMaxLines budget
  exact ⟨registry, hregistry, fun calls => (hfollows.afterAll calls).answers⟩

end Registry

end Highlight
