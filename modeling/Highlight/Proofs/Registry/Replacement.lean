import Highlight.Proofs.Registry.History

/-!
# Replacing a language

A table that is registered under a name takes the name and the extensions that it lists, and nothing
else changes (`replaces_addLanguage`). So an extension that the earlier language of that name has
listed, and that the new one does not list, stays with the name: nothing of the earlier language is
left exactly if the new one lists all files that the history gives to the name.
-/

namespace Highlight

/-- Whether a language lists the extension of a file, in any letter case. -/
def Language.ListsFile (language : Language) (path : String) : Prop :=
  ∃ extension, Path.extension? path = some extension ∧
    Unicode.lowerCaseText extension ∈ language.extensions.map Unicode.lowerCaseText

/-- The last registration of a history that lists the extension of a file. -/
def Registration.ofFile? (history : List Registration) (path : String) : Option Registration :=
  (Path.extension? path).bind fun extension =>
    latest? (fun registration => registration.lists (Unicode.lowerCaseText extension)) history

namespace Registry

open Registration

variable {registry before after : Registry} {budget : Nat} {history : List Registration}
  {language : Language}

/-- Whether a registry with this history becomes another one by a language that is registered. -/
structure Replaces (history : List Registration) (before : Registry) (language : Language)
    (after : Registry) : Prop where
  /-- The name stands for the highlighter that is made from the table. -/
  get?_self : ∃ patterns, PatternHighlighter.ofLanguage language = .ok patterns ∧
    after.get? language.name = some (patterns.highlighter.withMaxLines before.maxLinesPerFrame)
  /-- Every other name stands for what it has stood for. -/
  get?_of_ne : ∀ name, name ≠ language.name → after.get? name = before.get? name
  mem_names_iff : ∀ name, name ∈ after.names ↔ name = language.name ∨ name ∈ before.names
  /-- The files that the language lists are its own. -/
  detect?_of_lists : ∀ path, language.ListsFile path → after.detect? path = some language.name
  /-- Every other file has the language that it has had. -/
  detect?_of_not_lists : ∀ path, ¬language.ListsFile path →
    after.detect? path = before.detect? path
  /-- A file has the language if that lists it, or if the last one to list it had the same name. -/
  detect?_eq_self_iff : ∀ path, after.detect? path = some language.name ↔
    language.ListsFile path ∨
      ∃ earlier, ofFile? history path = some earlier ∧ earlier.name = language.name
  /-- Nothing is left of the earlier language exactly if the new one lists all files that the
  history gives to the name. -/
  forgets_iff : (∀ path, after.detect? path = some language.name ↔ language.ListsFile path) ↔
    ∀ path earlier, ofFile? history path = some earlier → earlier.name = language.name →
      language.ListsFile path

/-- A language is registered if its table compiles, with the highlighter for the table. -/
theorem addLanguage_eq_ok_iff :
    before.addLanguage language = .ok after ↔
      ∃ patterns, PatternHighlighter.ofLanguage language = .ok patterns ∧
        before.addHighlighter language.name language.extensions
          (patterns.highlighter.withMaxLines before.maxLinesPerFrame) = after := by
  unfold addLanguage
  cases PatternHighlighter.ofLanguage language with
  | error fault =>
    constructor
    · intro h
      cases h
    · rintro ⟨patterns, h, -⟩
      cases h
  | ok patterns =>
    constructor
    · intro h
      exact ⟨patterns, rfl, Except.ok.inj h⟩
    · rintro ⟨other, h, rfl⟩
      cases h
      rfl

/-- By the history, a file has the language of the last registration that lists it. -/
theorem Follows.detect?_eq (hf : registry.Follows budget history) (path : String) :
    registry.detect? path = (ofFile? history path).map (·.name) := by
  rw [hf.answers.detect?_eq, ofFile?, Option.map_bind]
  rfl

/-- A file that a language lists is detected as it once the language is added. -/
lemma detect?_addHighlighter_of_lists (highlighter : Highlighter) {path : String}
    (hlists : language.ListsFile path) :
    (before.addHighlighter language.name language.extensions highlighter).detect? path =
      some language.name := by
  obtain ⟨extension, hextension, hmem⟩ := hlists
  unfold detect?
  rw [hextension, Option.bind_some]
  have hmap := getElem?_foldl_insert language.extensions language.name before.languageOf
    (Unicode.lowerCaseText extension)
  rw [if_pos hmem] at hmap
  exact hmap

/-- A file that a language does not list is detected as before. -/
lemma detect?_addHighlighter_of_not_lists (highlighter : Highlighter) {path : String}
    (hlists : ¬language.ListsFile path) :
    (before.addHighlighter language.name language.extensions highlighter).detect? path =
      before.detect? path := by
  unfold detect?
  cases hextension : Path.extension? path with
  | none => rfl
  | some extension =>
    have hmem : Unicode.lowerCaseText extension ∉
        language.extensions.map Unicode.lowerCaseText :=
      fun hmem => hlists ⟨extension, hextension, hmem⟩
    have hmap := getElem?_foldl_insert language.extensions language.name before.languageOf
      (Unicode.lowerCaseText extension)
    rw [if_neg hmem] at hmap
    exact hmap

lemma mem_names_addHighlighter (name : String) (extensions : List String)
    (highlighter : Highlighter) (other : String) :
    other ∈ (before.addHighlighter name extensions highlighter).names ↔
      other = name ∨ other ∈ before.names := by
  rw [mem_names_iff_isSome, mem_names_iff_isSome, get?_addHighlighter]
  by_cases hname : name = other
  · simp [hname]
  · simp [hname, Ne.symm hname]

/-- A language that is registered takes its name and its files, and nothing else changes. -/
theorem Follows.replaces (hf : before.Follows budget history)
    (hadded : before.addLanguage language = .ok after) :
    Replaces history before language after := by
  obtain ⟨patterns, hpatterns, rfl⟩ := addLanguage_eq_ok_iff.1 hadded
  -- extensions are only ever added, so a file goes to the language if it does now or did before
  have hfile : ∀ path, (before.addHighlighter language.name language.extensions
        (patterns.highlighter.withMaxLines before.maxLinesPerFrame)).detect? path =
          some language.name ↔ language.ListsFile path ∨
            ∃ earlier, ofFile? history path = some earlier ∧ earlier.name = language.name := by
    intro path
    by_cases hlists : language.ListsFile path
    · exact iff_of_true (detect?_addHighlighter_of_lists _ hlists) (.inl hlists)
    · rw [detect?_addHighlighter_of_not_lists _ hlists, hf.detect?_eq, Option.map_eq_some_iff]
      exact (or_iff_right hlists).symm
  constructor
  case get?_self =>
    refine ⟨patterns, hpatterns, ?_⟩
    rw [get?_addHighlighter, if_pos rfl]
  case get?_of_ne =>
    intro name hne
    rw [get?_addHighlighter, if_neg (Ne.symm hne)]
  case mem_names_iff => exact mem_names_addHighlighter _ _ _
  case detect?_of_lists => exact fun path hlists => detect?_addHighlighter_of_lists _ hlists
  case detect?_of_not_lists =>
    exact fun path hlists => detect?_addHighlighter_of_not_lists _ hlists
  case detect?_eq_self_iff => exact hfile
  case forgets_iff =>
    constructor
    · intro hforgets path earlier hearlier hname
      exact (hforgets path).1 ((hfile path).2 (.inr ⟨earlier, hearlier, hname⟩))
    · intro hlisted path
      refine ⟨fun hdetect => ?_, fun hlists => (hfile path).2 (.inl hlists)⟩
      rcases (hfile path).1 hdetect with hlists | ⟨earlier, hearlier, hname⟩
      · exact hlists
      · exact hlisted path earlier hearlier hname

/-- In every registry that calls lead to, a language that is registered takes its name and its
files, and nothing else changes. -/
theorem replaces_addLanguage {calls : List Call} (hregistry : withMaxLines budget = .ok registry)
    (hadded : (registry.afterAll calls).addLanguage language = .ok after) :
    Replaces (Registration.history budget calls) (registry.afterAll calls) language after := by
  obtain ⟨builtin, hbuiltin, hfollows⟩ := exists_withMaxLines budget
  rw [hregistry] at hbuiltin
  obtain rfl := Except.ok.inj hbuiltin
  exact (hfollows.afterAll calls).replaces hadded

/-! ## An extension that stays -/

/-- A table of notes in files with one extension. -/
def notes (extension : String) : Language := { name := "Notes", extensions := [extension] }

/-- The sample table compiles with any extension. -/
lemma exists_ofLanguage_notes (extension : String) :
    ∃ patterns, PatternHighlighter.ofLanguage (notes extension) = .ok patterns := by
  have hvalid : (notes extension).validate = .ok () := by
    have hname : "Notes".toList.all Unicode.isBlank = false := by decide
    have hmarks : ¬("" ≠ "" ∧ "" = "") := fun h => h.1 rfl
    show (if "Notes".toList.all Unicode.isBlank then _ else if "" ≠ "" ∧ "" = "" then _ else _) = _
    rw [hname, if_neg Bool.false_ne_true, if_neg hmarks]
    rfl
  exact ⟨_, (PatternHighlighter.ofLanguage_eq_ok_iff _ _).2 ⟨hvalid, [], rfl, rfl⟩⟩

/-- The sample table can be added to any registry. -/
lemma exists_addLanguage_notes (before : Registry) (extension : String) :
    ∃ after, before.addLanguage (notes extension) = .ok after := by
  obtain ⟨patterns, hpatterns⟩ := exists_ofLanguage_notes extension
  exact ⟨_, addLanguage_eq_ok_iff.2 ⟨patterns, hpatterns, rfl⟩⟩

/-- Notes that are registered for one extension and then for another. -/
theorem replaces_addLanguage_notes : ∃ registry after, withMaxLines 1000 = .ok registry ∧
    (registry.afterAll [.addLanguage (notes "txt")]).addLanguage (notes "md") = .ok after ∧
    Replaces (Registration.history 1000 [.addLanguage (notes "txt")])
      (registry.afterAll [.addLanguage (notes "txt")]) (notes "md") after := by
  obtain ⟨registry, hregistry, -⟩ := exists_withMaxLines 1000
  obtain ⟨after, hadded⟩ :=
    exists_addLanguage_notes (registry.afterAll [.addLanguage (notes "txt")]) "md"
  exact ⟨registry, after, hregistry, hadded, replaces_addLanguage hregistry hadded⟩

/-- Files with the first extension stay notes, though the table for the second does not list them.
-/
theorem not_forgets_notes : ∃ registry after, withMaxLines 1000 = .ok registry ∧
    (registry.afterAll [.addLanguage (notes "txt")]).addLanguage (notes "md") = .ok after ∧
    after.detect? "a.txt" = some "Notes" ∧ ¬(notes "md").ListsFile "a.txt" := by
  obtain ⟨registry, hregistry, hfollows⟩ := exists_withMaxLines 1000
  obtain ⟨after, hadded⟩ :=
    exists_addLanguage_notes (registry.afterAll [.addLanguage (notes "txt")]) "md"
  have hreplaces := (hfollows.afterAll [.addLanguage (notes "txt")]).replaces hadded
  have hextension : Path.extension? "a.txt" = some "txt" := by decide +kernel
  have hlists : ¬(notes "md").ListsFile "a.txt" := by
    rintro ⟨extension, hsome, hmem⟩
    rw [hextension] at hsome
    obtain rfl := Option.some.inj hsome
    revert hmem
    decide +kernel
  obtain ⟨earlier, hcall, hname, hlists'⟩ : ∃ earlier,
      ofCall? 1000 (.addLanguage (notes "txt")) = some earlier ∧ earlier.name = "Notes" ∧
        earlier.lists (Unicode.lowerCaseText "txt") := by
    obtain ⟨patterns, hpatterns⟩ := exists_ofLanguage_notes "txt"
    refine ⟨Registration.mk "Notes" ["txt"] (patterns.highlighter.withMaxLines 1000) true, ?_, rfl,
      lists_iff.2 (List.mem_singleton.2 rfl)⟩
    show ofLanguage? 1000 (notes "txt") = _
    rw [ofLanguage?, hpatterns]
    rfl
  refine ⟨registry, after, hregistry, hadded, ?_, hlists⟩
  refine (hreplaces.detect?_eq_self_iff "a.txt").2 (.inr ⟨earlier, ?_, hname⟩)
  -- the history ends with the notes that have been registered first
  rw [ofFile?, hextension, Option.bind_some, List.filterMap_cons_some hcall, List.filterMap_nil,
    latest?_concat, if_pos hlists']

end Registry

end Highlight
