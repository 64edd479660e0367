import Highlight.Registry
import Mathlib.Tactic.Lemma

/-!
# Calls on a registry

A host changes a registry in place, one extension after the other, and a call can fail on its way.
`Registry.Change` is the type of such programs: what one has changed by the time it fails stays
changed. `run_addHighlighter` and `run_addLanguage` say that the two calls amount to the operations
of `Registry`. In particular all that can fail comes before the first change.
-/

namespace Highlight

namespace Registry

lemma getElem?_insert {α : Type} (map : Std.TreeMap String α) (key other : String) (value : α) :
    (map.insert key value)[other]? = if key = other then some value else map[other]? := by
  rw [Std.TreeMap.getElem?_insert]
  simp only [Std.compare_eq_iff_eq]

/-- A highlighter is found under the name that it is registered for, the others as before. -/
theorem get?_addHighlighter (registry : Registry) (name : String) (extensions : List String)
    (highlighter : Highlighter) (other : String) :
    (registry.addHighlighter name extensions highlighter).get? other =
      if name = other then some highlighter else registry.get? other :=
  getElem?_insert registry.highlighters name other highlighter

/-- A program that changes a registry in place and that may fail. -/
abbrev Change := EStateM LanguageError Registry

namespace Change

/-- Lets an extension stand for a language. -/
def setLanguage (extension name : String) : Change Unit :=
  modify fun registry =>
    { registry with
      languageOf := registry.languageOf.insert (Unicode.lowerCaseText extension) name }

/-- Puts a highlighter under a name. -/
def setHighlighter (name : String) (highlighter : Highlighter) : Change Unit :=
  modify fun registry =>
    { registry with highlighters := registry.highlighters.insert name highlighter }

/-- Registers a highlighter: first its extensions one by one, then its name. -/
def addHighlighter (name : String) (extensions : List String) (highlighter : Highlighter) :
    Change Unit := do
  forM extensions (setLanguage · name)
  setHighlighter name highlighter

/-- Registers a language: its table is compiled, then the highlighter for it is registered. -/
def addLanguage (language : Language) : Change Unit := do
  match PatternHighlighter.ofLanguage language with
  | .error fault => throw fault
  | .ok patterns =>
    let registry ← get
    addHighlighter language.name language.extensions
      (patterns.highlighter.withMaxLines registry.maxLinesPerFrame)

/-- A change goes on from what the one before it leaves. -/
theorem run_bind {α β : Type} {change : Change α} {next : α → Change β} {registry after : Registry}
    {answer : α} (h : change.run registry = .ok answer after) :
    (change >>= next).run registry = (next answer).run after := by
  show EStateM.bind change next registry = next answer after
  unfold EStateM.bind
  rw [show change registry = .ok answer after from h]

/-- The extensions of a language are set one after the other. -/
lemma run_forM_setLanguage (name : String) (extensions : List String) (registry : Registry) :
    (forM extensions (setLanguage · name)).run registry =
      .ok ⟨⟩ { registry with
        languageOf := extensions.foldl
          (fun languageOf extension => languageOf.insert (Unicode.lowerCaseText extension) name)
          registry.languageOf } := by
  induction extensions generalizing registry with
  | nil => rfl
  | cons extension extensions ih =>
    have hfirst : (setLanguage extension name).run registry =
      .ok ⟨⟩ { registry with
        languageOf := registry.languageOf.insert (Unicode.lowerCaseText extension) name } := rfl
    rw [List.forM_cons, run_bind hfirst]
    exact ih _

/-- Registering a highlighter in place gives the registry with the highlighter added. -/
theorem run_addHighlighter (name : String) (extensions : List String) (highlighter : Highlighter)
    (registry : Registry) :
    (addHighlighter name extensions highlighter).run registry =
      .ok ⟨⟩ (registry.addHighlighter name extensions highlighter) := by
  unfold addHighlighter
  rw [run_bind (run_forM_setLanguage name extensions registry)]
  rfl

/-- Registering a language in place gives the registry with the language added, or else it fails
with the same fault and leaves the registry as it was. -/
theorem run_addLanguage (language : Language) (registry : Registry) :
    (addLanguage language).run registry =
      match registry.addLanguage language with
      | .ok after => .ok ⟨⟩ after
      | .error fault => .error fault registry := by
  unfold addLanguage Registry.addLanguage
  cases PatternHighlighter.ofLanguage language with
  | error fault => rfl
  | ok patterns => exact run_addHighlighter _ _ _ registry

end Change

/-- A call that a host can make. -/
inductive Call where
  | addLanguage (language : Language)
  | addHighlighter (name : String) (extensions : List String) (highlighter : Highlighter)

/-- The program of a call. -/
def Call.change : Call → Change Unit
  | addLanguage language => .addLanguage language
  | addHighlighter name extensions highlighter => .addHighlighter name extensions highlighter

/-- The registry that a call leaves behind, whether it fails or not. -/
def after (registry : Registry) (call : Call) : Registry :=
  match call.change.run registry with
  | .ok _ after => after
  | .error _ after => after

/-- The registry that calls leave behind, one made after the other. -/
def afterAll (registry : Registry) (calls : List Call) : Registry :=
  calls.foldl after registry

end Registry

end Highlight
