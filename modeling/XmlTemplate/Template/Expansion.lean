import XmlTemplate.Source.Library
import XmlTemplate.Template.Walk

/-!
Expansion of a template with everything it includes. An included source is expanded in its own right
before nodes are selected from it; each source is expanded at most once, and one that is still being
expanded cannot be included again. Expansion ends because the sources being expanded are all
different and a library holds finitely many.
-/

namespace XmlTemplate.Template

open Markup

def loadTarget (library : Library) (origin : SourceId) (written : String) (target : SourceId) :
    Expand { document : Document // library.load target = .ok document } := do
  note (.loading target)
  modify fun progress =>
    { progress with misses := progress.misses + 1, requests := target :: progress.requests }
  match loaded : library.load target with
  | .error cause => throw (.unresolvableInclude written origin cause)
  | .ok document => return ⟨document, loaded⟩

/-- The number of sources of a library that are not being expanded. -/
def unvisited (library : Library) (stack : List SourceId) : Nat :=
  (library.ids.filter (!stack.contains ·)).length

theorem unvisited_lt {library : Library} {stack : List SourceId} {target : SourceId}
    {document : Document} (fresh : target ∉ stack) (loaded : library.load target = .ok document) :
    unvisited library (stack ++ [target]) < unvisited library stack := by
  have member := Library.mem_ids_of_load loaded
  have narrower : library.ids.filter (!(stack ++ [target]).contains ·) =
      (library.ids.filter (!stack.contains ·)).filter (· != target) := by
    rw [List.filter_filter]
    apply List.filter_congr
    intro source _
    by_cases same : source = target <;> simp [same]
  unfold unvisited
  rw [narrower]
  refine List.length_filter_lt_length_iff_exists.2 ⟨target, ?_, by simp⟩
  simpa [member] using fresh

/-- Expands a source, given the sources being expanded, outermost first and this one last. An
include of one of them is refused; otherwise its target is taken from the expanded includes, or
loaded, expanded and kept. -/
def expandSource (library : Library) (bindings : Bindings) (stack : List SourceId)
    (source : SourceId) (document : Document) : Expand Document :=
  let fetch (written : String) (target : SourceId) : Expand Document := do
    if _fresh : target ∈ stack then throw (.cyclicInclude (stack ++ [target]))
    else
      match (← get).kept.lookup target with
      | some expanded =>
          note (.reused target)
          modify fun progress => { progress with hits := progress.hits + 1 }
          return expanded
      | none =>
          let ⟨loaded, _found⟩ ← loadTarget library source written target
          let expanded ← expandSource library bindings (stack ++ [target]) target loaded
          modify fun progress => { progress with kept := (target, expanded) :: progress.kept }
          return expanded
  (Surroundings.mk bindings source fetch).expandDocument document
termination_by unvisited library stack
decreasing_by exact unvisited_lt _fresh _found

end XmlTemplate.Template

namespace XmlTemplate

open Markup

/-- A template: a document with the source that it comes from. Expanding does not change it. -/
structure Template where
  source : SourceId
  document : Document
deriving DecidableEq

namespace Template

/-- Expands a template. Either all of it is expanded or the first failure is returned. -/
def expandAll (template : Template) (library : Library) (bindings : Bindings) :
    Expand Document := do
  note (.expanding template.source bindings.size)
  let expanded ← expandSource library bindings [template.source] template.source template.document
  let progress ← get
  note (.expanded template.source progress.kept.length progress.hits progress.misses)
  return expanded

def expand (template : Template) (library : Library) (bindings : Bindings) :
    Except Failure Document × Progress :=
  template.expandAll library bindings {}

end Template
end XmlTemplate
