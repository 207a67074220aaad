import XmlTemplate.Template.Expansion

/-!
Calls on one shelf. Templates are loaded from it and expanded with its sources, and every request is
recorded there.
-/

namespace XmlTemplate.Shelf

open Markup Template

def loadTemplate (shelf : Shelf) (source : SourceId) : Except Failure Template × Shelf :=
  let (loaded, later) := shelf.load source
  (loaded.map (Template.mk source), later)

def expand (shelf : Shelf) (template : Template) (bindings : Bindings) :
    (Except Failure Document × Progress) × Shelf :=
  let expanded := template.expand shelf.library bindings
  (expanded, shelf.record expanded.2.requests)

inductive Call
  | load (source : SourceId)
  | expand (template : Template) (bindings : Bindings)

inductive Answer
  | loaded (outcome : Except Failure Template)
  | expanded (outcome : Except Failure Document) (progress : Progress)

def answer (shelf : Shelf) : Call → Answer × Shelf
  | .load source =>
      let (outcome, later) := shelf.loadTemplate source
      (.loaded outcome, later)
  | .expand template bindings =>
      let ((outcome, progress), later) := shelf.expand template bindings
      (.expanded outcome progress, later)

def answers (shelf : Shelf) : List Call → List Answer × Shelf
  | [] => ([], shelf)
  | call :: rest =>
      let (first, later) := shelf.answer call
      let (others, last) := later.answers rest
      (first :: others, last)

end XmlTemplate.Shelf
