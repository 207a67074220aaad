import XmlTemplate.Markup.Node
import XmlTemplate.Failure
import XmlTemplate.Template.Event

/-!
What is known in the course of an expansion. It is kept when the expansion fails, so that the
requests and events up to the failure can be told.
-/

namespace XmlTemplate.Template

open Markup

/-- What an expansion keeps track of: expanded includes, how often one was reused or had to be
loaded, the requests to the library, and events; the last two latest first. -/
structure Progress where
  kept : List (SourceId × Document) := []
  hits : Nat := 0
  misses : Nat := 0
  requests : List SourceId := []
  events : List Event := []

/-- A computation that keeps track of its progress, also when it fails. -/
abbrev Expand := ExceptT Failure (StateM Progress)

def note (event : Event) : Expand Unit :=
  modify fun progress => { progress with events := event :: progress.events }

end XmlTemplate.Template
