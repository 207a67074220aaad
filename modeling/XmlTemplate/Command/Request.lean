/-!
What the user asks for: to expand a template, or to list the nodes that a selector selects.
-/

namespace XmlTemplate.Command

inductive LogLevel
  | error
  | warn
  | debug
deriving DecidableEq

inductive Listing
  | text
  | json
deriving DecidableEq

/-- A request to expand a template. What it leaves open is taken from the settings, and its
variables win over those in the settings. -/
structure ExpandRequest where
  template : Option String := none
  settings : Option String := none
  output : Option String := none
  assignments : List (String × String) := []
  indented : Bool := false
deriving DecidableEq

structure SelectRequest where
  document : String
  selector : String
  listing : Listing := .text
deriving DecidableEq

inductive Request
  | expand (request : ExpandRequest)
  | select (request : SelectRequest)
deriving DecidableEq

/-- A request with what it shares with every other one. -/
structure Invocation where
  logLevel : LogLevel := .warn
  plain : Bool := false
  request : Request
deriving DecidableEq

end XmlTemplate.Command
