import XmlTemplate.Source.Id

/-!
Everything that can go wrong while templates are read, searched and expanded. A failure names the
source that it concerns. It may have causes: an unreadable file has the reason given by the system,
and an include that cannot be resolved has the failure met while loading its target.
-/

namespace XmlTemplate

inductive IoKind
  | notFound
  | permissionDenied
  | other
deriving DecidableEq

structure IoCause where
  kind : IoKind
  message : String
deriving DecidableEq

inductive Failure
  /-- A text is not well-formed markup near a line. -/
  | malformed (source : SourceId) (line : Nat) (message : String)
  /-- An element in the template namespace is no directive. -/
  | unknownDirective (name : String) (source : SourceId) (suggestion : Option String)
  /-- The target of an include cannot be loaded. -/
  | unresolvableInclude (written : String) (origin : SourceId) (cause : Failure)
  /-- The variable named by an indirect attribute is unbound, and there is no direct one. -/
  | unboundIndirect (directive attr var : String) (source : SourceId)
  /-- A directive lacks an attribute that it needs. -/
  | missingAttribute (directive attr : String) (source : SourceId)
  /-- There is no element around an attribute directive. -/
  | attrOutsideElement (source : SourceId)
  /-- A source includes itself, directly or through others. -/
  | cyclicInclude (chain : List SourceId)
  /-- A selector cannot be parsed; the position counts bytes. -/
  | invalidSelector (selector : String) (position : Nat) (message : String)
  /-- A source cannot be read. -/
  | unreadable (source : SourceId) (cause : IoCause)
deriving DecidableEq

namespace Failure

/-- A chain of includes, outermost first. -/
def chainText (chain : List SourceId) : String := " -> ".intercalate (chain.map SourceId.path)

/-- The wording of a failure without its causes. -/
def message : Failure → String
  | malformed source line text => source.path ++ ":" ++ toString line ++ ": " ++ text
  | unknownDirective name source _ => "Unknown directive <" ++ name ++ "> in " ++ source.path
  | unresolvableInclude written origin _ =>
      "Cannot include '" ++ written ++ "' from " ++ origin.path
  | unboundIndirect directive attr var source =>
      "<" ++ directive ++ "> in " ++ source.path ++ ": variable '" ++ var ++ "' named by '" ++
        attr ++ "var' is not bound"
  | missingAttribute directive attr source =>
      "<" ++ directive ++ "> in " ++ source.path ++ " requires a '" ++ attr ++ "' or '" ++ attr ++
        "var' attribute"
  | attrOutsideElement source => "<attr> in " ++ source.path ++ " has no enclosing element"
  | cyclicInclude chain => "Cyclic include: " ++ chainText chain
  | invalidSelector selector position text =>
      "Invalid selector '" ++ selector ++ "' at position " ++ toString position ++ ": " ++ text
  | unreadable source _ => "Cannot read " ++ source.path

/-- The wordings of a failure and of its causes, outermost first. -/
def messages : Failure → List String
  | failure@(unresolvableInclude _ _ cause) => failure.message :: cause.messages
  | failure@(unreadable _ cause) => [failure.message, cause.message]
  | failure => [failure.message]

def withCauses (failure : Failure) : String := "\n  caused by: ".intercalate failure.messages

/-- The innermost failure behind failed includes. -/
def rootCause : Failure → Failure
  | unresolvableInclude _ _ cause => cause.rootCause
  | failure => failure

end Failure
end XmlTemplate
