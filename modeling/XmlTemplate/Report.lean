import XmlTemplate.Failure
import XmlTemplate.Template.DirectiveKind

/-!
How a problem is reported to the user: its wording, and where possible details and a suggestion. On
the way up, each layer may say what it was doing; these contexts become part of the wording and do
not change the advice.
-/

namespace XmlTemplate

/-- A message with optional details and an optional suggestion. -/
structure Report where
  message : String
  details : Option String
  suggestion : Option String
deriving DecidableEq

def Report.text (report : Report) : String :=
  report.message ++
    (report.details.elim "" ("\nDetails: " ++ ·)) ++
    (report.suggestion.elim "" ("\nSuggestion: " ++ ·))

def Report.printed (report : Report) : String :=
  "error: " ++ report.message ++ "\n" ++
    (report.details.elim "" ("details: " ++ · ++ "\n")) ++
    (report.suggestion.elim "" ("suggestion: " ++ · ++ "\n"))

inductive Cause
  | failure (reason : Failure)
  | io (reason : IoCause)
  | message (text : String)
  | report (made : Report)
deriving DecidableEq

/-- A cause with what the layers above it were doing, innermost first. -/
structure Problem where
  contexts : List String
  cause : Cause
deriving DecidableEq

/-- The wordings of a cause and of what caused it, outermost first. -/
def Cause.messages : Cause → List String
  | .failure reason => reason.messages
  | .io reason => [reason.message]
  | .message text => [text]
  | .report made => [made.text]

namespace Problem

def ofFailure (failure : Failure) : Problem := ⟨[], .failure failure⟩

def within (problem : Problem) (context : String) : Problem :=
  { problem with contexts := problem.contexts ++ [context] }

def messages (problem : Problem) : List String :=
  problem.contexts.reverse ++ problem.cause.messages

def line (problem : Problem) : String := ": ".intercalate problem.messages

end Problem

def Failure.details? : Failure → Option String
  | .malformed source line _ =>
      some (source.path ++ " is not well-formed XML near line " ++ toString line)
  | .unknownDirective _ _ _ =>
      some ("Known directives are: " ++ ", ".intercalate Template.DirectiveKind.names)
  | .cyclicInclude chain => some ("Include chain: " ++ Failure.chainText chain)
  | _ => none

def Failure.suggestion? : Failure → Option String
  | .malformed _ _ _ => some "Check for unclosed elements and undeclared namespace prefixes"
  | .unknownDirective name _ suggestion =>
      suggestion.map fun known => "Did you mean <" ++ known ++ "> instead of <" ++ name ++ ">?"
  | .unboundIndirect _ attr var _ =>
      some ("Bind '" ++ var ++ "' (for example with --var " ++ var ++
        "=...) or give a literal '" ++ attr ++ "' attribute")
  | .missingAttribute _ attr _ => some ("Add a '" ++ attr ++ "' attribute to the directive")
  | .attrOutsideElement _ =>
      some "Move the <attr> directive inside the element it should modify"
  | .cyclicInclude _ => some "Remove one of the includes to break the cycle"
  | .invalidSelector _ _ _ =>
      some "Selectors are XPath location paths such as /*/* or //div[@id='content']"
  | .unreadable _ cause =>
      if cause.kind = .notFound then some "Check that the path exists and is spelled correctly"
      else none
  | .unresolvableInclude _ _ _ => none

def IoCause.suggestion? (cause : IoCause) : Option String :=
  match cause.kind with
  | .notFound => some "Check that the path exists"
  | .permissionDenied => some "Check the file permissions"
  | .other => none

/-- The report of a problem. Advice comes from the innermost failure. -/
def Problem.report (problem : Problem) : Report :=
  match problem.cause with
  | .failure reason =>
      ⟨problem.line, reason.rootCause.details?, reason.rootCause.suggestion?⟩
  | .io reason => ⟨problem.line, none, reason.suggestion?⟩
  | .message _ => ⟨problem.line, none, none⟩
  | .report _ => ⟨problem.line, none, none⟩

end XmlTemplate
