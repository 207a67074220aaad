import XmlTemplate.Command.Listing
import XmlTemplate.Config.Settings
import XmlTemplate.Selector.Query
import XmlTemplate.Template.Expansion

/-!
What a request leads to: the texts that are printed, and the files as they are afterwards. Nothing
is written or printed before the whole document is there, so a request that fails prints its problem
alone and leaves every file as it was. Only directories can be left behind: those around the output
are made before it is written, and the ones that were made stay whatever fails after them.
-/

namespace XmlTemplate.Command

open Markup

structure Outcome where
  succeeded : Bool := true
  stdout : String := ""
  stderr : String := ""
  files : Files

def Outcome.status (outcome : Outcome) : Nat := if outcome.succeeded then 0 else 1

def Outcome.failed (files : Files) (problem : Problem) : Outcome :=
  { succeeded := false, stderr := problem.report.printed, files }

structure Plan where
  template : String
  output : Option String
  bindings : Template.Bindings

def noTemplate : Problem :=
  ⟨[], .message ("No template given: pass TEMPLATE or set `template` in " ++ Config.defaultFile)⟩

/-- The bindings of settings with variables of the request laid over them. -/
def overlay (bindings : Template.Bindings) (assignments : List (String × String)) :
    Template.Bindings :=
  bindings.insertAll (assignments.map fun (name, value) => (name, .string value))

def ExpandRequest.plan (request : ExpandRequest) (files : Files) : Except Problem Plan := do
  let settings ← (Config.discover files request.settings).mapError Config.Fault.problem
  let template ← match request.template.orElse fun _ => settings.template with
    | some path => .ok path
    | none => .error noTemplate
  let bindings ← settings.toBindings
  return ⟨template, request.output.orElse fun _ => settings.output,
    overlay bindings request.assignments⟩

/-- Loads and expands the template of a plan. The requests to the library come along, latest
first. -/
def Plan.expand (plan : Plan) (library : Library) : Except Problem Document × List SourceId :=
  let source := SourceId.ofPath plan.template
  match library.load source with
  | .error failure =>
      (.error ((Problem.ofFailure failure).within ("Failed to load template " ++ plan.template)),
        [source])
  | .ok document =>
      let (outcome, progress) := (Template.mk source document).expand library plan.bindings
      (outcome.mapError fun failure =>
          (Problem.ofFailure failure).within ("Failed to expand " ++ plan.template),
        progress.requests ++ [source])

/-- The text of a document for a file, which ends with a line feed. -/
def documentText (indented : Bool) (document : Document) : String :=
  let text := if indented then document.writeIndented else document.write
  if text.toList.getLast? = some '\n' then text else text ++ "\n"

def prepare (files : Files) (path : String) : Files × Except Problem Unit :=
  match Path.parent? path with
  | none | some "" => (files, .ok ())
  | some parent =>
      let (prepared, made) := files.tryDirectoriesFor parent
      (prepared, made.mapError fun refusal =>
        ⟨["Failed to create directory " ++ parent], .io refusal.cause⟩)

def writeOutput (files : Files) (path text : String) : Outcome :=
  match prepare files path with
  | (prepared, .error problem) => .failed prepared problem
  | (prepared, .ok ()) =>
      match prepared.write path text with
      | .error refusal =>
          .failed prepared ⟨["Failed to write output file " ++ path], .io refusal.cause⟩
      | .ok written => { stdout := "Expanded " ++ path ++ "\n", files := written }

def ExpandRequest.run (request : ExpandRequest) (files : Files) : Outcome :=
  match request.plan files with
  | .error problem => .failed files problem
  | .ok plan =>
      match (plan.expand files.library).1 with
      | .error problem => .failed files problem
      | .ok document =>
          let text := documentText request.indented document
          match plan.output with
          | some path => writeOutput files path text
          | none => { stdout := text, files }

def SelectRequest.nodes (request : SelectRequest) (library : Library) : Except Problem Forest := do
  let document ← (library.load (.ofPath request.document)).mapError fun failure =>
    (Problem.ofFailure failure).within ("Failed to load document " ++ request.document)
  (document.select request.selector).mapError Problem.ofFailure

/-- The outcome of a request to select. It is a success, though one with a warning, if there is
nothing to list. -/
def SelectRequest.run (request : SelectRequest) (files : Files) : Outcome :=
  match request.nodes files.library with
  | .error problem => .failed files problem
  | .ok nodes =>
      let warning :=
        if nodes.isEmpty && request.listing = .text then
          "warning: no nodes matched " ++ request.selector ++ "\n"
        else ""
      { stdout := request.listing.write nodes, stderr := warning, files }

def Request.run (request : Request) (files : Files) : Outcome :=
  match request with
  | .expand request => request.run files
  | .select request => request.run files

def ExpandRequest.paths (request : ExpandRequest) (files : Files) : List String :=
  let settings := request.settings.getD Config.defaultFile
  match request.plan files with
  | .error _ => [settings]
  | .ok plan =>
      settings :: plan.output.toList ++ (plan.expand files.library).2.map SourceId.path

/-- The paths that a request looks at. With files that are the same there, its outcome is the
same. -/
def Request.paths (request : Request) (files : Files) : List String :=
  match request with
  | .expand request => request.paths files
  | .select request => [(SourceId.ofPath request.document).path]

end XmlTemplate.Command
