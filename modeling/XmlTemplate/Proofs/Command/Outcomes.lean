import Mathlib.Control.Monad.Basic
import XmlTemplate.Command.Arguments
import XmlTemplate.Command.Outcome
import XmlTemplate.Proofs.Config.Discovery

/-!
All or nothing. A request to expand prints and writes the whole document, or it prints nothing and
leaves every file as it was, at whichever stage it fails. Only new directories can be left behind.
-/

namespace XmlTemplate

open Markup

namespace Command

variable {request : ExpandRequest} {files : Files} {path : String}

/-- A request gets as far as a document: settings are found, a template is named, the variables are
made, the template is loaded, and its expansion succeeds. -/
structure ExpandRequest.Produces (request : ExpandRequest) (files : Files)
    (settings : Config.Settings) (document : Document) : Prop where
  found : Config.Found files request.settings settings
  expanded : ∃ path bindings template,
    request.template.or settings.template = some path ∧ settings.toBindings = .ok bindings ∧
    files.library.load (.ofPath path) = .ok template ∧
    ((Template.mk (.ofPath path) template).expand files.library
      (overlay bindings request.assignments)).1 = .ok document

theorem plan_eq_ok_iff {plan : Plan} : request.plan files = .ok plan ↔
    ∃ settings bindings, Config.Found files request.settings settings ∧
      request.template.or settings.template = some plan.template ∧
      settings.toBindings = .ok bindings ∧ plan.output = request.output.or settings.output ∧
      plan.bindings = overlay bindings request.assignments := by
  simp only [← Config.discover_eq_ok_iff]
  unfold ExpandRequest.plan
  simp only [Option.orElse_eq_or]
  constructor
  · intro planned
    obtain ⟨settings, found, rest⟩ := bind_eq_ok_iff.1 planned
    split at rest
    · rename_i path named
      obtain ⟨_, ⟨⟩, rest⟩ := bind_eq_ok_iff.1 rest
      obtain ⟨bindings, made, rest⟩ := bind_eq_ok_iff.1 rest
      cases rest
      exact ⟨settings, bindings, map_error_eq_ok_iff.1 found, named, made, rfl, rfl⟩
    · cases rest
  · rintro ⟨settings, bindings, found, named, made, output, laid⟩
    obtain ⟨_, _, _⟩ := plan
    cases output
    cases laid
    simp only [found, Except.mapError, bind, Except.bind, named, made]
    rfl

theorem expand_eq_ok_iff {plan : Plan} {library : Library} {document : Document} :
    (plan.expand library).1 = .ok document ↔
      ∃ template, library.load (.ofPath plan.template) = .ok template ∧
        ((Template.mk (.ofPath plan.template) template).expand library plan.bindings).1 =
          .ok document := by
  unfold Plan.expand
  dsimp only
  split
  · rename_i failure failed
    simp [failed]
  · rename_i template loaded
    simp only [loaded, Except.ok.injEq, exists_eq_left', map_error_eq_ok_iff]

/-- What a request does that gets as far as a document. -/
theorem run_of_produces {settings : Config.Settings} {document : Document}
    (produces : request.Produces files settings document) :
    request.run files =
      match request.output.or settings.output with
      | some path => writeOutput files path (documentText request.indented document)
      | none => { stdout := documentText request.indented document, files } := by
  obtain ⟨found, path, bindings, template, named, made, loaded, expanded⟩ := produces
  let plan : Plan :=
    ⟨path, request.output.or settings.output, overlay bindings request.assignments⟩
  have planned : request.plan files = .ok plan :=
    plan_eq_ok_iff.2 ⟨settings, bindings, found, named, made, rfl, rfl⟩
  have expansion : (plan.expand files.library).1 = .ok document :=
    expand_eq_ok_iff.2 ⟨template, loaded, expanded⟩
  simp only [ExpandRequest.run, planned, expansion]
  rfl

theorem run_without_document
    (never : ¬ ∃ settings document, request.Produces files settings document) :
    ∃ problem, request.run files = .failed files problem := by
  unfold ExpandRequest.run
  cases planned : request.plan files with
  | error problem => exact ⟨problem, rfl⟩
  | ok plan =>
    dsimp only
    cases expansion : (plan.expand files.library).1 with
    | error problem => exact ⟨problem, rfl⟩
    | ok document =>
      obtain ⟨settings, bindings, found, named, made, -, laid⟩ := plan_eq_ok_iff.1 planned
      obtain ⟨template, loaded, expanded⟩ := expand_eq_ok_iff.1 expansion
      rw [laid] at expanded
      have produces : request.Produces files settings document :=
        ⟨found, plan.template, bindings, template, named, made, loaded, expanded⟩
      exact absurd ⟨settings, document, produces⟩ never

/-- A file can be written: the directories around it are there or can be made, and then its path,
which does not end in a slash, leads to a location without a directory. -/
def Writable (files : Files) (path : String) (location : Location) : Prop :=
  ∃ prepared, prepare files path = (prepared, .ok ()) ∧ Files.endsInSlash path = false ∧
    prepared.LeadsTo path location ∧ prepared.entry? location ≠ some .directory

theorem untouched_prepare (files : Files) (path : String) :
    files.Untouched (prepare files path).1 := by
  unfold prepare
  split
  · exact .refl files
  · exact .refl files
  · exact Files.untouched_try_directories_for _

theorem write_output_writable (text : String) {location : Location}
    (writable : Writable files path location) :
    (writeOutput files path text).succeeded = true ∧
      (writeOutput files path text).files.LeadsTo path location ∧
      files.WrittenAt (writeOutput files path text).files location text := by
  obtain ⟨prepared, ready, plain, leads, free⟩ := writable
  have written : prepared.write path text = .ok (prepared.put location (.file text.toUTF8)) :=
    Files.write_eq_ok_iff.2 ⟨plain, location, leads, free, rfl⟩
  have untouched := untouched_prepare files path
  rw [ready] at untouched
  simp only [writeOutput, ready, written, true_and]
  exact ⟨Files.leads_to_put free leads, untouched.written_at (Files.written_at_put free)⟩

theorem write_output_unwritable (text : String)
    (never : ∀ location, ¬ Writable files path location) :
    ∃ after problem, writeOutput files path text = .failed after problem ∧
      files.Untouched after := by
  have untouched := untouched_prepare files path
  unfold writeOutput
  rcases ready : prepare files path with ⟨prepared, problem | ⟨⟩⟩
  -- The directories that were made stay, whatever fails after them.
  all_goals rw [ready] at untouched
  · exact ⟨prepared, problem, rfl, untouched⟩
  · dsimp only
    cases written : prepared.write path text with
    | error refusal => exact ⟨prepared, _, rfl, untouched⟩
    | ok after =>
      obtain ⟨plain, location, leads, free, -⟩ := Files.write_eq_ok_iff.1 written
      exact absurd ⟨prepared, ready, plain, leads, free⟩ (never location)

/-- A text with a line feed at its end, which was added where there was none. -/
structure Closed (plain text : String) : Prop where
  same : text = plain ∨ text = plain ++ "\n" ∧ plain.toList.getLast? ≠ some '\n'
  ends : text.toList.getLast? = some '\n'

theorem closed_document_text (indented : Bool) (document : Document) :
    Closed (if indented then document.writeIndented else document.write)
      (documentText indented document) := by
  rw [documentText]
  generalize (if indented then document.writeIndented else document.write) = plain
  by_cases ended : plain.toList.getLast? = some '\n'
  · rw [if_pos ended]
    exact ⟨.inl rfl, ended⟩
  · rw [if_neg ended]
    exact ⟨.inr ⟨rfl, ended⟩, by simp⟩

/-- Arguments are accepted as a request to expand, and with the given files it has an outcome. -/
def Leads (arguments : List String) (files : Files) (request : ExpandRequest)
    (outcome : Outcome) : Prop :=
  ∃ invocation, Invocation.read arguments = .ok invocation ∧
    invocation.request = .expand request ∧ outcome = invocation.request.run files

/-- Every stage of a request succeeds: it gets as far as a document, and the file that this goes to,
if it goes to one, can be written. The file that is asked for comes before that of the settings. -/
def ExpandRequest.Feasible (request : ExpandRequest) (files : Files) : Prop :=
  ∃ settings document, request.Produces files settings document ∧
    ∀ path, request.output.or settings.output = some path → ∃ location, Writable files path location

/-- An outcome in which everything that a request asks for was done, or nothing. -/
structure AllOrNothing (request : ExpandRequest) (files : Files) (outcome : Outcome) : Prop where
  succeeded_iff : outcome.succeeded = true ↔ request.Feasible files
  nothing : outcome.succeeded = false → outcome.stdout = "" ∧ files.Untouched outcome.files
  all : outcome.succeeded = true → ∃ settings document text,
    request.Produces files settings document ∧
      Closed (if request.indented then document.writeIndented else document.write) text ∧
      match request.output.or settings.output with
      | some path => ∃ location, outcome.files.LeadsTo path location ∧
          files.WrittenAt outcome.files location text ∧ outcome.files.read path = .ok text
      | none => outcome.stdout = text ∧ outcome.files = files

theorem all_or_nothing_of_failed {after : Files} {problem : Problem}
    (never : ¬ request.Feasible files) (untouched : files.Untouched after) :
    AllOrNothing request files (.failed after problem) where
  succeeded_iff := iff_of_false nofun never
  nothing _ := ⟨rfl, untouched⟩
  all := nofun

theorem all_or_nothing_printed {settings : Config.Settings} {document : Document}
    (produces : request.Produces files settings document)
    (target : request.output.or settings.output = none) :
    AllOrNothing request files
      { stdout := documentText request.indented document, files } where
  succeeded_iff := by
    refine iff_of_true rfl ⟨settings, document, produces, fun path named => ?_⟩
    rw [target] at named
    cases named
  nothing := nofun
  all _ := by
    refine ⟨settings, document, _, produces, closed_document_text request.indented document, ?_⟩
    rw [target]
    exact ⟨rfl, rfl⟩

theorem all_or_nothing_written {settings : Config.Settings} {document : Document}
    (produces : request.Produces files settings document)
    (target : request.output.or settings.output = some path) :
    AllOrNothing request files
      (writeOutput files path (documentText request.indented document)) := by
  by_cases writable : ∃ location, Writable files path location
  · obtain ⟨location, writable⟩ := writable
    obtain ⟨succeeded, leads, written⟩ := write_output_writable
      (documentText request.indented document) writable
    constructor
    · refine iff_of_true succeeded ⟨settings, document, produces, fun other named => ?_⟩
      rw [target] at named
      cases named
      exact ⟨location, writable⟩
    · intro failed
      rw [succeeded] at failed
      cases failed
    · intro _
      refine ⟨settings, document, _, produces, closed_document_text request.indented document, ?_⟩
      rw [target]
      exact ⟨location, leads, written, Files.read_of_leads leads written.written⟩
  · obtain ⟨after, problem, failed, untouched⟩ := write_output_unwritable
      (documentText request.indented document) fun location here => writable ⟨location, here⟩
    rw [failed]
    refine all_or_nothing_of_failed ?_ untouched
    -- The settings are determined, so whoever gets as far as a document goes to the same file.
    rintro ⟨others, _, again, all_writable⟩
    rw [← Config.found_unique produces.found again.found] at all_writable
    exact writable (all_writable path target)

/-- An expansion is all or nothing, and it is all exactly if every stage succeeds. -/
theorem all_or_nothing {arguments : List String} {outcome : Outcome}
    (leads : Leads arguments files request outcome) : AllOrNothing request files outcome := by
  obtain ⟨invocation, -, asked, rfl⟩ := leads
  rw [asked, Request.run]
  by_cases produced : ∃ settings document, request.Produces files settings document
  · obtain ⟨settings, document, produces⟩ := produced
    rw [run_of_produces produces]
    cases target : request.output.or settings.output with
    | none => exact all_or_nothing_printed produces target
    | some path => exact all_or_nothing_written produces target
  · obtain ⟨problem, failed⟩ := run_without_document produced
    rw [failed]
    refine all_or_nothing_of_failed ?_ (.refl files)
    rintro ⟨settings, document, produces, -⟩
    exact produced ⟨settings, document, produces⟩

def siteFiles : Files where
  entries := [(["site"], .directory),
    (["site", "xmlskin.toml"], .file "output = \"out/page.xml\"\n".toUTF8),
    (["skin.xml"], .file "<a><b/></a>".toUTF8)]
  workingDirectory := []

def siteArguments : List String := ["-q", "expand", "skin.xml", "--pretty", "-csite/xmlskin.toml"]

def siteRequest : ExpandRequest where
  template := some "skin.xml"
  settings := some "site/xmlskin.toml"
  indented := true

theorem site_all_or_nothing :
    Leads siteArguments siteFiles siteRequest (siteRequest.run siteFiles) ∧
      (siteRequest.run siteFiles).succeeded = true ∧
      (siteRequest.run siteFiles).files.read "site/out/page.xml" =
        .ok "<a>\n  <b/>\n</a>\n" ∧
      AllOrNothing siteRequest siteFiles (siteRequest.run siteFiles) := by
  have leads : Leads siteArguments siteFiles siteRequest (siteRequest.run siteFiles) :=
    ⟨⟨.error, false, .expand siteRequest⟩, by decide +kernel, rfl, rfl⟩
  have done : (siteRequest.run siteFiles).succeeded = true ∧
      (siteRequest.run siteFiles).files.read "site/out/page.xml" =
        .ok "<a>\n  <b/>\n</a>\n" := by
    decide +kernel
  exact ⟨leads, done.1, done.2, all_or_nothing leads⟩

end Command
end XmlTemplate
