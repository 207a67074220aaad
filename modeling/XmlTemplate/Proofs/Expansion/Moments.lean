import Mathlib.Logic.Relation
import XmlTemplate.Proofs.Expansion.Runs

/-!
Expansion one step at a time. A moment of an expansion holds everything that is unfinished: the
source being expanded with its open elements, the sources around it that wait for an include, and
the progress so far. From every moment at most one step leads on. The steps from the first moment of
an expansion end, and they end with what the expansion of the whole template returns.

Documents come from a provider here, which may answer each request as it likes. The expansion of a
whole template uses the provider of a library.
-/

namespace XmlTemplate.Template

open Markup

structure Provider where
  /-- The answer to a request, given the requests made before, latest first. -/
  load : List SourceId → SourceId → Except Failure Document
  resolve : SourceId → String → SourceId

def Provider.ofLibrary (library : Library) : Provider where
  load := fun _ => library.load
  resolve := SourceId.joinRelative

/-- An ordinary element whose children are being expanded, with what came before it and the siblings
that follow. -/
structure OpenElement where
  name : Name
  attributes : Attributes
  before : Yield
  after : Forest

def OpenElement.close (opened : OpenElement) (inner : Yield) : Yield :=
  let edited := inner.edits.foldl Edit.apply (pageAttributes opened.attributes)
  opened.before.append (.ofNodes [.element opened.name edited inner.nodes])

/-- A source being expanded: its open elements, innermost first, the contribution collected for the
innermost of them, and the nodes still to be visited there. -/
structure Frame where
  source : SourceId
  around : List OpenElement
  got : Yield
  todo : Forest

def Frame.ofSource (source : SourceId) (nodes : Forest) : Frame := ⟨source, [], .none, nodes⟩

/-- A source that goes on once the target of an include is expanded, and the selector for what it
takes from the target. -/
structure Waiting where
  frame : Frame
  selector : String

/-- The sources being expanded, outermost first: those that wait, innermost first, and one more. -/
def stackOf (waiting : List Waiting) (source : SourceId) : List SourceId :=
  (waiting.map (·.frame.source)).reverse ++ [source]

structure Moment where
  frame : Frame
  waiting : List Waiting
  progress : Progress
  failure : Option Failure

inductive Move
  | give (part : Expand Yield)
  | descend (nodes : Forest)
  | enter (name : Name) (attributes : Attributes) (children : Forest)
  | fetch (written : String) (target : SourceId) (selector : String)

def Provider.target (provider : Provider) (source : SourceId) (form : Form) (written : String) :
    SourceId :=
  match form with
  | .indirect => .ofPath written
  | .direct => provider.resolve source written

/-- The surroundings of a node that is no include; nothing is obtained there. -/
def secluded (bindings : Bindings) (source : SourceId) : Surroundings :=
  ⟨bindings, source, fun _ _ => return ⟨[]⟩⟩

def moveOfDirective (provider : Provider) (bindings : Bindings) (source : SourceId)
    (enclosed : Bool) (children : Forest) (directive : Directive) : Move :=
  let around := secluded bindings source
  match directive with
  | .condition var value => .descend (if around.isActive var value then children else [])
  | .inclusion src elements =>
      match src.require bindings .inclusion source with
      | .error failure => .give (do note (.running .inclusion source); throw failure)
      | .ok (form, written) =>
          .fetch written (provider.target source form written)
            ((elements.resolve bindings).2.getD defaultSelector)
  | .text var => .give do
      note (.running .text source)
      return .ofNodes [around.textOf var]
  | .attr name value => .give do
      note (.running .attr source)
      around.runAttr enclosed name value
  | .dynamic var => .give do
      note (.running .dynamic source)
      around.runDynamic var

def moveOf (provider : Provider) (bindings : Bindings) (source : SourceId) (enclosed : Bool) :
    Node → Move
  | .element name attributes children =>
      if isDirective name then
        match Directive.decode name.localName attributes source with
        | .error failure => .give (throw failure)
        | .ok directive => moveOfDirective provider bindings source enclosed children directive
      else .enter name attributes children
  | other => .give (return .ofNodes [other])

def chosen (selector : String) (document : Document) : Expand Yield := do
  return .ofNodes (← Surroundings.select selector document)

namespace Moment

def stack (moment : Moment) : List SourceId := stackOf moment.waiting moment.frame.source

def fail (moment : Moment) (failure : Failure) : Moment :=
  { moment with frame := .ofSource moment.frame.source [], failure := some failure }

def take (moment : Moment) (part : Expand Yield) : Moment :=
  match part moment.progress with
  | (.ok yield, later) =>
      { moment with
        frame := { moment.frame with got := moment.frame.got.append yield }
        progress := later }
  | (.error failure, later) => { moment with progress := later }.fail failure

def log (moment : Moment) (event : Event) : Moment :=
  { moment with progress := { moment.progress with events := event :: moment.progress.events } }

/-- Obtains the target of an include: from what is kept, or by expanding it next. -/
def fetch (provider : Provider) (moment : Moment) (written : String) (target : SourceId)
    (selector : String) : Moment :=
  if target ∈ moment.stack then moment.fail (.cyclicInclude (moment.stack ++ [target]))
  else
    match moment.progress.kept.lookup target with
    | some expanded =>
        let reused := { moment.progress with
          hits := moment.progress.hits + 1
          events := .reused target :: moment.progress.events }
        { moment with progress := reused }.take (chosen selector expanded)
    | none =>
        let asked := { moment with progress := moment.progress.request target }
        match provider.load moment.progress.requests target with
        | .error cause => asked.fail (.unresolvableInclude written moment.frame.source cause)
        | .ok loaded =>
            { asked with
              frame := .ofSource target loaded.nodes
              waiting := ⟨moment.frame, selector⟩ :: moment.waiting }

/-- Does what a node asks for; the frame is already that of the siblings after it. -/
def perform (provider : Provider) (moment : Moment) : Move → Moment
  | .give part => moment.take part
  | .descend nodes =>
      { moment.log (.running .condition moment.frame.source) with
        frame := { moment.frame with todo := nodes ++ moment.frame.todo } }
  | .enter name attributes children =>
      let opened : OpenElement := ⟨name, attributes, moment.frame.got, moment.frame.todo⟩
      { moment with
        frame := ⟨moment.frame.source, opened :: moment.frame.around, .none, children⟩ }
  | .fetch written target selector =>
      (moment.log (.running .inclusion moment.frame.source)).fetch provider written target selector

def visit (provider : Provider) (bindings : Bindings) (moment : Moment) (node : Node) : Moment :=
  moment.perform provider
    (moveOf provider bindings moment.frame.source (!moment.frame.around.isEmpty) node)

def deliver (moment : Moment) (parent : Waiting) (waiting : List Waiting) : Moment :=
  let expanded : Document := ⟨moment.frame.got.nodes⟩
  let kept := (moment.frame.source, expanded) :: moment.progress.kept
  { moment with
    frame := parent.frame
    waiting
    progress := { moment.progress with kept } }.take (chosen parent.selector expanded)

/-- The moment after the next step, if there is anything left to do. A failure makes the sources
that wait give up one by one. -/
def next (provider : Provider) (bindings : Bindings) (moment : Moment) : Option Moment :=
  match moment.failure, moment.waiting, moment.frame.todo, moment.frame.around with
  | some _, [], _, _ => none
  | some failure, parent :: waiting, _, _ =>
      some ({ moment with frame := parent.frame, waiting }.fail failure)
  | none, _, node :: todo, _ =>
      some ({ moment with frame := { moment.frame with todo } }.visit provider bindings node)
  | none, _, [], opened :: around =>
      some { moment with
        frame := ⟨moment.frame.source, around, opened.close moment.frame.got, opened.after⟩ }
  | none, parent :: waiting, [], [] => some (moment.deliver parent waiting)
  | none, [], [], [] => none

def outcome (moment : Moment) : Except Failure Document :=
  match moment.failure with
  | some failure => .error failure
  | none => .ok ⟨moment.frame.got.nodes⟩

/-- A step that leaves the outermost sources as they are. -/
def Step (provider : Provider) (bindings : Bindings) (floor : List SourceId)
    (moment later : Moment) : Prop :=
  moment.next provider bindings = some later ∧ floor <+: later.stack

def Leads (provider : Provider) (bindings : Bindings) (floor : List SourceId) :
    Moment → Moment → Prop :=
  Relation.ReflTransGen (Step provider bindings floor)

end Moment

@[simp] theorem stack_of_cons (parent : Waiting) (waiting : List Waiting) (source : SourceId) :
    stackOf (parent :: waiting) source = stackOf waiting parent.frame.source ++ [source] := by
  simp [stackOf]

theorem append_none (yield : Yield) : yield.append .none = yield := by
  simp [Yield.append, Yield.none]

theorem none_append (yield : Yield) : Yield.none.append yield = yield := rfl

theorem yield_append_assoc (first second third : Yield) :
    (first.append second).append third = first.append (second.append third) := by
  simp [Yield.append]

section
variable {provider : Provider} {bindings : Bindings} {moment : Moment} {part : Expand Yield}

theorem take_ok {yield : Yield} {later : Progress}
    (ran : part moment.progress = (.ok yield, later)) :
    moment.take part =
      { moment with
        frame := { moment.frame with got := moment.frame.got.append yield }
        progress := later } := by
  simp only [Moment.take, ran]

theorem take_error {failure : Failure} {later : Progress}
    (ran : part moment.progress = (.error failure, later)) :
    moment.take part = { moment with progress := later }.fail failure := by
  simp only [Moment.take, ran]

theorem take_pure {yield : Yield} :
    moment.take (pure yield) =
      { moment with frame := { moment.frame with got := moment.frame.got.append yield } } :=
  take_ok rfl

@[simp] theorem stack_take : (moment.take part).stack = moment.stack := by
  unfold Moment.take
  split <;> rfl

theorem stack_fetch (moment : Moment) (written : String) (target : SourceId) (selector : String) :
    moment.stack <+: (moment.fetch provider written target selector).stack := by
  unfold Moment.fetch
  split
  · exact List.prefix_rfl
  · split
    · rw [stack_take]
      exact List.prefix_rfl
    · dsimp only
      split
      · exact List.prefix_rfl
      · refine ⟨[target], ?_⟩
        simp [Moment.stack, Frame.ofSource]

theorem stack_perform (moment : Moment) (move : Move) :
    moment.stack <+: (moment.perform provider move).stack := by
  cases move with
  | give part =>
      have same : (moment.perform provider (.give part)).stack = moment.stack := stack_take
      exact same ▸ List.prefix_rfl
  | fetch written target selector => exact stack_fetch (moment.log _) written target selector
  | _ => exact List.prefix_rfl

theorem take_bind_ok {Result : Type} {first : Expand Result} {next : Result → Expand Yield}
    {value : Result} {later : Progress} (ran : first moment.progress = (.ok value, later)) :
    moment.take (first >>= next) = { moment with progress := later }.take (next value) := by
  unfold Moment.take
  rw [run_bind_ok ran]

theorem take_bind_error {Result : Type} {first : Expand Result} {next : Result → Expand Yield}
    {failure : Failure} {later : Progress}
    (ran : first moment.progress = (.error failure, later)) :
    moment.take (first >>= next) = { moment with progress := later }.fail failure :=
  take_error (run_bind_error ran)

end

theorem take_note (event : Event) (moment : Moment) (part : Expand Yield) :
    moment.take (do note event; part) = (moment.log event).take part :=
  take_bind_ok (run_note event moment.progress)

theorem run_lift {Result : Type} (outcome : Except Failure Result) (progress : Progress) :
    (liftM outcome : Expand Result) progress = (outcome, progress) := by
  cases outcome <;> rfl

theorem leads_mono {provider : Provider} {bindings : Bindings} {floor higher : List SourceId}
    {moment later : Moment} (above : floor <+: higher)
    (leads : Moment.Leads provider bindings higher moment later) :
    Moment.Leads provider bindings floor moment later :=
  Relation.ReflTransGen.mono (fun _ _ step => ⟨step.1, above.trans step.2⟩) _ _ leads

def Surroundings.effect (around : Surroundings) (enclosed : Bool) (children : Forest) :
    Directive → Expand Yield
  | .condition var value =>
      if around.isActive var value then around.expandForest enclosed children else return .none
  | .inclusion src elements => around.runInclusion src elements
  | .text var => return .ofNodes [around.textOf var]
  | .attr name value => around.runAttr enclosed name value
  | .dynamic var => around.runDynamic var

section
variable {provider : Provider} {bindings : Bindings} {moment : Moment} {around : Surroundings}
  {enclosed : Bool} {name : Name} {attributes : Attributes} {children : Forest}

theorem expand_directive (special : isDirective name = true) :
    around.expandNode enclosed (.element name attributes children) = (do
      let directive ← Directive.decode name.localName attributes around.source
      note (.running directive.kind around.source)
      around.effect enclosed children directive) := by
  simp only [Surroundings.expandNode, if_pos special]
  congr

theorem expand_ordinary (ordinary : ¬isDirective name = true) :
    around.expandNode enclosed (.element name attributes children) = (do
      let inner ← around.expandForest true children
      return .ofNodes [.element name
        (inner.edits.foldl Edit.apply (pageAttributes attributes)) inner.nodes]) := by
  simp only [Surroundings.expandNode, if_neg ordinary]

theorem run_inclusion_refused {src elements : Setting} {failure : Failure}
    (required : src.require around.bindings .inclusion around.source = .error failure) :
    around.runInclusion src elements = throw failure := by
  unfold Surroundings.runInclusion
  rw [required]
  rfl

theorem run_inclusion_required (library : Library) {src elements : Setting} {form : Form}
    {written : String}
    (required : src.require around.bindings .inclusion around.source = .ok (form, written)) :
    around.runInclusion src elements =
      around.fetch written ((Provider.ofLibrary library).target around.source form written) >>=
        chosen ((elements.resolve around.bindings).2.getD defaultSelector) := by
  unfold Surroundings.runInclusion
  rw [required]
  cases form <;> rfl

theorem take_unknown {failure : Failure} (special : isDirective name = true)
    (decoded : Directive.decode name.localName attributes around.source = .error failure) :
    moment.take (around.expandNode enclosed (.element name attributes children)) =
      moment.fail failure := by
  rw [expand_directive special, decoded]
  exact take_bind_error (run_lift (.error failure) _)

theorem take_directive {directive : Directive} (special : isDirective name = true)
    (decoded : Directive.decode name.localName attributes around.source = .ok directive) :
    moment.take (around.expandNode enclosed (.element name attributes children)) =
      (moment.log (.running directive.kind around.source)).take
        (around.effect enclosed children directive) := by
  rw [expand_directive special, decoded, take_bind_ok (run_lift (.ok directive) _)]
  exact take_note _ _ _

theorem visit_unknown {failure : Failure} (special : isDirective name = true)
    (decoded : Directive.decode name.localName attributes moment.frame.source = .error failure) :
    moment.visit provider bindings (.element name attributes children) = moment.fail failure := by
  simp only [Moment.visit, moveOf, if_pos special, decoded]
  rfl

theorem visit_directive {directive : Directive} (special : isDirective name = true)
    (decoded : Directive.decode name.localName attributes moment.frame.source = .ok directive) :
    moment.visit provider bindings (.element name attributes children) =
      moment.perform provider (moveOfDirective provider bindings moment.frame.source
        (!moment.frame.around.isEmpty) children directive) := by
  simp only [Moment.visit, moveOf, if_pos special, decoded]

theorem visit_ordinary (ordinary : ¬isDirective name = true) :
    moment.visit provider bindings (.element name attributes children) =
      moment.perform provider (.enter name attributes children) := by
  simp only [Moment.visit, moveOf, if_neg ordinary]

end

section
variable (library : Library) (bindings : Bindings) (waiting : List Waiting) (source : SourceId)

abbrev surroundings : Surroundings :=
  ⟨bindings, source, fetchKept library bindings (stackOf waiting source) source⟩

/-- The steps that begin with a source end with what its nodes contribute together. -/
def SourceLeads : Prop :=
  ∀ nodes progress,
    Moment.Leads (.ofLibrary library) bindings (stackOf waiting source)
      ⟨.ofSource source nodes, waiting, progress, none⟩
      (Moment.take ⟨.ofSource source [], waiting, progress, none⟩
        ((surroundings library bindings waiting source).expandForest false nodes))

def TargetsLead : Prop :=
  ∀ target loaded parent, target ∉ stackOf waiting source → library.load target = .ok loaded →
    parent.frame.source = source → SourceLeads library bindings (parent :: waiting) target

end

section
variable {library : Library} {bindings : Bindings} {waiting : List Waiting} {source : SourceId}
  {around : List OpenElement} {got : Yield} {todo : Forest} {progress : Progress}

theorem run_source (document : Document) :
    expandSource library bindings (stackOf waiting source) source document progress =
      match (surroundings library bindings waiting source).expandForest false document.nodes
        progress with
      | (.ok yield, later) => (.ok ⟨yield.nodes⟩, later)
      | (.error failure, later) => (.error failure, later) := by
  rw [expand_source_eq]
  rcases ran : (surroundings library bindings waiting source).expandForest false document.nodes
    progress with ⟨outcome, later⟩
  cases outcome with
  | error failure => exact run_bind_error ran
  | ok yield => exact run_bind_ok ran

/-- Whatever became of the innermost source, the one around it is next. -/
theorem take_returns {provider : Provider} (part : Expand Yield) (parent : Waiting)
    (target : SourceId) :
    ∃ later, (Moment.take ⟨.ofSource target [], parent :: waiting, progress, none⟩ part).next
        provider bindings = some later ∧
      later.stack = stackOf waiting parent.frame.source := by
  rcases ran : part progress with ⟨outcome, later⟩
  cases outcome with
  | error failure =>
      rw [take_error ran]
      exact ⟨_, rfl, rfl⟩
  | ok yield =>
      rw [take_ok ran]
      exact ⟨_, rfl, stack_take⟩

theorem fetch_leads (written : String) (target : SourceId) (selector : String)
    (nested : TargetsLead library bindings waiting source) :
    Moment.Leads (.ofLibrary library) bindings (stackOf waiting source)
      (Moment.fetch (.ofLibrary library) ⟨⟨source, around, got, todo⟩, waiting, progress, none⟩
        written target selector)
      (Moment.take ⟨⟨source, around, got, todo⟩, waiting, progress, none⟩
        ((surroundings library bindings waiting source).fetch written target >>=
          chosen selector)) := by
  let moment : Moment := ⟨⟨source, around, got, todo⟩, waiting, progress, none⟩
  change Moment.Leads _ _ _ (moment.fetch _ written target selector)
    (moment.take (fetchKept library bindings moment.stack source written target >>=
      chosen selector))
  by_cases refused : target ∈ moment.stack
  · rw [take_bind_error (run_fetch_refused refused)]
    simp only [Moment.fetch, if_pos refused]
    exact .refl
  · cases kept : moment.progress.kept.lookup target with
    | some expanded =>
        rw [take_bind_ok (run_fetch_reused refused kept)]
        simp only [Moment.fetch, if_neg refused, kept]
        exact .refl
    | none =>
        cases loads : library.load target with
        | error cause =>
            rw [take_bind_error (run_fetch_missing refused kept loads)]
            simp only [Moment.fetch, if_neg refused, kept, Provider.ofLibrary, loads]
            exact .refl
        | ok loaded =>
            let parent : Waiting := ⟨moment.frame, selector⟩
            have begins : moment.fetch (.ofLibrary library) written target selector =
                ⟨.ofSource target loaded.nodes, parent :: waiting, progress.request target,
                  none⟩ := by
              simp only [Moment.fetch, if_neg refused, kept, Provider.ofLibrary, loads]
              rfl
            have inner := nested target loaded parent refused loads rfl loaded.nodes
              (progress.request target)
            have deeper : moment.stack ++ [target] = stackOf (parent :: waiting) target :=
              (stack_of_cons parent waiting target).symm
            have above : moment.stack <+: stackOf (parent :: waiting) target :=
              ⟨[target], deeper⟩
            have ends := @run_fetch_loaded library bindings moment.stack source written target
              progress loaded refused kept loads
            rw [deeper, run_source] at ends
            rw [begins]
            -- The steps of the target come first; one more hands over what has become of it.
            refine .tail (leads_mono above inner) ?_
            rcases ran : (surroundings library bindings (parent :: waiting) target).expandForest
              false loaded.nodes (progress.request target) with ⟨outcome, later⟩
            rw [ran] at ends
            cases outcome with
            | error failure =>
                rw [take_error ran, take_bind_error ends]
                exact ⟨rfl, List.prefix_rfl⟩
            | ok yield =>
                rw [take_ok ran, take_bind_ok ends]
                refine ⟨rfl, ?_⟩
                rw [stack_take]
                exact List.prefix_rfl

theorem element_leads (name : Name) (attributes : Attributes) (children : Forest)
    (inner : ∀ opened,
      Moment.Leads (.ofLibrary library) bindings (stackOf waiting source)
        ⟨⟨source, opened :: around, .none, children ++ []⟩, waiting, progress, none⟩
        (Moment.take ⟨⟨source, opened :: around, .none, []⟩, waiting, progress, none⟩
          ((surroundings library bindings waiting source).expandForest true children))) :
    Moment.Leads (.ofLibrary library) bindings (stackOf waiting source)
      (Moment.perform (.ofLibrary library)
        ⟨⟨source, around, got, todo⟩, waiting, progress, none⟩ (.enter name attributes children))
      (Moment.take ⟨⟨source, around, got, todo⟩, waiting, progress, none⟩ do
        let inner ←
          (surroundings library bindings waiting source).expandForest true children
        return .ofNodes [.element name
          (inner.edits.foldl Edit.apply (pageAttributes attributes)) inner.nodes]) := by
  have inside := inner ⟨name, attributes, got, todo⟩
  rw [List.append_nil] at inside
  rcases ran : (surroundings library bindings waiting source).expandForest true children progress
    with ⟨outcome, later⟩
  cases outcome with
  | error failure =>
      rw [take_error ran] at inside
      rw [take_bind_error ran]
      exact inside
  | ok yield =>
      rw [take_ok ran, none_append] at inside
      rw [take_bind_ok ran]
      exact .tail inside ⟨rfl, List.prefix_rfl⟩

theorem directive_leads (directive : Directive) (children : Forest)
    (nested : TargetsLead library bindings waiting source)
    (descends : ∀ progress,
      Moment.Leads (.ofLibrary library) bindings (stackOf waiting source)
        ⟨⟨source, around, got, children ++ todo⟩, waiting, progress, none⟩
        (Moment.take ⟨⟨source, around, got, todo⟩, waiting, progress, none⟩
          ((surroundings library bindings waiting source).expandForest (!around.isEmpty)
            children))) :
    Moment.Leads (.ofLibrary library) bindings (stackOf waiting source)
      (Moment.perform (.ofLibrary library)
        ⟨⟨source, around, got, todo⟩, waiting, progress, none⟩
        (moveOfDirective (.ofLibrary library) bindings source (!around.isEmpty) children directive))
      ((Moment.log ⟨⟨source, around, got, todo⟩, waiting, progress, none⟩
        (.running directive.kind source)).take
          ((surroundings library bindings waiting source).effect (!around.isEmpty) children
            directive)) := by
  cases directive with
  | condition var value =>
      by_cases active : (secluded bindings source).isActive var value = true
      · have holds : (surroundings library bindings waiting source).isActive var value = true :=
          active
        simp only [moveOfDirective, Moment.perform, Surroundings.effect, if_pos active,
          if_pos holds]
        exact descends _
      · have fails : ¬(surroundings library bindings waiting source).isActive var value = true :=
          active
        simp only [moveOfDirective, Moment.perform, Surroundings.effect, if_neg active,
          if_neg fails]
        rw [take_pure, append_none]
        exact .refl
  | inclusion src elements =>
      cases required : src.require bindings .inclusion source with
      | error failure =>
          rw [Surroundings.effect, run_inclusion_refused required]
          simp only [moveOfDirective, required, Moment.perform, take_note]
          exact .refl
      | ok pair =>
          rw [Surroundings.effect, run_inclusion_required library required]
          simp only [moveOfDirective, required, Moment.perform]
          exact fetch_leads _ _ _ nested
  | text var =>
      rw [moveOfDirective, Moment.perform, take_note]
      exact .refl
  | attr name value =>
      rw [moveOfDirective, Moment.perform, take_note]
      exact .refl
  | dynamic var =>
      rw [moveOfDirective, Moment.perform, take_note]
      exact .refl

mutual
theorem node_leads (nested : TargetsLead library bindings waiting source) (node : Node)
    (around : List OpenElement) (got : Yield) (todo : Forest) (progress : Progress) :
    Moment.Leads (.ofLibrary library) bindings (stackOf waiting source)
      ⟨⟨source, around, got, node :: todo⟩, waiting, progress, none⟩
      (Moment.take ⟨⟨source, around, got, todo⟩, waiting, progress, none⟩
        ((surroundings library bindings waiting source).expandNode (!around.isEmpty) node)) := by
  let moment : Moment := ⟨⟨source, around, got, todo⟩, waiting, progress, none⟩
  refine .head ⟨rfl, stack_perform moment _⟩ ?_
  cases node with
  | element name attributes children =>
      by_cases special : isDirective name = true
      · cases decoded : Directive.decode name.localName attributes source with
        | error failure =>
            rw [visit_unknown special decoded, take_unknown special decoded]
        | ok directive =>
            rw [visit_directive special decoded, take_directive special decoded]
            exact directive_leads directive children nested fun progress =>
              forest_leads nested children around got todo progress
      · rw [visit_ordinary special, expand_ordinary special]
        exact element_leads name attributes children fun opened =>
          forest_leads nested children (opened :: around) .none [] progress
  | _ => exact .refl

theorem forest_leads (nested : TargetsLead library bindings waiting source) (nodes : Forest)
    (around : List OpenElement) (got : Yield) (todo : Forest) (progress : Progress) :
    Moment.Leads (.ofLibrary library) bindings (stackOf waiting source)
      ⟨⟨source, around, got, nodes ++ todo⟩, waiting, progress, none⟩
      (Moment.take ⟨⟨source, around, got, todo⟩, waiting, progress, none⟩
        ((surroundings library bindings waiting source).expandForest (!around.isEmpty)
          nodes)) := by
  cases nodes with
  | nil =>
      rw [Surroundings.expandForest, take_pure, append_none]
      exact .refl
  | cons node rest =>
      -- The siblings go on from wherever the steps of the first node have led.
      have first := node_leads nested node around got (rest ++ todo) progress
      refine .trans first ?_
      simp only [Surroundings.expandForest]
      rcases ran : (surroundings library bindings waiting source).expandNode (!around.isEmpty) node
        progress with ⟨outcome, middle⟩
      cases outcome with
      | error failure =>
          rw [take_error ran, take_bind_error ran]
          exact .refl
      | ok yield =>
          have later := forest_leads nested rest around (got.append yield) todo middle
          rw [take_ok ran, take_bind_ok ran]
          rcases ranLater : (surroundings library bindings waiting source).expandForest
            (!around.isEmpty) rest middle with ⟨outcome, last⟩
          cases outcome with
          | error failure =>
              rw [take_error ranLater] at later
              rw [take_bind_error ranLater]
              exact later
          | ok others =>
              rw [take_ok ranLater] at later
              rw [take_bind_ok ranLater, take_pure, ← yield_append_assoc]
              exact later
end

theorem source_leads (library : Library) (bindings : Bindings) (waiting : List Waiting)
    (source : SourceId) : SourceLeads library bindings waiting source := by
  intro nodes progress
  have nested : TargetsLead library bindings waiting source :=
    fun target loaded parent fresh found same =>
      source_leads library bindings (parent :: waiting) target
  have leads := forest_leads nested nodes [] .none [] progress
  rw [List.append_nil] at leads
  exact leads
termination_by unvisited library (stackOf waiting source)
decreasing_by
  -- Each include that is followed takes one of the sources that are left.
  rw [stack_of_cons, same]
  exact unvisited_lt fresh found

end

namespace Moment

def first (template : Template) (bindings : Bindings) : Moment where
  frame := .ofSource template.source template.document.nodes
  waiting := []
  progress := { events := [.expanding template.source bindings.size] }
  failure := none

def conclusion (moment : Moment) : Progress :=
  let progress := moment.progress
  match moment.failure with
  | some _ => progress
  | none =>
      { progress with
        events := .expanded moment.frame.source progress.kept.length progress.hits
          progress.misses :: progress.events }

end Moment

theorem failure_of_outcome {moment : Moment} {failure : Failure}
    (refused : moment.outcome = .error failure) : moment.failure = some failure := by
  unfold Moment.outcome at refused
  split at refused
  · rename_i cause failed
    cases refused
    exact failed
  · cases refused

theorem nodes_of_outcome {moment : Moment} {document : Document}
    (succeeded : moment.outcome = .ok document) : document.nodes = moment.frame.got.nodes := by
  unfold Moment.outcome at succeeded
  split at succeeded
  · cases succeeded
  · cases succeeded
    rfl

theorem steps_agree {provider : Provider} {bindings : Bindings} {floor : List SourceId} :
    Relator.RightUnique (Moment.Step provider bindings floor) := by
  intro moment one other first second
  exact Option.some.inj (first.1.symm.trans second.1)

/-- Steps that come to an end come to it whichever of them were taken already. -/
theorem leads_to_end {provider : Provider} {bindings : Bindings} {floor : List SourceId}
    {start last moment : Moment} (ends : Moment.Leads provider bindings floor start last)
    (final : last.next provider bindings = none)
    (reached : Moment.Leads provider bindings floor start moment) :
    Moment.Leads provider bindings floor moment last := by
  rcases Relation.ReflTransGen.total_of_right_unique steps_agree reached ends with onward | beyond
  · exact onward
  · rcases beyond.cases_head with same | ⟨later, step, _⟩
    · rw [same]
      exact .refl
    · rw [step.1] at final
      cases final

/-- Once an expansion has failed, the sources that wait give up with the same failure. -/
theorem failure_leads {provider : Provider} {bindings : Bindings} {floor : List SourceId}
    {moment last : Moment} {failure : Failure} (failed : moment.failure = some failure)
    (leads : Moment.Leads provider bindings floor moment last) : last.failure = some failure := by
  induction leads with
  | refl => exact failed
  | @tail before after _ step ih =>
      obtain ⟨next, -⟩ := step
      obtain ⟨frame, waiting, progress, failure⟩ := before
      cases ih
      cases waiting with
      | nil => cases next
      | cons parent waiting =>
          cases next
          rfl

/-- The steps of the expansion of a template end, and they end with what it returns. -/
theorem expansion_ends (template : Template) (library : Library) (bindings : Bindings) :
    ∃ last, Moment.Leads (.ofLibrary library) bindings [template.source]
        (Moment.first template bindings) last ∧
      last.next (.ofLibrary library) bindings = none ∧
      template.expand library bindings = (last.outcome, last.conclusion) := by
  let empty : Moment :=
    ⟨.ofSource template.source [], [], (Moment.first template bindings).progress, none⟩
  have runs := @run_source library bindings [] template.source empty.progress template.document
  refine ⟨empty.take _, source_leads library bindings [] _ _ _, ?_⟩
  unfold Template.expand Template.expandAll
  rw [run_bind_ok (run_note _ _)]
  rcases ran : (surroundings library bindings [] template.source).expandForest false
    template.document.nodes empty.progress with ⟨outcome, later⟩
  rw [ran] at runs
  cases outcome with
  | error failure =>
      rw [take_error ran]
      exact ⟨rfl, run_bind_error runs⟩
  | ok yield =>
      rw [take_ok ran]
      refine ⟨rfl, (run_bind_ok runs).trans ?_⟩
      rw [run_bind_ok (run_get later), run_bind_ok (run_note _ _)]
      rfl

end XmlTemplate.Template
