import XmlTemplate.Proofs.Expansion.Moments

/-!
Every step of an expansion is a transition of one of a few kinds, and each kind says all that the
step changes. What holds throughout an expansion is proved by cases over the transitions.
-/

namespace XmlTemplate.Template

open Markup

def Event.isInclusion : Event → Bool
  | .running .inclusion _ => true
  | _ => false

def Progress.inclusions (progress : Progress) : Nat := progress.events.countP Event.isInclusion

def Progress.tell (progress : Progress) (events : List Event) : Progress :=
  { progress with events := events ++ progress.events }

/-- The outcome of taking a part that runs no include: described nodes, or a failure that is not
about a cycle. -/
inductive Taken (Described : Forest → Prop) : Moment → Moment → Prop
  | got {source : SourceId} {around : List OpenElement} {got yield : Yield} {todo : Forest}
      {waiting : List Waiting} {progress : Progress} {events : List Event}
      (quiet : events.countP Event.isInclusion = 0) (described : Described yield.nodes) :
      Taken Described ⟨⟨source, around, got, todo⟩, waiting, progress, none⟩
        ⟨⟨source, around, got.append yield, todo⟩, waiting, progress.tell events, none⟩
  | failed {frame : Frame} {waiting : List Waiting} {progress : Progress} {events : List Event}
      {failure : Failure} (acyclic : ∀ chain, failure ≠ .cyclicInclude chain) :
      Taken Described ⟨frame, waiting, progress, none⟩
        ⟨.ofSource frame.source [], waiting, progress.tell events, some failure⟩

def Given (bindings : Bindings) (nodes : Forest) : Prop :=
  ∀ node ∈ nodes, node.element? = none ∨
    ∃ name value, bindings.get? name = some value ∧ node ∈ value.toNodes

def targetOf? (provider : Provider) (bindings : Bindings) (source : SourceId) :
    Node → Option SourceId
  | .element name attributes _ =>
      if isDirective name ∧ DirectiveKind.ofName? name.localName = some .inclusion then
        match (Setting.ofAttributes attributes "src").resolve bindings with
        | (form, some written) => some (provider.target source form written)
        | (_, none) => none
      else none
  | _ => none

inductive Transition (provider : Provider) (bindings : Bindings) : Moment → Moment → Prop
  | giveUp {frame : Frame} {parent : Waiting} {waiting : List Waiting} {progress : Progress}
      {failure : Failure} :
      Transition provider bindings ⟨frame, parent :: waiting, progress, some failure⟩
        ⟨.ofSource parent.frame.source [], waiting, progress, some failure⟩
  | close {source : SourceId} {opened : OpenElement} {around : List OpenElement} {got : Yield}
      {waiting : List Waiting} {progress : Progress} :
      Transition provider bindings ⟨⟨source, opened :: around, got, []⟩, waiting, progress, none⟩
        ⟨⟨source, around, opened.close got, opened.after⟩, waiting, progress, none⟩
  | deliver {source : SourceId} {got : Yield} {parent : Waiting} {waiting : List Waiting}
      {progress : Progress} {later : Moment}
      (taken : Taken (fun nodes => Document.select ⟨got.nodes⟩ parent.selector = .ok nodes)
        ⟨parent.frame, waiting,
          { progress with kept := (source, ⟨got.nodes⟩) :: progress.kept }, none⟩ later) :
      Transition provider bindings ⟨⟨source, [], got, []⟩, parent :: waiting, progress, none⟩ later
  | give {source : SourceId} {around : List OpenElement} {got : Yield} {node : Node}
      {todo : Forest} {waiting : List Waiting} {progress : Progress} {later : Moment}
      (taken : Taken (Given bindings) ⟨⟨source, around, got, todo⟩, waiting, progress, none⟩
        later) :
      Transition provider bindings ⟨⟨source, around, got, node :: todo⟩, waiting, progress, none⟩
        later
  | descend {source : SourceId} {around : List OpenElement} {got : Yield} {node : Node}
      {todo nodes : Forest} {waiting : List Waiting} {progress : Progress}
      (inside : nodes ⊆ node.children) :
      Transition provider bindings ⟨⟨source, around, got, node :: todo⟩, waiting, progress, none⟩
        ⟨⟨source, around, got, nodes ++ todo⟩, waiting,
          progress.tell [.running .condition source], none⟩
  | enter {source : SourceId} {around : List OpenElement} {got : Yield} {name : Name}
      {attributes : Attributes} {children todo : Forest} {waiting : List Waiting}
      {progress : Progress} (ordinary : ¬isDirective name = true) :
      Transition provider bindings
        ⟨⟨source, around, got, .element name attributes children :: todo⟩, waiting, progress, none⟩
        ⟨⟨source, ⟨name, attributes, got, todo⟩ :: around, .none, children⟩, waiting, progress,
          none⟩
  | refuse {source target : SourceId} {around : List OpenElement} {got : Yield} {node : Node}
      {todo : Forest} {waiting : List Waiting} {progress : Progress}
      (refers : targetOf? provider bindings source node = some target)
      (refused : target ∈ stackOf waiting source) :
      Transition provider bindings ⟨⟨source, around, got, node :: todo⟩, waiting, progress, none⟩
        ⟨.ofSource source [], waiting, progress.tell [.running .inclusion source],
          some (.cyclicInclude (stackOf waiting source ++ [target]))⟩
  | reuse {source target : SourceId} {around : List OpenElement} {got : Yield} {node : Node}
      {todo : Forest} {waiting : List Waiting} {progress : Progress} {selector : String}
      {expanded : Document} {later : Moment}
      (found : progress.kept.lookup target = some expanded)
      (taken : Taken (fun nodes => expanded.select selector = .ok nodes)
        ⟨⟨source, around, got, todo⟩, waiting,
          { progress.tell [.reused target, .running .inclusion source] with
            hits := progress.hits + 1 }, none⟩ later) :
      Transition provider bindings ⟨⟨source, around, got, node :: todo⟩, waiting, progress, none⟩
        later
  | miss {source target : SourceId} {around : List OpenElement} {got : Yield} {node : Node}
      {todo : Forest} {waiting : List Waiting} {progress : Progress} {written : String}
      {cause : Failure}
      (fresh : target ∉ stackOf waiting source) (unkept : progress.kept.lookup target = none)
      (missing : provider.load progress.requests target = .error cause) :
      Transition provider bindings ⟨⟨source, around, got, node :: todo⟩, waiting, progress, none⟩
        ⟨.ofSource source [], waiting,
          (progress.tell [.running .inclusion source]).request target,
          some (.unresolvableInclude written source cause)⟩
  | load {source target : SourceId} {around : List OpenElement} {got : Yield} {node : Node}
      {todo : Forest} {waiting : List Waiting} {progress : Progress} {selector : String}
      {loaded : Document}
      (refers : targetOf? provider bindings source node = some target)
      (fresh : target ∉ stackOf waiting source) (unkept : progress.kept.lookup target = none)
      (found : provider.load progress.requests target = .ok loaded) :
      Transition provider bindings ⟨⟨source, around, got, node :: todo⟩, waiting, progress, none⟩
        ⟨.ofSource target loaded.nodes, ⟨⟨source, around, got, todo⟩, selector⟩ :: waiting,
          (progress.tell [.running .inclusion source]).request target, none⟩

theorem require_ok {setting : Setting} {bindings : Bindings} {kind : DirectiveKind}
    {source : SourceId} {form : Form} {written : String}
    (required : setting.require bindings kind source = .ok (form, written)) :
    setting.resolve bindings = (form, some written) := by
  unfold Setting.require at required
  split at required
  · rename_i resolved
    cases required
    exact resolved
  · cases required
  · cases required

theorem require_of_resolve {setting : Setting} {bindings : Bindings} {kind : DirectiveKind}
    {source : SourceId} {form : Form} {written : String}
    (resolved : setting.resolve bindings = (form, some written)) :
    setting.require bindings kind source = .ok (form, written) := by
  unfold Setting.require
  rw [resolved]

theorem refused_of_resolve {setting : Setting} {bindings : Bindings} {form : Form}
    (unresolved : setting.resolve bindings = (form, none)) (kind : DirectiveKind)
    (source : SourceId) : ∃ failure, setting.require bindings kind source = .error failure := by
  unfold Setting.require
  rw [unresolved]
  cases setting.indirect with
  | some var => exact ⟨_, rfl⟩
  | none => exact ⟨_, rfl⟩

theorem require_acyclic {setting : Setting} {bindings : Bindings} {kind : DirectiveKind}
    {source : SourceId} {failure : Failure}
    (refused : setting.require bindings kind source = .error failure) (chain : List SourceId) :
    failure ≠ .cyclicInclude chain := by
  unfold Setting.require at refused
  split at refused
  · cases refused
  · cases refused
    exact nofun
  · cases refused
    exact nofun

theorem decode_ok {localName : String} {attributes : Attributes} {source : SourceId}
    {directive : Directive}
    (decoded : Directive.decode localName attributes source = .ok directive) :
    ∃ kind, DirectiveKind.ofName? localName = some kind ∧
      directive = Directive.ofKind attributes kind := by
  unfold Directive.decode at decoded
  split at decoded
  · rename_i kind named
    cases decoded
    exact ⟨kind, named, rfl⟩
  · cases decoded

theorem decode_acyclic {localName : String} {attributes : Attributes} {source : SourceId}
    {failure : Failure} (unknown : Directive.decode localName attributes source = .error failure)
    (chain : List SourceId) : failure ≠ .cyclicInclude chain := by
  unfold Directive.decode at unknown
  split at unknown
  · cases unknown
  · cases unknown
    exact nofun

theorem select_acyclic {document : Document} {selector : String} {failure : Failure}
    (refused : document.select selector = .error failure) (chain : List SourceId) :
    failure ≠ .cyclicInclude chain := by
  unfold Document.select at refused
  split at refused
  · cases refused
    exact nofun
  · cases refused

/-- A part that runs no include: it ends with described nodes, or with a failure that is not about
a cycle, and only tells events. -/
def Quiet (Described : Forest → Prop) (part : Expand Yield) (progress : Progress) : Prop :=
  (∃ yield events, part progress = (.ok yield, progress.tell events) ∧
    events.countP Event.isInclusion = 0 ∧ Described yield.nodes) ∨
  ∃ failure events, part progress = (.error failure, progress.tell events) ∧
    ∀ chain, failure ≠ .cyclicInclude chain

section
variable {provider : Provider} {bindings : Bindings} {source : SourceId} {enclosed : Bool}
  {frame : Frame} {waiting : List Waiting} {progress : Progress} {Described : Forest → Prop}
  {part : Expand Yield}

theorem tell_tell (first later : List Event) :
    (progress.tell first).tell later = progress.tell (later ++ first) := by
  simp [Progress.tell]

theorem quiet_pure {yield : Yield} (described : Described yield.nodes) :
    Quiet Described (pure yield) progress :=
  .inl ⟨yield, [], rfl, rfl, described⟩

theorem quiet_throw {failure : Failure} (acyclic : ∀ chain, failure ≠ .cyclicInclude chain) :
    Quiet Described (throw failure) progress :=
  .inr ⟨failure, [], rfl, acyclic⟩

theorem quiet_note {event : Event} (quiet : event.isInclusion = false)
    (rest : Quiet Described part (progress.tell [event])) :
    Quiet Described (do note event; part) progress := by
  have runs : (do note event; part : Expand Yield) progress = part (progress.tell [event]) :=
    run_bind_ok (run_note event progress)
  rcases rest with ⟨yield, events, ran, quietly, described⟩ | ⟨failure, events, ran, acyclic⟩
  · refine .inl ⟨yield, events ++ [event], ?_, ?_, described⟩
    · rw [runs, ran, tell_tell]
    · rw [List.countP_append, quietly]
      simp [quiet]
  · refine .inr ⟨failure, events ++ [event], ?_, acyclic⟩
    rw [runs, ran, tell_tell]

theorem taken_of_quiet (quiet : Quiet Described part progress) :
    Taken Described ⟨frame, waiting, progress, none⟩
      (Moment.take ⟨frame, waiting, progress, none⟩ part) := by
  rcases quiet with ⟨yield, events, ran, quietly, described⟩ | ⟨failure, events, ran, acyclic⟩
  · rw [take_ok ran]
    exact .got quietly described
  · rw [take_error ran]
    exact .failed acyclic

theorem quiet_chosen (selector : String) (document : Document) :
    Quiet (fun nodes => document.select selector = .ok nodes) (chosen selector document)
      progress := by
  unfold chosen Surroundings.select
  cases selected : document.select selector with
  | error failure => exact quiet_throw (select_acyclic selected)
  | ok nodes =>
      exact .inl ⟨.ofNodes nodes, [.selected selector nodes.length], rfl, rfl, rfl⟩

theorem given_text (content : String) : Given bindings [.text content] := by
  intro node member
  rw [List.mem_singleton.1 member]
  exact .inl rfl

theorem quiet_attr {name value : Setting} :
    Quiet (Given bindings) ((secluded bindings source).runAttr enclosed name value) progress := by
  unfold Surroundings.runAttr
  cases required : name.require bindings .attr source with
  | error failure =>
      simp only [secluded, required]
      exact quiet_throw (require_acyclic required)
  | ok pair =>
      simp only [secluded, required]
      cases enclosed with
      | true => exact .inl ⟨_, [], rfl, rfl, nofun⟩
      | false => exact .inr ⟨_, [], rfl, nofun⟩

theorem quiet_dynamic {var : Option String} :
    Quiet (Given bindings) ((secluded bindings source).runDynamic var) progress := by
  unfold Surroundings.runDynamic
  cases found : (secluded bindings source).lookup? var with
  | none => exact .inl ⟨.none, [.unbound (var.getD "") source], rfl, rfl, nofun⟩
  | some value =>
      apply quiet_pure
      intro node member
      rcases Option.bind_eq_some_iff.1 found with ⟨name, _, bound⟩
      exact .inr ⟨name, value, bound, member⟩

theorem quiet_of_directive {children : Forest} {directive : Directive}
    (moved : moveOfDirective provider bindings source enclosed children directive = .give part) :
    Quiet (Given bindings) part progress := by
  cases directive with
  | condition var value => cases moved
  | inclusion src elements =>
      simp only [moveOfDirective] at moved
      split at moved
      · rename_i failure required
        cases moved
        exact .inr ⟨failure, [.running .inclusion source], rfl, require_acyclic required⟩
      · cases moved
  | text var =>
      cases moved
      exact quiet_note rfl (quiet_pure (given_text _))
  | attr name value =>
      cases moved
      exact quiet_note rfl quiet_attr
  | dynamic var =>
      cases moved
      exact quiet_note rfl quiet_dynamic

theorem quiet_of_move {node : Node}
    (moved : moveOf provider bindings source enclosed node = .give part) :
    Quiet (Given bindings) part progress := by
  cases node with
  | element name attributes children =>
      simp only [moveOf] at moved
      split at moved
      · split at moved
        · rename_i failure unknown
          cases moved
          exact quiet_throw (decode_acyclic unknown)
        · exact quiet_of_directive moved
      · cases moved
  | _ =>
      cases moved
      apply quiet_pure
      intro node member
      rw [List.mem_singleton.1 member]
      exact .inl rfl

theorem inside_of_move {node : Node} {nodes : Forest}
    (moved : moveOf provider bindings source enclosed node = .descend nodes) :
    nodes ⊆ node.children := by
  cases node with
  | element name attributes children =>
      simp only [moveOf] at moved
      split at moved
      · split at moved
        · cases moved
        · rename_i directive decoded
          cases directive with
          | condition var value =>
              simp only [moveOfDirective, Move.descend.injEq] at moved
              rw [← moved]
              split
              · exact List.Subset.refl _
              · exact List.nil_subset _
          | inclusion src elements =>
              simp only [moveOfDirective] at moved
              split at moved <;> cases moved
          | _ => cases moved
      · cases moved
  | _ => cases moved

theorem ordinary_of_move {node : Node} {name : Name} {attributes : Attributes} {children : Forest}
    (moved : moveOf provider bindings source enclosed node = .enter name attributes children) :
    node = .element name attributes children ∧ ¬isDirective name = true := by
  cases node with
  | element name attributes children =>
      simp only [moveOf] at moved
      split at moved
      · split at moved
        · cases moved
        · rename_i directive decoded
          cases directive with
          | inclusion src elements =>
              simp only [moveOfDirective] at moved
              split at moved <;> cases moved
          | _ => cases moved
      · rename_i ordinary
        cases moved
        exact ⟨rfl, ordinary⟩
  | _ => cases moved

theorem target_of_move {node : Node} {written : String} {target : SourceId} {selector : String}
    (moved : moveOf provider bindings source enclosed node = .fetch written target selector) :
    targetOf? provider bindings source node = some target := by
  cases node with
  | element name attributes children =>
      simp only [moveOf] at moved
      split at moved
      · rename_i special
        split at moved
        · cases moved
        · rename_i directive decoded
          rcases decode_ok decoded with ⟨kind, named, rfl⟩
          cases kind with
          | inclusion =>
              simp only [Directive.ofKind, moveOfDirective] at moved
              split at moved
              · cases moved
              · rename_i form written required
                cases moved
                simp only [targetOf?, special, named, and_self, if_true, require_ok required]
          | _ => cases moved
      · cases moved
  | _ => cases moved

theorem transition_of_fetch {around : List OpenElement} {got : Yield} {node : Node} {todo : Forest}
    {written : String} {target : SourceId} {selector : String}
    (refers : targetOf? provider bindings source node = some target) :
    Transition provider bindings ⟨⟨source, around, got, node :: todo⟩, waiting, progress, none⟩
      (Moment.fetch provider
        ⟨⟨source, around, got, todo⟩, waiting, progress.tell [.running .inclusion source], none⟩
        written target selector) := by
  unfold Moment.fetch
  split
  · rename_i refused
    exact .refuse refers refused
  · rename_i fresh
    split
    · rename_i expanded found
      exact .reuse found (taken_of_quiet (quiet_chosen _ _))
    · rename_i unkept
      dsimp only
      split
      · rename_i cause missing
        exact .miss fresh unkept missing
      · rename_i loaded found
        exact .load refers fresh unkept found

theorem transition_of_visit {around : List OpenElement} {got : Yield} {node : Node}
    {todo : Forest} :
    Transition provider bindings ⟨⟨source, around, got, node :: todo⟩, waiting, progress, none⟩
      (Moment.visit provider bindings ⟨⟨source, around, got, todo⟩, waiting, progress, none⟩
        node) := by
  unfold Moment.visit
  cases moved : moveOf provider bindings source (!around.isEmpty) node with
  | give part =>
      exact .give (taken_of_quiet (quiet_of_move moved))
  | descend nodes =>
      exact .descend (inside_of_move moved)
  | enter name attributes children =>
      rcases ordinary_of_move moved with ⟨rfl, ordinary⟩
      exact .enter ordinary
  | fetch written target selector =>
      exact transition_of_fetch (target_of_move moved)

end

theorem transition_of_next {provider : Provider} {bindings : Bindings} {moment later : Moment}
    (next : moment.next provider bindings = some later) :
    Transition provider bindings moment later := by
  obtain ⟨⟨source, around, got, todo⟩, waiting, progress, failure⟩ := moment
  cases failure with
  | some failure =>
      cases waiting with
      | nil => cases next
      | cons parent waiting =>
          cases next
          exact .giveUp
  | none =>
      cases todo with
      | cons node todo =>
          cases next
          exact transition_of_visit
      | nil =>
          cases around with
          | cons opened around =>
              cases next
              exact .close
          | nil =>
              cases waiting with
              | nil => cases next
              | cons parent waiting =>
                  cases next
                  exact .deliver (taken_of_quiet (quiet_chosen _ _))

end XmlTemplate.Template
