import Mathlib.Data.List.Forall2
import XmlTemplate.Proofs.Expansion.Moments

/-!
A condition is worth its children where it holds, and nothing where it does not: replacing it by
them in the template, wherever it stands, changes neither what the expansion returns nor what it
requests. The two expansions are followed step by step. They differ in the nodes that are still to
be visited, in the one step that visits the condition, and in what they tell.
-/

namespace XmlTemplate.Template

open Markup

inductive Place
  | among (before after : Forest)
  | inside (before : Forest) (name : Name) (attributes : Attributes) (place : Place)
      (after : Forest)

def Place.fill : Place → Forest → Forest
  | .among before after, nodes => before ++ (nodes ++ after)
  | .inside before name attributes place after, nodes =>
      before ++ .element name attributes (place.fill nodes) :: after

/-- The text that is required of the variable: that of the variable which `valuevar` names, if it is
bound, and otherwise what `value` says. -/
def Requires (bindings : Bindings) (attributes : Attributes) (required : String) : Prop :=
  (∃ other bound, attributes.plain? "valuevar" = some other ∧ bindings.get? other = some bound ∧
    bound.text = required) ∨
  (∀ other, attributes.plain? "valuevar" = some other → bindings.get? other = none) ∧
    attributes.plain? "value" = some required

/-- The variable is bound, to a value with the required text or, where none is required, to anything
but `false`. -/
inductive Activates (bindings : Bindings) (attributes : Attributes) : Prop
  | equal {var : String} {value : Value} (asked : attributes.plain? "var" = some var)
      (bound : bindings.get? var = some value)
      (required : Requires bindings attributes value.text) : Activates bindings attributes
  | truthy {var : String} {value : Value} (asked : attributes.plain? "var" = some var)
      (bound : bindings.get? var = some value) (free : ¬∃ text, Requires bindings attributes text)
      (other : value ≠ .bool false) : Activates bindings attributes

theorem requires_iff {bindings : Bindings} {attributes : Attributes} {required : String} :
    Requires bindings attributes required ↔
      ((Setting.ofAttributes attributes "value").resolve bindings).2 = some required := by
  have indirect : Setting.indirectName "value" = "valuevar" := by decide
  unfold Requires Setting.resolve Setting.ofAttributes
  rw [indirect]
  cases attributes.plain? "valuevar" with
  | none => simp
  | some other => cases bound : bindings.get? other <;> simp [bound]

theorem truthy_iff (value : Value) : value.isTruthy = true ↔ value ≠ .bool false := by
  cases value with
  | bool content => cases content <;> simp [Value.isTruthy]
  | _ => simp [Value.isTruthy]

theorem active_iff (bindings : Bindings) (source : SourceId) (attributes : Attributes) :
    (secluded bindings source).isActive (attributes.plain? "var")
      (.ofAttributes attributes "value") = true ↔ Activates bindings attributes := by
  unfold Surroundings.isActive Surroundings.lookup? secluded
  cases asked : attributes.plain? "var" with
  | none =>
      refine iff_of_false (by simp) ?_
      rintro (⟨named, -, -⟩ | ⟨named, -, -, -⟩) <;> cases asked.symm.trans named
  | some var =>
      cases bound : bindings.get? var with
      | none =>
          refine iff_of_false (by simp [bound]) ?_
          rintro (⟨named, found, -⟩ | ⟨named, found, -, -⟩)
          all_goals
            cases asked.symm.trans named
            cases bound.symm.trans found
      | some value =>
          have same : Activates bindings attributes ↔ Requires bindings attributes value.text ∨
              (¬∃ text, Requires bindings attributes text) ∧ value ≠ .bool false := by
            constructor
            · rintro (⟨named, found, required⟩ | ⟨named, found, free, other⟩)
              all_goals
                cases asked.symm.trans named
                cases bound.symm.trans found
              · exact .inl required
              · exact .inr ⟨free, other⟩
            · rintro (required | ⟨free, other⟩)
              · exact .equal asked bound required
              · exact .truthy asked bound free other
          rw [same]
          simp only [requires_iff]
          cases ((Setting.ofAttributes attributes "value").resolve bindings).2 with
          | none => simp [bound, truthy_iff]
          | some required => simpa [bound] using eq_comm

instance (bindings : Bindings) (attributes : Attributes) :
    Decidable (Activates bindings attributes) :=
  decidable_of_iff _ (active_iff bindings .current attributes)

/-- The second siblings are the first ones with `chosen` in the place of `node`, wherever it was
replaced. -/
inductive Spliced (node : Node) (chosen : Forest) : Forest → Forest → Prop
  | nil : Spliced node chosen [] []
  | here {rest others : Forest} (later : Spliced node chosen rest others) :
      Spliced node chosen (node :: rest) (chosen ++ others)
  | same (first : Node) {rest others : Forest} (later : Spliced node chosen rest others) :
      Spliced node chosen (first :: rest) (first :: others)
  | inside (name : Name) (attributes : Attributes) {children inner rest others : Forest}
      (deeper : Spliced node chosen children inner) (later : Spliced node chosen rest others) :
      Spliced node chosen (.element name attributes children :: rest)
        (.element name attributes inner :: others)

section
variable {node : Node} {chosen : Forest}

theorem spliced_refl (nodes : Forest) : Spliced node chosen nodes nodes := by
  induction nodes with
  | nil => exact .nil
  | cons first rest ih => exact .same first ih

theorem spliced_append {front other back more : Forest} (first : Spliced node chosen front other)
    (second : Spliced node chosen back more) :
    Spliced node chosen (front ++ back) (other ++ more) := by
  induction first with
  | nil => exact second
  | here later ih =>
      rw [List.append_assoc]
      exact .here ih
  | same first later ih => exact .same first ih
  | inside name attributes deeper later _ ih => exact .inside name attributes deeper ih

theorem spliced_fill (place : Place) :
    Spliced node chosen (place.fill [node]) (place.fill chosen) := by
  induction place with
  | among before after =>
      apply spliced_append (spliced_refl before)
      exact .here (spliced_refl after)
  | inside before name attributes place after ih =>
      apply spliced_append (spliced_refl before)
      exact .inside name attributes ih (spliced_refl after)

end

def Event.ofCondition : Event → Bool
  | .running .condition _ => true
  | _ => false

/-- What is known and told, apart from the conditions that were met. -/
def Progress.settled (progress : Progress) : Progress :=
  { progress with events := progress.events.filter (!·.ofCondition) }

theorem settled_iff {progress other : Progress} :
    progress.settled = other.settled ↔ progress.kept = other.kept ∧ progress.hits = other.hits ∧
      progress.misses = other.misses ∧ progress.requests = other.requests ∧
      progress.events.filter (!·.ofCondition) = other.events.filter (!·.ofCondition) := by
  simp [Progress.settled]

theorem filter_told {events others : List Event}
    (same : events.filter (!·.ofCondition) = others.filter (!·.ofCondition)) (event : Event) :
    (event :: events).filter (!·.ofCondition) = (event :: others).filter (!·.ofCondition) := by
  rw [List.filter_cons, List.filter_cons, same]

/-- The computations return the same and do the same, whatever conditions were met before. -/
def Regardless {Result : Type} (part : Expand Result) (parts : Unit → Expand Result) : Prop :=
  ∀ progress other, progress.settled = other.settled →
    (part progress).1 = (parts () other).1 ∧
      (part progress).2.settled = (parts () other).2.settled

section
variable (node : Node) (chosen : Forest)

structure OpenElement.Alike (opened other : OpenElement) : Prop where
  name : opened.name = other.name
  attributes : opened.attributes = other.attributes
  before : opened.before = other.before
  after : Spliced node chosen opened.after other.after

structure Frame.Alike (frame other : Frame) : Prop where
  source : frame.source = other.source
  around : List.Forall₂ (OpenElement.Alike node chosen) frame.around other.around
  got : frame.got = other.got
  todo : Spliced node chosen frame.todo other.todo

structure Waiting.Alike (parent other : Waiting) : Prop where
  frame : parent.frame.Alike node chosen other.frame
  selector : parent.selector = other.selector

structure Moment.Alike (moment other : Moment) : Prop where
  frame : moment.frame.Alike node chosen other.frame
  waiting : List.Forall₂ (Waiting.Alike node chosen) moment.waiting other.waiting
  progress : moment.progress.settled = other.progress.settled
  failure : moment.failure = other.failure

inductive Move.Alike : Move → Move → Prop
  | give {part : Expand Yield} (regardless : Regardless part fun _ => part) :
      Move.Alike (.give part) (.give part)
  | descend {nodes others : Forest} (spliced : Spliced node chosen nodes others) :
      Move.Alike (.descend nodes) (.descend others)
  | enter (name : Name) (attributes : Attributes) {children inner : Forest}
      (spliced : Spliced node chosen children inner) :
      Move.Alike (.enter name attributes children) (.enter name attributes inner)
  | fetch (written : String) (target : SourceId) (selector : String) :
      Move.Alike (.fetch written target selector) (.fetch written target selector)

end

theorem regardless_bind {Result Other : Type} {first : Expand Result}
    {firsts : Unit → Expand Result} {next : Result → Expand Other}
    {nexts : Unit → Result → Expand Other} (firstRegardless : Regardless first firsts)
    (nextRegardless : ∀ value, Regardless (next value) fun index => nexts index value) :
    Regardless (first >>= next) fun index => firsts index >>= nexts index := by
  intro progress other same
  have alike := firstRegardless progress other same
  rcases ran : first progress with ⟨outcome, later⟩
  rcases otherRan : firsts () other with ⟨otherOutcome, otherLater⟩
  rw [ran, otherRan] at alike
  rcases alike with ⟨rfl, settled⟩
  cases outcome with
  | error failure =>
      rw [run_bind_error ran]
      dsimp only
      rw [run_bind_error otherRan]
      exact ⟨rfl, settled⟩
  | ok value =>
      rw [run_bind_ok ran]
      dsimp only
      rw [run_bind_ok otherRan]
      exact nextRegardless value later otherLater settled

theorem regardless_kept_by_steps : KeptBySteps Regardless where
  ofPure value := by
    intro progress other same
    exact ⟨rfl, same⟩
  ofThrow failure := by
    intro progress other same
    exact ⟨rfl, same⟩
  ofNote event := by
    intro progress other same
    obtain ⟨kept, hits, misses, requests, told⟩ := settled_iff.1 same
    exact ⟨rfl, settled_iff.2 ⟨kept, hits, misses, requests, filter_told told event⟩⟩
  ofBind := regardless_bind

section
variable {provider : Provider} {bindings : Bindings} {source : SourceId} {enclosed : Bool}
  {node : Node} {chosen : Forest}

theorem move_of_directive_alike (directive : Directive) {children inner : Forest}
    (deeper : Spliced node chosen children inner) :
    Move.Alike node chosen (moveOfDirective provider bindings source enclosed children directive)
      (moveOfDirective provider bindings source enclosed inner directive) := by
  have kept := regardless_kept_by_steps
  cases directive with
  | condition var value =>
      simp only [moveOfDirective]
      apply Move.Alike.descend
      split
      · exact deeper
      · exact .nil
  | inclusion src elements =>
      simp only [moveOfDirective]
      split
      · exact .give (kept.ofBind (kept.ofNote _) fun _ => kept.ofThrow _)
      · exact .fetch _ _ _
  | text var => exact .give (kept.ofBind (kept.ofNote _) fun _ => kept.ofPure _)
  | attr name value =>
      apply Move.Alike.give
      exact kept.ofBind (kept.ofNote _) fun _ =>
        KeptBySteps.of_attr bindings source kept enclosed name value
  | dynamic var =>
      apply Move.Alike.give
      exact kept.ofBind (kept.ofNote _) fun _ => KeptBySteps.of_dynamic bindings source kept var

theorem move_of_element_alike (name : Name) (attributes : Attributes) {children inner : Forest}
    (deeper : Spliced node chosen children inner) :
    Move.Alike node chosen
      (moveOf provider bindings source enclosed (.element name attributes children))
      (moveOf provider bindings source enclosed (.element name attributes inner)) := by
  simp only [moveOf]
  split
  · split
    · exact .give (regardless_kept_by_steps.ofThrow _)
    · exact move_of_directive_alike _ deeper
  · exact .enter name attributes deeper

theorem move_of_alike (first : Node) :
    Move.Alike node chosen (moveOf provider bindings source enclosed first)
      (moveOf provider bindings source enclosed first) := by
  cases first with
  | element name attributes children =>
      exact move_of_element_alike name attributes (spliced_refl children)
  | _ => exact .give (regardless_kept_by_steps.ofPure _)

variable {moment other : Moment}

theorem sources_alike {waiting others : List Waiting}
    (alike : List.Forall₂ (Waiting.Alike node chosen) waiting others) :
    waiting.map (·.frame.source) = others.map (·.frame.source) := by
  induction alike with
  | nil => rfl
  | cons first _ ih => rw [List.map_cons, List.map_cons, first.frame.source, ih]

theorem stack_alike (alike : moment.Alike node chosen other) : moment.stack = other.stack := by
  rw [Moment.stack, Moment.stack, stackOf, stackOf, sources_alike alike.waiting,
    alike.frame.source]

theorem fail_alike (alike : moment.Alike node chosen other) (failure : Failure) :
    (moment.fail failure).Alike node chosen (other.fail failure) :=
  ⟨⟨alike.frame.source, .nil, rfl, .nil⟩, alike.waiting, alike.progress, rfl⟩

theorem log_alike (alike : moment.Alike node chosen other) (event : Event) :
    (moment.log event).Alike node chosen (other.log event) := by
  obtain ⟨kept, hits, misses, requests, told⟩ := settled_iff.1 alike.progress
  exact ⟨alike.frame, alike.waiting,
    settled_iff.2 ⟨kept, hits, misses, requests, filter_told told event⟩, alike.failure⟩

theorem take_alike (alike : moment.Alike node chosen other) {part : Expand Yield}
    (regardless : Regardless part fun _ => part) :
    (moment.take part).Alike node chosen (other.take part) := by
  have same := regardless moment.progress other.progress alike.progress
  dsimp only at same
  rcases ran : part moment.progress with ⟨outcome, later⟩
  rcases otherRan : part other.progress with ⟨otherOutcome, otherLater⟩
  rw [ran, otherRan] at same
  rcases same with ⟨rfl, settled⟩
  have after : Moment.Alike node chosen { moment with progress := later }
      { other with progress := otherLater } :=
    ⟨alike.frame, alike.waiting, settled, alike.failure⟩
  cases outcome with
  | error failure =>
      rw [take_error ran, take_error otherRan]
      exact fail_alike after failure
  | ok yield =>
      rw [take_ok ran, take_ok otherRan]
      have got : moment.frame.got.append yield = other.frame.got.append yield := by
        rw [alike.frame.got]
      exact ⟨⟨alike.frame.source, alike.frame.around, got, alike.frame.todo⟩, alike.waiting,
        settled, alike.failure⟩

theorem regardless_chosen (selector : String) (document : Document) :
    Regardless (Template.chosen selector document) fun _ => Template.chosen selector document := by
  have kept := regardless_kept_by_steps
  exact kept.ofBind (kept.of_select selector document) fun _ => kept.ofPure _

theorem fetch_alike (alike : moment.Alike node chosen other) (written : String)
    (target : SourceId) (selector : String) :
    (moment.fetch provider written target selector).Alike node chosen
      (other.fetch provider written target selector) := by
  obtain ⟨kept, hits, misses, requests, told⟩ := settled_iff.1 alike.progress
  have asked : (moment.progress.request target).settled =
      (other.progress.request target).settled :=
    settled_iff.2 ⟨kept, hits, congrArg (· + 1) misses, congrArg (target :: ·) requests,
      filter_told told _⟩
  have after : Moment.Alike node chosen
      { moment with progress := moment.progress.request target }
      { other with progress := other.progress.request target } :=
    ⟨alike.frame, alike.waiting, asked, alike.failure⟩
  unfold Moment.fetch
  rw [stack_alike alike, kept, requests]
  split
  · exact fail_alike alike _
  · split
    · apply take_alike _ (regardless_chosen _ _)
      refine ⟨alike.frame, alike.waiting, ?_, alike.failure⟩
      apply settled_iff.2
      exact ⟨kept, congrArg (· + 1) hits, misses, requests, filter_told told _⟩
    · dsimp only
      split
      · rw [alike.frame.source]
        exact fail_alike after _
      · exact ⟨⟨rfl, .nil, rfl, spliced_refl _⟩, .cons ⟨alike.frame, rfl⟩ alike.waiting, asked,
          alike.failure⟩

theorem perform_alike (alike : moment.Alike node chosen other) {move otherMove : Move}
    (moves : Move.Alike node chosen move otherMove) :
    (moment.perform provider move).Alike node chosen (other.perform provider otherMove) := by
  cases moves with
  | give regardless => exact take_alike alike regardless
  | descend spliced =>
      have logged := log_alike alike (.running .condition moment.frame.source)
      rw [Moment.perform, Moment.perform, ← alike.frame.source]
      exact ⟨⟨alike.frame.source, alike.frame.around, alike.frame.got,
        spliced_append spliced alike.frame.todo⟩, alike.waiting, logged.progress, alike.failure⟩
  | enter name attributes spliced =>
      have opened : OpenElement.Alike node chosen
          ⟨name, attributes, moment.frame.got, moment.frame.todo⟩
          ⟨name, attributes, other.frame.got, other.frame.todo⟩ :=
        ⟨rfl, rfl, alike.frame.got, alike.frame.todo⟩
      exact ⟨⟨alike.frame.source, .cons opened alike.frame.around, rfl, spliced⟩, alike.waiting,
        alike.progress, alike.failure⟩
  | fetch written target selector =>
      have logged := log_alike alike (.running .inclusion moment.frame.source)
      have fetched := @fetch_alike provider node chosen _ _ logged written target selector
      rw [Moment.perform, Moment.perform, ← alike.frame.source]
      exact fetched

theorem visit_alike (alike : moment.Alike node chosen other) {first second : Node}
    (moves : ∀ source enclosed, Move.Alike node chosen (moveOf provider bindings source enclosed
      first) (moveOf provider bindings source enclosed second)) :
    (moment.visit provider bindings first).Alike node chosen
      (other.visit provider bindings second) := by
  have enclosed : moment.frame.around.isEmpty = other.frame.around.isEmpty := by
    have around := alike.frame.around
    revert around
    generalize moment.frame.around = openings, other.frame.around = others
    intro around
    cases around <;> rfl
  unfold Moment.visit
  rw [enclosed, alike.frame.source]
  exact perform_alike alike (moves _ _)

theorem deliver_alike (alike : moment.Alike node chosen other) {parent otherParent : Waiting}
    {waiting others : List Waiting} (parents : parent.Alike node chosen otherParent)
    (outside : List.Forall₂ (Waiting.Alike node chosen) waiting others) :
    (moment.deliver parent waiting).Alike node chosen (other.deliver otherParent others) := by
  obtain ⟨kept, hits, misses, requests, told⟩ := settled_iff.1 alike.progress
  unfold Moment.deliver
  rw [alike.frame.got, alike.frame.source, kept, parents.selector]
  apply take_alike _ (regardless_chosen _ _)
  exact ⟨parents.frame, outside, settled_iff.2 ⟨rfl, hits, misses, requests, told⟩,
    alike.failure⟩

end

/-- The replaced node is not the next one to be visited. -/
inductive Behind (node : Node) (chosen : Forest) : Forest → Forest → Prop
  | nil : Behind node chosen [] []
  | same (first : Node) {rest others : Forest} (later : Spliced node chosen rest others) :
      Behind node chosen (first :: rest) (first :: others)
  | inside (name : Name) (attributes : Attributes) {children inner rest others : Forest}
      (deeper : Spliced node chosen children inner) (later : Spliced node chosen rest others) :
      Behind node chosen (.element name attributes children :: rest)
        (.element name attributes inner :: others)

section
variable {provider : Provider} {bindings : Bindings} {node : Node} {chosen : Forest}
  {moment other : Moment}

/-- Where the replaced node is not the next one, both expansions take a step, or neither does. -/
theorem next_alike (alike : moment.Alike node chosen other)
    (behind : moment.failure = none → Behind node chosen moment.frame.todo other.frame.todo) :
    Option.Rel (Moment.Alike node chosen) (moment.next provider bindings)
      (other.next provider bindings) := by
  obtain ⟨⟨source, around, got, todo⟩, waiting, progress, failure⟩ := moment
  obtain ⟨⟨otherSource, otherAround, otherGot, otherTodo⟩, others, otherProgress, otherFailure⟩ :=
    other
  obtain ⟨⟨sources, openings, gots, spliced⟩, outside, settled, failures⟩ := alike
  dsimp only at sources openings gots spliced outside settled failures behind
  subst sources gots failures
  have frames {left right : Forest} (later : Spliced node chosen left right) :
      Moment.Alike node chosen ⟨⟨source, around, got, left⟩, waiting, progress, none⟩
        ⟨⟨source, otherAround, got, right⟩, others, otherProgress, none⟩ :=
    ⟨⟨rfl, openings, rfl, later⟩, outside, settled, rfl⟩
  cases failure with
  | some failure =>
      cases outside with
      | nil => exact .none
      | @cons parent otherParent rest otherRest parents outside =>
          have around : Moment.Alike node chosen ⟨parent.frame, rest, progress, some failure⟩
              ⟨otherParent.frame, otherRest, otherProgress, some failure⟩ :=
            ⟨parents.frame, outside, settled, rfl⟩
          exact .some (fail_alike around failure)
  | none =>
      cases behind rfl with
      | same first later =>
          exact .some (visit_alike (frames later) fun _ _ => move_of_alike first)
      | inside name attributes deeper later =>
          exact .some (visit_alike (frames later)
            fun _ _ => move_of_element_alike name attributes deeper)
      | nil =>
          cases openings with
          | @cons opened otherOpened rest otherRest openeds openings =>
              have closed : opened.close got = otherOpened.close got := by
                simp only [OpenElement.close, openeds.name, openeds.attributes, openeds.before]
              have after : Moment.Alike node chosen
                  ⟨⟨source, rest, opened.close got, opened.after⟩, waiting, progress, none⟩
                  ⟨⟨source, otherRest, otherOpened.close got, otherOpened.after⟩, others,
                    otherProgress, none⟩ :=
                ⟨⟨rfl, openings, closed, openeds.after⟩, outside, settled, rfl⟩
              exact .some after
          | nil =>
              have ended := frames .nil
              cases outside with
              | nil => exact .none
              | cons parents outside => exact .some (deliver_alike ended parents outside)

end

def worth (bindings : Bindings) (attributes : Attributes) (children : Forest) : Forest :=
  if Activates bindings attributes then children else []

section
variable {provider : Provider} {bindings : Bindings} {nsPrefix : Option String}
  {attributes : Attributes} {children : Forest}

theorem move_of_condition (source : SourceId) (enclosed : Bool) :
    moveOf provider bindings source enclosed
        (.element ⟨nsPrefix, "when", some templateUri⟩ attributes children) =
      .descend (worth bindings attributes children) := by
  have decoded : Directive.decode "when" attributes source =
      .ok (.condition (attributes.plain? "var") (.ofAttributes attributes "value")) := rfl
  unfold worth
  simp only [moveOf, isDirective, beq_self_eq_true, if_true, decoded, moveOfDirective,
    active_iff]

variable {node : Node} {chosen : Forest} {moment other : Moment}

theorem spliced_cases {todo others : Forest} (spliced : Spliced node chosen todo others) :
    Behind node chosen todo others ∨
      ∃ rest more, todo = node :: rest ∧ others = chosen ++ more ∧
        Spliced node chosen rest more := by
  cases spliced with
  | nil => exact .inl .nil
  | here later => exact .inr ⟨_, _, rfl, rfl, later⟩
  | same first later => exact .inl (.same first later)
  | inside name attributes deeper later => exact .inl (.inside name attributes deeper later)

/-- The visit of the replaced node leaves the same to do as there is where it was replaced. -/
theorem visit_replaced {todo others : Forest}
    (moves : ∀ source enclosed, moveOf provider bindings source enclosed node = .descend chosen)
    (alike : moment.Alike node chosen other) (same : moment.frame.todo = node :: todo)
    (replaced : other.frame.todo = chosen ++ others) (later : Spliced node chosen todo others)
    (running : moment.failure = none) :
    ∃ after, moment.next provider bindings = some after ∧ after.Alike node chosen other ∧
      after.frame.todo = chosen ++ todo ∧ after.failure = none := by
  obtain ⟨⟨source, around, got, _⟩, waiting, progress, _⟩ := moment
  dsimp only at same running
  subst same running
  refine ⟨_, rfl, ?_, ?_, ?_⟩ <;> simp only [Moment.visit, moves, Moment.perform, Moment.log]
  refine ⟨⟨alike.frame.source, alike.frame.around, alike.frame.got, ?_⟩, alike.waiting,
    alike.progress, alike.failure⟩
  dsimp only
  rw [replaced]
  exact spliced_append (spliced_refl chosen) later

section
variable (moves : ∀ source enclosed,
  moveOf provider bindings source enclosed node = .descend chosen)
include moves

/-- The replaced node is visited, as often as it is the next one, until both have the same to do. -/
theorem leads_behind {todo others : Forest} (spliced : Spliced node chosen todo others)
    (alike : moment.Alike node chosen other) (same : moment.frame.todo = todo)
    (replaced : other.frame.todo = others) (running : moment.failure = none) :
    ∃ after, moment.Leads provider bindings [] after ∧ after.Alike node chosen other ∧
      Behind node chosen after.frame.todo other.frame.todo := by
  induction spliced generalizing moment with
  | nil =>
      rw [← same] at replaced
      exact ⟨moment, .refl, alike, by rw [replaced, same]; exact .nil⟩
  | same first later =>
      exact ⟨moment, .refl, alike, by rw [replaced, same]; exact .same first later⟩
  | inside name attributes deeper later =>
      exact ⟨moment, .refl, alike, by
        rw [replaced, same]; exact .inside name attributes deeper later⟩
  | @here rest others later ih =>
      obtain ⟨after, step, still, todo, running⟩ :=
        visit_replaced moves alike same replaced later running
      have onward : moment.Leads provider bindings [] after := .single ⟨step, List.nil_prefix⟩
      cases chosen with
      | nil =>
          obtain ⟨last, leads, settled, behind⟩ := ih still todo replaced running
          exact ⟨last, onward.trans leads, settled, behind⟩
      | cons first more =>
          refine ⟨after, onward, still, ?_⟩
          rw [todo, replaced]
          exact .same first (spliced_append (spliced_refl more) later)

/-- Each step of the expansion with the condition is matched where it is replaced, the visit of the
condition by standing still. -/
theorem step_matched {later : Moment} (alike : moment.Alike node chosen other)
    (step : moment.next provider bindings = some later) :
    ∃ after, other.Leads provider bindings [] after ∧ later.Alike node chosen after := by
  by_cases replaced : ∃ rest more, moment.frame.todo = node :: rest ∧
      other.frame.todo = chosen ++ more ∧ Spliced node chosen rest more ∧ moment.failure = none
  · obtain ⟨rest, more, todo, others, spliced, running⟩ := replaced
    obtain ⟨after, visited, still, -⟩ := visit_replaced moves alike todo others spliced running
    rw [step] at visited
    cases visited
    exact ⟨other, .refl, still⟩
  · have stepped : Option.Rel (Moment.Alike node chosen) (moment.next provider bindings)
        (other.next provider bindings) :=
      next_alike alike fun running => (spliced_cases alike.frame.todo).resolve_right
        fun ⟨rest, more, todo, others, spliced⟩ =>
          replaced ⟨rest, more, todo, others, spliced, running⟩
    rw [step] at stepped
    generalize taken : other.next provider bindings = onward at stepped
    cases stepped with
    | some alike => exact ⟨_, .single ⟨taken, List.nil_prefix⟩, alike⟩

theorem leads_together (alike : moment.Alike node chosen other) :
    ∃ reached, moment.Leads provider bindings [] reached ∧ reached.Alike node chosen other ∧
      Option.Rel (Moment.Alike node chosen) (reached.next provider bindings)
        (other.next provider bindings) := by
  cases running : moment.failure with
  | some failure =>
      have failed : moment.failure ≠ none := by simp [running]
      exact ⟨moment, .refl, alike, next_alike alike fun absent => (failed absent).elim⟩
  | none =>
      obtain ⟨reached, leads, still, behind⟩ :=
        leads_behind moves alike.frame.todo alike rfl rfl running
      exact ⟨reached, leads, still, next_alike still fun _ => behind⟩

theorem leads_matched {last : Moment} (alike : moment.Alike node chosen other)
    (leads : moment.Leads provider bindings [] last) :
    ∃ after, other.Leads provider bindings [] after ∧ last.Alike node chosen after := by
  induction leads with
  | refl => exact ⟨other, .refl, alike⟩
  | tail _ step ih =>
      obtain ⟨reached, onward, still⟩ := ih
      obtain ⟨after, matched, settled⟩ := step_matched moves still step.1
      exact ⟨after, onward.trans matched, settled⟩

theorem leads_matched_back {last : Moment} (alike : moment.Alike node chosen other)
    (leads : other.Leads provider bindings [] last) :
    ∃ after, moment.Leads provider bindings [] after ∧ after.Alike node chosen last := by
  induction leads with
  | refl => exact ⟨moment, .refl, alike⟩
  | @tail reached last _ step ih =>
      obtain ⟨before, onward, still⟩ := ih
      obtain ⟨ready, matched, level, stepped⟩ := leads_together moves still
      rw [step.1] at stepped
      generalize taken : ready.next provider bindings = next at stepped
      cases stepped with
      | some settled =>
          exact ⟨_, (onward.trans matched).tail ⟨taken, List.nil_prefix⟩, settled⟩

theorem ended_matched (alike : moment.Alike node chosen other)
    (ended : moment.next provider bindings = none) : other.next provider bindings = none := by
  obtain ⟨reached, leads, still, stepped⟩ := leads_together moves alike
  have same : moment = reached := by
    rcases leads.cases_head with same | ⟨later, step, _⟩
    · exact same
    · cases ended.symm.trans step.1
  rw [← same, ended] at stepped
  generalize other.next provider bindings = next at stepped
  cases stepped
  rfl

end

theorem outcome_alike (alike : moment.Alike node chosen other) :
    moment.outcome = other.outcome := by
  rw [Moment.outcome, Moment.outcome, alike.failure, alike.frame.got]

theorem conclusion_alike (alike : moment.Alike node chosen other) :
    moment.conclusion.settled = other.conclusion.settled := by
  obtain ⟨kept, hits, misses, requests, told⟩ := settled_iff.1 alike.progress
  unfold Moment.conclusion
  rw [alike.failure]
  cases other.failure with
  | some failure => exact alike.progress
  | none =>
      apply settled_iff.2
      refine ⟨kept, hits, misses, requests, ?_⟩
      dsimp only
      rw [alike.frame.source, kept, hits, misses]
      exact filter_told told _

end

/-- The steps of the expansion come to an end, with this outcome and this progress. -/
def EndsWith (provider : Provider) (bindings : Bindings) (template : Template)
    (outcome : Except Failure Document) (progress : Progress) : Prop :=
  ∃ last, (Moment.first template bindings).Leads provider bindings [] last ∧
    last.next provider bindings = none ∧ last.outcome = outcome ∧ last.conclusion = progress

/-- The expansion gets as far as these requests, latest first; it may go on, also for ever. -/
def GetsTo (provider : Provider) (bindings : Bindings) (template : Template)
    (requests : List SourceId) : Prop :=
  ∃ moment, (Moment.first template bindings).Leads provider bindings [] moment ∧
    moment.progress.requests = requests

theorem ends_with_expand (template : Template) (library : Library) (bindings : Bindings) :
    EndsWith (.ofLibrary library) bindings template (template.expand library bindings).1
      (template.expand library bindings).2 := by
  obtain ⟨last, leads, ended, returned⟩ := expansion_ends template library bindings
  exact ⟨last, leads_mono List.nil_prefix leads, ended, by rw [returned], by rw [returned]⟩

theorem ends_with_unique {provider : Provider} {bindings : Bindings} {template : Template}
    {outcome another : Except Failure Document} {progress other : Progress}
    (first : EndsWith provider bindings template outcome progress)
    (second : EndsWith provider bindings template another other) :
    outcome = another ∧ progress = other := by
  obtain ⟨last, leads, ended, rfl, rfl⟩ := first
  obtain ⟨final, reached, stopped, rfl, rfl⟩ := second
  have same : last = final := by
    rcases (leads_to_end leads ended reached).cases_head with same | ⟨later, step, _⟩
    · exact same.symm
    · cases stopped.symm.trans step.1
  exact ⟨congrArg _ same, congrArg _ same⟩

section
variable {provider : Provider} {bindings : Bindings} {node : Node} {chosen : Forest}
  {source : SourceId} {place : Place}

theorem first_alike :
    (Moment.first ⟨source, ⟨place.fill [node]⟩⟩ bindings).Alike node chosen
      (Moment.first ⟨source, ⟨place.fill chosen⟩⟩ bindings) :=
  ⟨⟨rfl, .nil, rfl, spliced_fill place⟩, .nil, rfl, rfl⟩

variable (moves : ∀ source enclosed,
  moveOf provider bindings source enclosed node = .descend chosen)
include moves

theorem ends_with_replaced {outcome : Except Failure Document} {progress : Progress} :
    (∃ told, EndsWith provider bindings ⟨source, ⟨place.fill [node]⟩⟩ outcome told ∧
        told.settled = progress) ↔
      ∃ told, EndsWith provider bindings ⟨source, ⟨place.fill chosen⟩⟩ outcome told ∧
        told.settled = progress := by
  constructor
  · rintro ⟨told, ⟨last, leads, ended, rfl, rfl⟩, rfl⟩
    obtain ⟨after, matched, alike⟩ := leads_matched moves first_alike leads
    exact ⟨_, ⟨after, matched, ended_matched moves alike ended, (outcome_alike alike).symm, rfl⟩,
      (conclusion_alike alike).symm⟩
  · rintro ⟨told, ⟨last, leads, ended, rfl, rfl⟩, rfl⟩
    obtain ⟨after, matched, alike⟩ := leads_matched_back moves first_alike leads
    obtain ⟨reached, onward, still, stepped⟩ := leads_together moves alike
    rw [ended] at stepped
    generalize stops : reached.next provider bindings = next at stepped
    cases stepped
    exact ⟨_, ⟨reached, matched.trans onward, stops, outcome_alike still, rfl⟩,
      conclusion_alike still⟩

theorem gets_to_replaced {requests : List SourceId} :
    GetsTo provider bindings ⟨source, ⟨place.fill [node]⟩⟩ requests ↔
      GetsTo provider bindings ⟨source, ⟨place.fill chosen⟩⟩ requests := by
  constructor
  · rintro ⟨moment, leads, rfl⟩
    obtain ⟨after, matched, alike⟩ := leads_matched moves first_alike leads
    exact ⟨after, matched, (settled_iff.1 alike.progress).2.2.2.1.symm⟩
  · rintro ⟨moment, leads, rfl⟩
    obtain ⟨after, matched, alike⟩ := leads_matched_back moves first_alike leads
    exact ⟨after, matched, (settled_iff.1 alike.progress).2.2.2.1⟩

end

/-- A condition may be replaced by its children where it holds, and left out where it does not.
Expansion returns the same document or fails alike, makes the same requests and, apart from the
conditions it meets, tells the same. So it is also with a provider that answers as it likes, whether
or not the expansion ends then. -/
theorem expand_condition (bindings : Bindings) (source : SourceId) (place : Place)
    (nsPrefix : Option String) (attributes : Attributes) (children : Forest) :
    let condition : Node := .element ⟨nsPrefix, "when", some templateUri⟩ attributes children
    let written : Template := ⟨source, ⟨place.fill [condition]⟩⟩
    let replaced : Template := ⟨source, ⟨place.fill (worth bindings attributes children)⟩⟩
    (∀ library : Library,
      (written.expand library bindings).1 = (replaced.expand library bindings).1 ∧
      (written.expand library bindings).2.requests =
        (replaced.expand library bindings).2.requests ∧
      (written.expand library bindings).2.settled =
        (replaced.expand library bindings).2.settled) ∧
    ∀ provider : Provider,
      (∀ outcome progress,
        (∃ told, EndsWith provider bindings written outcome told ∧ told.settled = progress) ↔
          ∃ told, EndsWith provider bindings replaced outcome told ∧ told.settled = progress) ∧
      ∀ requests, GetsTo provider bindings written requests ↔
        GetsTo provider bindings replaced requests := by
  intro condition written replaced
  constructor
  · intro library
    obtain ⟨told, ends, same⟩ := (ends_with_replaced move_of_condition).1
      ⟨_, ends_with_expand written library bindings, rfl⟩
    obtain ⟨outcome, progress⟩ := ends_with_unique ends (ends_with_expand replaced library bindings)
    rw [progress] at same
    exact ⟨outcome, (settled_iff.1 same).2.2.2.1.symm, same.symm⟩
  · intro provider
    constructor
    · intro outcome progress
      exact ends_with_replaced move_of_condition
    · intro requests
      exact gets_to_replaced move_of_condition

end XmlTemplate.Template
