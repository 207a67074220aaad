import XmlTemplate.Report

/-!
Reports read off the chain of causes. An error is only asked for its wording and for what caused it
directly; contexts are errors of this kind as well. The report comes from two walks along the chain:
one collects the wordings, the other looks for the first failure or refusal by the system, from
which the advice follows. Contexts and includes around a failure add to the wording and keep the
advice.
-/

namespace XmlTemplate

/-- An error as it is handed up: what lies at the bottom of a problem, or what a layer was doing
while another error came up. -/
inductive Raised
  | bottom (cause : Cause)
  | around (context : String) (inner : Raised)

namespace Raised

def wording : Raised → String
  | bottom (.failure reason) => reason.message
  | bottom (.io reason) => reason.message
  | bottom (.message text) => text
  | bottom (.report made) => made.text
  | around context _ => context

def source? : Raised → Option Raised
  | bottom (.failure (.unresolvableInclude _ _ cause)) => some (bottom (.failure cause))
  | bottom (.failure (.unreadable _ cause)) => some (bottom (.io cause))
  | bottom _ => none
  | around _ inner => some inner

theorem source_smaller {raised source : Raised} (caused : raised.source? = some source) :
    sizeOf source < sizeOf raised := by
  unfold source? at caused
  split at caused <;> cases caused
  all_goals
    simp only [bottom.sizeOf_spec, around.sizeOf_spec, Cause.failure.sizeOf_spec,
      Cause.io.sizeOf_spec, Failure.unresolvableInclude.sizeOf_spec, Failure.unreadable.sizeOf_spec]
    omega

def chain (raised : Raised) : List Raised :=
  raised :: match _caused : raised.source? with
    | some source => source.chain
    | none => []
termination_by raised
decreasing_by exact source_smaller _caused

def advice? : Raised → Option (Option String × Option String)
  | bottom (.failure reason) => some (reason.rootCause.details?, reason.rootCause.suggestion?)
  | bottom (.io reason) => some (none, reason.suggestion?)
  | _ => none

/-- The report of an error. The first one on the chain that gives advice gives it for all. -/
def report (raised : Raised) : Report :=
  let advice := (raised.chain.findSome? advice?).getD (none, none)
  ⟨": ".intercalate (raised.chain.map wording), advice.1, advice.2⟩

def causes (raised : Raised) : List String := raised.chain.tail.map wording

def withCauses (raised : Raised) : String :=
  raised.wording ++ String.join (raised.causes.map ("\n  caused by: " ++ ·))

theorem chain_of_caused {raised : Raised} (source : Raised)
    (caused : raised.source? = some source) :
    raised.chain = raised :: source.chain := by
  rw [chain]
  split
  · rename_i found same
    rw [same] at caused
    cases caused
    rfl
  · rename_i none
    rw [none] at caused
    cases caused

theorem chain_around (context : String) (raised : Raised) :
    (around context raised).chain = around context raised :: raised.chain :=
  chain_of_caused raised rfl

theorem chain_of_uncaused {raised : Raised} (uncaused : raised.source? = none) :
    raised.chain = [raised] := by
  rw [chain]
  split
  · rename_i found same
    rw [same] at uncaused
    cases uncaused
  · rfl

/-- The wordings along the chain of a failure are its messages. -/
theorem wordings_of_failure (failure : Failure) :
    (bottom (.failure failure)).chain.map wording = failure.messages := by
  induction failure with
  | unresolvableInclude written origin cause ih =>
      rw [chain_of_caused (bottom (.failure cause)) rfl, List.map_cons, ih]
      rfl
  | unreadable source cause =>
      rw [chain_of_caused (bottom (.io cause)) rfl, chain_of_uncaused rfl]
      rfl
  | _ =>
      rw [chain_of_uncaused rfl]
      rfl

theorem wordings_of_cause (cause : Cause) :
    (bottom cause).chain.map wording = cause.messages := by
  cases cause with
  | failure reason => exact wordings_of_failure reason
  | _ =>
      rw [chain_of_uncaused rfl]
      rfl

/-- Only the first error on the chain of a cause is asked: a failure gives advice itself, and no
other cause has anything behind it. -/
theorem advice_of_cause (cause : Cause) :
    (bottom cause).chain.findSome? advice? = (bottom cause).advice? := by
  cases cause with
  | failure reason =>
      rw [chain]
      exact List.findSome?_cons_of_isSome (by rfl)
  | _ =>
      rw [chain_of_uncaused rfl]
      rfl

/-- An error inside contexts, the innermost first. -/
def inside (contexts : List String) (raised : Raised) : Raised :=
  contexts.foldl (fun inner context => .around context inner) raised

theorem wordings_inside (contexts : List String) (raised : Raised) :
    (inside contexts raised).chain.map wording =
      contexts.reverse ++ raised.chain.map wording := by
  induction contexts generalizing raised with
  | nil => rfl
  | cons context contexts ih =>
      calc (inside contexts (around context raised)).chain.map wording
          = contexts.reverse ++ (around context raised).chain.map wording := ih _
        _ = contexts.reverse ++ ([context] ++ raised.chain.map wording) := by
            rw [chain_around]
            rfl
        _ = (context :: contexts).reverse ++ raised.chain.map wording := by
            rw [List.reverse_cons, List.append_assoc]

/-- Contexts give no advice of their own. -/
theorem advice_inside (contexts : List String) (raised : Raised) :
    (inside contexts raised).chain.findSome? advice? = raised.chain.findSome? advice? := by
  induction contexts generalizing raised with
  | nil => rfl
  | cons context contexts ih =>
      calc (inside contexts (around context raised)).chain.findSome? advice?
          = (around context raised).chain.findSome? advice? := ih _
        _ = raised.chain.findSome? advice? := by
            rw [chain_around]
            rfl

end Raised

namespace Problem

def raised (problem : Problem) : Raised := .inside problem.contexts (.bottom problem.cause)

/-- The report of a problem is the one that is read off the chain of causes. -/
theorem report_eq (problem : Problem) : problem.report = problem.raised.report := by
  have wordings : problem.raised.chain.map Raised.wording = problem.messages := by
    rw [raised, Raised.wordings_inside, Raised.wordings_of_cause, messages]
  have advice : problem.raised.chain.findSome? Raised.advice? =
      (Raised.bottom problem.cause).advice? := by
    rw [raised, Raised.advice_inside, Raised.advice_of_cause]
  rw [Raised.report, wordings, advice, report]
  cases problem.cause <;> rfl

/-- Adding contexts one after another. -/
theorem within_all (contexts : List String) (problem : Problem) :
    contexts.foldl within problem = ⟨problem.contexts ++ contexts, problem.cause⟩ := by
  induction contexts generalizing problem with
  | nil => rw [List.append_nil]; rfl
  | cons context contexts ih =>
      rw [List.foldl_cons, ih, within, List.append_assoc]
      rfl

end Problem

namespace Failure

/-- A separator in front of each further text is what the texts are joined with. -/
theorem intercalate_cons_eq (separator first : String) (later : List String) :
    separator.intercalate (first :: later) = first ++ String.join (later.map (separator ++ ·)) := by
  induction later generalizing first with
  | nil => simp
  | cons next later ih =>
      rw [String.intercalate_cons_cons, ih next, List.map_cons, String.join_cons]
      simp only [String.append_assoc]

theorem messages_eq (failure : Failure) :
    failure.messages = failure.message :: (Raised.bottom (.failure failure)).causes := by
  have wordings := Raised.wordings_of_failure failure
  rw [Raised.chain, List.map_cons] at wordings
  rw [← wordings, Raised.causes, Raised.chain]
  rfl

/-- The lines of a failure are the ones that are read off the chain of causes. -/
theorem with_causes_eq (failure : Failure) :
    failure.withCauses = (Raised.bottom (.failure failure)).withCauses := by
  rw [withCauses, messages_eq, intercalate_cons_eq]
  rfl

/-- The failure to include a text from each of the layers, the outermost first. -/
def includedFrom (failure : Failure) (layers : List (String × SourceId)) : Failure :=
  layers.foldr (fun (written, origin) cause => .unresolvableInclude written origin cause) failure

theorem messages_of_layers (failure : Failure) (layers : List (String × SourceId)) :
    (failure.includedFrom layers).messages =
      (layers.map fun (written, origin) =>
        "Cannot include '" ++ written ++ "' from " ++ origin.path) ++ failure.messages := by
  induction layers with
  | nil => rfl
  | cons layer layers ih =>
      rw [List.map_cons, List.cons_append, ← ih]
      rfl

/-- Includes around a failure have its root cause. -/
theorem root_cause_of_layers (failure : Failure) (layers : List (String × SourceId)) :
    (failure.includedFrom layers).rootCause = failure.rootCause := by
  induction layers with
  | nil => rfl
  | cons layer layers ih => exact ih

end Failure

/-- Whatever includes and contexts are around a failure, its details and its suggestion are
reported. The message has the contexts, the includes and the failure with its causes, all of them
from the outside inwards; the lines of the failed includes are the same without the contexts. -/
theorem Problem.report_of_layers (failure : Failure) (layers : List (String × SourceId))
    (contexts : List String) :
    let layered := failure.includedFrom layers
    let problem := contexts.foldl Problem.within (Problem.ofFailure layered)
    let alone := (Problem.ofFailure failure).report
    let causes := (Raised.bottom (.failure layered)).causes
    let wordings := (layers.map fun (written, origin) =>
        "Cannot include '" ++ written ++ "' from " ++ origin.path) ++
      (Raised.bottom (.failure failure)).chain.map Raised.wording
    problem.report = problem.raised.report ∧
      problem.report = ⟨": ".intercalate (contexts.reverse ++ wordings), alone.details,
        alone.suggestion⟩ ∧
      layered.message :: causes = wordings ∧
      layered.withCauses =
        layered.message ++ String.join (causes.map ("\n  caused by: " ++ ·)) := by
  intro layered problem alone causes wordings
  have listed : layered.messages = wordings := by
    rw [Failure.messages_of_layers, ← Raised.wordings_of_failure]
  have stacked : problem = ⟨contexts, .failure layered⟩ := within_all contexts (ofFailure layered)
  refine ⟨problem.report_eq, ?_, ?_, Failure.with_causes_eq layered⟩
  · have root : layered.rootCause = failure.rootCause :=
      Failure.root_cause_of_layers failure layers
    rw [stacked, report, line, messages, Cause.messages, listed]
    dsimp only
    rw [root]
    rfl
  · rw [← listed, Failure.messages_eq]

example :
    let page : SourceId := ⟨.above 0, ["page.xml"]⟩
    let part : SourceId := ⟨.above 0, ["part.xml"]⟩
    let failure := (Failure.unreadable part ⟨.notFound, "no such file"⟩).includedFrom
      [("part.xml", page)]
    (Problem.within (.within (.ofFailure failure) "inner") "outer").report =
      ⟨"outer: inner: Cannot include 'part.xml' from page.xml: Cannot read part.xml: no such file",
        none, some "Check that the path exists and is spelled correctly"⟩ := by
  decide

end XmlTemplate
