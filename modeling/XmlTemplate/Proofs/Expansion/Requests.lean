import XmlTemplate.Proofs.Expansion.Cycles
import XmlTemplate.Template.Session

/-!
How often sources are requested. While an expansion goes on, the sources requested are those below
the template that are being expanded and those that are kept, each of them once. This fixes all
counts, and the counts of a shelf after any sequence of calls.
-/

namespace XmlTemplate

open Markup

namespace Template

structure Tallied (template : Template) (moment : Moment) : Prop where
  misses : moment.progress.misses = moment.progress.requests.length
  once : moment.progress.requests.Nodup
  never : template.source ∉ moment.progress.requests
  asked : moment.failure = none →
    moment.progress.requests.Perm (moment.stack.tail ++ moment.progress.kept.map (·.1))
  counted : moment.failure = none →
    moment.progress.hits + moment.progress.misses = moment.progress.inclusions

section
variable {template : Template} {library : Library} {bindings : Bindings} {source : SourceId}
  {waiting : List Waiting}

theorem inclusions_tell (progress : Progress) (events : List Event) :
    (progress.tell events).inclusions =
      events.countP Event.isInclusion + progress.inclusions :=
  List.countP_append

theorem inclusions_run (progress : Progress) (source : SourceId) :
    (progress.tell [.running .inclusion source]).inclusions = progress.inclusions + 1 :=
  (inclusions_tell progress _).trans (Nat.add_comm 1 _)

theorem inclusions_request (progress : Progress) (target : SourceId) :
    (progress.request target).inclusions = progress.inclusions :=
  (inclusions_tell progress [.loading target]).trans (Nat.zero_add _)

/-- A moment with the same requests at which the expansion has failed. -/
theorem tallied_of_failed {moment later : Moment} {failure : Failure}
    (tallied : Tallied template moment) (failed : later.failure = some failure)
    (requests : later.progress.requests = moment.progress.requests)
    (misses : later.progress.misses = moment.progress.misses) : Tallied template later := by
  constructor
  · rw [misses, requests]
    exact tallied.misses
  · rw [requests]
    exact tallied.once
  · rw [requests]
    exact tallied.never
  · intro running
    rw [failed] at running
    cases running
  · intro running
    rw [failed] at running
    cases running

theorem tallied_of_taken {Described : Forest → Prop} {moment later : Moment}
    (taken : Taken Described moment later) (tallied : Tallied template moment) :
    Tallied template later := by
  cases taken with
  | got quiet described =>
      refine ⟨tallied.misses, tallied.once, tallied.never, tallied.asked, ?_⟩
      intro running
      rw [inclusions_tell, quiet, Nat.zero_add]
      exact tallied.counted running
  | failed acyclic => exact tallied_of_failed tallied rfl rfl rfl

/-- A moment with the same counts, at which the same sources are expanded. -/
theorem tallied_of_same {moment later : Moment} (tallied : Tallied template moment)
    (stack : later.stack = moment.stack) (failure : later.failure = moment.failure)
    (requests : later.progress.requests = moment.progress.requests)
    (misses : later.progress.misses = moment.progress.misses)
    (kept : later.progress.kept = moment.progress.kept)
    (counted : later.progress.hits + moment.progress.inclusions =
      moment.progress.hits + later.progress.inclusions) : Tallied template later := by
  constructor
  · rw [misses, requests]
    exact tallied.misses
  · rw [requests]
    exact tallied.once
  · rw [requests]
    exact tallied.never
  · intro running
    rw [stack, requests, kept]
    exact tallied.asked (failure ▸ running)
  · intro running
    have before := tallied.counted (failure ▸ running)
    omega

/-- The source of an include that is loaded was not requested before. -/
theorem not_requested {moment : Moment} {target : SourceId}
    (sound : StackSound template library moment) (tallied : Tallied template moment)
    (running : moment.failure = none) (fresh : target ∉ moment.stack)
    (unkept : moment.progress.kept.lookup target = none) :
    target ∉ moment.progress.requests ∧ target ≠ template.source := by
  constructor
  · intro requested
    rcases List.mem_append.1 ((tallied.asked running).mem_iff.1 requested) with expanding | kept
    · exact fresh (List.mem_of_mem_tail expanding)
    · exact not_kept_of_lookup unkept kept
  · intro root
    rw [root] at fresh
    exact fresh (List.mem_of_mem_head? sound.begins)

theorem tallied_of_request {frame other : Frame} {others : List Waiting} {progress : Progress}
    {target : SourceId} {failure : Option Failure}
    (sound : StackSound template library ⟨frame, waiting, progress, none⟩)
    (tallied : Tallied template ⟨frame, waiting, progress, none⟩)
    (fresh : target ∉ stackOf waiting frame.source)
    (unkept : progress.kept.lookup target = none)
    (deeper : failure = none →
      (stackOf others other.source).tail = (stackOf waiting frame.source).tail ++ [target]) :
    Tallied template ⟨other, others,
      (progress.tell [.running .inclusion source]).request target, failure⟩ := by
  have new := not_requested sound tallied rfl fresh unkept
  constructor
  · exact congrArg (· + 1) tallied.misses
  · exact List.nodup_cons.2 ⟨new.1, tallied.once⟩
  · intro requested
    rcases List.mem_cons.1 requested with root | earlier
    · exact new.2 root.symm
    · exact tallied.never earlier
  · intro running
    rw [Moment.stack, deeper running, List.append_assoc]
    exact ((tallied.asked rfl).cons target).trans List.perm_middle.symm
  · intro running
    rw [inclusions_request, inclusions_run, ← tallied.counted rfl]
    rfl

theorem tallied_of_transition {moment later : Moment}
    (transition : Transition (.ofLibrary library) bindings moment later)
    (sound : StackSound template library moment) (tallied : Tallied template moment) :
    Tallied template later := by
  cases transition with
  | giveUp => exact tallied_of_failed tallied rfl rfl rfl
  | close => exact tallied_of_same tallied rfl rfl rfl rfl rfl rfl
  | deliver taken =>
      -- The source leaves the stack and is kept, so up to order the list is the same.
      refine tallied_of_taken taken ⟨tallied.misses, tallied.once, tallied.never, ?_,
        tallied.counted⟩
      intro running
      have asked := tallied.asked running
      simp only [Moment.stack] at asked
      rw [tail_stack_of_cons, List.append_assoc] at asked
      exact asked
  | give taken => exact tallied_of_taken taken (tallied_of_same tallied rfl rfl rfl rfl rfl rfl)
  | descend inside =>
      refine tallied_of_same tallied rfl rfl rfl rfl rfl ?_
      rw [inclusions_tell]
      exact congrArg _ (Nat.zero_add _).symm
  | enter ordinary => exact tallied_of_same tallied rfl rfl rfl rfl rfl rfl
  | refuse refers refused => exact tallied_of_failed tallied rfl rfl rfl
  | reuse found taken =>
      rename_i source target _ _ _ _ _ progress _ _
      -- One hit more, and one include more.
      refine tallied_of_taken taken (tallied_of_same tallied rfl rfl rfl rfl rfl ?_)
      have more := inclusions_tell progress [.reused target, .running .inclusion source]
      have one : [Event.reused target, .running .inclusion source].countP Event.isInclusion = 1 :=
        rfl
      simp only [Progress.inclusions] at more ⊢
      omega
  | miss fresh unkept missing =>
      apply tallied_of_request sound tallied fresh unkept
      intro running
      cases running
  | load refers fresh unkept found =>
      refine tallied_of_request sound tallied fresh unkept ?_
      intro _
      exact tail_stack_of_cons _

theorem tallied_of_reached {moment : Moment} (reached : Reached template library bindings moment) :
    Tallied template moment := by
  induction reached with
  | refl => exact ⟨rfl, .nil, List.not_mem_nil, fun _ => .nil, fun _ => rfl⟩
  | tail earlier step ih =>
      exact tallied_of_transition (transition_of_next step.1) (sound_of_reached earlier).1 ih

/-- A last moment without failure has nothing around it. -/
theorem waiting_of_final {provider : Provider} {moment : Moment}
    (final : moment.next provider bindings = none) : moment.waiting = [] := by
  unfold Moment.next at final
  split at final
  · assumption
  · cases final
  · cases final
  · cases final
  · cases final
  · assumption

end

structure RequestsCounted (template : Template) (outcome : Except Failure Document)
    (progress : Progress) : Prop where
  misses : progress.misses = progress.requests.length
  once : progress.requests.Nodup
  never : template.source ∉ progress.requests
  kept : ∀ document, outcome = .ok document → (progress.kept.map (·.1)).Nodup ∧
    progress.kept.length = progress.misses
  counted : ∀ document, outcome = .ok document →
    progress.hits + progress.misses = progress.inclusions

theorem expansion_counts (template : Template) (library : Library) (bindings : Bindings) :
    RequestsCounted template (template.expand library bindings).1
      (template.expand library bindings).2 := by
  rcases expansion_ends template library bindings with ⟨last, leads, final, expanded⟩
  have tallied : Tallied template last :=
    tallied_of_reached (leads_mono List.nil_prefix leads)
  rw [expanded]
  cases failed : last.failure with
  | some failure =>
      have concluded : last.conclusion = last.progress := by
        simp only [Moment.conclusion, failed]
      have refused : last.outcome = .error failure := by
        simp only [Moment.outcome, failed]
      rw [concluded, refused]
      refine ⟨tallied.misses, tallied.once, tallied.never, ?_, ?_⟩ <;>
      · intro document made
        cases made
  | none =>
      have concluded : last.conclusion = last.progress.tell [.expanded last.frame.source
          last.progress.kept.length last.progress.hits last.progress.misses] := by
        simp only [Moment.conclusion, failed]
        rfl
      have asked := tallied.asked failed
      rw [Moment.stack, waiting_of_final final] at asked
      have once := asked.nodup_iff.1 tallied.once
      rw [concluded]
      refine ⟨tallied.misses, tallied.once, tallied.never, fun _ _ => ⟨once, ?_⟩, fun _ _ => ?_⟩
      · have lengths := asked.length_eq
        rw [← tallied.misses] at lengths
        exact (List.length_map _).symm.trans lengths.symm
      · rw [inclusions_tell]
        exact (tallied.counted failed).trans (Nat.zero_add _).symm

end Template

namespace Shelf

open Markup Template

theorem sources_answer (shelf : Shelf) (call : Call) :
    (shelf.answer call).2.sources = shelf.sources := by
  cases call <;> rfl

theorem answer_of_sources {shelf other : Shelf} (same : shelf.sources = other.sources)
    (call : Call) : (shelf.answer call).1 = (other.answer call).1 := by
  have library : shelf.library = other.library := congrArg Library.inMemory same
  cases call with
  | load source =>
      simp only [answer, loadTemplate, Shelf.load, library]
  | expand template bindings =>
      simp only [answer, Shelf.expand, library]

theorem answers_of_sources (fresh shelf : Shelf) (same : shelf.sources = fresh.sources)
    (calls : List Call) :
    (shelf.answers calls).1 = calls.map (fun call => (fresh.answer call).1) ∧
      (shelf.answers calls).2.sources = fresh.sources := by
  induction calls generalizing shelf with
  | nil => exact ⟨rfl, same⟩
  | cons call rest ih =>
      have later := ih (shelf.answer call).2 ((sources_answer shelf call).trans same)
      refine ⟨?_, later.2⟩
      rw [List.map_cons, ← later.1, ← answer_of_sources same call]
      rfl

/-- What a shelf tells after it has recorded the requests of an expansion. -/
theorem record_counts {template : Template} {outcome : Except Failure Document}
    {progress : Progress} (counts : RequestsCounted template outcome progress) (shelf : Shelf) :
    let later := shelf.record progress.requests
    (∀ source, later.loadCount source ≤ shelf.loadCount source + 1) ∧
      later.loadCount template.source = shelf.loadCount template.source ∧
      later.totalLoads = shelf.totalLoads + progress.misses := by
  refine ⟨?_, ?_, ?_⟩
  · intro source
    have once := List.nodup_iff_count_le_one.1 counts.once source
    simp only [loadCount, record, List.count_append]
    omega
  · simp only [loadCount, record, List.count_append,
      List.count_eq_zero_of_not_mem counts.never, Nat.zero_add]
  · rw [counts.misses]
    simp only [totalLoads, record, List.length_append]
    omega

theorem expand_of_sources {shelf fresh : Shelf} (same : shelf.sources = fresh.sources)
    (template : Template) (bindings : Bindings) :
    shelf.expand template bindings =
      (template.expand fresh.library bindings,
        shelf.record (template.expand fresh.library bindings).2.requests) := by
  have library : shelf.library = fresh.library := congrArg Library.inMemory same
  rw [← library]
  rfl

/-- Whatever calls came before on a shelf, each call is answered as on a fresh shelf with the same
sources. An expansion requests no source twice and never its own template; the shelf has as many
more requests afterwards as the expansion had misses; and if it succeeds, every miss has left one
kept include, and hits and misses together are the includes that were run. -/
theorem answers_and_requests (sources : List (SourceId × String)) (calls : List Call) :
    let fresh : Shelf := { sources }
    let (answers, shelf) := fresh.answers calls
    answers = calls.map (fun call => (fresh.answer call).1) ∧
    ∀ template bindings,
      let ((outcome, progress), later) := shelf.expand template bindings
      (∀ source, later.loadCount source ≤ shelf.loadCount source + 1) ∧
      later.loadCount template.source = shelf.loadCount template.source ∧
      later.totalLoads = shelf.totalLoads + progress.misses ∧
      (∀ document, outcome = .ok document →
        (progress.kept.map (·.1)).Nodup ∧ progress.kept.length = progress.misses ∧
          progress.hits + progress.misses = progress.inclusions) ∧
      (outcome, progress) = (fresh.expand template bindings).1 := by
  intro fresh
  have answered := answers_of_sources fresh fresh rfl calls
  refine ⟨answered.1, ?_⟩
  intro template bindings
  have counts := expansion_counts template fresh.library bindings
  rw [expand_of_sources answered.2 template bindings,
    expand_of_sources rfl template bindings]
  generalize template.expand fresh.library bindings = result at counts
  rcases result with ⟨outcome, progress⟩
  rcases record_counts counts (fresh.answers calls).2 with ⟨once, never, total⟩
  refine ⟨once, never, total, ?_, rfl⟩
  intro document succeeded
  have kept := counts.kept document succeeded
  exact ⟨kept.1, kept.2, counts.counted document succeeded⟩

end Shelf
end XmlTemplate
