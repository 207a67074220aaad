import XmlTemplate.Proofs.Expansion.Runs

/-!
Keeping expanded includes does not change the outcome of an expansion. The other side of the
comparison expands the target of every include from its text. A kept include skips the refusals of
cyclic includes inside its target, so the comparison rests on what a kept source can reach: all of
it is kept as well, and no kept source is being expanded.
-/

namespace XmlTemplate

open Markup

namespace Template

/-- Expands a source as `expandSource` does, but keeps nothing: the target of every include that is
not refused is loaded and expanded again. -/
def expandSourceAfresh (library : Library) (bindings : Bindings) (stack : List SourceId)
    (source : SourceId) (document : Document) : Expand Document :=
  let fetch (written : String) (target : SourceId) : Expand Document :=
    if _fresh : target ∈ stack then throw (.cyclicInclude (stack ++ [target]))
    else
      match _found : library.load target with
      | .error cause => throw (.unresolvableInclude written source cause)
      | .ok loaded => expandSourceAfresh library bindings (stack ++ [target]) target loaded
  (Surroundings.mk bindings source fetch).expandDocument document
termination_by unvisited library stack
decreasing_by exact unvisited_lt _fresh _found

/-- The outcome of a template when no expanded include is used twice. -/
def expandAfresh (template : Template) (library : Library) (bindings : Bindings) :
    Except Failure Document :=
  (expandSourceAfresh library bindings [template.source] template.source template.document {}).1

def fetchAfresh (library : Library) (bindings : Bindings) (stack : List SourceId)
    (source : SourceId) (written : String) (target : SourceId) : Expand Document :=
  if target ∈ stack then throw (.cyclicInclude (stack ++ [target]))
  else
    match library.load target with
    | .error cause => throw (.unresolvableInclude written source cause)
    | .ok loaded => expandSourceAfresh library bindings (stack ++ [target]) target loaded

theorem expand_source_afresh_eq (library : Library) (bindings : Bindings)
    (stack : List SourceId) (source : SourceId) (document : Document) :
    expandSourceAfresh library bindings stack source document =
      (Surroundings.mk bindings source
        (fetchAfresh library bindings stack source)).expandDocument document := by
  rw [expandSourceAfresh]
  have same : (fun (written : String) (target : SourceId) =>
      if _fresh : target ∈ stack then
        (throw (.cyclicInclude (stack ++ [target])) : Expand Document)
      else
        match _found : library.load target with
        | .error cause => throw (.unresolvableInclude written source cause)
        | .ok loaded => expandSourceAfresh library bindings (stack ++ [target]) target loaded) =
      fetchAfresh library bindings stack source := by
    funext written target
    unfold fetchAfresh
    by_cases refused : target ∈ stack
    · rw [dif_pos refused, if_pos refused]
    · rw [dif_neg refused, if_neg refused]
      split <;> simp_all
  rw [same]

def Apart (stack : List SourceId) (kept : List (SourceId × Document)) : Prop :=
  ∀ source ∈ stack, source ∉ kept.map (·.1)

/-- Every kept document is what the comparison obtains for its source, whatever else is being
expanded, as long as nothing of that is kept. -/
def Justified (library : Library) (bindings : Bindings) (kept : List (SourceId × Document)) :
    Prop :=
  ∀ target expanded, (target, expanded) ∈ kept → ∃ loaded, library.load target = .ok loaded ∧
    ∀ stack, Apart stack kept → ∀ progress,
      (expandSourceAfresh library bindings (stack ++ [target]) target loaded progress).1 =
        .ok expanded

/-- A step agrees with its comparison: after a success nothing kept is lost or being expanded, and
the comparison succeeds alike with every stack that is apart from what is kept by then; a failure is
that of the comparison with the same stack. -/
def Agrees (library : Library) (bindings : Bindings) (stack : List SourceId) {Result : Type}
    (run : Expand Result) (afresh : List SourceId → Expand Result) : Prop :=
  ∀ progress, Apart stack progress.kept → Justified library bindings progress.kept →
    match run progress with
    | (.ok value, later) =>
        Apart stack later.kept ∧ Justified library bindings later.kept ∧
          progress.kept.map (·.1) ⊆ later.kept.map (·.1) ∧
          ∀ other, Apart other later.kept → ∀ anew, (afresh other anew).1 = .ok value
    | (.error failure, _) => ∀ anew, (afresh stack anew).1 = .error failure

theorem apart_of_subset {stack : List SourceId} {kept later : List (SourceId × Document)}
    (grows : kept.map (·.1) ⊆ later.map (·.1)) (apart : Apart stack later) : Apart stack kept := by
  intro source member found
  exact apart source member (grows found)

theorem fst_run_bind_of_ok {Result Other : Type} {first : Expand Result}
    {next : Result → Expand Other} {value : Result} {outcome : Except Failure Other}
    (firstOutcome : ∀ progress, (first progress).1 = .ok value)
    (nextOutcome : ∀ progress, (next value progress).1 = outcome) (progress : Progress) :
    ((first >>= next) progress).1 = outcome := by
  have ran : first progress = (.ok value, (first progress).2) :=
    Prod.ext (firstOutcome progress) rfl
  rw [run_bind_ok ran]
  exact nextOutcome _

theorem fst_run_bind_of_error {Result Other : Type} {first : Expand Result}
    {next : Result → Expand Other} {failure : Failure}
    (firstOutcome : ∀ progress, (first progress).1 = .error failure) (progress : Progress) :
    ((first >>= next) progress).1 = .error failure := by
  have ran : first progress = (.error failure, (first progress).2) :=
    Prod.ext (firstOutcome progress) rfl
  rw [run_bind_error ran]

theorem agrees_bind {library : Library} {bindings : Bindings} {stack : List SourceId}
    {Result Other : Type} {first : Expand Result} {firsts : List SourceId → Expand Result}
    {next : Result → Expand Other} {nexts : List SourceId → Result → Expand Other}
    (firstAgrees : Agrees library bindings stack first firsts)
    (nextAgrees : ∀ value, Agrees library bindings stack (next value) fun other =>
      nexts other value) :
    Agrees library bindings stack (first >>= next) fun other => firsts other >>= nexts other := by
  intro progress apart justified
  have firstRun := firstAgrees progress apart justified
  rcases ran : first progress with ⟨outcome, middle⟩
  rw [ran] at firstRun
  cases outcome with
  | error failure =>
      rw [run_bind_error ran]
      exact fst_run_bind_of_error firstRun
  | ok value =>
      rcases firstRun with ⟨apartMiddle, justifiedMiddle, growsFirst, firstAfresh⟩
      have nextRun := nextAgrees value middle apartMiddle justifiedMiddle
      rw [run_bind_ok ran]
      rcases ranNext : next value middle with ⟨outcome, later⟩
      rw [ranNext] at nextRun
      cases outcome with
      | error failure => exact fst_run_bind_of_ok (firstAfresh stack apartMiddle) nextRun
      | ok result =>
          rcases nextRun with ⟨apartLater, justifiedLater, growsNext, nextAfresh⟩
          refine ⟨apartLater, justifiedLater, List.Subset.trans growsFirst growsNext, ?_⟩
          intro other apartOther
          exact fst_run_bind_of_ok (firstAfresh other (apart_of_subset growsNext apartOther))
            (nextAfresh other apartOther)

theorem agrees_kept_by_steps (library : Library) (bindings : Bindings) (stack : List SourceId) :
    KeptBySteps (Agrees library bindings stack) where
  ofPure value := by
    intro progress apart justified
    exact ⟨apart, justified, List.Subset.refl _, fun _ _ _ => rfl⟩
  ofThrow failure := by
    intro progress _ _ anew
    rfl
  ofNote event := by
    intro progress apart justified
    exact ⟨apart, justified, List.Subset.refl _, fun _ _ _ => rfl⟩
  ofBind := agrees_bind

theorem run_fetch_afresh_loaded {library : Library} {bindings : Bindings} {stack : List SourceId}
    {source target : SourceId} {written : String} {loaded : Document} (fresh : target ∉ stack)
    (found : library.load target = .ok loaded) (progress : Progress) :
    fetchAfresh library bindings stack source written target progress =
      expandSourceAfresh library bindings (stack ++ [target]) target loaded progress := by
  unfold fetchAfresh
  rw [if_neg fresh, found]

theorem not_kept_of_lookup {kept : List (SourceId × Document)} {target : SourceId}
    (absent : kept.lookup target = none) : target ∉ kept.map (·.1) := by
  intro member
  rcases List.mem_map.1 member with ⟨⟨source, expanded⟩, found, rfl⟩
  have different := List.lookup_eq_none_iff.1 absent _ found
  simp at different

theorem apart_concat {stack : List SourceId} {target : SourceId}
    {kept : List (SourceId × Document)} :
    Apart (stack ++ [target]) kept ↔ Apart stack kept ∧ target ∉ kept.map (·.1) := by
  simp [Apart, or_imp, forall_and]

theorem apart_cons {stack : List SourceId} {target : SourceId} {expanded : Document}
    {kept : List (SourceId × Document)} :
    Apart stack ((target, expanded) :: kept) ↔ target ∉ stack ∧ Apart stack kept := by
  simp only [Apart, List.map_cons, List.mem_cons, not_or, forall_and]
  apply and_congr_left
  intro _
  constructor
  · intro different member
    exact different target member rfl
  · intro fresh source member same
    exact fresh (same ▸ member)

/-- A source that was expanded in its own right may be kept: its inclusion is justified with every
stack that holds neither it nor anything kept while it was expanded. -/
theorem justified_cons {library : Library} {bindings : Bindings} {target : SourceId}
    {loaded expanded : Document} {kept : List (SourceId × Document)}
    (found : library.load target = .ok loaded) (unkept : target ∉ kept.map (·.1))
    (justified : Justified library bindings kept)
    (afresh : ∀ other, Apart other kept → ∀ anew,
      (expandSourceAfresh library bindings other target loaded anew).1 = .ok expanded) :
    Justified library bindings ((target, expanded) :: kept) := by
  intro source document member
  rcases List.mem_cons.1 member with same | earlier
  · cases same
    refine ⟨loaded, found, ?_⟩
    intro stack apart
    exact afresh (stack ++ [target]) (apart_concat.2 ⟨(apart_cons.1 apart).2, unkept⟩)
  · rcases justified source document earlier with ⟨text, loads, outcome⟩
    refine ⟨text, loads, ?_⟩
    intro stack apart
    exact outcome stack (apart_cons.1 apart).2

/-- Where a kept document may be reused, expanding its source again gives the same. -/
theorem fetch_afresh_of_kept {library : Library} {bindings : Bindings} {stack : List SourceId}
    {source target : SourceId} {written : String} {expanded : Document}
    {kept : List (SourceId × Document)} (justified : Justified library bindings kept)
    (member : (target, expanded) ∈ kept) (apart : Apart stack kept) (anew : Progress) :
    (fetchAfresh library bindings stack source written target anew).1 = .ok expanded := by
  rcases justified target expanded member with ⟨loaded, loads, afresh⟩
  have fresh : target ∉ stack := by
    intro being
    exact apart target being (List.mem_map_of_mem member)
  rw [run_fetch_afresh_loaded fresh loads]
  exact afresh stack apart anew

theorem fetch_agrees (library : Library) (bindings : Bindings) (stack : List SourceId)
    (source : SourceId)
    (nested : ∀ target loaded, target ∉ stack → library.load target = .ok loaded →
      Agrees library bindings (stack ++ [target])
        (expandSource library bindings (stack ++ [target]) target loaded)
        fun other => expandSourceAfresh library bindings other target loaded)
    (written : String) (target : SourceId) :
    Agrees library bindings stack (fetchKept library bindings stack source written target)
      fun other => fetchAfresh library bindings other source written target := by
  intro progress apart justified
  by_cases refused : target ∈ stack
  · rw [run_fetch_refused refused]
    intro anew
    simp only [fetchAfresh, if_pos refused, run_throw]
  · cases kept : progress.kept.lookup target with
    | some expanded =>
        rw [run_fetch_reused refused kept]
        refine ⟨apart, justified, List.Subset.refl _, ?_⟩
        intro other otherApart anew
        exact fetch_afresh_of_kept justified (mem_of_lookup kept) otherApart anew
    | none =>
        cases loads : library.load target with
        | error cause =>
            rw [run_fetch_missing refused kept loads]
            intro anew
            simp only [fetchAfresh, if_neg refused, loads, run_throw]
        | ok loaded =>
            have unkept := not_kept_of_lookup kept
            have inner := nested target loaded refused loads (progress.request target)
              (apart_concat.2 ⟨apart, unkept⟩) justified
            rw [run_fetch_loaded refused kept loads]
            rcases ran : expandSource library bindings (stack ++ [target]) target loaded
              (progress.request target) with ⟨outcome, later⟩
            rw [ran] at inner
            cases outcome with
            | error failure =>
                intro anew
                dsimp only
                rw [run_fetch_afresh_loaded refused loads]
                exact inner anew
            | ok expanded =>
                rcases inner with ⟨apartLater, justifiedLater, grows, afresh⟩
                rcases apart_concat.1 apartLater with ⟨stackApart, targetUnkept⟩
                have justifiedNow := justified_cons loads targetUnkept justifiedLater afresh
                refine ⟨apart_cons.2 ⟨refused, stackApart⟩, justifiedNow,
                  List.Subset.trans grows (List.subset_cons_self _ _), ?_⟩
                intro other otherApart anew
                exact fetch_afresh_of_kept justifiedNow (.head _) otherApart anew

theorem source_agrees (library : Library) (bindings : Bindings) (stack : List SourceId)
    (source : SourceId) (document : Document) :
    Agrees library bindings stack (expandSource library bindings stack source document)
      fun other => expandSourceAfresh library bindings other source document := by
  have fetched := fetch_agrees library bindings stack source
    (fun target loaded fresh found =>
      source_agrees library bindings (stack ++ [target]) target loaded)
  have walked := (agrees_kept_by_steps library bindings stack).of_document bindings source fetched
    document
  rw [expand_source_eq]
  simp only [expand_source_afresh_eq]
  exact walked
termination_by unvisited library stack
decreasing_by exact unvisited_lt fresh found

theorem source_outcome_eq_afresh (library : Library) (bindings : Bindings)
    (stack : List SourceId) (source : SourceId) (document : Document) (progress anew : Progress)
    (nothing : progress.kept = []) :
    (expandSource library bindings stack source document progress).1 =
      (expandSourceAfresh library bindings stack source document anew).1 := by
  have apart : Apart stack progress.kept := by
    intro source _
    simp [nothing]
  have justified : Justified library bindings progress.kept := by
    intro target expanded member
    simp [nothing] at member
  have agrees := source_agrees library bindings stack source document progress apart justified
  rcases ran : expandSource library bindings stack source document progress with ⟨outcome, later⟩
  rw [ran] at agrees
  cases outcome with
  | error failure => exact (agrees anew).symm
  | ok expanded => exact (agrees.2.2.2 stack agrees.1 anew).symm

theorem fst_run_expand_all (template : Template) (library : Library) (bindings : Bindings)
    (progress : Progress) :
    (template.expandAll library bindings progress).1 =
      (expandSource library bindings [template.source] template.source template.document
        { progress with
          events := .expanding template.source bindings.size :: progress.events }).1 := by
  unfold expandAll
  rw [run_bind_ok (run_note _ _)]
  rcases ran : expandSource library bindings [template.source] template.source template.document
    { progress with events := .expanding template.source bindings.size :: progress.events }
    with ⟨outcome, later⟩
  cases outcome with
  | error failure => rw [run_bind_error ran]
  | ok expanded =>
      rw [run_bind_ok ran, run_bind_ok (run_get later), run_bind_ok (run_note _ _)]
      rfl

/-- A template expands to the same document, or fails in the same way, whether or not expanded
includes are kept: every include that is not refused may as well be loaded and expanded again. -/
theorem expand_outcome_eq_afresh (template : Template) (library : Library)
    (bindings : Bindings) :
    (template.expand library bindings).1 = template.expandAfresh library bindings := by
  unfold expand expandAfresh
  rw [fst_run_expand_all]
  exact source_outcome_eq_afresh library bindings _ _ _ _ _ rfl

end Template
end XmlTemplate
