import XmlTemplate.Template.Expansion

/-!
How the steps of an expansion run, and one induction over the walk through a template. Whatever
relation holds between single steps of two expansions, and survives one step after another, holds
between the whole walks as soon as it holds between their ways to obtain included sources.
-/

namespace XmlTemplate.Template

open Markup

theorem run_throw {Result : Type} (failure : Failure) (progress : Progress) :
    (throw failure : Expand Result) progress = (.error failure, progress) := rfl

theorem run_note (event : Event) (progress : Progress) :
    note event progress = (.ok (), { progress with events := event :: progress.events }) := rfl

theorem run_get (progress : Progress) :
    (get : Expand Progress) progress = (.ok progress, progress) := rfl

theorem run_modify (change : Progress → Progress) (progress : Progress) :
    (modify change : Expand PUnit) progress = (.ok ⟨⟩, change progress) := rfl

theorem run_bind_ok {State Result Other : Type} {first : ExceptT Failure (StateM State) Result}
    {next : Result → ExceptT Failure (StateM State) Other} {state later : State} {value : Result}
    (ran : first state = (.ok value, later)) : (first >>= next) state = next value later := by
  change StateT.bind first (ExceptT.bindCont next) state = _
  simp only [StateT.bind, ran]
  rfl

theorem run_bind_error {State Result Other : Type} {first : ExceptT Failure (StateM State) Result}
    {next : Result → ExceptT Failure (StateM State) Other} {state later : State} {failure : Failure}
    (ran : first state = (.error failure, later)) :
    (first >>= next) state = (.error failure, later) := by
  change StateT.bind first (ExceptT.bindCont next) state = _
  simp only [StateT.bind, ran]
  rfl

theorem ok_of_bind {Result Other : Type} {first : Expand Result} {next : Result → Expand Other}
    {progress later : Progress} {value : Other}
    (ran : (first >>= next) progress = (.ok value, later)) :
    ∃ result middle, first progress = (.ok result, middle) ∧
      next result middle = (.ok value, later) := by
  rcases start : first progress with ⟨outcome, middle⟩
  cases outcome with
  | error failure =>
      rw [run_bind_error start] at ran
      cases ran
  | ok result =>
      rw [run_bind_ok start] at ran
      exact ⟨result, middle, rfl, ran⟩

theorem lift_ok_bind {Result Other : Type} (value : Result) (next : Result → Expand Other) :
    ((liftM (Except.ok (ε := Failure) value) : Expand Result) >>= next) = next value := rfl

theorem lift_error_bind {Result Other : Type} (failure : Failure) (next : Result → Expand Other) :
    ((liftM (Except.error (α := Result) failure) : Expand Result) >>= next) = throw failure := rfl

def fetchKept (library : Library) (bindings : Bindings) (stack : List SourceId)
    (source : SourceId) (written : String) (target : SourceId) : Expand Document := do
  if target ∈ stack then throw (.cyclicInclude (stack ++ [target]))
  else
    match (← get).kept.lookup target with
    | some expanded =>
        note (.reused target)
        modify fun progress => { progress with hits := progress.hits + 1 }
        return expanded
    | none =>
        let ⟨loaded, _⟩ ← loadTarget library source written target
        let expanded ← expandSource library bindings (stack ++ [target]) target loaded
        modify fun progress => { progress with kept := (target, expanded) :: progress.kept }
        return expanded

theorem expand_source_eq (library : Library) (bindings : Bindings) (stack : List SourceId)
    (source : SourceId) (document : Document) :
    expandSource library bindings stack source document =
      (Surroundings.mk bindings source
        (fetchKept library bindings stack source)).expandDocument document := by
  rw [expandSource]
  rfl

def Progress.request (progress : Progress) (target : SourceId) : Progress :=
  { progress with
    misses := progress.misses + 1
    requests := target :: progress.requests
    events := .loading target :: progress.events }

section
variable {library : Library} {bindings : Bindings} {stack : List SourceId} {source : SourceId}
  {written : String} {target : SourceId} {progress : Progress}

theorem run_fetch_refused (refused : target ∈ stack) :
    fetchKept library bindings stack source written target progress =
      (.error (.cyclicInclude (stack ++ [target])), progress) := by
  unfold fetchKept
  rw [if_pos refused]
  rfl

theorem run_fetch_reused {expanded : Document} (fresh : target ∉ stack)
    (reused : progress.kept.lookup target = some expanded) :
    fetchKept library bindings stack source written target progress =
      (.ok expanded, { progress with
        hits := progress.hits + 1
        events := .reused target :: progress.events }) := by
  unfold fetchKept
  rw [if_neg fresh]
  rw [run_bind_ok (run_get progress)]
  rw [reused]
  rfl

theorem match_found {Result : Type} {loaded : Document} (found : library.load target = .ok loaded)
    (refuse : ∀ cause, library.load target = .error cause → Result)
    (accept : ∀ document, library.load target = .ok document → Result) :
    (match same : library.load target with
      | .error cause => refuse cause same
      | .ok document => accept document same) = accept loaded found := by
  split
  · rename_i missing
    rw [found] at missing
    cases missing
  · rename_i document same
    rw [found] at same
    cases same
    rfl

theorem match_missing {Result : Type} {cause : Failure}
    (missing : library.load target = .error cause)
    (refuse : ∀ cause, library.load target = .error cause → Result)
    (accept : ∀ document, library.load target = .ok document → Result) :
    (match same : library.load target with
      | .error cause => refuse cause same
      | .ok document => accept document same) = refuse cause missing := by
  split
  · rename_i same
    rw [missing] at same
    cases same
    rfl
  · rename_i found
    rw [missing] at found
    cases found

theorem run_load_found {loaded : Document} (found : library.load target = .ok loaded) :
    loadTarget library source written target progress =
      (.ok ⟨loaded, found⟩, progress.request target) := by
  unfold loadTarget
  rw [run_bind_ok (run_note _ _)]
  rw [run_bind_ok (run_modify _ _)]
  exact congrFun (match_found found _ _) _

theorem run_load_missing {cause : Failure} (missing : library.load target = .error cause) :
    loadTarget library source written target progress =
      (.error (.unresolvableInclude written source cause), progress.request target) := by
  unfold loadTarget
  rw [run_bind_ok (run_note _ _)]
  rw [run_bind_ok (run_modify _ _)]
  exact congrFun (match_missing missing _ _) _

theorem run_fetch_missing {cause : Failure} (fresh : target ∉ stack)
    (absent : progress.kept.lookup target = none) (missing : library.load target = .error cause) :
    fetchKept library bindings stack source written target progress =
      (.error (.unresolvableInclude written source cause), progress.request target) := by
  unfold fetchKept
  rw [if_neg fresh]
  rw [run_bind_ok (run_get progress)]
  rw [absent]
  exact run_bind_error (run_load_missing missing)

theorem run_fetch_loaded {loaded : Document} (fresh : target ∉ stack)
    (absent : progress.kept.lookup target = none) (found : library.load target = .ok loaded) :
    fetchKept library bindings stack source written target progress =
      match expandSource library bindings (stack ++ [target]) target loaded
        (progress.request target) with
      | (.ok expanded, later) =>
          (.ok expanded, { later with kept := (target, expanded) :: later.kept })
      | (.error failure, later) => (.error failure, later) := by
  unfold fetchKept
  rw [if_neg fresh]
  rw [run_bind_ok (run_get progress)]
  rw [absent]
  dsimp only
  rw [run_bind_ok (run_load_found found)]
  rcases ran : expandSource library bindings (stack ++ [target]) target loaded
    (progress.request target) with ⟨outcome, later⟩
  cases outcome with
  | error failure => exact run_bind_error ran
  | ok expanded => 
      rw [run_bind_ok ran]
      rfl

/-- A target that was obtained was kept before, or it was loaded and expanded and is kept from then
on. -/
theorem fetch_ok_cases {expanded : Document} {later : Progress}
    (ran : fetchKept library bindings stack source written target progress =
      (.ok expanded, later)) :
    target ∉ stack ∧
      ((progress.kept.lookup target = some expanded ∧
          later = { progress with
            hits := progress.hits + 1
            events := .reused target :: progress.events }) ∨
        (progress.kept.lookup target = none ∧ ∃ loaded middle,
          library.load target = .ok loaded ∧
          expandSource library bindings (stack ++ [target]) target loaded
            (progress.request target) = (.ok expanded, middle) ∧
          later = { middle with kept := (target, expanded) :: middle.kept })) := by
  by_cases refused : target ∈ stack
  · rw [run_fetch_refused refused] at ran
    cases ran
  · refine ⟨refused, ?_⟩
    cases kept : progress.kept.lookup target with
    | some document =>
        rw [run_fetch_reused refused kept] at ran
        cases ran
        exact .inl ⟨rfl, rfl⟩
    | none =>
        cases loads : library.load target with
        | error cause =>
            rw [run_fetch_missing refused kept loads] at ran
            cases ran
        | ok loaded =>
            rw [run_fetch_loaded refused kept loads] at ran
            rcases start : expandSource library bindings (stack ++ [target]) target loaded
              (progress.request target) with ⟨outcome, middle⟩
            rw [start] at ran
            cases outcome with
            | error failure => cases ran
            | ok document =>
                cases ran
                exact .inr ⟨rfl, loaded, middle, rfl, start, rfl⟩
end

/-- A relation between a computation and a family of computations that holds of every step both
sides take alike, and of one thing after another if it holds of each. -/
structure KeptBySteps {Index : Type}
    (Related : {Result : Type} → Expand Result → (Index → Expand Result) → Prop) : Prop where
  ofPure : ∀ {Result : Type} (value : Result), Related (pure value) fun _ => pure value
  ofThrow : ∀ {Result : Type} (failure : Failure),
    Related (throw failure : Expand Result) fun _ => throw failure
  ofNote : ∀ event : Event, Related (note event) fun _ => note event
  ofBind : ∀ {Result Other : Type} {first : Expand Result} {firsts : Index → Expand Result}
    {next : Result → Expand Other} {nexts : Index → Result → Expand Other},
    Related first firsts → (∀ value, Related (next value) fun index => nexts index value) →
      Related (first >>= next) fun index => firsts index >>= nexts index

namespace KeptBySteps

variable {Index : Type}
  {Related : {Result : Type} → Expand Result → (Index → Expand Result) → Prop}

theorem of_lift (kept : KeptBySteps Related) {Result : Type} (outcome : Except Failure Result) :
    Related (liftM outcome : Expand Result) fun _ => liftM outcome := by
  cases outcome with
  | error failure => exact kept.ofThrow failure
  | ok value => exact kept.ofPure value

theorem of_select (kept : KeptBySteps Related) (selector : String) (document : Document) :
    Related (Surroundings.select selector document)
      fun _ => Surroundings.select selector document := by
  unfold Surroundings.select
  split
  · exact kept.ofThrow _
  · exact kept.ofBind (kept.ofNote _) fun _ => kept.ofPure _

variable (bindings : Bindings) (source : SourceId)
  {fetch : String → SourceId → Expand Document}
  {fetches : Index → String → SourceId → Expand Document}

theorem of_inclusion (kept : KeptBySteps Related)
    (fetched : ∀ written target, Related (fetch written target)
      fun index => fetches index written target) (src elements : Setting) :
    Related ((Surroundings.mk bindings source fetch).runInclusion src elements)
      fun index => (Surroundings.mk bindings source (fetches index)).runInclusion src elements := by
  unfold Surroundings.runInclusion
  apply kept.ofBind (kept.of_lift _)
  intro (form, written)
  apply kept.ofBind (fetched _ _)
  intro document
  exact kept.ofBind (kept.of_select _ _) fun _ => kept.ofPure _

theorem of_attr (kept : KeptBySteps Related) (enclosed : Bool) (name value : Setting) :
    Related ((Surroundings.mk bindings source fetch).runAttr enclosed name value) fun index =>
      (Surroundings.mk bindings source (fetches index)).runAttr enclosed name value := by
  unfold Surroundings.runAttr
  apply kept.ofBind (kept.of_lift _)
  intro (form, attr)
  cases enclosed with
  | true => exact kept.ofPure _
  | false => exact kept.ofThrow _

theorem of_dynamic (kept : KeptBySteps Related) (var : Option String) :
    Related ((Surroundings.mk bindings source fetch).runDynamic var)
      fun index => (Surroundings.mk bindings source (fetches index)).runDynamic var := by
  unfold Surroundings.runDynamic
  have same : ∀ index, (Surroundings.mk bindings source (fetches index)).lookup? var =
      (Surroundings.mk bindings source fetch).lookup? var := fun _ => rfl
  simp only [same]
  split
  · exact kept.ofPure _
  · exact kept.ofBind (kept.ofNote _) fun _ => kept.ofPure _

mutual
theorem of_node (kept : KeptBySteps Related)
    (fetched : ∀ written target, Related (fetch written target)
      fun index => fetches index written target) (enclosed : Bool) (node : Node) :
    Related ((Surroundings.mk bindings source fetch).expandNode enclosed node)
      fun index => (Surroundings.mk bindings source (fetches index)).expandNode enclosed node := by
  cases node with
  | element name attributes children =>
      simp only [Surroundings.expandNode]
      split
      · apply kept.ofBind (kept.of_lift _)
        intro directive
        apply kept.ofBind (kept.ofNote _)
        intro _
        cases directive with
        | condition var value =>
            have same : ∀ index,
                (Surroundings.mk bindings source (fetches index)).isActive var value =
                  (Surroundings.mk bindings source fetch).isActive var value := fun _ => rfl
            simp only [same]
            by_cases active : (Surroundings.mk bindings source fetch).isActive var value = true
            · simp only [if_pos active]
              exact of_forest kept fetched enclosed children
            · simp only [if_neg active]
              exact kept.ofPure _
        | inclusion src elements => exact of_inclusion bindings source kept fetched src elements
        | text var => exact kept.ofPure _
        | attr name value => exact of_attr bindings source kept enclosed name value
        | dynamic var => exact of_dynamic bindings source kept var
      · apply kept.ofBind (of_forest kept fetched true children)
        intro inner
        exact kept.ofPure _
  | _ => exact kept.ofPure _

theorem of_forest (kept : KeptBySteps Related)
    (fetched : ∀ written target, Related (fetch written target)
      fun index => fetches index written target) (enclosed : Bool) (nodes : Forest) :
    Related ((Surroundings.mk bindings source fetch).expandForest enclosed nodes) fun index =>
      (Surroundings.mk bindings source (fetches index)).expandForest enclosed nodes := by
  cases nodes with
  | nil => exact kept.ofPure _
  | cons node rest =>
      apply kept.ofBind (of_node kept fetched enclosed node)
      intro first
      apply kept.ofBind (of_forest kept fetched enclosed rest)
      intro later
      exact kept.ofPure _
end

theorem of_document (kept : KeptBySteps Related)
    (fetched : ∀ written target, Related (fetch written target)
      fun index => fetches index written target) (document : Document) :
    Related ((Surroundings.mk bindings source fetch).expandDocument document)
      fun index => (Surroundings.mk bindings source (fetches index)).expandDocument document := by
  apply kept.ofBind (of_forest bindings source kept fetched false document.nodes)
  intro contribution
  exact kept.ofPure _

end KeptBySteps

def opening (template : Template) (bindings : Bindings) : Progress :=
  { events := [.expanding template.source bindings.size] }

def Progress.close (progress : Progress) (source : SourceId) : Progress :=
  { progress with
    events := .expanded source progress.kept.length progress.hits progress.misses ::
      progress.events }

theorem run_expand (template : Template) (library : Library) (bindings : Bindings) :
    template.expand library bindings =
      match expandSource library bindings [template.source] template.source template.document
        (opening template bindings) with
      | (.ok expanded, later) => (.ok expanded, later.close template.source)
      | (.error failure, later) => (.error failure, later) := by
  unfold expand expandAll
  rw [run_bind_ok (run_note _ _)]
  change (expandSource library bindings [template.source] template.source template.document >>= _)
    (opening template bindings) = _
  rcases ran : expandSource library bindings [template.source] template.source template.document
    (opening template bindings) with ⟨outcome, later⟩
  cases outcome with
  | error failure => rw [run_bind_error ran]
  | ok expanded =>
      rw [run_bind_ok ran, run_bind_ok (run_get later), run_bind_ok (run_note _ _)]
      rfl

end XmlTemplate.Template
