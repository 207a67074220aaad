import XmlTemplate.Proofs.Expansion.Untemplated

/-!
What an expansion depends on: the sources that it requests and the variables that its sources name.
Whatever else a library holds may be added, removed or changed, and whatever else is bound may be
bound otherwise; the expansion returns the same, or fails alike, and makes the same requests in the
same order.
-/

namespace XmlTemplate

open Markup

namespace Template

/-- Requests are only added. Where another library answers all those that were made alike, the
computation that uses it is the same. -/
def Determined (one other : Library) {Result : Type} (run : Expand Result)
    (otherRun : Unit → Expand Result) : Prop :=
  ∀ progress, progress.requests <:+ (run progress).2.requests ∧
    ((∀ source ∈ (run progress).2.requests, one.load source = other.load source) →
      otherRun () progress = run progress)

section
variable {one other : Library} {bindings : Bindings} {stack : List SourceId}

theorem determined_bind {Result Other : Type} {first : Expand Result}
    {firsts : Unit → Expand Result} {next : Result → Expand Other}
    {nexts : Unit → Result → Expand Other} (firstDetermined : Determined one other first firsts)
    (nextDetermined : ∀ value, Determined one other (next value) fun index => nexts index value) :
    Determined one other (first >>= next) fun index => firsts index >>= nexts index := by
  intro progress
  obtain ⟨grows, firstSame⟩ := firstDetermined progress
  rcases ran : first progress with ⟨outcome, middle⟩
  rw [ran] at grows firstSame
  cases outcome with
  | error failure =>
      rw [run_bind_error ran]
      refine ⟨grows, ?_⟩
      intro answers
      exact run_bind_error (firstSame answers)
  | ok value =>
      rw [run_bind_ok ran]
      obtain ⟨growsFurther, nextSame⟩ := nextDetermined value middle
      refine ⟨grows.trans growsFurther, ?_⟩
      intro answers
      -- The requests of the first part are still on record at the end.
      have before := firstSame fun source asked => answers source (growsFurther.subset asked)
      exact (run_bind_ok before).trans (nextSame answers)

theorem determined_kept_by_steps (one other : Library) : KeptBySteps (Determined one other) where
  ofPure _ := fun _ => ⟨List.suffix_rfl, fun _ => rfl⟩
  ofThrow _ := fun _ => ⟨List.suffix_rfl, fun _ => rfl⟩
  ofNote _ := fun _ => ⟨List.suffix_rfl, fun _ => rfl⟩
  ofBind := determined_bind

theorem fetch_determined (source : SourceId)
    (nested : ∀ target loaded, target ∉ stack → one.load target = .ok loaded →
      Determined one other (expandSource one bindings (stack ++ [target]) target loaded)
        fun _ => expandSource other bindings (stack ++ [target]) target loaded)
    (written : String) (target : SourceId) :
    Determined one other (fetchKept one bindings stack source written target)
      fun _ => fetchKept other bindings stack source written target := by
  intro progress
  by_cases refused : target ∈ stack
  · rw [run_fetch_refused refused]
    exact ⟨List.suffix_rfl, fun _ => run_fetch_refused refused⟩
  · cases kept : progress.kept.lookup target with
    | some expanded =>
        rw [run_fetch_reused refused kept]
        exact ⟨List.suffix_rfl, fun _ => run_fetch_reused refused kept⟩
    | none =>
        cases loads : one.load target with
        | error cause =>
            rw [run_fetch_missing refused kept loads]
            refine ⟨List.suffix_cons target progress.requests, ?_⟩
            intro answers
            have missing := (answers target (.head _)).symm.trans loads
            exact run_fetch_missing refused kept missing
        | ok loaded =>
            obtain ⟨grows, same⟩ := nested target loaded refused loads (progress.request target)
            rw [run_fetch_loaded refused kept loads]
            rcases ran : expandSource one bindings (stack ++ [target]) target loaded
              (progress.request target) with ⟨outcome, later⟩
            rw [ran] at grows same
            have asked : target :: progress.requests <:+ later.requests := grows
            have found : (∀ source ∈ later.requests, one.load source = other.load source) →
                other.load target = .ok loaded := by
              intro answers
              exact (answers target (asked.subset (.head _))).symm.trans loads
            cases outcome with
            | error failure =>
                refine ⟨(List.suffix_cons _ _).trans asked, ?_⟩
                intro answers
                refine (run_fetch_loaded refused kept (found answers)).trans ?_
                simp only [same answers]
            | ok expanded =>
                refine ⟨(List.suffix_cons _ _).trans asked, ?_⟩
                intro answers
                refine (run_fetch_loaded refused kept (found answers)).trans ?_
                simp only [same answers]

theorem source_determined (one other : Library) (bindings : Bindings) (stack : List SourceId)
    (source : SourceId) (document : Document) :
    Determined one other (expandSource one bindings stack source document)
      fun _ => expandSource other bindings stack source document := by
  have fetched : ∀ written target, Determined one other
      (fetchKept one bindings stack source written target)
      fun _ => fetchKept other bindings stack source written target :=
    fetch_determined source fun target loaded fresh found =>
      source_determined one other bindings (stack ++ [target]) target loaded
  have walked := (determined_kept_by_steps one other).of_document bindings source fetched document
  rw [expand_source_eq]
  simp only [expand_source_eq]
  exact walked
termination_by unvisited one stack
decreasing_by exact unvisited_lt fresh found

/-- An expansion depends on no other sources of a library than those that it requests. With a
library that reads these alike, or is without them alike, it returns the same document or the same
failure, and it makes the same requests and tells the same in the same order. -/
theorem expand_of_same_answers (template : Template) (one other : Library) (bindings : Bindings)
    (answers : ∀ source ∈ (template.expand one bindings).2.requests,
      one.read source = other.read source) :
    template.expand other bindings = template.expand one bindings := by
  obtain ⟨-, same⟩ := source_determined one other bindings [template.source] template.source
    template.document (opening template bindings)
  rw [run_expand] at answers
  rw [run_expand, run_expand]
  rcases ran : expandSource one bindings [template.source] template.source template.document
    (opening template bindings) with ⟨outcome, later⟩
  rw [ran] at answers same
  have loads : ∀ source ∈ later.requests, one.load source = other.load source := by
    intro source asked
    have reads : one.read source = other.read source := by
      cases outcome with
      | error failure => exact answers source asked
      | ok expanded => exact answers source asked
    rw [Library.load, Library.load, reads]
  have runs : expandSource other bindings [template.source] template.source template.document
      (opening template bindings) = (outcome, later) := same loads
  rw [runs]

end

namespace Incomplete

open Greeting (directive)

def page : Template where
  source := .ofPath "page.xml"
  document := ⟨[.element (.plain "p") []
    [directive "include" [("src", "part.xml")], directive "include" [("src", "gone.xml")]]]⟩

def part : String := declaringDirectives "r" "<i/>"

def sources : Library :=
  .inMemory [(.ofPath "part.xml", part), (.ofPath "spare.xml", "<a/>")]

def changed : Library :=
  .inMemory [(.ofPath "part.xml", part), (.ofPath "spare.xml", "<a>"), (.ofPath "more.xml", "<b/>")]

theorem expand_changed :
    (∀ source ∈ (page.expand sources .empty).2.requests,
      sources.read source = changed.read source) ∧
    (page.expand sources .empty).1 = .error (.unresolvableInclude "gone.xml" page.source
      (.unreadable (.ofPath "gone.xml") Library.absent)) ∧
    page.expand changed .empty = page.expand sources .empty := by
  have asked : (page.expand sources .empty).2.requests =
      [.ofPath "gone.xml", .ofPath "part.xml"] := by decide +kernel
  have answers : ∀ source ∈ (page.expand sources .empty).2.requests,
      sources.read source = changed.read source := by
    rw [asked]
    decide +kernel
  refine ⟨answers, by decide +kernel, ?_⟩
  exact expand_of_same_answers page sources changed .empty answers

end Incomplete

end Template

namespace Markup

mutual
def Node.tags : Node → List (Name × Attributes)
  | .element name attributes children => (name, attributes) :: Forest.tags children
  | _ => []

def Forest.tags : Forest → List (Name × Attributes)
  | [] => []
  | node :: rest => node.tags ++ Forest.tags rest
end

end Markup

namespace Template

def variableAttributes : List String := ["var", "valuevar", "srcvar", "elementsvar", "namevar"]

def variablesOf (attributes : Attributes) : List String :=
  (attributes.filter fun item =>
    item.name.nsPrefix.isNone && variableAttributes.contains item.name.localName).map (·.value)

def variablesAmong (nodes : Forest) : List String := nodes.tags.flatMap (variablesOf ·.2)

theorem mem_variables_of {attributes : Attributes} {role name : String}
    (naming : role ∈ variableAttributes) (written : attributes.plain? role = some name) :
    name ∈ variablesOf attributes := by
  obtain ⟨item, found, rfl⟩ := Option.map_eq_some_iff.1 written
  have like := List.find?_some found
  obtain ⟨unprefixed, spelled⟩ := Name.spelled_like_iff.1 like
  apply List.mem_map_of_mem
  rw [List.mem_filter]
  refine ⟨List.mem_of_find?_eq_some found, ?_⟩
  rw [unprefixed, spelled]
  simpa [Name.plain] using naming

section
variable {one other : Bindings} {attributes : Attributes}
  (same : ∀ name ∈ variablesOf attributes, one.get? name = other.get? name)
include same

theorem bound_same (role : String) (naming : role ∈ variableAttributes) :
    (attributes.plain? role).bind one.get? = (attributes.plain? role).bind other.get? := by
  cases written : attributes.plain? role with
  | none => rfl
  | some name => exact same name (mem_variables_of naming written)

theorem resolve_same (role : String) (naming : Setting.indirectName role ∈ variableAttributes) :
    (Setting.ofAttributes attributes role).resolve one =
      (Setting.ofAttributes attributes role).resolve other := by
  unfold Setting.resolve Setting.ofAttributes
  dsimp only
  rw [bound_same same _ naming]

theorem require_same (role : String) (naming : Setting.indirectName role ∈ variableAttributes)
    (kind : DirectiveKind) (source : SourceId) :
    (Setting.ofAttributes attributes role).require one kind source =
      (Setting.ofAttributes attributes role).require other kind source := by
  unfold Setting.require
  rw [resolve_same same role naming]

theorem effect_same (source : SourceId) (fetch : String → SourceId → Expand Document)
    (enclosed : Bool) (children : Forest) (kind : DirectiveKind)
    (inside : (Surroundings.mk one source fetch).expandForest enclosed children =
      (Surroundings.mk other source fetch).expandForest enclosed children) :
    (Surroundings.mk one source fetch).effect enclosed children (.ofKind attributes kind) =
      (Surroundings.mk other source fetch).effect enclosed children
        (.ofKind attributes kind) := by
  have var := bound_same same "var" (by decide)
  have value := resolve_same same "value" (by decide)
  cases kind with
  | condition =>
      have active : (Surroundings.mk one source fetch).isActive (attributes.plain? "var")
            (.ofAttributes attributes "value") =
          (Surroundings.mk other source fetch).isActive (attributes.plain? "var")
            (.ofAttributes attributes "value") := by
        simp only [Surroundings.isActive, Surroundings.lookup?, var, value]
      simp only [Directive.ofKind, Surroundings.effect]
      rw [active, inside]
  | inclusion =>
      simp only [Directive.ofKind, Surroundings.effect, Surroundings.runInclusion,
        require_same same "src" (by decide),
        resolve_same same "elements" (by decide)]
  | text =>
      simp only [Directive.ofKind, Surroundings.effect, Surroundings.textOf,
        Surroundings.lookup?, var]
  | attr =>
      simp only [Directive.ofKind, Surroundings.effect, Surroundings.runAttr,
        require_same same "name" (by decide), value]
  | dynamic =>
      simp only [Directive.ofKind, Surroundings.effect, Surroundings.runDynamic,
        Surroundings.lookup?, var]

end

section
variable {one other : Bindings} {source : SourceId}
  {fetch : String → SourceId → Expand Document}

mutual
theorem node_same (enclosed : Bool) : (node : Node) →
    (∀ tag ∈ node.tags, ∀ name ∈ variablesOf tag.2, one.get? name = other.get? name) →
      (Surroundings.mk one source fetch).expandNode enclosed node =
        (Surroundings.mk other source fetch).expandNode enclosed node
  | .element name attributes children, same => by
      obtain ⟨here, below⟩ := List.forall_mem_cons.1 same
      by_cases special : isDirective name = true
      · rw [expand_directive special, expand_directive special]
        cases decoded : Directive.decode name.localName attributes source with
        | error failure => rw [lift_error_bind, lift_error_bind]
        | ok directive =>
            obtain ⟨kind, -, rfl⟩ := decode_ok decoded
            have inside := forest_same enclosed children below
            rw [lift_ok_bind, lift_ok_bind]
            simp only [effect_same here source fetch enclosed children kind inside]
      · rw [expand_ordinary special, expand_ordinary special, forest_same true children below]
  | .text _, _ | .cdata _, _ | .comment _, _ | .instruction _, _ | .doctype _, _
  | .declaration _, _ => rfl

theorem forest_same (enclosed : Bool) : (nodes : Forest) →
    (∀ tag ∈ nodes.tags, ∀ name ∈ variablesOf tag.2, one.get? name = other.get? name) →
      (Surroundings.mk one source fetch).expandForest enclosed nodes =
        (Surroundings.mk other source fetch).expandForest enclosed nodes
  | [], _ => rfl
  | node :: rest, same => by
      obtain ⟨here, later⟩ := List.forall_mem_append.1 same
      rw [Surroundings.expandForest, Surroundings.expandForest, node_same enclosed node here,
        forest_same enclosed rest later]
end

end

/-- Bindings that agree on all variables named in the sources of a library. -/
def SameInLibrary (library : Library) (one other : Bindings) : Prop :=
  ∀ source loaded, library.load source = .ok loaded →
    ∀ tag ∈ loaded.nodes.tags, ∀ name ∈ variablesOf tag.2, one.get? name = other.get? name

section
variable {library : Library} {one other : Bindings} {stack : List SourceId}

theorem fetch_same {source : SourceId}
    (nested : ∀ target loaded, target ∉ stack → library.load target = .ok loaded →
      expandSource library one (stack ++ [target]) target loaded =
        expandSource library other (stack ++ [target]) target loaded)
    (written : String) (target : SourceId) :
    fetchKept library one stack source written target =
      fetchKept library other stack source written target := by
  funext progress
  by_cases refused : target ∈ stack
  · rw [run_fetch_refused refused, run_fetch_refused refused]
  · cases kept : progress.kept.lookup target with
    | some expanded => rw [run_fetch_reused refused kept, run_fetch_reused refused kept]
    | none =>
        cases loads : library.load target with
        | error cause =>
            rw [run_fetch_missing refused kept loads, run_fetch_missing refused kept loads]
        | ok loaded =>
            rw [run_fetch_loaded refused kept loads, run_fetch_loaded refused kept loads,
              nested target loaded refused loads]

theorem source_same (everywhere : SameInLibrary library one other) (stack : List SourceId)
    (source : SourceId) (document : Document)
    (same : ∀ tag ∈ document.nodes.tags, ∀ name ∈ variablesOf tag.2,
      one.get? name = other.get? name) :
    expandSource library one stack source document =
      expandSource library other stack source document := by
  have fetched : fetchKept library one stack source = fetchKept library other stack source := by
    funext written target
    exact fetch_same (fun target loaded fresh found =>
      source_same everywhere (stack ++ [target]) target loaded (everywhere target loaded found))
      written target
  rw [expand_source_eq, expand_source_eq, fetched]
  unfold Surroundings.expandDocument
  rw [forest_same false document.nodes same]
termination_by unvisited library stack
decreasing_by exact unvisited_lt fresh found

end

/-- Progress before which something else was told. -/
def Progress.after (progress : Progress) (told : List Event) : Progress :=
  { progress with events := progress.events ++ told }

/-- The computation does the same whatever was told before. -/
def Unheeding {Result : Type} (run : Expand Result) (sameRun : Unit → Expand Result) : Prop :=
  ∀ progress told, sameRun () (progress.after told) =
    ((run progress).1, (run progress).2.after told)

theorem unheeding_bind {Result Other : Type} {first : Expand Result}
    {firsts : Unit → Expand Result} {next : Result → Expand Other}
    {nexts : Unit → Result → Expand Other} (firstUnheeding : Unheeding first firsts)
    (nextUnheeding : ∀ value, Unheeding (next value) fun index => nexts index value) :
    Unheeding (first >>= next) fun index => firsts index >>= nexts index := by
  intro progress told
  have begun := firstUnheeding progress told
  rcases ran : first progress with ⟨outcome, middle⟩
  rw [ran] at begun
  cases outcome with
  | error failure =>
      rw [run_bind_error ran]
      exact run_bind_error begun
  | ok value =>
      rw [run_bind_ok ran]
      exact (run_bind_ok begun).trans (nextUnheeding value middle told)

theorem unheeding_kept_by_steps : KeptBySteps Unheeding where
  ofPure _ := fun _ _ => rfl
  ofThrow _ := fun _ _ => rfl
  ofNote _ := fun _ _ => rfl
  ofBind := unheeding_bind

section
variable {library : Library} {bindings : Bindings} {stack : List SourceId}

theorem fetch_unheeding {source : SourceId}
    (nested : ∀ target loaded, target ∉ stack → library.load target = .ok loaded →
      Unheeding (expandSource library bindings (stack ++ [target]) target loaded)
        fun _ => expandSource library bindings (stack ++ [target]) target loaded)
    (written : String) (target : SourceId) :
    Unheeding (fetchKept library bindings stack source written target)
      fun _ => fetchKept library bindings stack source written target := by
  intro progress told
  by_cases refused : target ∈ stack
  · rw [run_fetch_refused refused]
    exact run_fetch_refused refused
  · cases kept : progress.kept.lookup target with
    | some expanded =>
        rw [run_fetch_reused refused kept]
        exact run_fetch_reused refused kept
    | none =>
        cases loads : library.load target with
        | error cause =>
            rw [run_fetch_missing refused kept loads]
            exact run_fetch_missing refused kept loads
        | ok loaded =>
            have inner := nested target loaded refused loads (progress.request target) told
            rw [run_fetch_loaded refused kept loads]
            have again := @run_fetch_loaded library bindings stack source written target
              (progress.after told) loaded refused kept loads
            refine again.trans ?_
            rcases ran : expandSource library bindings (stack ++ [target]) target loaded
              (progress.request target) with ⟨outcome, later⟩
            rw [ran] at inner
            have ranAfter : expandSource library bindings (stack ++ [target]) target loaded
                ((progress.after told).request target) = (outcome, later.after told) := inner
            rw [ranAfter]
            cases outcome <;> rfl

theorem source_unheeding (library : Library) (bindings : Bindings) (stack : List SourceId)
    (source : SourceId) (document : Document) :
    Unheeding (expandSource library bindings stack source document)
      fun _ => expandSource library bindings stack source document := by
  have fetched : ∀ written target, Unheeding
      (fetchKept library bindings stack source written target)
      fun _ => fetchKept library bindings stack source written target :=
    fetch_unheeding fun target loaded fresh found =>
      source_unheeding library bindings (stack ++ [target]) target loaded
  have walked := unheeding_kept_by_steps.of_document bindings source fetched document
  simp only [expand_source_eq]
  exact walked
termination_by unvisited library stack
decreasing_by exact unvisited_lt fresh found

end

/-- Progress without the first event, which tells how many variables are bound. -/
def Progress.sinceOpening (progress : Progress) : Progress :=
  { progress with events := progress.events.dropLast }

theorem since_opening_after (progress : Progress) (event : Event) :
    (progress.after [event]).sinceOpening = progress := by
  simp [Progress.after, Progress.sinceOpening]

theorem since_opening_close_after (progress : Progress) (source : SourceId) (event : Event) :
    ((progress.after [event]).close source).sinceOpening = progress.close source := by
  simp only [Progress.after, Progress.close, Progress.sinceOpening]
  rw [← List.cons_append, List.dropLast_concat]

/-- What is left of an expansion when its first event is left out. -/
theorem expand_since_opening (template : Template) (library : Library) (bindings : Bindings) :
    ((template.expand library bindings).1, (template.expand library bindings).2.sinceOpening) =
      match expandSource library bindings [template.source] template.source template.document {}
        with
      | (.ok expanded, later) => (.ok expanded, later.close template.source)
      | (.error failure, later) => (.error failure, later) := by
  have after : expandSource library bindings [template.source] template.source template.document
      (opening template bindings) = _ :=
    source_unheeding library bindings [template.source] template.source template.document {}
      [.expanding template.source bindings.size]
  rw [run_expand, after]
  rcases expandSource library bindings [template.source] template.source template.document {}
    with ⟨outcome, later⟩
  cases outcome with
  | error failure => rw [since_opening_after]
  | ok expanded => rw [since_opening_close_after]

/-- An expansion depends on no other variables than those that are named in the template or in a
source of the library. -/
theorem expand_of_same_variables (template : Template) (library : Library) {one other : Bindings}
    (same : ∀ name ∈ variablesAmong template.document.nodes, one.get? name = other.get? name)
    (everywhere : ∀ source loaded, library.load source = .ok loaded →
      ∀ name ∈ variablesAmong loaded.nodes, one.get? name = other.get? name) :
    (template.expand library one).1 = (template.expand library other).1 ∧
      (template.expand library one).2.sinceOpening =
        (template.expand library other).2.sinceOpening := by
  have here := List.forall_mem_flatMap.1 same
  have there : SameInLibrary library one other := fun source loaded found =>
    List.forall_mem_flatMap.1 (everywhere source loaded found)
  have runs := source_same there [template.source] template.source template.document here
  have first := expand_since_opening template library one
  rw [runs, ← expand_since_opening template library other] at first
  exact Prod.mk.inj first

/-- A variable that neither the template nor any source of the library names has no influence: it
may be bound to anything, also to nodes that hold directives, or not be bound at all. The outcome is
the same, and so are the requests and, but for the number of variables, all that is told. -/
theorem expand_without_variable (template : Template) (library : Library) (one other : Bindings)
    (idle : String) (same : ∀ name, name ≠ idle → one.get? name = other.get? name)
    (unnamed : idle ∉ variablesAmong template.document.nodes)
    (nowhere : ∀ source loaded, library.load source = .ok loaded →
      idle ∉ variablesAmong loaded.nodes) :
    (template.expand library one).1 = (template.expand library other).1 ∧
      (template.expand library one).2.requests = (template.expand library other).2.requests ∧
      (template.expand library one).2.sinceOpening =
        (template.expand library other).2.sinceOpening := by
  have apart : ∀ nodes : Forest, idle ∉ variablesAmong nodes →
      ∀ name ∈ variablesAmong nodes, one.get? name = other.get? name := by
    intro nodes absent name named
    apply same
    intro identical
    exact absent (identical ▸ named)
  obtain ⟨outcome, progress⟩ := expand_of_same_variables template library (apart _ unnamed)
    fun source loaded found => apart _ (nowhere source loaded found)
  have requests := congrArg Progress.requests progress
  exact ⟨outcome, requests, progress⟩

namespace Greeting

def crowded : Bindings := bindings.insert "idle" (.node (directive "text" [("var", "idle")]))

theorem idle_nowhere (source : SourceId) (loaded : Document)
    (found : sources.load source = .ok loaded) : "idle" ∉ variablesAmong loaded.nodes := by
  obtain ⟨text, kept, read⟩ := Library.read_of_in_memory found
  obtain ⟨-, rfl⟩ := Prod.mk.inj (List.mem_singleton.1 kept)
  have part : Document.read
      (declaringDirectives "r" "<i t:part='1'><t:text var='title'/></i>") =
        .ok ⟨[.element (.plain "r") [⟨⟨some "xmlns", "t", none⟩, templateUri⟩]
          [.element (.plain "i") [⟨⟨some "t", "part", some templateUri⟩, "1"⟩]
            [directive "text" [("var", "title")]]]]⟩ := by decide +kernel
  rw [part] at read
  cases read
  decide

theorem expand_crowded :
    (∀ name, name ≠ "idle" → crowded.get? name = bindings.get? name) ∧
      crowded.contains "idle" = true ∧ bindings.contains "idle" = false ∧
      "idle" ∉ variablesAmong page.document.nodes ∧
      (∀ source loaded, sources.load source = .ok loaded →
        "idle" ∉ variablesAmong loaded.nodes) ∧
      (page.expand sources crowded).1 = (page.expand sources bindings).1 ∧
      (page.expand sources crowded).2.requests = (page.expand sources bindings).2.requests ∧
      (page.expand sources crowded).2.sinceOpening =
        (page.expand sources bindings).2.sinceOpening := by
  have elsewhere : ∀ name, name ≠ "idle" → crowded.get? name = bindings.get? name :=
    fun name different => Bindings.get?_insert_of_ne different
  have unnamed : "idle" ∉ variablesAmong page.document.nodes := by decide
  refine ⟨elsewhere, by decide, by decide, unnamed, idle_nowhere, ?_⟩
  exact expand_without_variable page sources crowded bindings "idle" elsewhere unnamed idle_nowhere

end Greeting

end Template
end XmlTemplate
