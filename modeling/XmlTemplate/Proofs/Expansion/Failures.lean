import XmlTemplate.Proofs.Expansion.Contributions
import XmlTemplate.Proofs.Expansion.Cycles

/-!
What a failed expansion names. A failure is caused by one directive, which is run in the document of
one source; includes that are run lead from the template to that source. The failure names this
source, and if the target of an include cannot be loaded, it names the target as well. The sources
in between pass it on as it is.
-/

namespace XmlTemplate.Template

open Markup

/-- A directive that is run when siblings are expanded: nothing is around it there but ordinary
elements and conditions that hold. `within` tells whether one of them is an ordinary element, or one
is around the siblings. -/
inductive RunsAmong (bindings : Bindings) (within : Bool) (name : Name) (attributes : Attributes) :
    Bool → Forest → Prop
  | here {nodes children : Forest} (member : .element name attributes children ∈ nodes)
      (special : isDirective name = true) : RunsAmong bindings within name attributes within nodes
  | element {enclosed : Bool} {nodes children : Forest} {outer : Name} {around : Attributes}
      (member : .element outer around children ∈ nodes) (ordinary : isDirective outer = false)
      (inside : RunsAmong bindings within name attributes true children) :
      RunsAmong bindings within name attributes enclosed nodes
  | condition {enclosed : Bool} {nodes children : Forest} {outer : Name} {around : Attributes}
      (member : .element outer around children ∈ nodes)
      (called : directiveOf? outer = some .condition) (active : Activates bindings around)
      (inside : RunsAmong bindings within name attributes enclosed children) :
      RunsAmong bindings within name attributes enclosed nodes

/-- A directive with the source that holds it. `enclosed` tells whether an element of that source is
around it. -/
structure Placement where
  source : SourceId
  enclosed : Bool
  name : Name
  attributes : Attributes

def Placement.IsRun (template : Template) (library : Library) (bindings : Bindings)
    (placement : Placement) : Prop :=
  ∃ document, documentOf? template library placement.source = some document ∧
    RunsAmong bindings placement.enclosed placement.name placement.attributes false document.nodes

def RunsInclude (template : Template) (library : Library) (bindings : Bindings)
    (source target : SourceId) : Prop :=
  ∃ enclosed name attributes, Placement.IsRun template library bindings
      ⟨source, enclosed, name, attributes⟩ ∧
    directiveOf? name = some .inclusion ∧ referred? bindings source attributes = some target

def DirectiveKind.needs? : DirectiveKind → Option String
  | .inclusion => some "src"
  | .attr => some "name"
  | _ => none

/-- The failures of a directive in the place where it stands, given those that are met when the
target of an include is obtained. -/
inductive Offends (bindings : Bindings) (placement : Placement)
    (unobtained : (written : String) → (target : SourceId) → Failure → Prop) : Failure → Prop
  | unknown (special : isDirective placement.name = true)
      (nameless : DirectiveKind.ofName? placement.name.localName = none) :
      Offends bindings placement unobtained
        (.unknownDirective placement.name.localName placement.source
          (DirectiveKind.suggestion? placement.name.localName))
  | unbound {kind : DirectiveKind} {attr var : String}
      (called : directiveOf? placement.name = some kind) (needed : kind.needs? = some attr)
      (absent : placement.attributes.plain? attr = none)
      (named : placement.attributes.plain? (Setting.indirectName attr) = some var)
      (free : bindings.get? var = none) :
      Offends bindings placement unobtained (.unboundIndirect kind.name attr var placement.source)
  | missing {kind : DirectiveKind} {attr : String}
      (called : directiveOf? placement.name = some kind) (needed : kind.needs? = some attr)
      (absent : placement.attributes.plain? attr = none)
      (unnamed : placement.attributes.plain? (Setting.indirectName attr) = none) :
      Offends bindings placement unobtained (.missingAttribute kind.name attr placement.source)
  | outside (called : directiveOf? placement.name = some .attr)
      (outermost : placement.enclosed = false) :
      Offends bindings placement unobtained (.attrOutsideElement placement.source)
  | selector {position : Nat} {fault : Selector.Fault}
      (called : directiveOf? placement.name = some .inclusion)
      (invalid : Selector.parse (selectorOf bindings placement.attributes) =
        .error (position, fault)) :
      Offends bindings placement unobtained
        (.invalidSelector (selectorOf bindings placement.attributes) position fault.message)
  | target {written : String} {target : SourceId} {failure : Failure}
      (called : directiveOf? placement.name = some .inclusion)
      (given : ((Setting.ofAttributes placement.attributes "src").resolve bindings).2 =
        some written)
      (refers : referred? bindings placement.source placement.attributes = some target)
      (refused : unobtained written target failure) : Offends bindings placement unobtained failure

/-- Why the target of an include is not obtained when includes lead along a path to the source that
holds it: it is on the path already, or it cannot be loaded. -/
inductive Unobtained (library : Library) (path : List SourceId) (source : SourceId)
    (written : String) (target : SourceId) : Failure → Prop
  | cyclic (again : target ∈ path) :
      Unobtained library path source written target (.cyclicInclude (path ++ [target]))
  | unreadable {cause : IoCause}
      (refused : library.load target = .error (.unreadable target cause)) :
      Unobtained library path source written target
        (.unresolvableInclude written source (.unreadable target cause))
  | malformed {line : Nat} {message : String}
      (refused : library.load target = .error (.malformed target line message)) :
      Unobtained library path source written target
        (.unresolvableInclude written source (.malformed target line message))

/-- Includes that are run lead from the template to a source, and to no source on the way twice. -/
structure IncludePath (template : Template) (library : Library) (bindings : Bindings)
    (path : List SourceId) (source : SourceId) : Prop where
  begins : path.head? = some template.source
  ends : path.getLast? = some source
  distinct : path.Nodup
  follows : path.IsChain (RunsInclude template library bindings)

/-- A directive that is run in the source at the end of the path causes the failure. -/
structure Explains (template : Template) (library : Library) (bindings : Bindings)
    (path : List SourceId) (placement : Placement) (failure : Failure) : Prop
    extends IncludePath template library bindings path placement.source where
  isRun : placement.IsRun template library bindings
  offends : Offends bindings placement (Unobtained library path placement.source) failure

/-- Whatever failure the computation ends with is as described. -/
def Refuses {Result : Type} (run : Expand Result) (Described : Failure → Prop) : Prop :=
  ∀ progress failure later, run progress = (.error failure, later) → Described failure

section
variable {Result : Type} {Described : Failure → Prop}

theorem refuses_pure (value : Result) : Refuses (pure value) Described := by
  intro progress failure later ran
  cases ran

theorem refuses_throw {failure : Failure} (described : Described failure) :
    Refuses (throw failure : Expand Result) Described := by
  intro progress other later ran
  cases ran
  exact described

theorem refuses_note (event : Event) : Refuses (note event) Described := by
  intro progress failure later ran
  cases ran

theorem refuses_bind {Other : Type} {first : Expand Result} {next : Result → Expand Other}
    (begun : Refuses first Described) (continued : ∀ value, Refuses (next value) Described) :
    Refuses (first >>= next) Described := by
  intro progress failure later ran
  rcases start : first progress with ⟨outcome, middle⟩
  cases outcome with
  | error own =>
      rw [run_bind_error start] at ran
      cases ran
      exact begun progress _ _ start
  | ok value =>
      rw [run_bind_ok start] at ran
      exact continued value middle failure later ran

theorem refuses_mono {run : Expand Result} {More : Failure → Prop} (refuses : Refuses run Described)
    (weaker : ∀ failure, Described failure → More failure) : Refuses run More :=
  fun progress failure later ran => weaker failure (refuses progress failure later ran)

end

theorem refused_require {attributes : Attributes} {bindings : Bindings} {kind : DirectiveKind}
    {source : SourceId} {attr : String} {failure : Failure}
    (refused : (Setting.ofAttributes attributes attr).require bindings kind source =
      .error failure) :
    attributes.plain? attr = none ∧
      ((∃ var, attributes.plain? (Setting.indirectName attr) = some var ∧
          bindings.get? var = none ∧ failure = .unboundIndirect kind.name attr var source) ∨
        (attributes.plain? (Setting.indirectName attr) = none ∧
          failure = .missingAttribute kind.name attr source)) := by
  unfold Setting.require Setting.resolve Setting.ofAttributes at refused
  dsimp only at refused
  cases named : attributes.plain? (Setting.indirectName attr) with
  | none =>
      cases direct : attributes.plain? attr with
      | some value =>
          rw [named, direct] at refused
          cases refused
      | none =>
          rw [named, direct] at refused
          cases refused
          exact ⟨rfl, .inr ⟨rfl, rfl⟩⟩
  | some var =>
      rw [named, Option.bind_some] at refused
      cases free : bindings.get? var with
      | some value =>
          rw [free] at refused
          cases refused
      | none =>
          rw [free] at refused
          cases direct : attributes.plain? attr with
          | some value =>
              rw [direct] at refused
              cases refused
          | none =>
              rw [direct] at refused
              cases refused
              exact ⟨rfl, .inl ⟨var, rfl, free, rfl⟩⟩

section
variable {around : Surroundings} {name : Name} {attributes : Attributes} {children nodes : Forest}
  {enclosed : Bool}

def Surroundings.Lacks (around : Surroundings) (written : String) (target : SourceId)
    (failure : Failure) : Prop :=
  ∃ progress later, around.fetch written target progress = (.error failure, later)

def Surroundings.Blames (around : Surroundings) (enclosed : Bool) (nodes : Forest)
    (failure : Failure) : Prop :=
  ∃ within name attributes, RunsAmong around.bindings within name attributes enclosed nodes ∧
    Offends around.bindings ⟨around.source, within, name, attributes⟩ around.Lacks failure

theorem runs_among_mono {within : Bool} {more : Forest} (part : nodes ⊆ more)
    (runs : RunsAmong around.bindings within name attributes enclosed nodes) :
    RunsAmong around.bindings within name attributes enclosed more := by
  cases runs with
  | here member special => exact .here (part member) special
  | element member ordinary inside => exact .element (part member) ordinary inside
  | condition member called active inside => exact .condition (part member) called active inside

theorem blames_mono {more : Forest} (part : nodes ⊆ more) {failure : Failure}
    (blames : around.Blames enclosed nodes failure) : around.Blames enclosed more failure := by
  obtain ⟨within, name, attributes, runs, offends⟩ := blames
  exact ⟨within, name, attributes, runs_among_mono part runs, offends⟩

theorem offends_of_require {kind : DirectiveKind} {attr : String} {failure : Failure}
    (called : directiveOf? name = some kind) (needed : kind.needs? = some attr)
    (refused : (Setting.ofAttributes attributes attr).require around.bindings kind around.source =
      .error failure) :
    Offends around.bindings ⟨around.source, enclosed, name, attributes⟩ around.Lacks failure := by
  obtain ⟨absent, ⟨var, named, free, rfl⟩ | ⟨unnamed, rfl⟩⟩ := refused_require refused
  · exact .unbound called needed absent named free
  · exact .missing called needed absent unnamed

theorem inclusion_refuses (called : directiveOf? name = some .inclusion) :
    Refuses (around.runInclusion (.ofAttributes attributes "src")
        (.ofAttributes attributes "elements"))
      (Offends around.bindings ⟨around.source, enclosed, name, attributes⟩ around.Lacks) := by
  unfold Surroundings.runInclusion
  cases required : (Setting.ofAttributes attributes "src").require around.bindings .inclusion
    around.source with
  | error failure =>
      rw [lift_error_bind]
      exact refuses_throw (offends_of_require called rfl required)
  | ok given =>
      obtain ⟨form, written⟩ := given
      have resolved := require_ok required
      rw [lift_ok_bind]
      refine refuses_bind ?_ ?_
      · intro progress failure later ran
        refine .target called (congrArg Prod.snd resolved) ?_ ⟨progress, later, ran⟩
        cases form <;> simp [referred?, resolved]
      · intro document
        refine refuses_bind ?_ fun _ => refuses_pure _
        unfold Surroundings.select Document.select
        split
        · rename_i refused
          split at refused
          · rename_i invalid
            cases refused
            exact refuses_throw (.selector called invalid)
          · cases refused
        · exact refuses_bind (refuses_note _) fun _ => refuses_pure _

theorem attr_refuses (called : directiveOf? name = some .attr) :
    Refuses (around.runAttr enclosed (.ofAttributes attributes "name")
        (.ofAttributes attributes "value"))
      (Offends around.bindings ⟨around.source, enclosed, name, attributes⟩ around.Lacks) := by
  unfold Surroundings.runAttr
  cases required : (Setting.ofAttributes attributes "name").require around.bindings .attr
    around.source with
  | error failure =>
      rw [lift_error_bind]
      exact refuses_throw (offends_of_require called rfl required)
  | ok given =>
      rw [lift_ok_bind]
      cases enclosed with
      | true => exact refuses_pure _
      | false => exact refuses_throw (.outside called rfl)

theorem dynamic_refuses {Described : Failure → Prop} (var : Option String) :
    Refuses (around.runDynamic var) Described := by
  unfold Surroundings.runDynamic
  split
  · exact refuses_pure _
  · exact refuses_bind (refuses_note _) fun _ => refuses_pure _

theorem effect_refuses {kind : DirectiveKind} (called : directiveOf? name = some kind)
    (inside : Refuses (around.expandForest enclosed children) (around.Blames enclosed children)) :
    Refuses (around.effect enclosed children (.ofKind attributes kind))
      (around.Blames enclosed [.element name attributes children]) := by
  have here : RunsAmong around.bindings enclosed name attributes enclosed
      [.element name attributes children] :=
    .here (.head _) (special_of_directive called)
  have own : ∀ failure,
      Offends around.bindings ⟨around.source, enclosed, name, attributes⟩ around.Lacks failure →
        around.Blames enclosed [.element name attributes children] failure :=
    fun _ offends => ⟨enclosed, name, attributes, here, offends⟩
  cases kind with
  | condition =>
      simp only [Directive.ofKind, Surroundings.effect]
      by_cases holds : Activates around.bindings attributes
      · rw [if_pos (active_around_iff.2 holds)]
        refine refuses_mono inside ?_
        rintro failure ⟨within, other, others, runs, offends⟩
        exact ⟨within, other, others, .condition (.head _) called holds runs, offends⟩
      · rw [if_neg (active_around_iff.not.2 holds)]
        exact refuses_pure _
  | inclusion => exact refuses_mono (inclusion_refuses called) own
  | text => exact refuses_pure _
  | attr => exact refuses_mono (attr_refuses called) own
  | dynamic => exact dynamic_refuses _

mutual
theorem node_refuses (around : Surroundings) (enclosed : Bool) :
    (node : Node) → Refuses (around.expandNode enclosed node) (around.Blames enclosed [node])
  | .element name attributes children => by
      by_cases special : isDirective name = true
      · rw [expand_directive special]
        cases named : DirectiveKind.ofName? name.localName with
        | none =>
            have unknown : Directive.decode name.localName attributes around.source =
                .error (.unknownDirective name.localName around.source
                  (DirectiveKind.suggestion? name.localName)) := by
              simp only [Directive.decode, named]
            rw [unknown, lift_error_bind]
            exact refuses_throw
              ⟨enclosed, name, attributes, .here (.head _) special, .unknown special named⟩
        | some kind =>
            have decoded : Directive.decode name.localName attributes around.source =
                .ok (.ofKind attributes kind) := by simp only [Directive.decode, named]
            rw [decoded, lift_ok_bind]
            refine refuses_bind (refuses_note _) fun _ => ?_
            have called := (directive_of_special special).trans named
            exact effect_refuses called (forest_refuses around enclosed children)
      · rw [expand_ordinary special]
        refine refuses_bind ?_ fun _ => refuses_pure _
        refine refuses_mono (forest_refuses around true children) ?_
        rintro failure ⟨within, other, others, runs, offends⟩
        have ordinary : isDirective name = false := Bool.eq_false_iff.2 special
        exact ⟨within, other, others, .element (.head _) ordinary runs, offends⟩
  | .text _ | .cdata _ | .comment _ | .instruction _ | .doctype _ | .declaration _ =>
      refuses_pure _

theorem forest_refuses (around : Surroundings) (enclosed : Bool) :
    (nodes : Forest) → Refuses (around.expandForest enclosed nodes) (around.Blames enclosed nodes)
  | [] => refuses_pure _
  | node :: rest => by
      refine refuses_bind ?_ fun _ => refuses_bind ?_ fun _ => refuses_pure _
      · exact refuses_mono (node_refuses around enclosed node)
          fun _ => blames_mono (List.cons_subset_cons node (List.nil_subset rest))
      · exact refuses_mono (forest_refuses around enclosed rest)
          fun _ => blames_mono (List.subset_cons_self node rest)
end

theorem document_refuses (around : Surroundings) (document : Document) :
    Refuses (around.expandDocument document) (around.Blames false document.nodes) :=
  refuses_bind (forest_refuses around false document.nodes) fun _ => refuses_pure _

end

section
variable {template : Template} {library : Library} {bindings : Bindings} {path : List SourceId}
  {source target : SourceId}

theorem include_path_alone :
    IncludePath template library bindings [template.source] template.source where
  begins := rfl
  ends := rfl
  distinct := List.nodup_singleton _
  follows := .singleton _

theorem include_path_concat (leads : IncludePath template library bindings path source)
    (includes : RunsInclude template library bindings source target) (fresh : target ∉ path) :
    IncludePath template library bindings (path ++ [target]) target where
  begins := by
    rw [List.head?_append, leads.begins]
    rfl
  ends := List.getLast?_concat
  distinct := List.concat_eq_append ▸ leads.distinct.concat fresh
  follows := by
    refine leads.follows.append (.singleton _) ?_
    intro last isLast next isNext
    rw [leads.ends, Option.mem_some] at isLast
    rw [List.head?_singleton, Option.mem_some] at isNext
    rw [← isLast, ← isNext]
    exact includes

theorem unobtained_of_load {cause : Failure} (written : String)
    (refused : library.load target = .error cause) :
    Unobtained library path source written target (.unresolvableInclude written source cause) := by
  rcases Library.error_of_load refused with ⟨reason, rfl⟩ | ⟨line, message, rfl⟩
  · exact .unreadable refused
  · exact .malformed refused

/-- The expansion of a source fails because of a directive in it, or in a source that it includes in
some number of steps. -/
theorem source_refuses (template : Template) (library : Library) (bindings : Bindings)
    (path : List SourceId) (source : SourceId) (document : Document)
    (leads : IncludePath template library bindings path source)
    (own : documentOf? template library source = some document) :
    Refuses (expandSourceAfresh library bindings path source document) fun failure =>
      ∃ path placement, Explains template library bindings path placement failure := by
  rw [expand_source_afresh_eq]
  refine refuses_mono (document_refuses _ document) ?_
  rintro failure ⟨enclosed, name, attributes, runs, offends⟩
  have isRun : Placement.IsRun template library bindings ⟨source, enclosed, name, attributes⟩ :=
    ⟨document, own, runs⟩
  cases offends with
  | unknown special nameless => exact ⟨path, _, leads, isRun, .unknown special nameless⟩
  | unbound called needed absent named free =>
      exact ⟨path, _, leads, isRun, .unbound called needed absent named free⟩
  | missing called needed absent unnamed =>
      exact ⟨path, _, leads, isRun, .missing called needed absent unnamed⟩
  | outside called outermost => exact ⟨path, _, leads, isRun, .outside called outermost⟩
  | selector called invalid => exact ⟨path, _, leads, isRun, .selector called invalid⟩
  | @target written target _ called given refers lacks =>
      obtain ⟨progress, later, ran⟩ := lacks
      dsimp only [fetchAfresh] at ran
      by_cases again : target ∈ path
      · rw [if_pos again] at ran
        cases ran
        exact ⟨path, _, leads, isRun, .target called given refers (.cyclic again)⟩
      · rw [if_neg again] at ran
        cases found : library.load target with
        | error cause =>
            rw [found] at ran
            cases ran
            exact ⟨path, _, leads, isRun,
              .target called given refers (unobtained_of_load written found)⟩
        | ok loaded =>
            rw [found] at ran
            -- The failure is that of the target, as it is.
            have includes : RunsInclude template library bindings source target :=
              ⟨enclosed, name, attributes, isRun, called, refers⟩
            exact source_refuses template library bindings (path ++ [target]) target loaded
              (include_path_concat leads includes again)
              (document_of_loaded leads.begins again found) progress failure later ran
termination_by unvisited library path
decreasing_by exact unvisited_lt again found

end

/-- No directive causes a failure that tells only that a source is malformed or unreadable. -/
theorem told_of_explains {template : Template} {library : Library} {bindings : Bindings}
    {path : List SourceId} {placement : Placement} {failure : Failure}
    (explains : Explains template library bindings path placement failure) :
    (∀ source line message, failure ≠ .malformed source line message) ∧
      ∀ source cause, failure ≠ .unreadable source cause := by
  have offends := explains.offends
  constructor
  · rintro source line message rfl
    cases offends with
    | target called given refers refused => cases refused
  · rintro source cause rfl
    cases offends with
    | target called given refers refused => cases refused

/-- If a template cannot be expanded, one directive is to blame. Includes that are run lead from the
template to the source whose document holds the directive, at a place where it is run, and this is
the source that the failure names. A target that cannot be loaded is told with what was written for
it and with a cause that names the target; no failure to read or to load stands alone. Wherever a
failure is met, it is returned as it is. -/
theorem failure_explained (template : Template) (library : Library) (bindings : Bindings) :
    (∀ failure, (template.expand library bindings).1 = .error failure →
      (∃ path placement, Explains template library bindings path placement failure) ∧
        (∀ source line message, failure ≠ .malformed source line message) ∧
        ∀ source cause, failure ≠ .unreadable source cause) ∧
    ∀ moment failure, Reached template library bindings moment → moment.failure = some failure →
      (template.expand library bindings).1 = .error failure := by
  refine ⟨?_, fun moment failure reached failed => error_of_reached reached failed⟩
  intro failure failed
  rw [fst_expand_eq_afresh] at failed
  have explained : ∃ path placement, Explains template library bindings path placement failure :=
    source_refuses template library bindings [template.source] template.source template.document
      include_path_alone (if_pos rfl) {} failure _ (Prod.ext failed rfl)
  obtain ⟨path, placement, explains⟩ := explained
  exact ⟨⟨path, placement, explains⟩, told_of_explains explains⟩

namespace Missing

def page : Template where
  source := .ofPath "page.xml"
  document := ⟨[.element (.plain "p") []
    [.element ⟨some "t", "include", some templateUri⟩ [⟨.plain "src", "part.xml"⟩] []]]⟩

def sources : Library :=
  .inMemory [(.ofPath "part.xml", declaringDirectives "r" "<i><t:include src='lost.xml'/></i>")]

def refusal : Failure :=
  .unresolvableInclude "lost.xml" (.ofPath "part.xml")
    (.unreadable (.ofPath "lost.xml") Library.absent)

theorem refusal_explained :
    (page.expand sources .empty).1 = .error refusal ∧
    (∃ path placement, Explains page sources .empty path placement refusal ∧
      placement.source = .ofPath "part.xml") ∧
    (∀ source line message, refusal ≠ .malformed source line message) ∧
    (∀ source cause, refusal ≠ .unreadable source cause) ∧
    ∃ moment, Reached page sources .empty moment ∧ moment.failure = some refusal ∧
      (page.expand sources .empty).1 = .error refusal := by
  have failed : (page.expand sources .empty).1 = .error refusal := by decide +kernel
  obtain ⟨explained, passed⟩ := failure_explained page sources .empty
  obtain ⟨⟨path, placement, explains⟩, unparsed, unread⟩ := explained refusal failed
  refine ⟨failed, ⟨path, placement, explains, ?_⟩, unparsed, unread, ?_⟩
  · cases explains.offends with
    | target called given refers refused =>
        generalize placement.source = source at refused
        cases refused
        rfl
  · obtain ⟨last, leads, -, expanded⟩ := expansion_ends page sources .empty
    have reached : Reached page sources .empty last := leads_mono List.nil_prefix leads
    rw [expanded] at failed
    have refused := failure_of_outcome failed
    exact ⟨last, reached, refused, passed last refusal reached refused⟩

end Missing

end XmlTemplate.Template
