import XmlTemplate.Proofs.Expansion.Moments
import XmlTemplate.Template.Session

/-!
The same expansion with everything changed where it stands. An element that is being built takes an
edit at once and each node as soon as it is there; the sources being expanded are a stack that a
source is pushed on when it is begun and popped off when it ends, well or badly; what is kept counts
the questions that are asked of it, and sources are loaded from the shelf. This comes to what the
expansion collects and passes on: nothing is seen of an element before it is finished, and the stack
is again what it was after every source.
-/

namespace XmlTemplate.Template

open Markup

structure Site where
  /-- The sources being expanded, outermost first. -/
  stack : List SourceId
  shelf : Shelf
  kept : List (SourceId × Document)
  hits : Nat
  misses : Nat
  events : List Event

abbrev Work := ExceptT Failure (StateM Site)

/-- What nodes are added to: a document, which has no attributes, or an element. -/
structure Parent where
  attributes : Option Attributes
  nodes : Forest

def Parent.add (parent : Parent) (node : Node) : Parent :=
  { parent with nodes := parent.nodes ++ [node] }

namespace Work

def tell (event : Event) : Work Unit :=
  modify fun site => { site with events := event :: site.events }

def consult (target : SourceId) : Work (Option Document) := fun site =>
  match site.kept.lookup target with
  | some expanded => (.ok (some expanded), { site with hits := site.hits + 1 })
  | none => (.ok none, { site with misses := site.misses + 1 })

def load (source : SourceId) (written : String) (target : SourceId) : Work Document := fun site =>
  let (outcome, shelf) := site.shelf.load target
  (outcome.mapError (.unresolvableInclude written source), { site with shelf })

/-- Works with a source on the stack, and takes it off again whatever comes of it. -/
def within {Result : Type} (source : SourceId) (work : Work Result) : Work Result := fun site =>
  let (outcome, later) := work { site with stack := site.stack ++ [source] }
  (outcome, { later with stack := later.stack.dropLast })

/-- Obtains the target of an include, with `run` for the expansion of a source. -/
def obtain (run : SourceId → Document → Work Document) (source : SourceId) (written : String)
    (target : SourceId) : Work Document := do
  let stack := (← get).stack
  if target ∈ stack then throw (.cyclicInclude (stack ++ [target]))
  else
    match ← consult target with
    | some expanded =>
        tell (.reused target)
        return expanded
    | none =>
        tell (.loading target)
        let loaded ← load source written target
        let expanded ← run target loaded
        modify fun site => { site with kept := (target, expanded) :: site.kept }
        return expanded

section
variable (bindings : Bindings) (source : SourceId)
  (fetch : (written : String) → (target : SourceId) → Work Document)

def placeInclusion (parent : Parent) (src elements : Setting) : Work Parent := do
  let (form, written) ← src.require bindings .inclusion source
  let target := match form with
    | .indirect => SourceId.ofPath written
    | .direct => source.joinRelative written
  let document ← fetch written target
  let selector := (elements.resolve bindings).2.getD defaultSelector
  match document.select selector with
  | .error failure => throw failure
  | .ok nodes => do
      tell (.selected selector nodes.length)
      return nodes.foldl Parent.add parent

def placeEdit (parent : Parent) (name value : Setting) : Work Parent := do
  let (_, attr) ← name.require bindings .attr source
  match parent.attributes with
  | none => throw (.attrOutsideElement source)
  | some attributes =>
      let edited := Edit.apply attributes ⟨attr, (value.resolve bindings).2⟩
      return { parent with attributes := some edited }

def placeBound (parent : Parent) (var : Option String) : Work Parent :=
  match var.bind bindings.get? with
  | some value => return value.toNodes.foldl Parent.add parent
  | none => do
      tell (.unbound (var.getD "") source)
      return parent

mutual
def placeNode (parent : Parent) : Node → Work Parent
  | .element name attributes children => do
      if isDirective name then
        let directive ← Directive.decode name.localName attributes source
        tell (.running directive.kind source)
        match directive with
        | .condition var value =>
            if (secluded bindings source).isActive var value then placeForest parent children
            else return parent
        | .inclusion src elements => placeInclusion bindings source fetch parent src elements
        | .text var => return parent.add ((secluded bindings source).textOf var)
        | .attr name value => placeEdit bindings source parent name value
        | .dynamic var => placeBound bindings source parent var
      else
        let copy ← placeForest ⟨some (pageAttributes attributes), []⟩ children
        return parent.add (.element name (copy.attributes.getD []) copy.nodes)
  | other => return parent.add other

def placeForest (parent : Parent) : Forest → Work Parent
  | [] => return parent
  | node :: rest => do
      let next ← placeNode parent node
      placeForest next rest
end

end

def runSource (run : SourceId → Document → Work Document) (bindings : Bindings) (source : SourceId)
    (document : Document) : Work Document :=
  within source do
    let output ← placeForest bindings source (obtain run source) ⟨none, []⟩ document.nodes
    return ⟨output.nodes⟩

def expandTemplate (run : SourceId → Document → Work Document) (bindings : Bindings)
    (template : Template) : Work Document := do
  tell (.expanding template.source bindings.size)
  let expanded ← run template.source template.document
  let site ← get
  tell (.expanded template.source site.kept.length site.hits site.misses)
  return expanded

end Work

/-- An expansion of sources that includes are expanded by in turn. -/
def Expands (bindings : Bindings) (run : SourceId → Document → Work Document) : Prop :=
  ∀ source document, run source document = Work.runSource run bindings source document

/-- The site of an expansion with this progress, begun on a shelf, while these sources are being
expanded. -/
def Site.of (shelf : Shelf) (stack : List SourceId) (progress : Progress) : Site where
  stack := stack
  shelf := shelf.record progress.requests
  kept := progress.kept
  hits := progress.hits
  misses := progress.misses
  events := progress.events

/-- Work comes to what a part of an expansion gives, and leaves the stack as it was. -/
def ComesTo {Result Other : Type} (shelf : Shelf) (stack : List SourceId) (work : Work Result)
    (part : Expand Other) (give : Other → Result) : Prop :=
  ∀ progress, work (Site.of shelf stack progress) =
    ((part progress).1.map give, Site.of shelf stack (part progress).2)

section
variable {shelf : Shelf} {stack : List SourceId} {Result Other Next Last : Type}

theorem comes_to_pure {give : Other → Result} {value : Other} {result : Result}
    (same : give value = result) : ComesTo shelf stack (pure result) (pure value) give := by
  subst same
  exact fun _ => rfl

theorem comes_to_throw {give : Other → Result} (failure : Failure) :
    ComesTo shelf stack (throw failure) (throw failure) give :=
  fun _ => rfl

theorem comes_to_lift (outcome : Except Failure Result) :
    ComesTo shelf stack (liftM outcome) (liftM outcome) id := by
  intro progress
  cases outcome <;> rfl

theorem comes_to_tell (event : Event) : ComesTo shelf stack (Work.tell event) (note event) id :=
  fun _ => rfl

theorem comes_to_bind {work : Work Result} {part : Expand Other} {give : Other → Result}
    {next : Result → Work Next} {rest : Other → Expand Last} {giveNext : Last → Next}
    (first : ComesTo shelf stack work part give)
    (later : ∀ value, ComesTo shelf stack (next (give value)) (rest value) giveNext) :
    ComesTo shelf stack (work >>= next) (part >>= rest) giveNext := by
  intro progress
  have begun := first progress
  rcases ran : part progress with ⟨outcome, middle⟩
  rw [ran] at begun
  cases outcome with
  | error failure =>
      rw [run_bind_error begun, run_bind_error ran]
      rfl
  | ok value =>
      rw [run_bind_ok begun, run_bind_ok ran]
      exact later value middle

end

namespace Parent

def take (parent : Parent) (yield : Yield) : Parent where
  attributes := parent.attributes.map fun attributes => yield.edits.foldl Edit.apply attributes
  nodes := parent.nodes ++ yield.nodes

theorem take_none (parent : Parent) : parent.take .none = parent := by
  simp [take, Yield.none]

theorem take_append (parent : Parent) (first later : Yield) :
    parent.take (first.append later) = (parent.take first).take later := by
  simp [take, Yield.append, Function.comp_def]

theorem take_of_nodes (parent : Parent) (nodes : Forest) :
    parent.take (.ofNodes nodes) = nodes.foldl add parent := by
  induction nodes generalizing parent with
  | nil => exact take_none parent
  | cons node rest ih =>
      rw [List.foldl_cons, ← ih]
      simp [take, add, Yield.ofNodes]

theorem take_encloses (parent : Parent) (yield : Yield) :
    (parent.take yield).attributes.isSome = parent.attributes.isSome :=
  Option.isSome_map

end Parent

section
variable {around : Surroundings} {shelf : Shelf} {stack : List SourceId}
  {fetch : (written : String) → (target : SourceId) → Work Document} (parent : Parent)

theorem comes_to_inclusion
    (fetches : ∀ written target,
      ComesTo shelf stack (fetch written target) (around.fetch written target) id)
    (src elements : Setting) :
    ComesTo shelf stack
      (Work.placeInclusion around.bindings around.source fetch parent src elements)
      (around.runInclusion src elements) parent.take := by
  unfold Work.placeInclusion Surroundings.runInclusion
  refine comes_to_bind (comes_to_lift _) ?_
  rintro ⟨form, written⟩
  refine comes_to_bind (fetches _ _) fun document => ?_
  unfold Surroundings.select
  dsimp only [id]
  cases document.select ((elements.resolve around.bindings).2.getD defaultSelector) with
  | error failure => exact comes_to_throw failure
  | ok nodes =>
      simp only [bind_assoc, pure_bind]
      exact comes_to_bind (comes_to_tell _) fun _ => comes_to_pure (parent.take_of_nodes nodes)

theorem comes_to_edit (name value : Setting) :
    ComesTo shelf stack (Work.placeEdit around.bindings around.source parent name value)
      (around.runAttr parent.attributes.isSome name value) parent.take := by
  unfold Work.placeEdit Surroundings.runAttr
  refine comes_to_bind (comes_to_lift _) ?_
  rintro ⟨form, attr⟩
  obtain ⟨attributes, nodes⟩ := parent
  cases attributes with
  | none => exact comes_to_throw _
  | some attributes => exact comes_to_pure (congrArg (Parent.mk _) (List.append_nil nodes))

theorem comes_to_bound (var : Option String) :
    ComesTo shelf stack (Work.placeBound around.bindings around.source parent var)
      (around.runDynamic var) parent.take := by
  unfold Work.placeBound Surroundings.runDynamic Surroundings.lookup?
  cases var.bind around.bindings.get? with
  | none => exact comes_to_bind (comes_to_tell _) fun _ => comes_to_pure parent.take_none
  | some value => exact comes_to_pure (parent.take_of_nodes _)

mutual
/-- Editing the open element at once and adding every node at once gives what the contributions
give. -/
theorem comes_to_node
    (fetches : ∀ written target,
      ComesTo shelf stack (fetch written target) (around.fetch written target) id)
    (parent : Parent) : (node : Node) →
      ComesTo shelf stack (Work.placeNode around.bindings around.source fetch parent node)
        (around.expandNode parent.attributes.isSome node) parent.take
  | .element name attributes children => by
      rw [Work.placeNode, Surroundings.expandNode]
      split
      · refine comes_to_bind (comes_to_lift _) fun directive => ?_
        refine comes_to_bind (comes_to_tell _) fun _ => ?_
        cases directive with
        | condition var value =>
            have same : (secluded around.bindings around.source).isActive var value =
                around.isActive var value := rfl
            dsimp only [id]
            rw [same]
            split
            · exact comes_to_forest fetches parent children
            · exact comes_to_pure parent.take_none
        | inclusion src elements => exact comes_to_inclusion parent fetches src elements
        | text var => exact comes_to_pure (parent.take_of_nodes _)
        | attr name value => exact comes_to_edit parent name value
        | dynamic var => exact comes_to_bound parent var
      · refine comes_to_bind (comes_to_forest fetches _ children) fun inner => ?_
        exact comes_to_pure (parent.take_of_nodes _)
  | .text _ | .cdata _ | .comment _ | .instruction _ | .doctype _ | .declaration _ =>
      comes_to_pure (parent.take_of_nodes _)

theorem comes_to_forest
    (fetches : ∀ written target,
      ComesTo shelf stack (fetch written target) (around.fetch written target) id)
    (parent : Parent) : (nodes : Forest) →
      ComesTo shelf stack (Work.placeForest around.bindings around.source fetch parent nodes)
        (around.expandForest parent.attributes.isSome nodes) parent.take
  | [] => comes_to_pure parent.take_none
  | node :: rest => by
      rw [Work.placeForest, Surroundings.expandForest]
      refine comes_to_bind (comes_to_node fetches parent node) fun first => ?_
      have later := comes_to_forest fetches (parent.take first) rest
      rw [parent.take_encloses first] at later
      rw [← bind_pure (Work.placeForest _ _ _ _ _)]
      exact comes_to_bind later fun second => comes_to_pure (parent.take_append first second)
end

end

section
variable {shelf : Shelf} {stack : List SourceId} {bindings : Bindings} {source target : SourceId}
  {written : String} {run : SourceId → Document → Work Document} {progress : Progress}

theorem load_cases (library : Library) (target : SourceId) :
    (∃ cause, library.load target = .error cause) ∨ ∃ loaded, library.load target = .ok loaded := by
  cases library.load target with
  | error cause => exact .inl ⟨cause, rfl⟩
  | ok loaded => exact .inr ⟨loaded, rfl⟩

/-- A miss that was counted before, the event and the load from the shelf are together what one
request to the library is. -/
theorem run_shelf_load (shelf : Shelf) (stack : List SourceId) (source : SourceId)
    (written : String) (target : SourceId) (progress : Progress) :
    (Work.tell (.loading target) >>= fun _ => Work.load source written target)
        (Site.of shelf stack { progress with misses := progress.misses + 1 }) =
      ((loadTarget shelf.library source written target progress).1.map (·.1),
        Site.of shelf stack (loadTarget shelf.library source written target progress).2) := by
  change ((shelf.library.load target).mapError _, Site.of shelf stack (progress.request target)) = _
  rcases load_cases shelf.library target with ⟨cause, missing⟩ | ⟨loaded, found⟩
  · rw [run_load_missing missing, missing]
    rfl
  · rw [run_load_found found]
    exact Prod.ext (congrArg (Except.mapError _) found) rfl

theorem run_consult_kept {expanded : Document}
    (kept : progress.kept.lookup target = some expanded) :
    Work.consult target (Site.of shelf stack progress) =
      (.ok (some expanded), Site.of shelf stack { progress with hits := progress.hits + 1 }) := by
  simp only [Work.consult, Site.of, kept]

theorem run_consult_missing (missing : progress.kept.lookup target = none) :
    Work.consult target (Site.of shelf stack progress) =
      (.ok none, Site.of shelf stack { progress with misses := progress.misses + 1 }) := by
  simp only [Work.consult, Site.of, missing]

/-- A target is obtained as before, if sources are expanded as before. -/
theorem comes_to_obtain (source : SourceId)
    (nested : ∀ target loaded, target ∉ stack → shelf.library.load target = .ok loaded →
      ComesTo shelf stack (run target loaded)
        (expandSource shelf.library bindings (stack ++ [target]) target loaded) id)
    (written : String) (target : SourceId) :
    ComesTo shelf stack (Work.obtain run source written target)
      (fetchKept shelf.library bindings stack source written target) id := by
  intro progress
  unfold Work.obtain
  change (if target ∈ stack then throw (.cyclicInclude (stack ++ [target])) else _ :
    Work Document) (Site.of shelf stack progress) = _
  by_cases refused : target ∈ stack
  · rw [if_pos refused, run_fetch_refused refused]
    rfl
  rw [if_neg refused]
  cases kept : progress.kept.lookup target with
  | some expanded =>
      rw [run_bind_ok (run_consult_kept kept), run_fetch_reused refused kept]
      rfl
  | none =>
      have loads := run_shelf_load shelf stack source written target progress
      rw [run_bind_ok (run_consult_missing kept)]
      dsimp only
      rw [← bind_assoc]
      rcases load_cases shelf.library target with ⟨cause, missing⟩ | ⟨loaded, found⟩
      · rw [run_load_missing missing] at loads
        rw [run_bind_error loads, run_fetch_missing refused kept missing]
        rfl
      · rw [run_load_found found] at loads
        have expands := nested target loaded refused found (progress.request target)
        rw [run_bind_ok loads, run_fetch_loaded refused kept found]
        rcases ran : expandSource shelf.library bindings (stack ++ [target]) target loaded
          (progress.request target) with ⟨outcome, later⟩
        rw [ran] at expands
        cases outcome with
        | error failure =>
            rw [run_bind_error expands]
            rfl
        | ok expanded =>
            rw [run_bind_ok expands]
            rfl

theorem comes_to_within {Result Other : Type} {work : Work Result} {part : Expand Other}
    {give : Other → Result} (inner : ComesTo shelf (stack ++ [source]) work part give) :
    ComesTo shelf stack (Work.within source work) part give := by
  intro progress
  have ran := inner progress
  have pushed : { Site.of shelf stack progress with stack := stack ++ [source] } =
      Site.of shelf (stack ++ [source]) progress := rfl
  have popped : (stack ++ [source]).dropLast = stack := List.dropLast_concat
  unfold Work.within
  simp only [Site.of] at pushed ran ⊢
  rw [ran]
  simp only [popped]

theorem comes_to_run_source {document : Document}
    (nested : ∀ target loaded, target ∉ stack ++ [source] →
      shelf.library.load target = .ok loaded →
      ComesTo shelf (stack ++ [source]) (run target loaded)
        (expandSource shelf.library bindings (stack ++ [source] ++ [target]) target loaded) id) :
    ComesTo shelf stack (Work.runSource run bindings source document)
      (expandSource shelf.library bindings (stack ++ [source]) source document) id := by
  let around : Surroundings :=
    ⟨bindings, source, fetchKept shelf.library bindings (stack ++ [source]) source⟩
  have placed := @comes_to_forest around _ _ _ (comes_to_obtain source nested) ⟨none, []⟩
    document.nodes
  rw [expand_source_eq]
  exact comes_to_within (comes_to_bind placed fun yield => comes_to_pure rfl)

/-- A source is expanded in place as it is expanded otherwise, and the stack is as it was before,
whatever comes of it. -/
theorem comes_to_source (shelf : Shelf) (expands : Expands bindings run) (stack : List SourceId)
    (source : SourceId) (document : Document) :
    ComesTo shelf stack (run source document)
      (expandSource shelf.library bindings (stack ++ [source]) source document) id := by
  rw [expands source document]
  exact comes_to_run_source fun target loaded fresh found =>
    comes_to_source shelf expands (stack ++ [source]) target loaded
termination_by unvisited shelf.library (stack ++ [source])
decreasing_by exact unvisited_lt fresh found

def expandAt (bindings : Bindings) (source : SourceId) (document : Document) : Work Document :=
  fun site =>
    let ran := expandSource site.shelf.library bindings (site.stack ++ [source]) source document
      ⟨site.kept, site.hits, site.misses, site.shelf.requests, site.events⟩
    (ran.1, .of { site.shelf with requests := [] } site.stack ran.2)

theorem comes_to_expand_at (sources : List (SourceId × String)) (stack : List SourceId)
    (source : SourceId) (document : Document) :
    ComesTo ⟨sources, []⟩ stack (expandAt bindings source document)
      (expandSource (Shelf.library ⟨sources, []⟩) bindings (stack ++ [source]) source document)
      id := by
  intro progress
  simp only [expandAt, Site.of, Shelf.record, List.append_nil, Except.map_id]
  rfl

/-- There is a way for sources to expand each other in place. -/
theorem expands_at (bindings : Bindings) : Expands bindings (expandAt bindings) := by
  intro source document
  funext site
  let shelf : Shelf := ⟨site.shelf.sources, []⟩
  have here : site = .of shelf site.stack
      ⟨site.kept, site.hits, site.misses, site.shelf.requests, site.events⟩ := by
    simp [shelf, Site.of, Shelf.record]
  have again : ComesTo shelf site.stack
      (Work.runSource (expandAt bindings) bindings source document)
      (expandSource shelf.library bindings (site.stack ++ [source]) source document) id :=
    comes_to_run_source fun target loaded _ _ => comes_to_expand_at _ _ _ _
  rw [here, comes_to_expand_at]
  exact (again _).symm

end

/-- An expansion in place is determined: it returns what the expansion with collected contributions
returns, it changes the shelf and what is kept in the same way, and the stack is afterwards what it
was before, also where the expansion fails. -/
theorem expanded_in_place (bindings : Bindings) :
    (∃ run, Expands bindings run) ∧
    ∀ run, Expands bindings run → ∀ (shelf : Shelf) (stack : List SourceId) (source : SourceId)
      (document : Document) (progress : Progress),
      run source document (.of shelf stack progress) =
        ((expandSource shelf.library bindings (stack ++ [source]) source document progress).1,
          .of shelf stack
            (expandSource shelf.library bindings (stack ++ [source]) source document
              progress).2) := by
  refine ⟨⟨expandAt bindings, expands_at bindings⟩, ?_⟩
  intro run expands shelf stack source document progress
  rw [comes_to_source shelf expands stack source document progress, Except.map_id]
  rfl

/-- A template that is expanded in place on a shelf returns what it returns there, tells the same,
leaves the shelf as it is left there and nothing on the stack. -/
theorem template_expanded_in_place {bindings : Bindings}
    {run : SourceId → Document → Work Document} (expands : Expands bindings run) (shelf : Shelf)
    (template : Template) :
    ∃ site, Work.expandTemplate run bindings template (.of shelf [] {}) =
        ((shelf.expand template bindings).1.1, site) ∧
      site = .of shelf [] (shelf.expand template bindings).1.2 ∧ site.stack = [] ∧
      site.shelf = (shelf.expand template bindings).2 := by
  have comes : ComesTo shelf [] (Work.expandTemplate run bindings template)
      (template.expandAll shelf.library bindings) id := by
    refine comes_to_bind (comes_to_tell _) fun _ => ?_
    refine comes_to_bind (comes_to_source shelf expands [] _ _) fun expanded => ?_
    exact fun _ => rfl
  refine ⟨_, ?_, rfl, rfl, rfl⟩
  rw [comes, Except.map_id]
  rfl

end XmlTemplate.Template
