import XmlTemplate.Proofs.Expansion.Afresh
import XmlTemplate.Proofs.Expansion.Transitions
import XmlTemplate.Proofs.Expansion.Conditions

/-!
What an expansion returns, said without running it. Each node contributes nodes to the element
around it, and the contributions of siblings are put one after another. An ordinary element is
copied, with the edits that were made to its attributes below it; these are known from the bindings
and the markup alone, since conditions are all that can lie between. An include contributes what is
selected from the document that the same rules give for its target.
-/

namespace XmlTemplate.Template

open Markup

def directiveOf? (name : Name) : Option DirectiveKind :=
  if isDirective name then DirectiveKind.ofName? name.localName else none

def boundTo? (bindings : Bindings) (attributes : Attributes) : Option Value :=
  (attributes.plain? "var").bind bindings.get?

/-- The source that an include refers to. A direct source is relative to the source that holds the
include. -/
def referred? (bindings : Bindings) (source : SourceId) (attributes : Attributes) :
    Option SourceId :=
  match (Setting.ofAttributes attributes "src").resolve bindings with
  | (.indirect, some written) => some (.ofPath written)
  | (.direct, some written) => some (source.joinRelative written)
  | (_, none) => none

def selectorOf (bindings : Bindings) (attributes : Attributes) : String :=
  ((Setting.ofAttributes attributes "elements").resolve bindings).2.getD defaultSelector

def editOf? (bindings : Bindings) (attributes : Attributes) : Option Edit :=
  ((Setting.ofAttributes attributes "name").resolve bindings).2.map fun name =>
    ⟨name, ((Setting.ofAttributes attributes "value").resolve bindings).2⟩

mutual
/-- The edits that a node makes to the element around it. Conditions that hold pass on those of
their children, and no other element does. -/
def editsOf (bindings : Bindings) : Node → List Edit
  | .element name attributes children =>
      match directiveOf? name with
      | some .attr => (editOf? bindings attributes).toList
      | some .condition =>
          if Activates bindings attributes then editsAmong bindings children else []
      | _ => []
  | _ => []

def editsAmong (bindings : Bindings) : Forest → List Edit
  | [] => []
  | node :: rest => editsOf bindings node ++ editsAmong bindings rest
end

section
variable (bindings : Bindings) (source : SourceId) (included : SourceId → Document → Prop)

mutual
/-- The nodes that a node of a source contributes, given the documents that targets of includes
stand for. `enclosed` tells whether an element of the same source is around it. -/
inductive Contributes : Bool → Node → Forest → Prop
  | leaf {enclosed : Bool} {node : Node} (childless : node.element? = none) :
      Contributes enclosed node [node]
  | ordinary {enclosed : Bool} {name : Name} {attributes : Attributes} {children inner : Forest}
      (plain : isDirective name = false) (within : ContributeTogether true children inner) :
      Contributes enclosed (.element name attributes children)
        [.element name ((editsAmong bindings children).foldl Edit.apply (pageAttributes attributes))
          inner]
  | holds {enclosed : Bool} {name : Name} {attributes : Attributes} {children nodes : Forest}
      (called : directiveOf? name = some .condition) (active : Activates bindings attributes)
      (within : ContributeTogether enclosed children nodes) :
      Contributes enclosed (.element name attributes children) nodes
  | fails {enclosed : Bool} {name : Name} {attributes : Attributes} {children : Forest}
      (called : directiveOf? name = some .condition) (inactive : ¬Activates bindings attributes) :
      Contributes enclosed (.element name attributes children) []
  | text {enclosed : Bool} {name : Name} {attributes : Attributes} {children : Forest}
      (called : directiveOf? name = some .text) :
      Contributes enclosed (.element name attributes children)
        [.text (((boundTo? bindings attributes).map Value.text).getD "")]
  | dynamic {enclosed : Bool} {name : Name} {attributes : Attributes} {children : Forest}
      (called : directiveOf? name = some .dynamic) :
      Contributes enclosed (.element name attributes children)
        (((boundTo? bindings attributes).map Value.toNodes).getD [])
  -- An edit contributes no nodes, and without an element around it there is no rule for it.
  | attr {name : Name} {attributes : Attributes} {children : Forest} {edit : Edit}
      (called : directiveOf? name = some .attr) (named : editOf? bindings attributes = some edit) :
      Contributes true (.element name attributes children) []
  | inclusion {enclosed : Bool} {name : Name} {attributes : Attributes} {children nodes : Forest}
      {target : SourceId} {document : Document} (called : directiveOf? name = some .inclusion)
      (refers : referred? bindings source attributes = some target)
      (stands : included target document)
      (selected : document.select (selectorOf bindings attributes) = .ok nodes) :
      Contributes enclosed (.element name attributes children) nodes

inductive ContributeTogether : Bool → Forest → Forest → Prop
  | nil {enclosed : Bool} : ContributeTogether enclosed [] []
  | cons {enclosed : Bool} {node : Node} {rest nodes others : Forest}
      (first : Contributes enclosed node nodes) (later : ContributeTogether enclosed rest others) :
      ContributeTogether enclosed (node :: rest) (nodes ++ others)
end

end

section
variable {bindings : Bindings} {source : SourceId} {included : SourceId → Document → Prop}

theorem contribute_cons_iff {enclosed : Bool} {node : Node} {rest nodes : Forest} :
    ContributeTogether bindings source included enclosed (node :: rest) nodes ↔
      ∃ first others, Contributes bindings source included enclosed node first ∧
        ContributeTogether bindings source included enclosed rest others ∧
        nodes = first ++ others := by
  constructor
  · rintro ⟨⟩
    exact ⟨_, _, ‹_›, ‹_›, rfl⟩
  · rintro ⟨first, others, here, later, rfl⟩
    exact .cons here later

/-- Siblings contribute the parts of each of them, one after another. -/
theorem contribute_together_iff {enclosed : Bool} {children nodes : Forest} :
    ContributeTogether bindings source included enclosed children nodes ↔
      ∃ parts, List.Forall₂ (Contributes bindings source included enclosed) children parts ∧
        nodes = parts.flatten := by
  induction children generalizing nodes with
  | nil =>
      constructor
      · rintro ⟨⟩
        exact ⟨[], .nil, rfl⟩
      · rintro ⟨parts, each, rfl⟩
        cases each
        exact .nil
  | cons node rest ih =>
      simp only [contribute_cons_iff, ih]
      constructor
      · rintro ⟨first, _, here, ⟨parts, each, rfl⟩, rfl⟩
        exact ⟨first :: parts, .cons here each, rfl⟩
      · rintro ⟨parts, each, rfl⟩
        cases each with
        | cons first later => exact ⟨_, _, first, ⟨_, later, rfl⟩, rfl⟩

theorem directive_of_special {name : Name} (special : isDirective name = true) :
    directiveOf? name = DirectiveKind.ofName? name.localName := if_pos special

theorem special_of_directive {name : Name} {kind : DirectiveKind}
    (called : directiveOf? name = some kind) : isDirective name = true := by
  unfold directiveOf? at called
  split at called
  · assumption
  · cases called

theorem directive_of_ordinary {name : Name} (ordinary : isDirective name = false) :
    directiveOf? name = none := by
  simp [directiveOf?, ordinary]

end

/-- Whatever the computation returns is as described. -/
def Returns {Result : Type} (run : Expand Result) (Described : Result → Prop) : Prop :=
  ∀ progress value later, run progress = (.ok value, later) → Described value

section
variable {Result : Type} {Described : Result → Prop}

theorem returns_pure {value : Result} (described : Described value) :
    Returns (pure value) Described := by
  intro progress result later ran
  cases ran
  exact described

theorem returns_throw (failure : Failure) : Returns (throw failure) Described := by
  intro progress value later ran
  rw [run_throw] at ran
  cases ran

theorem returns_note (event : Event) : Returns (note event) fun _ => True :=
  fun _ _ _ _ => trivial

theorem returns_bind {Other : Type} {first : Expand Result} {next : Result → Expand Other}
    {Finally : Other → Prop} (begun : Returns first Described)
    (continued : ∀ value, Described value → Returns (next value) Finally) :
    Returns (first >>= next) Finally := by
  intro progress value later ran
  obtain ⟨result, middle, start, rest⟩ := ok_of_bind ran
  exact continued result (begun progress result middle start) middle value later rest

theorem returns_lift (outcome : Except Failure Result) :
    Returns (liftM outcome) fun value => outcome = .ok value := by
  cases outcome with
  | error failure => exact returns_throw failure
  | ok value => exact returns_pure rfl

theorem returns_select (selector : String) (document : Document) :
    Returns (Surroundings.select selector document) fun nodes =>
      document.select selector = .ok nodes := by
  unfold Surroundings.select
  cases document.select selector with
  | error failure => exact returns_throw failure
  | ok nodes => exact returns_bind (returns_note _) fun _ _ => returns_pure rfl

end

structure Yield.ByRule (edits : List Edit) (Gives : Forest → Prop) (yield : Yield) : Prop where
  edits : yield.edits = edits
  nodes : Gives yield.nodes

section
variable {around : Surroundings} {included : SourceId → Document → Prop}
  {name : Name} {attributes : Attributes} {children : Forest} {enclosed : Bool}

theorem active_around_iff : around.isActive (attributes.plain? "var")
    (.ofAttributes attributes "value") = true ↔ Activates around.bindings attributes :=
  active_iff around.bindings around.source attributes

theorem inclusion_returns
    (fetched : ∀ written target, Returns (around.fetch written target) (included target))
    (called : directiveOf? name = some .inclusion) :
    Returns
      (around.runInclusion (.ofAttributes attributes "src") (.ofAttributes attributes "elements"))
      (Yield.ByRule [] (Contributes around.bindings around.source included enclosed
        (.element name attributes children))) := by
  unfold Surroundings.runInclusion
  refine returns_bind (returns_lift _) ?_
  rintro ⟨form, written⟩ required
  have resolved := require_ok required
  refine returns_bind (fetched _ _) ?_
  intro document stands
  refine returns_bind (returns_select _ _) ?_
  intro nodes selected
  refine returns_pure ?_
  refine ⟨rfl, .inclusion called ?_ stands selected⟩
  cases form <;> simp [referred?, resolved]

theorem attr_returns (called : directiveOf? name = some .attr) :
    Returns (around.runAttr enclosed (.ofAttributes attributes "name")
        (.ofAttributes attributes "value"))
      (Yield.ByRule (editOf? around.bindings attributes).toList
        (Contributes around.bindings around.source included enclosed
          (.element name attributes children))) := by
  unfold Surroundings.runAttr
  refine returns_bind (returns_lift _) ?_
  rintro ⟨form, attr⟩ required
  have resolved := require_ok required
  have named : editOf? around.bindings attributes =
      some ⟨attr, ((Setting.ofAttributes attributes "value").resolve around.bindings).2⟩ := by
    simp [editOf?, resolved]
  cases enclosed with
  | false => exact returns_throw _
  | true =>
      refine returns_pure ?_
      rw [named]
      exact ⟨rfl, .attr called named⟩

theorem dynamic_returns (called : directiveOf? name = some .dynamic) :
    Returns (around.runDynamic (attributes.plain? "var"))
      (Yield.ByRule [] (Contributes around.bindings around.source included enclosed
        (.element name attributes children))) := by
  have rule := @Contributes.dynamic around.bindings around.source included enclosed name attributes
    children called
  unfold Surroundings.runDynamic Surroundings.lookup?
  unfold boundTo? at rule
  cases bound : (attributes.plain? "var").bind around.bindings.get? with
  | some value =>
      rw [bound] at rule
      exact returns_pure ⟨rfl, rule⟩
  | none =>
      rw [bound] at rule
      exact returns_bind (returns_note _) fun _ _ => returns_pure ⟨rfl, rule⟩

theorem effect_returns
    (fetched : ∀ written target, Returns (around.fetch written target) (included target))
    {kind : DirectiveKind} (called : directiveOf? name = some kind)
    (inside : Returns (around.expandForest enclosed children)
      (Yield.ByRule (editsAmong around.bindings children)
        (ContributeTogether around.bindings around.source included enclosed children))) :
    Returns (around.effect enclosed children (.ofKind attributes kind))
      (Yield.ByRule (editsOf around.bindings (.element name attributes children))
        (Contributes around.bindings around.source included enclosed
          (.element name attributes children))) := by
  unfold editsOf
  rw [called]
  cases kind with
  | condition =>
      simp only [Directive.ofKind, Surroundings.effect]
      by_cases holds : Activates around.bindings attributes
      · rw [if_pos (active_around_iff.2 holds), if_pos holds]
        intro progress yield later ran
        obtain ⟨edits, nodes⟩ := inside progress yield later ran
        exact ⟨edits, .holds called holds nodes⟩
      · rw [if_neg (active_around_iff.not.2 holds), if_neg holds]
        exact returns_pure ⟨rfl, .fails called holds⟩
  | inclusion => exact inclusion_returns fetched called
  | text => exact returns_pure ⟨rfl, .text called⟩
  | attr => exact attr_returns called
  | dynamic => exact dynamic_returns called

mutual
theorem node_returns
    (fetched : ∀ written target, Returns (around.fetch written target) (included target))
    (enclosed : Bool) : (node : Node) → Returns (around.expandNode enclosed node)
      (Yield.ByRule (editsOf around.bindings node)
        (Contributes around.bindings around.source included enclosed node))
  | .element name attributes children => by
      by_cases special : isDirective name = true
      · rw [expand_directive special]
        refine returns_bind (returns_lift _) ?_
        intro directive decoded
        obtain ⟨kind, named, rfl⟩ := decode_ok decoded
        refine returns_bind (returns_note _) ?_
        intro _ _
        have called := (directive_of_special special).trans named
        exact effect_returns fetched called (forest_returns fetched enclosed children)
      · have plain : isDirective name = false := Bool.eq_false_iff.2 special
        rw [expand_ordinary special]
        refine returns_bind (forest_returns fetched true children) ?_
        rintro inner ⟨edits, nodes⟩
        rw [edits]
        refine returns_pure ?_
        unfold editsOf
        rw [directive_of_ordinary plain]
        exact ⟨rfl, .ordinary plain nodes⟩
  | .text _ | .cdata _ | .comment _ | .instruction _ | .doctype _ | .declaration _ =>
      returns_pure ⟨rfl, .leaf rfl⟩

theorem forest_returns
    (fetched : ∀ written target, Returns (around.fetch written target) (included target))
    (enclosed : Bool) : (nodes : Forest) → Returns (around.expandForest enclosed nodes)
      (Yield.ByRule (editsAmong around.bindings nodes)
        (ContributeTogether around.bindings around.source included enclosed nodes))
  | [] => returns_pure ⟨rfl, .nil⟩
  | node :: rest => by
      refine returns_bind (node_returns fetched enclosed node) ?_
      rintro first ⟨edits, nodes⟩
      refine returns_bind (forest_returns fetched enclosed rest) ?_
      rintro later ⟨laterEdits, laterNodes⟩
      refine returns_pure ?_
      refine ⟨?_, .cons nodes laterNodes⟩
      simp only [Yield.append, editsAmong, edits, laterEdits]
end

theorem document_returns
    (fetched : ∀ written target, Returns (around.fetch written target) (included target))
    (document : Document) : Returns (around.expandDocument document) fun expanded =>
      ContributeTogether around.bindings around.source included false document.nodes
        expanded.nodes := by
  refine returns_bind (forest_returns fetched false document.nodes) ?_
  rintro yield ⟨-, nodes⟩
  exact returns_pure nodes

end

/-- The computation returns the value, whatever it starts from. -/
def Attains {Result : Type} (run : Expand Result) (value : Result) : Prop :=
  ∀ progress, ∃ later, run progress = (.ok value, later)

section
variable {Result : Type} {value : Result}

theorem attains_pure : Attains (pure value) value := fun progress => ⟨progress, rfl⟩

theorem attains_note (event : Event) : Attains (note event) () := fun _ => ⟨_, rfl⟩

theorem attains_bind {Other : Type} {first : Expand Result} {next : Result → Expand Other}
    {last : Other} (begun : Attains first value) (continued : Attains (next value) last) :
    Attains (first >>= next) last := by
  intro progress
  obtain ⟨middle, start⟩ := begun progress
  rw [run_bind_ok start]
  exact continued middle

theorem attains_lift {outcome : Except Failure Result} (succeeds : outcome = .ok value) :
    Attains (liftM outcome) value := by
  rw [succeeds]
  exact attains_pure

theorem attains_select {selector : String} {document : Document} {nodes : Forest}
    (selected : document.select selector = .ok nodes) :
    Attains (Surroundings.select selector document) nodes := by
  unfold Surroundings.select
  rw [selected]
  exact attains_bind (attains_note _) attains_pure

end

section
variable {around : Surroundings} {included : SourceId → Document → Prop}
  {name : Name} {attributes : Attributes} {children : Forest} {enclosed : Bool}

theorem directive_attains {kind : DirectiveKind} {yield : Yield}
    (called : directiveOf? name = some kind)
    (effect : Attains (around.effect enclosed children (.ofKind attributes kind)) yield) :
    Attains (around.expandNode enclosed (.element name attributes children)) yield := by
  have special := special_of_directive called
  rw [directive_of_special special] at called
  rw [expand_directive special]
  have decoded : Directive.decode name.localName attributes around.source =
      .ok (.ofKind attributes kind) := by simp only [Directive.decode, called]
  refine attains_bind (attains_lift decoded) ?_
  exact attains_bind (attains_note _) effect

theorem inclusion_attains {target : SourceId} {document : Document} {nodes : Forest}
    (fetched : ∀ written, Attains (around.fetch written target) document)
    (refers : referred? around.bindings around.source attributes = some target)
    (selected : document.select (selectorOf around.bindings attributes) = .ok nodes) :
    Attains (around.runInclusion (.ofAttributes attributes "src")
      (.ofAttributes attributes "elements")) (.ofNodes nodes) := by
  unfold Surroundings.runInclusion
  rcases resolved : (Setting.ofAttributes attributes "src").resolve around.bindings with
    ⟨form, written?⟩
  unfold referred? at refers
  rw [resolved] at refers
  cases written? with
  | none => cases form <;> cases refers
  | some written =>
      refine attains_bind (attains_lift (require_of_resolve resolved)) ?_
      cases form with
      | indirect =>
          cases refers
          exact attains_bind (fetched written) (attains_bind (attains_select selected) attains_pure)
      | direct =>
          cases refers
          exact attains_bind (fetched written) (attains_bind (attains_select selected) attains_pure)

theorem attr_attains {edit : Edit} (named : editOf? around.bindings attributes = some edit) :
    Attains (around.runAttr true (.ofAttributes attributes "name")
      (.ofAttributes attributes "value")) ⟨[edit], []⟩ := by
  unfold Surroundings.runAttr
  rcases resolved : (Setting.ofAttributes attributes "name").resolve around.bindings with
    ⟨form, attr?⟩
  unfold editOf? at named
  rw [resolved] at named
  cases attr? with
  | none => cases named
  | some attr =>
      cases named
      exact attains_bind (attains_lift (require_of_resolve resolved)) attains_pure

theorem dynamic_attains : Attains (around.runDynamic (attributes.plain? "var"))
    (.ofNodes (((boundTo? around.bindings attributes).map Value.toNodes).getD [])) := by
  unfold Surroundings.runDynamic Surroundings.lookup? boundTo?
  cases (attributes.plain? "var").bind around.bindings.get? with
  | some value => exact attains_pure
  | none => exact attains_bind (attains_note _) attains_pure

mutual
theorem node_attains (reliable : ∀ target document, included target document →
      ∀ written, Attains (around.fetch written target) document) (enclosed : Bool) :
    (node : Node) → (nodes : Forest) →
    Contributes around.bindings around.source included enclosed node nodes →
      Attains (around.expandNode enclosed node) ⟨editsOf around.bindings node, nodes⟩
  | .element name attributes children, _, rule => by
      unfold editsOf
      cases rule with
      | leaf childless => cases childless
      | ordinary plain within =>
          rw [expand_ordinary (Bool.eq_false_iff.1 plain), directive_of_ordinary plain]
          exact attains_bind (forest_attains reliable true children _ within) attains_pure
      | holds called active within =>
          rw [called]
          dsimp only
          rw [if_pos active]
          apply directive_attains called
          simp only [Directive.ofKind, Surroundings.effect]
          rw [if_pos (active_around_iff.2 active)]
          exact forest_attains reliable enclosed children _ within
      | fails called inactive =>
          rw [called]
          dsimp only
          rw [if_neg inactive]
          apply directive_attains called
          simp only [Directive.ofKind, Surroundings.effect]
          rw [if_neg (active_around_iff.not.2 inactive)]
          exact attains_pure
      | text called =>
          rw [called]
          exact directive_attains called attains_pure
      | dynamic called =>
          rw [called]
          exact directive_attains called dynamic_attains
      | attr called named =>
          rw [called, named]
          exact directive_attains called (attr_attains named)
      | inclusion called refers stands selected =>
          rw [called]
          exact directive_attains called
            (inclusion_attains (reliable _ _ stands) refers selected)
  | .text _, _, rule | .cdata _, _, rule | .comment _, _, rule | .instruction _, _, rule
  | .doctype _, _, rule | .declaration _, _, rule => by
      cases rule
      exact attains_pure

theorem forest_attains (reliable : ∀ target document, included target document →
      ∀ written, Attains (around.fetch written target) document) (enclosed : Bool) :
    (children nodes : Forest) →
    ContributeTogether around.bindings around.source included enclosed children nodes →
      Attains (around.expandForest enclosed children) ⟨editsAmong around.bindings children, nodes⟩
  | [], _, rule => by
      cases rule
      exact attains_pure
  | node :: rest, _, rule => by
      cases rule with
      | cons first later =>
          refine attains_bind (node_attains reliable enclosed node _ first) ?_
          exact attains_bind (forest_attains reliable enclosed rest _ later) attains_pure
end

theorem document_attains (reliable : ∀ target document, included target document →
      ∀ written, Attains (around.fetch written target) document) {document expanded : Document}
    (contributed : ContributeTogether around.bindings around.source included false document.nodes
      expanded.nodes) : Attains (around.expandDocument document) expanded :=
  attains_bind (forest_attains reliable false document.nodes _ contributed) attains_pure

end

section
variable {bindings : Bindings} {source : SourceId} {included more : SourceId → Document → Prop}

mutual
theorem node_widens (wider : ∀ target document, included target document → more target document)
    (enclosed : Bool) : (node : Node) → (nodes : Forest) →
      Contributes bindings source included enclosed node nodes →
        Contributes bindings source more enclosed node nodes
  | .element _ _ children, _, rule => by
      cases rule with
      | leaf childless => cases childless
      | ordinary plain within => exact .ordinary plain (forest_widens wider true children _ within)
      | holds called active within =>
          exact .holds called active (forest_widens wider enclosed children _ within)
      | fails called inactive => exact .fails called inactive
      | text called => exact .text called
      | dynamic called => exact .dynamic called
      | attr called named => exact .attr called named
      | inclusion called refers stands selected =>
          exact .inclusion called refers (wider _ _ stands) selected
  | .text _, _, rule | .cdata _, _, rule | .comment _, _, rule | .instruction _, _, rule
  | .doctype _, _, rule | .declaration _, _, rule => by
      cases rule
      exact .leaf rfl

theorem forest_widens
    (wider : ∀ target document, included target document → more target document)
    (enclosed : Bool) : (children nodes : Forest) →
      ContributeTogether bindings source included enclosed children nodes →
        ContributeTogether bindings source more enclosed children nodes
  | [], _, rule => by
      cases rule
      exact .nil
  | node :: rest, _, rule => by
      cases rule with
      | cons first later =>
          exact .cons (node_widens wider enclosed node _ first)
            (forest_widens wider enclosed rest _ later)
end

/-- If targets stand for one document each, siblings contribute in one way only: the walk with these
documents at hand returns it. -/
theorem contribution_unique
    (single : ∀ target document other, included target document → included target other →
      document = other) {enclosed : Bool} {children nodes others : Forest}
    (first : ContributeTogether bindings source included enclosed children nodes)
    (second : ContributeTogether bindings source included enclosed children others) :
    nodes = others := by
  have inhabited : Nonempty Document := ⟨⟨[]⟩⟩
  let around : Surroundings :=
    ⟨bindings, source, fun _ target => pure (Classical.epsilon (included target))⟩
  have reliable : ∀ target document, included target document →
      ∀ written, Attains (around.fetch written target) document := by
    intro target document stands written
    rw [single target document _ stands (Classical.epsilon_spec ⟨document, stands⟩)]
    exact attains_pure
  obtain ⟨_, ran⟩ := @forest_attains around included reliable enclosed children nodes first {}
  obtain ⟨_, ranAgain⟩ :=
    @forest_attains around included reliable enclosed children others second {}
  have same := congrArg Prod.fst (ran.symm.trans ranAgain)
  simpa using same

end

/-- The document that a source stands for when it is included, and includes follow each other at
most so often. The root of the expansion cannot be included. -/
def Included (library : Library) (bindings : Bindings) (root : SourceId) :
    Nat → SourceId → Document → Prop
  | 0, _, _ => False
  | depth + 1, target, document => target ≠ root ∧ ∃ loaded, library.load target = .ok loaded ∧
      ContributeTogether bindings target (Included library bindings root depth) false loaded.nodes
        document.nodes

section
variable {library : Library} {bindings : Bindings} {root : SourceId}

theorem included_deeper (depth : Nat) : ∀ target document,
    Included library bindings root depth target document →
      Included library bindings root (depth + 1) target document := by
  induction depth with
  | zero => exact nofun
  | succ depth ih =>
      rintro target document ⟨other, loaded, found, contributed⟩
      exact ⟨other, loaded, found, forest_widens ih false loaded.nodes _ contributed⟩

theorem included_of_le {depth more : Nat} (enough : depth ≤ more) {target : SourceId}
    {document : Document} (stands : Included library bindings root depth target document) :
    Included library bindings root more target document := by
  induction enough with
  | refl => exact stands
  | step _ ih => exact included_deeper _ _ _ ih

theorem included_unique (depth : Nat) : ∀ target document other,
    Included library bindings root depth target document →
      Included library bindings root depth target other → document = other := by
  induction depth with
  | zero => exact nofun
  | succ depth ih =>
      rintro target document other ⟨_, loaded, found, first⟩ ⟨_, again, foundAgain, second⟩
      cases found.symm.trans foundAgain
      exact congrArg Document.mk (contribution_unique ih first second)

theorem fetch_returns {stack : List SourceId} (begun : root ∈ stack) (source : SourceId)
    (nested : ∀ target loaded, target ∉ stack → library.load target = .ok loaded →
      Returns (expandSourceAfresh library bindings (stack ++ [target]) target loaded)
        fun expanded => ContributeTogether bindings target
          (Included library bindings root (unvisited library (stack ++ [target]))) false
          loaded.nodes expanded.nodes)
    (written : String) (target : SourceId) :
    Returns (fetchAfresh library bindings stack source written target)
      (Included library bindings root (unvisited library stack) target) := by
  unfold fetchAfresh
  split
  · exact returns_throw _
  · rename_i fresh
    cases found : library.load target with
    | error cause => exact returns_throw _
    | ok loaded =>
        intro progress expanded later ran
        have other : target ≠ root := by
          rintro rfl
          exact fresh begun
        have contributed := nested target loaded fresh found progress expanded later ran
        have enough : unvisited library (stack ++ [target]) + 1 ≤ unvisited library stack :=
          unvisited_lt fresh found
        exact included_of_le enough ⟨other, loaded, found, contributed⟩

theorem source_returns (bindings : Bindings) (stack : List SourceId) (begun : root ∈ stack)
    (source : SourceId) (document : Document) :
    Returns (expandSourceAfresh library bindings stack source document) fun expanded =>
      ContributeTogether bindings source
        (Included library bindings root (unvisited library stack)) false document.nodes
        expanded.nodes := by
  have fetched := fetch_returns begun source fun target loaded fresh found =>
    source_returns bindings (stack ++ [target]) (List.mem_append_left _ begun) target loaded
  rw [expand_source_afresh_eq]
  exact document_returns fetched document
termination_by unvisited library stack
decreasing_by exact unvisited_lt fresh found

theorem fetch_attains {stack : List SourceId} {depth : Nat}
    (apart : ∀ source ∈ stack, source = root ∨
      ∀ document, ¬Included library bindings root depth source document)
    (nested : ∀ target loaded document, target ≠ root → library.load target = .ok loaded →
      Included library bindings root depth target document →
        Attains (expandSourceAfresh library bindings (stack ++ [target]) target loaded) document)
    (source target : SourceId) (document : Document)
    (stands : Included library bindings root depth target document) (written : String) :
    Attains (fetchAfresh library bindings stack source written target) document := by
  cases depth with
  | zero => cases stands
  | succ depth =>
      obtain ⟨other, loaded, found, -⟩ := id stands
      have fresh : target ∉ stack := by
        intro member
        rcases apart target member with same | never
        · exact other same
        · exact never document stands
      unfold fetchAfresh
      rw [if_neg fresh, found]
      exact nested target loaded document other found stands

/-- A source that stands for a document is expanded to it, provided that no source being expanded
stands for anything at the same depth of includes. -/
theorem source_attains (depth : Nat) (stack : List SourceId)
    (apart : ∀ source ∈ stack, source = root ∨
      ∀ document, ¬Included library bindings root depth source document)
    (target : SourceId) (loaded document : Document) (found : library.load target = .ok loaded)
    (stands : Included library bindings root depth target document) :
    Attains (expandSourceAfresh library bindings (stack ++ [target]) target loaded) document := by
  induction depth generalizing stack target loaded document with
  | zero => cases stands
  | succ depth ih =>
      have shallower : ∀ source ∈ stack, source = root ∨
          ∀ document, ¬Included library bindings root depth source document :=
        fun source member => (apart source member).imp_right fun never other sooner =>
          never other (included_deeper depth source other sooner)
      by_cases sooner : ∃ other, Included library bindings root depth target other
      · obtain ⟨other, before⟩ := sooner
        have same := included_unique _ target document other stands (included_deeper _ _ _ before)
        exact ih stack shallower target loaded document found (same ▸ before)
      · -- At the least depth the target does not occur again among its own includes.
        obtain ⟨-, again, foundAgain, contributed⟩ := stands
        cases found.symm.trans foundAgain
        have deeper : ∀ source ∈ stack ++ [target], source = root ∨
            ∀ document, ¬Included library bindings root depth source document := by
          intro source member
          rcases List.mem_append.1 member with member | member
          · exact shallower source member
          · rw [List.mem_singleton.1 member]
            exact .inr (not_exists.1 sooner)
        have reliable := fetch_attains deeper
          (fun inner text document _ found stands =>
            ih (stack ++ [target]) deeper inner text document found stands) target
        rw [expand_source_afresh_eq]
        exact document_attains reliable contributed

end

theorem fst_expand_eq_afresh (template : Template) (library : Library) (bindings : Bindings) :
    (template.expand library bindings).1 =
      (expandSourceAfresh library bindings [template.source] template.source template.document
        {}).1 := by
  unfold expand
  rw [fst_run_expand_all]
  exact source_outcome_eq_afresh library bindings _ _ _ _ _ rfl

/-- A template expands to a document exactly if the nodes of the template contribute the nodes of
the document. -/
theorem expand_ok_iff (template : Template) (library : Library) (bindings : Bindings)
    (output : Document) : (template.expand library bindings).1 = .ok output ↔
      ∃ depth, ContributeTogether bindings template.source
        (Included library bindings template.source depth) false template.document.nodes
        output.nodes := by
  rw [fst_expand_eq_afresh]
  constructor
  · intro succeeds
    rcases ran : expandSourceAfresh library bindings [template.source] template.source
      template.document {} with ⟨result, later⟩
    rw [ran] at succeeds
    cases succeeds
    exact ⟨_, source_returns bindings [template.source] (.head _) template.source
      template.document _ _ _ ran⟩
  · rintro ⟨depth, contributed⟩
    have apart : ∀ source ∈ [template.source], source = template.source ∨
        ∀ document, ¬Included library bindings template.source depth source document :=
      fun source member => .inl (List.mem_singleton.1 member)
    have reliable := fetch_attains apart
      (fun target loaded document _ found stands => source_attains depth [template.source] apart
        target loaded document found stands) template.source
    let around : Surroundings :=
      ⟨bindings, template.source, fetchAfresh library bindings [template.source] template.source⟩
    obtain ⟨later, ran⟩ := @document_attains around _ reliable template.document output contributed
      {}
    rw [expand_source_afresh_eq]
    exact congrArg Prod.fst ran

end XmlTemplate.Template
