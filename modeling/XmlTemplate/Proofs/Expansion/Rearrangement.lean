import XmlTemplate.Proofs.Expansion.Contributions
import XmlTemplate.Proofs.Expansion.Cycles
import XmlTemplate.Proofs.Expansion.Untemplated

/-!
What an element in the output is made of, and where an `attr` directive may stand. Its edit concerns
the element around it, so among siblings only its place relative to other edits matters. Without an
element around it in its own source it is an error, wherever that source is included.
-/

namespace XmlTemplate.Template

open Markup

def nodeDirective? : Node → Option DirectiveKind
  | .element name _ _ => directiveOf? name
  | _ => none

/-- An `attr` directive was moved past the next sibling, which is neither another one nor a
condition, at one place of the markup. -/
inductive Swapped : Forest → Forest → Prop
  | past {attr other : Node} (rest : Forest) (edits : nodeDirective? attr = some .attr)
      (noEdit : nodeDirective? other ≠ some .attr)
      (noCondition : nodeDirective? other ≠ some .condition) :
      Swapped (attr :: other :: rest) (other :: attr :: rest)
  | behind (node : Node) {rest others : Forest} (later : Swapped rest others) :
      Swapped (node :: rest) (node :: others)
  | inside (name : Name) (attributes : Attributes) {children inner : Forest} (rest : Forest)
      (deeper : Swapped children inner) :
      Swapped (.element name attributes children :: rest) (.element name attributes inner :: rest)

/-- Directives `attr` were moved past siblings, forwards or backwards and as often as one likes. -/
def Rearranged : Forest → Forest → Prop := Relation.EqvGen Swapped

/-- The other library has every document of this one, rearranged. -/
def HasRearranged (library other : Library) : Prop :=
  ∀ source loaded, library.load source = .ok loaded →
    ∃ document, other.load source = .ok document ∧ Rearranged loaded.nodes document.nodes

section
variable {bindings : Bindings} {source : SourceId} {included : SourceId → Document → Prop}
  {enclosed : Bool}

theorem edits_of_bystander {other : Node} (noEdit : nodeDirective? other ≠ some .attr)
    (noCondition : nodeDirective? other ≠ some .condition) : editsOf bindings other = [] := by
  cases other with
  | element name attributes children =>
      unfold editsOf
      cases called : directiveOf? name with
      | none => rfl
      | some kind =>
          cases kind with
          | attr => exact absurd called noEdit
          | condition => exact absurd called noCondition
          | _ => rfl
  | _ => rfl

theorem edits_of_swapped {nodes others : Forest} (swapped : Swapped nodes others) :
    editsAmong bindings nodes = editsAmong bindings others := by
  induction swapped with
  | past rest edits noEdit noCondition =>
      simp only [editsAmong, edits_of_bystander noEdit noCondition, List.nil_append]
  | behind node later ih => rw [editsAmong, editsAmong, ih]
  | inside name attributes rest deeper ih =>
      rw [editsAmong, editsAmong]
      unfold editsOf
      rw [ih]

theorem contribution_of_attr {attr : Node} {nodes : Forest}
    (edits : nodeDirective? attr = some .attr)
    (rule : Contributes bindings source included enclosed attr nodes) : nodes = [] := by
  cases rule with
  | attr called named => rfl
  | leaf childless =>
      unfold nodeDirective? at edits
      cases attr with
      | element name attributes children => cases childless
      | _ => cases edits
  | ordinary plain within =>
      have called : directiveOf? _ = none := directive_of_ordinary plain
      exact absurd (called.symm.trans edits) nofun
  | holds called active within => exact absurd (called.symm.trans edits) nofun
  | fails called inactive => rfl
  | text called => exact absurd (called.symm.trans edits) nofun
  | dynamic called => exact absurd (called.symm.trans edits) nofun
  | inclusion called refers stands selected => exact absurd (called.symm.trans edits) nofun

/-- An element contributes the same for other children with the same edits and contributions. -/
theorem contribution_of_inner {name : Name} {attributes : Attributes}
    {children inner nodes : Forest}
    (edits : editsAmong bindings children = editsAmong bindings inner)
    (same : ∀ enclosed nodes, ContributeTogether bindings source included enclosed children nodes →
      ContributeTogether bindings source included enclosed inner nodes)
    (rule : Contributes bindings source included enclosed (.element name attributes children)
      nodes) :
    Contributes bindings source included enclosed (.element name attributes inner) nodes := by
  cases rule with
  | leaf childless => cases childless
  | ordinary plain within =>
      rw [edits]
      exact .ordinary plain (same _ _ within)
  | holds called active within => exact .holds called active (same _ _ within)
  | fails called inactive => exact .fails called inactive
  | text called => exact .text called
  | dynamic called => exact .dynamic called
  | attr called named => exact .attr called named
  | inclusion called refers stands selected => exact .inclusion called refers stands selected

theorem contribution_of_swapped {nodes others : Forest} (swapped : Swapped nodes others) :
    ∀ enclosed output, ContributeTogether bindings source included enclosed nodes output ↔
      ContributeTogether bindings source included enclosed others output := by
  induction swapped with
  | @past attr other rest edits noEdit noCondition =>
      intro enclosed output
      simp only [contribute_cons_iff]
      constructor
      · rintro ⟨_, _, first, ⟨second, later, next, rest, rfl⟩, rfl⟩
        cases contribution_of_attr edits first
        exact ⟨second, later, next, ⟨[], later, first, rest, rfl⟩, rfl⟩
      · rintro ⟨second, _, next, ⟨_, later, first, rest, rfl⟩, rfl⟩
        cases contribution_of_attr edits first
        exact ⟨[], second ++ later, first, ⟨second, later, next, rest, rfl⟩, rfl⟩
  | behind node later ih =>
      intro enclosed output
      simp only [contribute_cons_iff, ih]
  | inside name attributes rest deeper ih =>
      intro enclosed output
      have edits := @edits_of_swapped bindings _ _ deeper
      simp only [contribute_cons_iff]
      constructor
      · rintro ⟨first, others, rule, later, rfl⟩
        have moved := contribution_of_inner edits (fun enclosed nodes => (ih enclosed nodes).1) rule
        exact ⟨first, others, moved, later, rfl⟩
      · rintro ⟨first, others, rule, later, rfl⟩
        have moved := contribution_of_inner edits.symm
          (fun enclosed nodes => (ih enclosed nodes).2) rule
        exact ⟨first, others, moved, later, rfl⟩

theorem contribution_of_rearranged {nodes others : Forest} (rearranged : Rearranged nodes others)
    {output : Forest} : ContributeTogether bindings source included enclosed nodes output ↔
      ContributeTogether bindings source included enclosed others output := by
  induction rearranged with
  | rel _ _ swapped => exact contribution_of_swapped swapped enclosed output
  | refl => rfl
  | symm _ _ _ ih => exact ih.symm
  | trans _ _ _ _ _ first second => exact first.trans second

end

theorem included_of_rearranged {library other : Library} (has : HasRearranged library other)
    {bindings : Bindings} {root : SourceId} (depth : Nat) : ∀ target document,
      Included library bindings root depth target document →
        Included other bindings root depth target document := by
  induction depth with
  | zero => exact nofun
  | succ depth ih =>
      rintro target document ⟨different, loaded, found, contributed⟩
      obtain ⟨moved, foundMoved, rearranged⟩ := has target loaded found
      have wider := forest_widens ih false loaded.nodes _ contributed
      exact ⟨different, moved, foundMoved, (contribution_of_rearranged rearranged).1 wider⟩

theorem expand_of_rearranged {library other : Library} (has : HasRearranged library other)
    {source : SourceId} {document moved output : Document} {bindings : Bindings}
    (rearranged : Rearranged document.nodes moved.nodes)
    (expanded : ((Template.mk source document).expand library bindings).1 = .ok output) :
    ((Template.mk source moved).expand other bindings).1 = .ok output := by
  obtain ⟨depth, contributed⟩ := (expand_ok_iff _ library bindings output).1 expanded
  apply (expand_ok_iff _ other bindings output).2
  have wider := forest_widens (included_of_rearranged has depth) false document.nodes _ contributed
  exact ⟨depth, (contribution_of_rearranged rearranged).1 wider⟩

def refusalOutside (bindings : Bindings) (source : SourceId) (attributes : Attributes) : Failure :=
  match (Setting.ofAttributes attributes "name").require bindings .attr source with
  | .error failure => failure
  | .ok _ => .attrOutsideElement source

theorem run_attr_outside {around : Surroundings} {attributes : Attributes} (progress : Progress) :
    around.runAttr false (.ofAttributes attributes "name") (.ofAttributes attributes "value")
        progress =
      (.error (refusalOutside around.bindings around.source attributes), progress) := by
  unfold Surroundings.runAttr refusalOutside
  cases (Setting.ofAttributes attributes "name").require around.bindings .attr around.source with
  | error failure => rfl
  | ok value => rfl

theorem visit_attr_outside {provider : Provider} {bindings : Bindings} {moment : Moment}
    {name : Name} {attributes : Attributes} {children : Forest}
    (outside : moment.frame.around = []) (called : directiveOf? name = some .attr) :
    (moment.visit provider bindings (.element name attributes children)).failure =
      some (refusalOutside bindings moment.frame.source attributes) := by
  have special := special_of_directive called
  rw [directive_of_special special] at called
  have decoded : Directive.decode name.localName attributes moment.frame.source =
      .ok (.ofKind attributes .attr) := by simp only [Directive.decode, called]
  rw [visit_directive special decoded, outside]
  simp only [Directive.ofKind, moveOfDirective, Moment.perform, List.isEmpty_nil, Bool.not_true]
  rw [take_note, take_error (run_attr_outside _)]
  rfl

theorem outside_fails {template : Template} {library : Library} {bindings : Bindings}
    {moment : Moment} (reached : Reached template library bindings moment)
    (going : moment.failure = none) (outside : moment.frame.around = []) {name : Name}
    {attributes : Attributes} {children rest : Forest}
    (todo : moment.frame.todo = .element name attributes children :: rest)
    (called : directiveOf? name = some .attr) :
    (template.expand library bindings).1 =
      .error (refusalOutside bindings moment.frame.source attributes) := by
  obtain ⟨⟨source, around, got, nodes⟩, waiting, progress, failure⟩ := moment
  cases going
  cases outside
  cases todo
  let before : Moment := ⟨⟨source, [], got, rest⟩, waiting, progress, none⟩
  have visited := @visit_attr_outside (.ofLibrary library) bindings before name attributes children
    rfl called
  exact error_of_reached (reached.tail ⟨rfl, List.nil_prefix⟩) visited

def Surroundings.Obtains (around : Surroundings) (target : SourceId) (document : Document) : Prop :=
  ∃ written progress later, around.fetch written target progress = (.ok document, later)

theorem element_returns (around : Surroundings) (enclosed : Bool) {name : Name}
    (ordinary : isDirective name = false) (attributes : Attributes) (children : Forest) :
    Returns (around.expandNode enclosed (.element name attributes children)) fun yield =>
      ∃ parts, List.Forall₂
          (Contributes around.bindings around.source around.Obtains true) children parts ∧
        yield = .ofNodes [.element name
          ((editsAmong around.bindings children).foldl Edit.apply (pageAttributes attributes))
          parts.flatten] := by
  have fetched : ∀ written target, Returns (around.fetch written target)
      (around.Obtains target) := fun written target progress document later ran =>
    ⟨written, progress, later, ran⟩
  rw [expand_ordinary (Bool.eq_false_iff.1 ordinary)]
  refine returns_bind (forest_returns fetched true children) ?_
  rintro inner ⟨edits, nodes⟩
  obtain ⟨parts, each, same⟩ := contribute_together_iff.1 nodes
  refine returns_pure ⟨parts, each, ?_⟩
  rw [edits, same]

/-- What becomes of ordinary elements and of `attr` directives. Where an ordinary element of a
source is expanded, it keeps its name, its attributes of the page take the edits that are made below
it through conditions that hold, in the order in which they are written, and its children are what
each child contributes, one after another. By the same rules the whole template gives its output. So
an `attr` directive may be moved past siblings that are neither edits nor conditions, in the
template and in every source. One that is reached without an element around it in its own source is
refused. -/
theorem elements_expanded :
    (∀ (around : Surroundings) (enclosed : Bool) (name : Name) (attributes : Attributes)
        (children : Forest) (progress later : Progress) (yield : Yield),
      isDirective name = false →
      around.expandNode enclosed (.element name attributes children) progress =
          (.ok yield, later) →
        ∃ parts, List.Forall₂
            (Contributes around.bindings around.source around.Obtains true) children parts ∧
          yield = .ofNodes [.element name
            ((editsAmong around.bindings children).foldl Edit.apply (pageAttributes attributes))
            parts.flatten]) ∧
    (∀ (template : Template) (library : Library) (bindings : Bindings) (output : Document),
      (template.expand library bindings).1 = .ok output ↔
        ∃ depth, ContributeTogether bindings template.source
          (Included library bindings template.source depth) false template.document.nodes
          output.nodes) ∧
    (∀ (source : SourceId) (document moved : Document) (library other : Library)
        (bindings : Bindings) (output : Document),
      Rearranged document.nodes moved.nodes → HasRearranged library other →
      HasRearranged other library →
        (((Template.mk source document).expand library bindings).1 = .ok output ↔
          ((Template.mk source moved).expand other bindings).1 = .ok output)) ∧
    (∀ (template : Template) (library : Library) (bindings : Bindings) (moment : Moment)
        (name : Name) (attributes : Attributes) (children rest : Forest),
      Reached template library bindings moment → moment.failure = none →
      moment.frame.around = [] →
      moment.frame.todo = .element name attributes children :: rest →
      directiveOf? name = some .attr →
        (template.expand library bindings).1 =
          .error (refusalOutside bindings moment.frame.source attributes)) := by
  refine ⟨?_, expand_ok_iff, ?_, ?_⟩
  · intro around enclosed name attributes children progress later yield ordinary expanded
    exact element_returns around enclosed ordinary attributes children progress yield later expanded
  · intro source document moved library other bindings output rearranged has back
    have backwards : Rearranged moved.nodes document.nodes := .symm _ _ rearranged
    exact ⟨expand_of_rearranged has rearranged, expand_of_rearranged back backwards⟩
  · intro template library bindings moment name attributes children rest reached going outside todo
      called
    exact outside_fails reached going outside todo called

namespace Greeting

def late : Document :=
  ⟨[.element (.plain "p") [⟨⟨some "xmlns", "t", none⟩, templateUri⟩]
    [directive "include" [("src", "part.xml")],
      directive "attr" [("name", "id"), ("valuevar", "title")],
      directive "dynamic" [("var", "body")]]]⟩

theorem late_rearranged : Rearranged page.document.nodes late.nodes := by
  have first : nodeDirective? (directive "attr" [("name", "id"), ("valuevar", "title")]) =
      some .attr := by decide
  exact .rel _ _ (.inside _ _ _ (.past _ first (by decide) (by decide)))

def shell : Template where
  source := .ofPath "page.xml"
  document := ⟨[.element (.plain "p") [] [directive "include" [("src", "loose.xml")]]]⟩

def loose : Document :=
  ⟨[.element ⟨some "t", "attr", some templateUri⟩
    [⟨⟨some "xmlns", "t", none⟩, templateUri⟩, ⟨.plain "name", "id"⟩] []]⟩

def looseSources : Library :=
  .inMemory [(.ofPath "loose.xml", "<t:attr xmlns:t=\"" ++ templateUri ++ "\" name=\"id\"/>")]

theorem loose_reached : ∃ moment, Reached shell looseSources .empty moment ∧
    moment.failure = none ∧ moment.frame = .ofSource (.ofPath "loose.xml") loose.nodes := by
  have found : looseSources.load (.ofPath "loose.xml") = .ok loose := by decide +kernel
  let opened : OpenElement := ⟨.plain "p", [], .none, []⟩
  let inside : Moment :=
    ⟨⟨shell.source, [opened], .none, [directive "include" [("src", "loose.xml")]]⟩, [],
      (Moment.first shell .empty).progress, none⟩
  have enters : (Moment.first shell .empty).next (.ofLibrary looseSources) .empty = some inside :=
    rfl
  have asks : inside.next (.ofLibrary looseSources) .empty =
      some ((Moment.log { inside with frame := { inside.frame with todo := [] } }
        (.running .inclusion shell.source)).fetch (.ofLibrary looseSources) "loose.xml"
          (.ofPath "loose.xml") defaultSelector) := by
    rfl
  have loads := asks
  unfold Moment.fetch at loads
  rw [if_neg (by decide)] at loads
  dsimp only [Provider.ofLibrary] at loads
  rw [found] at loads
  exact ⟨_, (Relation.ReflTransGen.single ⟨enters, List.nil_prefix⟩).tail ⟨loads, List.nil_prefix⟩,
    rfl, rfl⟩

def around : Surroundings := surroundings sources bindings [] page.source

def declared : Attributes := [⟨⟨some "xmlns", "t", none⟩, templateUri⟩]

def children : Forest :=
  [directive "attr" [("name", "id"), ("valuevar", "title")],
    directive "include" [("src", "part.xml")], directive "dynamic" [("var", "body")]]

def dressed : Attributes := [⟨.plain "class", "wide"⟩, ⟨.plain "id", "none"⟩]

def undressing : Forest :=
  [.element ⟨some "t", "when", some templateUri⟩ [⟨.plain "var", "title"⟩]
      [directive "attr" [("name", "class")]],
    directive "attr" [("name", "id"), ("valuevar", "title")]]

theorem greeting_element_expanded :
    page.document.nodes = [.element (.plain "p") declared children] ∧
    (∃ parts later, List.Forall₂ (Contributes bindings page.source around.Obtains true) children
        parts ∧
      around.expandNode false (.element (.plain "p") declared children) {} =
        (.ok (.ofNodes [.element (.plain "p") [⟨.plain "id", "Hello"⟩] parts.flatten]), later)) ∧
    (∃ parts later, List.Forall₂ (Contributes bindings page.source around.Obtains true) undressing
        parts ∧
      around.expandNode false (.element (.plain "p") dressed undressing) {} =
        (.ok (.ofNodes [.element (.plain "p") [⟨.plain "id", "Hello"⟩] parts.flatten]), later)) ∧
    (∃ depth, ContributeTogether bindings page.source
      (Included sources bindings page.source depth) false page.document.nodes output.nodes) ∧
    ((Template.mk page.source late).expand sources bindings).1 = .ok output ∧
    (shell.expand looseSources .empty).1 =
      .error (.attrOutsideElement (.ofPath "loose.xml")) := by
  obtain ⟨elements, outputs, rearranged, outside⟩ := elements_expanded
  have expanded : (page.expand sources bindings).1 = .ok output := by decide +kernel
  have each : ∀ attributes children edited,
      (around.expandNode false (.element (.plain "p") attributes children) {}).1.isOk = true →
      (editsAmong bindings children).foldl Edit.apply (pageAttributes attributes) = edited →
        ∃ parts later, List.Forall₂ (Contributes bindings page.source around.Obtains true) children
            parts ∧
          around.expandNode false (.element (.plain "p") attributes children) {} =
            (.ok (.ofNodes [.element (.plain "p") edited parts.flatten]), later) := by
    intro attributes children edited succeeds same
    rcases ran : around.expandNode false (.element (.plain "p") attributes children) {} with
      ⟨outcome, later⟩
    rw [ran] at succeeds
    cases outcome with
    | error failure => cases succeeds
    | ok yield =>
        obtain ⟨parts, given, whole⟩ := elements _ _ _ _ _ _ _ _ (by decide) ran
        refine ⟨parts, later, given, ?_⟩
        rw [whole, ← same]
        rfl
  refine ⟨rfl, each declared children _ (by decide +kernel) rfl,
    each dressed undressing _ (by decide +kernel) rfl,
    (outputs page sources bindings output).1 expanded, ?_, ?_⟩
  · have all : HasRearranged sources sources := fun _ loaded found => ⟨loaded, found, .refl _⟩
    exact (rearranged page.source page.document late sources sources bindings output
      late_rearranged all all).1 expanded
  · obtain ⟨moment, reached, going, frame⟩ := loose_reached
    have refused := outside shell looseSources .empty moment ⟨some "t", "attr", some templateUri⟩
      [⟨⟨some "xmlns", "t", none⟩, templateUri⟩, ⟨.plain "name", "id"⟩] [] [] reached going
      (by rw [frame]; rfl) (by rw [frame]; rfl) (by decide)
    rw [refused, frame]
    decide +kernel

end Greeting

end XmlTemplate.Template
