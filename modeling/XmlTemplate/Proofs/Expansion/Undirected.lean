import XmlTemplate.Proofs.Expansion.Moments
import XmlTemplate.Proofs.Selector.DocumentOrder

/-!
Templates without directives. Such a template is copied without some of the attributes of its
elements; nothing else is changed, nothing is obtained from elsewhere, and the copy is a template
that is copied as it is.
-/

namespace XmlTemplate

namespace Markup

mutual
/-- A node with only some of the attributes of the element that it is and of those below it. -/
def Node.keepAttributes (keep : Attribute → Bool) : Node → Node
  | .element name attributes children =>
      .element name (attributes.filter keep) (Forest.keepAttributes keep children)
  | other => other

def Forest.keepAttributes (keep : Attribute → Bool) : Forest → Forest
  | [] => []
  | node :: rest => node.keepAttributes keep :: Forest.keepAttributes keep rest
end

section
variable (keep : Attribute → Bool)

theorem Forest.keep_attributes_eq_map (nodes : Forest) :
    nodes.keepAttributes keep = nodes.map (Node.keepAttributes keep) := by
  induction nodes with
  | nil => rfl
  | cons node rest ih => rw [Forest.keepAttributes, ih, List.map_cons]

theorem Node.children_keep_attributes (node : Node) :
    (node.keepAttributes keep).children = node.children.keepAttributes keep := by
  cases node <;> simp only [Node.keepAttributes, Node.children, Forest.keepAttributes]

/-- The nodes stay where they are. -/
theorem Forest.at?_keep_attributes (nodes : Forest) (route : Route) :
    (nodes.keepAttributes keep).at? route =
      (nodes.at? route).map (Node.keepAttributes keep) := by
  induction route generalizing nodes with
  | nil => rfl
  | cons index rest ih =>
      rw [Forest.at?_cons, Forest.at?_cons, Forest.keep_attributes_eq_map, List.getElem?_map]
      cases nodes[index]? with
      | none => rfl
      | some node =>
          simp only [Option.map_some, Option.bind_some]
          split
          · rfl
          · rw [Node.children_keep_attributes, ih]

mutual
theorem Node.keep_attributes_twice :
    (node : Node) → (node.keepAttributes keep).keepAttributes keep = node.keepAttributes keep
  | .element name attributes children => by
      simp only [Node.keepAttributes, List.filter_filter, Bool.and_self,
        Forest.keep_attributes_twice children]
  | .text _ | .cdata _ | .comment _ | .instruction _ | .doctype _ | .declaration _ => rfl

theorem Forest.keep_attributes_twice :
    (nodes : Forest) → (nodes.keepAttributes keep).keepAttributes keep = nodes.keepAttributes keep
  | [] => rfl
  | node :: rest => by
      simp only [Forest.keepAttributes, Node.keep_attributes_twice node,
        Forest.keep_attributes_twice rest]
end

end

end Markup

namespace Template

open Markup

/-- An attribute that has nothing to do with the templating: it is not in its namespace, declares no
prefix, and its value is not the name of this namespace. -/
def BelongsToPage (item : Attribute) : Prop :=
  item.name.uri ≠ some templateUri ∧ item.name.nsPrefix ≠ some "xmlns" ∧ item.value ≠ templateUri

instance (item : Attribute) : Decidable (BelongsToPage item) := by
  unfold BelongsToPage
  infer_instance

theorem page_attributes_eq (attributes : Attributes) :
    pageAttributes attributes = attributes.filter fun item => BelongsToPage item := by
  apply List.filter_congr
  intro item _
  simp [isTemplating, Attribute.declaresPrefix, BelongsToPage, ← beq_eq_false_iff_ne,
    Bool.and_assoc]

/-- Markup without an element in the namespace of the templating, at any depth. -/
def Undirected (nodes : Forest) : Prop :=
  ∀ route name attributes children,
    nodes.at? route = some (.element name attributes children) → name.uri ≠ some templateUri

section
variable {node : Node} {nodes rest children : Forest} {name : Name} {attributes : Attributes}

theorem undirected_nil : Undirected [] := by
  intro route name attributes children found
  rw [Forest.at?_of_children_nil] at found
  cases found

theorem undirected_cons_iff :
    Undirected (node :: rest) ↔ Undirected [node] ∧ Undirected rest := by
  constructor
  · intro undirected
    refine ⟨?_, fun route name attributes children found => ?_⟩
    · intro route name attributes children found
      refine undirected route name attributes children ?_
      match route, found with
      | [], found => exact found
      | 0 :: below, found => exact found
      | (index + 1) :: below, found => cases found
    · match route, found with
      | [], found => cases found
      | index :: below, found =>
          exact undirected ((index + 1) :: below) name attributes children found
  · rintro ⟨first, later⟩ route name attributes children found
    match route, found with
    | [], found => cases found
    | 0 :: below, found => exact first (0 :: below) name attributes children found
    | (index + 1) :: below, found => exact later (index :: below) name attributes children found

theorem undirected_leaf (leaf : node.element? = none) : Undirected [node] := by
  intro route name attributes children found
  have childless : node.children = [] := by
    cases node with
    | element => cases leaf
    | _ => rfl
  match route, found with
  | [], found => cases found
  | [0], found =>
      cases found
      cases leaf
  | 0 :: index :: below, found =>
      replace found : node.children.at? (index :: below) = _ := found
      rw [childless, Forest.at?_of_children_nil] at found
      cases found
  | (index + 1) :: below, found => cases found

theorem undirected_element_iff : Undirected [.element name attributes children] ↔
    name.uri ≠ some templateUri ∧ Undirected children := by
  constructor
  · intro undirected
    refine ⟨undirected [0] name attributes children rfl, ?_⟩
    intro route inner others below found
    match route, found with
    | [], found => cases found
    | index :: later, found => exact undirected (0 :: index :: later) inner others below found
  · rintro ⟨ordinary, inside⟩ route inner others below found
    match route, found with
    | [], found => cases found
    | [0], found =>
        cases found
        exact ordinary
    | 0 :: index :: later, found => exact inside (index :: later) inner others below found
    | (index + 1) :: later, found => cases found

theorem undirected_keep_attributes {keep : Attribute → Bool} (undirected : Undirected nodes) :
    Undirected (nodes.keepAttributes keep) := by
  intro route name kept below found
  rw [Forest.at?_keep_attributes] at found
  obtain ⟨node, there, same⟩ := Option.map_eq_some_iff.1 found
  cases node with
  | element original attributes children =>
      rw [Node.keepAttributes] at same
      cases same
      exact undirected route name attributes children there
  | _ => cases same

end

mutual
theorem expand_undirected_node (around : Surroundings) (enclosed : Bool) (progress : Progress) :
    (node : Node) → Undirected [node] → around.expandNode enclosed node progress =
      (.ok (.ofNodes [node.keepAttributes fun item => BelongsToPage item]), progress)
  | .element name attributes children, undirected => by
      obtain ⟨different, inside⟩ := undirected_element_iff.1 undirected
      have ordinary : ¬isDirective name = true := by rwa [isDirective, beq_iff_eq]
      have inner := expand_undirected_forest around true progress children inside
      rw [expand_ordinary ordinary, run_bind_ok inner, page_attributes_eq]
      rfl
  | .text _, _ | .cdata _, _ | .comment _, _ | .instruction _, _ | .doctype _, _
  | .declaration _, _ => rfl

theorem expand_undirected_forest (around : Surroundings) (enclosed : Bool) (progress : Progress) :
    (nodes : Forest) → Undirected nodes → around.expandForest enclosed nodes progress =
      (.ok (.ofNodes (nodes.keepAttributes fun item => BelongsToPage item)), progress)
  | [], _ => rfl
  | node :: rest, undirected => by
      obtain ⟨alone, others⟩ := undirected_cons_iff.1 undirected
      have first := expand_undirected_node around enclosed progress node alone
      have later := expand_undirected_forest around enclosed progress rest others
      rw [Surroundings.expandForest, run_bind_ok first, run_bind_ok later]
      rfl
end

def pageOf (document : Document) : Document :=
  ⟨document.nodes.keepAttributes fun item => BelongsToPage item⟩

/-- Whatever source the document has, whatever is bound and wherever others would come from, the
document expands to another one and nothing is obtained. -/
structure ExpandsAlone (document output : Document) : Prop where
  alone (source : SourceId) (library : Library) (bindings : Bindings) :
    (Template.mk source document).expand library bindings =
      (.ok output, { events := [.expanded source 0 0 0, .expanding source bindings.size] })
  included (around : Surroundings) (progress : Progress) :
    around.expandDocument document progress = (.ok output, progress)

theorem expands_alone_of_undirected {document : Document} (undirected : Undirected document.nodes) :
    ExpandsAlone document (pageOf document) := by
  have walks (around : Surroundings) (progress : Progress) :
      around.expandDocument document progress = (.ok (pageOf document), progress) :=
    run_bind_ok (expand_undirected_forest around false progress document.nodes undirected)
  refine ⟨fun source library bindings => ?_, walks⟩
  unfold Template.expand Template.expandAll
  rw [run_bind_ok (run_note _ _), expand_source_eq, run_bind_ok (walks _ _),
    run_bind_ok (run_get _), run_bind_ok (run_note _ _)]
  rfl

/-- A template without directives expands without anything else, and all that is missing in the
output are attributes: those in the namespace of the templating, the declarations of prefixes, and
those whose value is the name of this namespace. Every other node, and every name, stays as it is
and where it is. The output expands to itself. -/
theorem expand_without_directives {document : Document} (undirected : Undirected document.nodes) :
    ExpandsAlone document (pageOf document) ∧
    (∀ route, (pageOf document).nodes.at? route = (document.nodes.at? route).map
      (Node.keepAttributes fun item => BelongsToPage item)) ∧
    ExpandsAlone (pageOf document) (pageOf document) := by
  have again : pageOf (pageOf document) = pageOf document :=
    congrArg Document.mk (Forest.keep_attributes_twice _ document.nodes)
  refine ⟨expands_alone_of_undirected undirected, fun route => ?_, ?_⟩
  · exact Forest.at?_keep_attributes _ document.nodes route
  · have clean : Undirected (pageOf document).nodes := undirected_keep_attributes undirected
    have expands := expands_alone_of_undirected clean
    rwa [again] at expands

namespace Plain

def page : Document :=
  ⟨[.doctype "html", .element (.plain "p")
    [⟨⟨some "xmlns", "t", none⟩, templateUri⟩, ⟨.plain "id", "top"⟩,
      ⟨⟨some "t", "note", some templateUri⟩, "x"⟩, ⟨.plain "class", "wide"⟩]
    [.cdata "a", .element (.plain "br") [⟨.plain "href", templateUri⟩] [], .comment "b"]]⟩

def output : Document :=
  ⟨[.doctype "html", .element (.plain "p") [⟨.plain "id", "top"⟩, ⟨.plain "class", "wide"⟩]
    [.cdata "a", .element (.plain "br") [] [], .comment "b"]]⟩

theorem page_undirected : Undirected page.nodes :=
  undirected_cons_iff.2 ⟨undirected_leaf rfl, undirected_element_iff.2 ⟨by decide,
    undirected_cons_iff.2 ⟨undirected_leaf rfl, undirected_cons_iff.2
      ⟨undirected_element_iff.2 ⟨by decide, undirected_nil⟩, undirected_leaf rfl⟩⟩⟩⟩

theorem page_copied : Undirected page.nodes ∧ ExpandsAlone page output ∧
    (∀ route, output.nodes.at? route = (page.nodes.at? route).map
      (Node.keepAttributes fun item => BelongsToPage item)) ∧ ExpandsAlone output output := by
  have copied : pageOf page = output := by decide
  have expands := expand_without_directives page_undirected
  rw [copied] at expands
  exact ⟨page_undirected, expands⟩

end Plain

end Template
end XmlTemplate
