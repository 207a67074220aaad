import XmlTemplate.Markup.Node
import XmlTemplate.Selector.Basic

/-!
Which nodes a selector matches. A node is addressed by its route: the indices to follow from the top
of the document, of which the empty one is the document node itself. A step goes from each node
reached so far, its predicates counting places among the nodes found from that one; after every
step, and for the union as a whole, the nodes are brought into document order, each once. The main
statement says what that order is: the routes of the document, without those that were not reached.
-/

namespace XmlTemplate

open Markup

/-- The indices to follow from the top of a document. -/
abbrev Route := List Nat

/-- The children of a node; only an element has any. -/
def Markup.Node.children : Node → Forest
  | .element _ _ children => children
  | _ => []

/-- The node at the end of a route; the empty route leads to none of the nodes. -/
def Markup.Forest.at? (nodes : Forest) : Route → Option Node
  | [] => none
  | index :: rest =>
      nodes[index]?.bind fun node =>
        if rest.isEmpty then some node else Forest.at? node.children rest

mutual
def Markup.Node.routes : Node → List Route
  | .element _ _ children => Forest.routesFrom 0 children
  | _ => []

/-- The routes of sibling nodes and their descendants in document order, where the first sibling has
the given index. -/
def Markup.Forest.routesFrom (index : Nat) : Forest → List Route
  | [] => []
  | node :: rest =>
      ([index] :: node.routes.map (index :: ·)) ++ Forest.routesFrom (index + 1) rest
end

def routesBelow (index : Nat) (reached : List Route) : List Route :=
  reached.filterMap fun
    | first :: rest => if first = index then some rest else none
    | [] => none

mutual
/-- The routes of a node's descendants that are among the given ones, in document order. -/
def Markup.Node.routesAmong (reached : List Route) : Node → List Route
  | .element _ _ children => Forest.routesAmong reached 0 children
  | _ => []

/-- The routes of sibling nodes and their descendants that are among the given ones, in document
order, where the first sibling has the given index. -/
def Markup.Forest.routesAmong (reached : List Route) (index : Nat) : Forest → List Route
  | [] => []
  | node :: rest =>
      let inside := routesBelow index reached
      (if inside.contains [] then [[index]] else []) ++
        (node.routesAmong inside).map (index :: ·) ++ Forest.routesAmong reached (index + 1) rest
end

theorem contains_routes_below (index : Nat) (reached : List Route) (route : Route) :
    (routesBelow index reached).contains route = reached.contains (index :: route) := by
  rw [Bool.eq_iff_iff, List.contains_iff_mem, List.contains_iff_mem]
  simp only [routesBelow, List.mem_filterMap]
  constructor
  · rintro ⟨whole, member, left⟩
    split at left
    · split at left
      · simp_all
      · simp at left
    · simp at left
  · intro member
    exact ⟨index :: route, member, by simp⟩

mutual
theorem Markup.Node.routes_among_eq_filter (reached : List Route) (node : Node) :
    node.routesAmong reached = node.routes.filter (reached.contains ·) := by
  cases node with
  | element name attributes children =>
    simpa only [Node.routesAmong, Node.routes] using
      Markup.Forest.routes_among_eq_filter reached 0 children
  | _ => rfl

theorem Markup.Forest.routes_among_eq_filter (reached : List Route) (index : Nat)
    (nodes : Forest) :
    Forest.routesAmong reached index nodes =
      (Forest.routesFrom index nodes).filter (reached.contains ·) := by
  cases nodes with
  | nil => rfl
  | cons node rest =>
    simp only [Forest.routesAmong, Forest.routesFrom, List.filter_append, List.filter_cons,
      List.filter_map, contains_routes_below, Function.comp_def,
      Markup.Node.routes_among_eq_filter (routesBelow index reached) node,
      Markup.Forest.routes_among_eq_filter reached (index + 1) rest]
    split <;> simp
end

namespace Markup.Document

def childrenAt (document : Document) (route : Route) : Forest :=
  if route.isEmpty then document.nodes else (document.nodes.at? route).elim [] Node.children

/-- The routes of all nodes in document order, the document node first. -/
def routes (document : Document) : List Route := [] :: Forest.routesFrom 0 document.nodes

/-- The given routes in document order, each once; those that lead nowhere are left out. -/
def inOrder (document : Document) (reached : List Route) : List Route :=
  (if reached.contains [] then [[]] else []) ++ Forest.routesAmong reached 0 document.nodes

theorem in_order_eq_filter_routes (document : Document) (reached : List Route) :
    document.inOrder reached = document.routes.filter (reached.contains ·) := by
  simp only [inOrder, routes, List.filter_cons, Forest.routes_among_eq_filter]
  split <;> simp

end Markup.Document

namespace Selector

/-- Whether an element goes by a name: with a colon the written name has to agree, without one the
local name. -/
def goesBy (name : String) (element : Element) : Bool :=
  if name.toList.contains ':' then element.name.written == name else element.name.localName == name

def NodeTest.passes : NodeTest → Node → Bool
  | .anyNode, _ => true
  | .text, .text _ => true
  | .text, .cdata _ => true
  | .comment, .comment _ => true
  | .anyElement, .element _ _ _ => true
  | .named localName, .element name _ _ => name.localName == localName
  | .qualified lead localName, .element name _ _ =>
      name.nsPrefix == some lead && name.localName == localName
  | .prefixed lead, .element name _ _ => name.nsPrefix == some lead
  | _, _ => false

/-- Whether the node at the end of a route passes a test. The document node passes as any node
only. -/
def NodeTest.passesAt (test : NodeTest) (document : Document) (route : Route) : Bool :=
  match document.nodes.at? route with
  | some node => test.passes node
  | none => route.isEmpty && test == .anyNode

def Axis.routes (document : Document) (context : Route) : Axis → List Route
  | .child => (List.range (document.childrenAt context).length).map fun index => context ++ [index]
  | .descendantOrSelf =>
      context :: (Forest.routesFrom 0 (document.childrenAt context)).map (context ++ ·)
  | .parent => if context.isEmpty then [] else [context.dropLast]
  | .self => [context]

def Predicate.holdsOn (element : Element) : Predicate → Bool
  | .hasAttribute name => (element.attributes.written? name).isSome
  | .attribute name value negated =>
      match element.attributes.written? name with
      | some actual => (actual == value) != negated
      | none => false
  | .hasChild name => element.children.elements.any (goesBy name)
  | .child name value =>
      element.children.elements.any fun child => goesBy name child && child.text == value
  | .position _ => false
  | .last => false

/-- Whether the node at the end of a route satisfies a predicate, being at a place among so many. -/
def Predicate.holds (document : Document) (predicate : Predicate) (place count : Nat)
    (route : Route) : Bool :=
  match predicate with
  | .position wanted => place == wanted
  | .last => place == count
  | _ => ((document.nodes.at? route).bind Node.element?).any predicate.holdsOn

/-- Keeps the routes whose nodes satisfy a predicate; places count from one. -/
def Predicate.keep (document : Document) (routes : List Route) (predicate : Predicate) :
    List Route :=
  let count := routes.length
  (routes.zipIdx.filter fun (route, index) =>
    predicate.holds document (index + 1) count route).map (·.1)

/-- The nodes that a step reaches from one node, in document order. -/
def Step.reached (document : Document) (step : Step) (context : Route) : List Route :=
  step.predicates.foldl (Predicate.keep document)
    ((step.axis.routes document context).filter (step.test.passesAt document))

def Path.reached (document : Document) (path : Path) : List Route :=
  path.steps.foldl (fun contexts step =>
    document.inOrder (contexts.flatMap (step.reached document))) [[]]

end Selector

/-- The routes of the nodes that a selector matches, in document order and each once. -/
def Selector.matched (selector : Selector) (document : Document) : List Route :=
  document.inOrder (selector.paths.flatMap (Path.reached document))

/-- The nodes at the end of routes. The document node stands for its top-level nodes. -/
def Markup.Document.nodesAt (document : Document) (routes : List Route) : Forest :=
  routes.flatMap fun route =>
    if route.isEmpty then document.nodes else (document.nodes.at? route).toList

def Selector.select (selector : Selector) (document : Document) : Forest :=
  document.nodesAt (selector.matched document)

end XmlTemplate
