import XmlTemplate.Proofs.Selector.Semantics
import XmlTemplate.Selector.Query

/-!
Which nodes a selection consists of. Matched routes are in document order and each is listed once,
but the document node is then replaced by its top-level nodes, and these are not compared with what
was matched besides. The main statement says for which matches the selection is still in order, and
for which it holds every node once.
-/

namespace XmlTemplate

open Markup

namespace Markup.Document

def topRoutes (document : Document) : List Route :=
  (List.range document.nodes.length).map ([·])

/-- The routes of the nodes that routes stand for: the document node stands for its top-level
nodes. -/
def nodeRoutes (document : Document) (routes : List Route) : List Route :=
  routes.flatMap fun route => if route.isEmpty then document.topRoutes else [route]

theorem map_at_top_routes (document : Document) :
    document.topRoutes.map document.nodes.at? = document.nodes.map some := by
  apply List.ext_getElem?
  intro index
  by_cases bound : index < document.nodes.length
  · simp [topRoutes, bound, Forest.at?_cons]
  · simp [topRoutes, bound]

/-- The routes are those of the selected nodes, one for each. -/
theorem map_at_node_routes (document : Document) {routes : List Route}
    (has : ∀ route ∈ routes, document.Has route) :
    (document.nodeRoutes routes).map document.nodes.at? =
      (document.nodesAt routes).map some := by
  induction routes with
  | nil => rfl
  | cons route rest ih =>
      have later := ih fun other member => has other (.tail _ member)
      simp only [nodeRoutes, nodesAt, List.flatMap_cons, List.map_append] at later ⊢
      rw [later]
      apply congrArg (· ++ _)
      rcases has route (.head _) with rfl | ⟨node, found⟩
      · exact document.map_at_top_routes
      · have more : route.isEmpty = false := by
          cases route with
          | nil => simp [Forest.at?] at found
          | cons index rest => rfl
        simp [more, found]

theorem node_routes_of_not_mem (document : Document) {routes : List Route}
    (absent : [] ∉ routes) : document.nodeRoutes routes = routes := by
  induction routes with
  | nil => rfl
  | cons route rest ih =>
      simp only [List.mem_cons, not_or] at absent
      have more : route.isEmpty = false := List.isEmpty_eq_false_iff.2 (Ne.symm absent.1)
      have later := ih absent.2
      simp only [nodeRoutes, List.flatMap_cons, more, Bool.false_eq_true, if_false] at later ⊢
      rw [later, List.singleton_append]

theorem node_routes_nil_cons (document : Document) {rest : List Route} (absent : [] ∉ rest) :
    document.nodeRoutes ([] :: rest) = document.topRoutes ++ rest := by
  have later := document.node_routes_of_not_mem absent
  simp only [nodeRoutes, List.flatMap_cons, List.isEmpty_nil, if_true] at later ⊢
  rw [later]

theorem top_routes_increase (document : Document) :
    document.topRoutes.Pairwise Route.Before := by
  refine List.pairwise_map.2 (List.pairwise_lt_range.imp ?_)
  intro index later less
  exact .rel less

end Markup.Document

/-- A written selector selects the nodes at the ends of the given routes: one node for each, in this
order. -/
def Markup.Document.Selects (document : Document) (written : String) (routes : List Route) :
    Prop :=
  ∃ selector, Selector.parse written = .ok selector ∧
    document.nodeRoutes (selector.matched document) = routes ∧
      ∃ nodes, document.select written = .ok nodes ∧
        routes.map document.nodes.at? = nodes.map some

theorem selects_of_parsed (document : Document) {written : String} {selector : Selector}
    (parsed : Selector.parse written = .ok selector) :
    document.Selects written (document.nodeRoutes (selector.matched document)) := by
  have has : ∀ route ∈ selector.matched document, document.Has route := by
    intro route member
    exact ((document.mem_in_order _ route).1 member).1
  refine ⟨selector, parsed, rfl, selector.select document, ?_, document.map_at_node_routes has⟩
  rw [Document.select, parsed]

/-- The document node comes first, if it is there at all. -/
theorem Route.nil_first {routes : List Route} (increase : routes.Pairwise Route.Before)
    (member : [] ∈ routes) : ∃ rest, routes = [] :: rest ∧ [] ∉ rest := by
  cases routes with
  | nil => cases member
  | cons first rest =>
      have after := (List.pairwise_cons.1 increase).1
      have absent : [] ∉ rest := by
        intro later
        cases after [] later
      rcases List.mem_cons.1 member with rfl | later
      · exact ⟨rest, rfl, absent⟩
      · exact absurd later absent

/-- All top-level nodes come before a route exactly if it leads below the last of them. -/
theorem top_routes_before_iff (document : Document) {route : Route} (has : document.Has route)
    (below : route ≠ []) :
    (∀ top ∈ document.topRoutes, Route.Before top route) ↔
      ∃ rest, rest ≠ [] ∧ route = (document.nodes.length - 1) :: rest := by
  cases route with
  | nil => exact absurd rfl below
  | cons index rest =>
      have bound : index < document.nodes.length := by
        rcases has with same | ⟨node, found⟩
        · cases same
        · by_contra outside
          rw [Forest.at?_cons, List.getElem?_eq_none (by omega)] at found
          cases found
      constructor
      · intro before
        have last : Route.Before [document.nodes.length - 1] (index :: rest) := by
          apply before
          exact List.mem_map_of_mem (List.mem_range.2 (by omega))
        have same : index = document.nodes.length - 1 := by
          cases last with
          | rel less => omega
          | cons => rfl
        subst same
        refine ⟨rest, ?_, rfl⟩
        intro given
        subst given
        exact Route.before_irrefl _ last
      · intro given top member
        rcases given with ⟨inner, nonempty, same⟩
        cases same
        rcases List.mem_map.1 member with ⟨place, inRange, rfl⟩
        have inRange := List.mem_range.1 inRange
        by_cases last : place = document.nodes.length - 1
        · subst last
          rcases List.exists_cons_of_ne_nil nonempty with ⟨first, more, rfl⟩
          exact .cons .nil
        · exact .rel (by omega)

theorem mem_top_routes (document : Document) (index : Nat) :
    [index] ∈ document.topRoutes ↔ index < document.nodes.length := by
  simp [Document.topRoutes]

section

variable (document : Document) {routes : List Route} (increase : routes.Pairwise Route.Before)
  (has : ∀ route ∈ routes, document.Has route)

include increase has

theorem node_routes_increase_iff :
    (document.nodeRoutes routes).Pairwise Route.Before ↔
      ([] ∈ routes → ∀ route ∈ routes, route ≠ [] →
        ∃ rest, rest ≠ [] ∧ route = (document.nodes.length - 1) :: rest) := by
  by_cases member : [] ∈ routes
  · rcases Route.nil_first increase member with ⟨rest, rfl, absent⟩
    have others : ∀ route, route ∈ rest ↔ route ∈ [] :: rest ∧ route ≠ [] := by
      intro route
      constructor
      · intro later
        exact ⟨.tail _ later, fun same => absent (same ▸ later)⟩
      · intro other
        exact (List.mem_cons.1 other.1).resolve_left other.2
    rw [document.node_routes_nil_cons absent, List.pairwise_append]
    constructor
    · intro given _ route known below
      rcases given with ⟨_, _, across⟩
      apply (top_routes_before_iff document (has route known) below).1
      intro top first
      exact across top first route ((others route).2 ⟨known, below⟩)
    · intro inside
      refine ⟨document.top_routes_increase, (List.pairwise_cons.1 increase).2, ?_⟩
      intro top first route later
      rcases (others route).1 later with ⟨known, below⟩
      exact (top_routes_before_iff document (has route known) below).2
        (inside member route known below) top first
  · rw [document.node_routes_of_not_mem member]
    exact ⟨fun _ known => absurd known member, fun _ => increase⟩

theorem node_routes_nodup_iff :
    (document.nodeRoutes routes).Nodup ↔ ([] ∈ routes → ∀ index, [index] ∉ routes) := by
  by_cases member : [] ∈ routes
  · rcases Route.nil_first increase member with ⟨rest, rfl, absent⟩
    have later := (List.pairwise_cons.1 increase).2
    rw [document.node_routes_nil_cons absent, List.nodup_append]
    constructor
    · intro given _ index known
      rcases given with ⟨_, _, apart⟩
      have known := (List.mem_cons.1 known).resolve_left (by simp)
      have inside : [index] ∈ document.topRoutes := by
        rw [mem_top_routes]
        rcases has [index] (.tail _ known) with same | ⟨node, found⟩
        · cases same
        · by_contra outside
          rw [Forest.at?_cons, List.getElem?_eq_none (by omega)] at found
          cases found
      exact apart _ inside _ known rfl
    · intro apart
      refine ⟨Selector.nodup_of_increase document.top_routes_increase,
        Selector.nodup_of_increase later, ?_⟩
      intro top first other known given
      subst given
      rcases List.mem_map.1 first with ⟨index, _, rfl⟩
      exact apart member index (.tail _ known)
  · rw [document.node_routes_of_not_mem member]
    exact ⟨fun _ known => absurd known member, fun _ => Selector.nodup_of_increase increase⟩

end

/-- A written selector selects the nodes of some routes, in the order of the routes. No node is
selected twice, unless the document node is matched together with a top-level node; they are in
document order, unless it is matched together with any node that is not below the last top-level
node. -/
theorem select_ordered_iff (document : Document) (written : String) (selector : Selector)
    (parsed : Selector.parse written = .ok selector) :
    ∃ nodes, document.select written = .ok nodes ∧
      (document.nodeRoutes (selector.matched document)).map document.nodes.at? =
        nodes.map some ∧
      ((document.nodeRoutes (selector.matched document)).Nodup ↔
        ([] ∈ selector.matched document → ∀ index, [index] ∉ selector.matched document)) ∧
      ((document.nodeRoutes (selector.matched document)).Pairwise Route.Before ↔
        ([] ∈ selector.matched document → ∀ route ∈ selector.matched document, route ≠ [] →
          ∃ rest, rest ≠ [] ∧ route = (document.nodes.length - 1) :: rest)) := by
  have increase : (selector.matched document).Pairwise Route.Before :=
    document.in_order_increases _
  have has : ∀ route ∈ selector.matched document, document.Has route := by
    intro route member
    exact ((document.mem_in_order _ route).1 member).1
  refine ⟨selector.select document, ?_, document.map_at_node_routes has,
    node_routes_nodup_iff document increase has, node_routes_increase_iff document increase has⟩
  rw [Document.select, parsed]

/-- The document node and the only element below it: the element is selected twice. -/
theorem select_root_and_child_repeats :
    Selector.parse "/|/a" = .ok ⟨[⟨true, []⟩, ⟨true, [⟨.child, .named "a", []⟩]⟩]⟩ ∧
      ¬(Document.nodeRoutes ⟨[.element (.plain "a") [] []]⟩
        (Selector.matched ⟨[⟨true, []⟩, ⟨true, [⟨.child, .named "a", []⟩]⟩]⟩
          ⟨[.element (.plain "a") [] []]⟩)).Nodup := by
  have parsed : Selector.parse "/|/a" =
      .ok ⟨[⟨true, []⟩, ⟨true, [⟨.child, .named "a", []⟩]⟩]⟩ := by decide +kernel
  rcases select_ordered_iff ⟨[.element (.plain "a") [] []]⟩ "/|/a" _ parsed with ⟨_, _, _, once, _⟩
  refine ⟨parsed, ?_⟩
  rw [once]
  intro apart
  exact apart (by decide +kernel) 0 (by decide +kernel)

/-- A selection need not hold every node once and in document order. -/
theorem select_not_always_ordered :
    ¬∀ (document : Document) (written : String) (selector : Selector),
      Selector.parse written = .ok selector →
        (document.nodeRoutes (selector.matched document)).Pairwise Route.Before := by
  intro ordered
  have parsed : Selector.parse "/|/a" =
      .ok ⟨[⟨true, []⟩, ⟨true, [⟨.child, .named "a", []⟩]⟩]⟩ := by decide +kernel
  have increase := ordered ⟨[.element (.plain "a") [] []]⟩ "/|/a" _ parsed
  have shown : Document.nodeRoutes ⟨[.element (.plain "a") [] []]⟩
      (Selector.matched ⟨[⟨true, []⟩, ⟨true, [⟨.child, .named "a", []⟩]⟩]⟩
        ⟨[.element (.plain "a") [] []]⟩) = [[0], [0]] := by decide +kernel
  rw [shown] at increase
  exact Route.before_irrefl [0] ((List.pairwise_cons.1 increase).1 [0] (.head _))

end XmlTemplate
