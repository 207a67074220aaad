import XmlTemplate.Proofs.Selector.GrammarExtension
import XmlTemplate.Proofs.Selector.Selection

/-!
Double slashes as a traversal. After a double slash at the beginning, a test whose predicates count
no places is asked of every node of the document once, whatever node it was reached from. So the
selection is what is left of a traversal that lists each node before those below it.
-/

namespace XmlTemplate

open Markup

mutual
/-- A node and all nodes below it, each before its children. -/
def Markup.Node.traversed : Node → Forest
  | .element name attributes children =>
      .element name attributes children :: Forest.traversed children
  | node => [node]

def Markup.Forest.traversed : Forest → Forest
  | [] => []
  | node :: rest => node.traversed ++ Forest.traversed rest
end

theorem Markup.Node.traversed_eq (node : Node) :
    node.traversed = node :: Forest.traversed node.children := by
  cases node <;> rfl

/-- Below an index, routes lead to what they lead to from the node there. -/
theorem Markup.Forest.at_below {nodes : Forest} {index : Nat} {node : Node} {route : Route}
    (here : nodes[index]? = some node) (member : route ∈ node.routes) :
    nodes.at? (index :: route) = node.children.at? route := by
  have below : route ≠ [] := by
    rintro rfl
    simp [Node.mem_routes, Forest.at?] at member
  rw [Forest.at?_cons, here, Option.bind_some, if_neg (by simpa using below)]

mutual
theorem Markup.Node.map_at_routes (node : Node) :
    node.routes.map node.children.at? = (Forest.traversed node.children).map some := by
  cases node with
  | element name attributes children => exact Markup.Forest.map_at_routes_from [] children
  | _ => rfl

/-- Routes in document order lead to the nodes of a traversal. -/
theorem Markup.Forest.map_at_routes_from (front nodes : Forest) :
    (Forest.routesFrom front.length nodes).map (Forest.at? (front ++ nodes)) =
      (Forest.traversed nodes).map some := by
  cases nodes with
  | nil => rfl
  | cons node rest =>
      have here : (front ++ node :: rest)[front.length]? = some node := by simp
      have own : Forest.at? (front ++ node :: rest) [front.length] = some node := by
        rw [Forest.at?_cons, here]
        rfl
      have inside : node.routes.map (fun route =>
            Forest.at? (front ++ node :: rest) (front.length :: route)) =
          (Forest.traversed node.children).map some := by
        rw [← Markup.Node.map_at_routes node]
        apply List.map_congr_left
        exact fun route member => Forest.at_below here member
      have later := Markup.Forest.map_at_routes_from (front ++ [node]) rest
      rw [List.length_append, List.append_assoc] at later
      rw [Forest.routesFrom, Forest.traversed, Node.traversed_eq, List.map_append, List.map_append,
        List.map_cons, List.map_map, own]
      simp only [Function.comp_def]
      rw [inside]
      exact congrArg (some node :: List.map some _ ++ ·) later
end

theorem Markup.Forest.map_at_filter (nodes : Forest) (accepts : Node → Bool) :
    ((Forest.routesFrom 0 nodes).filter fun route => (nodes.at? route).any accepts).map
      nodes.at? = (nodes.traversed.filter accepts).map some := by
  have kept := congrArg (List.filter (Option.any accepts)) (Forest.map_at_routes_from [] nodes)
  rw [List.filter_map, List.filter_map] at kept
  exact kept

theorem Markup.Document.mem_filter_routes_iff (document : Document) (accepts : Node → Bool)
    (route : Route) :
    route ∈ (Forest.routesFrom 0 document.nodes).filter
        (fun route => (document.nodes.at? route).any accepts) ↔
      ∃ node, document.nodes.at? route = some node ∧ accepts node = true := by
  rw [List.mem_filter, Option.any_eq_true]
  refine and_iff_right_of_imp ?_
  rintro ⟨node, found, -⟩
  have member := (document.mem_routes route).2 (.inr ⟨node, found⟩)
  refine (List.mem_cons.1 member).resolve_left ?_
  rintro rfl
  simp [Forest.at?] at found

namespace Selector

def Predicate.countsPlaces : Predicate → Bool
  | .position _ => true
  | .last => true
  | _ => false

def NodeTest.accepts (test : NodeTest) (predicates : List Predicate) (node : Node) : Bool :=
  test.passes node && predicates.all fun predicate => node.element?.any predicate.holdsOn

section
variable (document : Document)

/-- A predicate that counts no places asks the same of a node among whatever others it is. -/
theorem Predicate.satisfied_iff {predicate : Predicate} (placeless : predicate.countsPlaces = false)
    (nodes : Set Route) (route : Route) : predicate.Satisfied document nodes route ↔
      (document.elementAt? route).any predicate.holdsOn = true := by
  have alone : Enumerates [route] {route} := ⟨List.pairwise_singleton _ _, by simp⟩
  have first : [route][0]? = some route := rfl
  have same := Predicate.holds_iff document predicate alone first
  cases predicate with
  | position wanted => cases placeless
  | last => cases placeless
  | _ => exact same.symm

theorem Predicate.mem_survivors_iff {predicates : List Predicate}
    (placeless : ∀ predicate ∈ predicates, predicate.countsPlaces = false)
    (nodes : Set Route) (route : Route) :
    route ∈ predicates.foldl (Predicate.survivors document) nodes ↔ route ∈ nodes ∧
      ∀ predicate ∈ predicates, (document.elementAt? route).any predicate.holdsOn = true := by
  induction predicates generalizing nodes with
  | nil => simp
  | cons predicate later ih =>
      obtain ⟨first, others⟩ := List.forall_mem_cons.1 placeless
      have here : route ∈ predicate.survivors document nodes ↔ route ∈ nodes ∧
          (document.elementAt? route).any predicate.holdsOn = true :=
        and_congr_right fun _ => Predicate.satisfied_iff document first nodes route
      rw [List.foldl_cons, ih others, here, List.forall_mem_cons, and_assoc]

theorem NodeTest.accepts_at_iff {test : NodeTest} {predicates : List Predicate} {route : Route}
    {node : Node} (found : document.nodes.at? route = some node) :
    test.accepts predicates node = true ↔ test.Admits document route ∧
      ∀ predicate ∈ predicates, (document.elementAt? route).any predicate.holdsOn = true := by
  have passes : test.passesAt document route = test.passes node := by
    rw [NodeTest.passesAt, found]
  have element : document.elementAt? route = node.element? := by
    rw [Document.elementAt?, found, Option.bind_some]
  rw [NodeTest.accepts, Bool.and_eq_true, ← passes,
    NodeTest.passes_at_iff document test (.inr ⟨node, found⟩), List.all_eq_true, element]

/-- A step to children from everywhere leads to each node below the document node that is asked
for, and to nothing else. -/
theorem chain_everywhere_iff {test : NodeTest} {predicates : List Predicate}
    (placeless : ∀ predicate ∈ predicates, predicate.countsPlaces = false) (route : Route) :
    Chain document [.everywhere, ⟨.child, test, predicates⟩] [] route ↔
      ∃ node, document.nodes.at? route = some node ∧ test.accepts predicates node = true := by
  have step : ∀ context, route ∈ Step.ends document ⟨.child, test, predicates⟩ context ↔
      (document.Has route ∧ (∃ index, route = context ++ [index]) ∧
        test.Admits document route) ∧ ∀ predicate ∈ predicates,
          (document.elementAt? route).any predicate.holdsOn = true := fun context =>
    Predicate.mem_survivors_iff document placeless _ route
  constructor
  · intro chain
    cases chain with
    | step _ there =>
        cases there with
        | step here last =>
            cases last
            obtain ⟨⟨has, ⟨index, rfl⟩, admits⟩, holds⟩ := (step _).1 here
            obtain ⟨node, found⟩ := has.resolve_left (by simp)
            exact ⟨node, found, (NodeTest.accepts_at_iff document found).2 ⟨admits, holds⟩⟩
  · rintro ⟨node, found, accepts⟩
    obtain ⟨admits, holds⟩ := (NodeTest.accepts_at_iff document found).1 accepts
    rcases List.eq_nil_or_concat' route with rfl | ⟨parent, index, rfl⟩
    · simp [Forest.at?] at found
    · have has : document.Has (parent ++ [index]) := .inr ⟨node, found⟩
      have start : parent ∈ Step.ends document .everywhere [] :=
        ⟨has_parent document has, List.nil_prefix, trivial⟩
      exact .step start (.step ((step parent).2 ⟨⟨has, ⟨index, rfl⟩, admits⟩, holds⟩) (.stop _))

/-- What is matched from everywhere are the accepted routes below the document node. -/
theorem matched_everywhere {test : NodeTest} {predicates : List Predicate}
    (placeless : ∀ predicate ∈ predicates, predicate.countsPlaces = false) :
    matched ⟨[⟨true, [.everywhere, ⟨.child, test, predicates⟩]⟩]⟩ document =
      (Forest.routesFrom 0 document.nodes).filter fun route =>
        (document.nodes.at? route).any (test.accepts predicates) := by
  have asked : ∀ route,
      (Path.reached document ⟨true, [.everywhere, ⟨.child, test, predicates⟩]⟩).contains route =
        (document.nodes.at? route).any (test.accepts predicates) := by
    intro route
    rw [Bool.eq_iff_iff, List.contains_iff_mem, Path.mem_reached_iff,
      chain_everywhere_iff document placeless, Option.any_eq_true]
  have top : (document.nodes.at? []).any (test.accepts predicates) = false := by
    rw [Forest.at?]
    rfl
  rw [matched, document.in_order_eq_filter_routes, List.flatMap_singleton]
  simp only [asked, Document.routes, List.filter_cons, top, Bool.false_eq_true, if_false]

end

theorem parse_everywhere {written conditions : String} {test : NodeTest}
    {predicates : List Predicate} (tested : Grammar.TestForm test written.toList)
    (conditional : Grammar.PredicatesForm predicates conditions.toList) :
    Selector.parse ("//" ++ written ++ conditions) =
      .ok ⟨[⟨true, [.everywhere, ⟨.child, test, predicates⟩]⟩]⟩ := by
  apply Grammar.parse_of_form
  have step := Grammar.spaced_of_form (Grammar.StepForm.child tested conditional)
  have path := Grammar.spaced_of_form (Grammar.PathForm.absolute .double step .none)
  simpa [Step.everywhere] using Grammar.UnionForm.one path

/-- A test after a double slash, with predicates that count no places, selects what is accepted of
all nodes of the document as a traversal lists them. Each node is selected once, wherever it is. -/
theorem everywhere_selects (document : Document) {written conditions : String}
    {test : NodeTest} {predicates : List Predicate}
    (tested : Grammar.TestForm test written.toList)
    (conditional : Grammar.PredicatesForm predicates conditions.toList)
    (placeless : ∀ predicate ∈ predicates, predicate.countsPlaces = false) :
    document.select ("//" ++ written ++ conditions) =
        .ok (document.nodes.traversed.filter (test.accepts predicates)) ∧
      ∃ routes, document.Selects ("//" ++ written ++ conditions) routes ∧
        routes.Pairwise Route.Before ∧ ∀ route, route ∈ routes ↔ ∃ node,
          document.nodes.at? route = some node ∧ test.accepts predicates node = true := by
  have selects := selects_of_parsed document (parse_everywhere tested conditional)
  rw [matched_everywhere document placeless] at selects
  have listed := document.mem_filter_routes_iff (test.accepts predicates)
  rw [document.node_routes_of_not_mem (by simp [listed, Forest.at?])] at selects
  refine ⟨?_, _, selects, (Forest.routes_from_increase document.nodes 0).filter _, listed⟩
  obtain ⟨_, _, _, nodes, selected, found⟩ := selects
  rw [Forest.map_at_filter] at found
  rw [selected, List.map_injective_iff.2 (Option.some_injective Node) found]

def nested : Document :=
  let leaf : Node := .element (.plain "k") [] [.text "1"]
  ⟨[.comment "c", .element (.plain "r") [⟨.plain "id", ""⟩]
    [leaf, .element (.plain "s") [⟨.plain "id", ""⟩]
      [.element (.plain "k") [⟨.plain "id", ""⟩] [], leaf]]]⟩

/-- Elements of any name with an attribute and a child of a certain text. -/
theorem elements_with_child_select :
    Grammar.TestForm .anyElement "*".toList ∧
      Grammar.PredicatesForm [.hasAttribute "id", .child "k" "1"]
        "[@id][k='1']".toList ∧
      (∀ predicate ∈ [Predicate.hasAttribute "id", .child "k" "1"],
        predicate.countsPlaces = false) ∧
      nested.select ("//" ++ "*" ++ "[@id][k='1']") = .ok (nested.nodes.traversed.filter
        (NodeTest.anyElement.accepts [.hasAttribute "id", .child "k" "1"])) ∧
      ∃ routes, nested.Selects ("//" ++ "*" ++ "[@id][k='1']") routes ∧
        routes.Pairwise Route.Before ∧ ∀ route, route ∈ routes ↔ ∃ node,
          nested.nodes.at? route = some node ∧
            NodeTest.anyElement.accepts [.hasAttribute "id", .child "k" "1"] node = true := by
  have tested : Grammar.TestForm .anyElement "*".toList := .star
  have conditional : Grammar.PredicatesForm [.hasAttribute "id", .child "k" "1"]
      "[@id][k='1']".toList := by
    have id : Grammar.QualifiedForm "id" "id".toList :=
      Grammar.form_of_begins (Grammar.qualified_sound (by decide +kernel))
    have k : Grammar.QualifiedForm "k" "k".toList :=
      Grammar.form_of_begins (Grammar.qualified_sound (by decide +kernel))
    have one : Grammar.ComparisonForm false "1" "='1'".toList :=
      Grammar.form_of_begins (Grammar.comparison_sound (by decide +kernel))
    exact .more Grammar.gap_nil (Grammar.spaced_of_form (.hasAttribute id))
      (.more Grammar.gap_nil (Grammar.spaced_of_form (.childIs k one)) .none)
  have placeless : ∀ predicate ∈ [Predicate.hasAttribute "id", .child "k" "1"],
      predicate.countsPlaces = false := by decide
  exact ⟨tested, conditional, placeless, everywhere_selects nested tested conditional placeless⟩

end Selector

end XmlTemplate
