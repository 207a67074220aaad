import XmlTemplate.Proofs.Selector.DocumentOrder

/-!
What selectors mean. A step from one node has candidates, the nodes on its axis that pass its test;
each predicate leaves those of them that satisfy it, where places are counted among the nodes left
by the predicates before it. A path is a chain of such steps. The main statement is that matching
finds exactly the nodes at the ends of these chains, each once and in document order.
-/

namespace XmlTemplate

open Markup

namespace Markup.Document

def elementAt? (document : Document) (route : Route) : Option Element :=
  (document.nodes.at? route).bind Node.element?

end Markup.Document

/-- A name has this spelling: the first colon ends the prefix if there is text on both sides of
it. -/
inductive Markup.Name.Spells : Name → String → Prop
  | prefixed {lead base : String} {uri : Option String} (some_lead : lead ≠ "")
      (some_base : base ≠ "") (first : ':' ∉ lead.toList) :
      Name.Spells ⟨some lead, base, uri⟩ (lead ++ ":" ++ base)
  | whole {written : String} {uri : Option String}
      (unsplit : ∀ lead base, lead ≠ "" → base ≠ "" → ':' ∉ lead.toList →
        written ≠ lead ++ ":" ++ base) : Name.Spells ⟨none, written, uri⟩ written

def Markup.Attributes.Gives (attributes : Attributes) (written value : String) : Prop :=
  ∃ front item back, attributes = front ++ item :: back ∧ item.name.Spells written ∧
    item.value = value ∧ ∀ other ∈ front, ¬other.name.Spells written

/-- The name is the local name of the element, or its prefix and local name. A name with a colon is
a local name only where there is no prefix. -/
def Markup.Element.GoesBy (element : Element) (name : String) : Prop :=
  element.name.localName = name ∧ (':' ∈ name.toList → element.name.nsPrefix = none) ∨
    ∃ lead, element.name.nsPrefix = some lead ∧ name = lead ++ ":" ++ element.name.localName

namespace Selector

def Axis.Relates (context node : Route) : Axis → Prop
  | .child => ∃ index, node = context ++ [index]
  | .descendantOrSelf => context <+: node
  | .parent => ∃ index, context = node ++ [index]
  | .self => node = context

def NodeTest.Admits (document : Document) (route : Route) : NodeTest → Prop
  | .anyNode => True
  | .text => ∃ content, document.nodes.at? route = some (.text content) ∨
      document.nodes.at? route = some (.cdata content)
  | .comment => ∃ content, document.nodes.at? route = some (.comment content)
  | .anyElement => ∃ element, document.elementAt? route = some element
  | .named localName => ∃ element, document.elementAt? route = some element ∧
      element.name.localName = localName
  | .qualified lead localName => ∃ element, document.elementAt? route = some element ∧
      element.name.nsPrefix = some lead ∧ element.name.localName = localName
  | .prefixed lead => ∃ element, document.elementAt? route = some element ∧
      element.name.nsPrefix = some lead

/-- The number of nodes among the given ones up to a node, in document order: its place, if it is
one of them. -/
noncomputable def place (nodes : Set Route) (route : Route) : Nat :=
  {other ∈ nodes | ¬Route.Before route other}.ncard

/-- A node satisfies a predicate, being one of the given nodes. -/
def Predicate.Satisfied (document : Document) (nodes : Set Route) (route : Route) :
    Predicate → Prop
  | .position wanted => place nodes route = wanted
  | .last => place nodes route = nodes.ncard
  | .hasAttribute name => ∃ element, document.elementAt? route = some element ∧
      ∃ value, element.attributes.Gives name value
  | .attribute name value negated => ∃ element, document.elementAt? route = some element ∧
      ∃ actual, element.attributes.Gives name actual ∧ (actual = value ↔ negated = false)
  | .hasChild name => ∃ element, document.elementAt? route = some element ∧
      ∃ child ∈ element.children.elements, child.GoesBy name
  | .child name value => ∃ element, document.elementAt? route = some element ∧
      ∃ child ∈ element.children.elements, child.GoesBy name ∧ child.text = value

def Step.candidates (document : Document) (step : Step) (context : Route) : Set Route :=
  {node | document.Has node ∧ step.axis.Relates context node ∧ step.test.Admits document node}

def Predicate.survivors (document : Document) (nodes : Set Route) (predicate : Predicate) :
    Set Route :=
  {node ∈ nodes | predicate.Satisfied document nodes node}

/-- The nodes that a step leads to from one node: the candidates that survive its predicates, taken
from left to right. -/
def Step.ends (document : Document) (step : Step) (context : Route) : Set Route :=
  step.predicates.foldl (Predicate.survivors document) (step.candidates document context)

/-- Steps lead from one node to another through nodes in between. -/
inductive Chain (document : Document) : List Step → Route → Route → Prop
  | stop (node : Route) : Chain document [] node node
  | step {first : Step} {later : List Step} {context middle node : Route}
      (here : middle ∈ first.ends document context) (there : Chain document later middle node) :
      Chain document (first :: later) context node

theorem NodeTest.passes_at_iff (document : Document) (test : NodeTest) {route : Route}
    (has : document.Has route) :
    test.passesAt document route = true ↔ test.Admits document route := by
  rcases has with rfl | ⟨node, found⟩
  · have nothing : document.nodes.at? [] = none := by rw [Forest.at?]
    cases test <;> simp [NodeTest.passesAt, NodeTest.Admits, Document.elementAt?, nothing]
  · cases test <;> cases node <;>
      simp [NodeTest.passesAt, NodeTest.passes, NodeTest.Admits, Document.elementAt?, found,
        Node.element?, Bool.and_eq_true]

theorem has_below_iff (document : Document) (context : Route) (index : Nat) (rest : Route) :
    document.Has (context ++ index :: rest) ↔
      ((document.childrenAt context).at? (index :: rest)).isSome := by
  have more : context ++ index :: rest ≠ [] := by simp
  rw [Document.Has, ← Option.isSome_iff_exists, Forest.at?_append]
  simp [more]

theorem has_parent (document : Document) {node : Route} {index : Nat}
    (has : document.Has (node ++ [index])) : document.Has node := by
  cases node with
  | nil => exact .inl rfl
  | cons first rest =>
      rw [has_below_iff] at has
      rcases found : document.nodes.at? (first :: rest) with _ | node
      · simp [Document.childrenAt, found, Forest.at?_of_children_nil] at has
      · exact .inr ⟨node, found⟩

theorem Axis.mem_routes (document : Document) (axis : Axis) {context : Route}
    (has : document.Has context) (node : Route) :
    node ∈ axis.routes document context ↔ document.Has node ∧ axis.Relates context node := by
  cases axis with
  | child =>
      simp only [Axis.routes, Axis.Relates, List.mem_map, List.mem_range]
      constructor
      · intro given
        rcases given with ⟨index, bound, rfl⟩
        refine ⟨?_, index, rfl⟩
        rw [has_below_iff]
        simpa [Forest.at?_cons] using bound
      · intro given
        rcases given with ⟨there, index, rfl⟩
        rw [has_below_iff] at there
        exact ⟨index, by simpa [Forest.at?_cons] using there, rfl⟩
  | descendantOrSelf =>
      simp only [Axis.routes, Axis.Relates, List.mem_cons, List.mem_map, Forest.mem_routes_from,
        Nat.zero_add]
      constructor
      · intro given
        rcases given with rfl | ⟨below, ⟨index, rest, rfl, found⟩, rfl⟩
        · exact ⟨has, List.prefix_refl _⟩
        · exact ⟨(has_below_iff _ _ _ _).2 found, List.prefix_append _ _⟩
      · intro given
        rcases given with ⟨there, below, rfl⟩
        cases below with
        | nil => exact .inl (List.append_nil _)
        | cons index rest =>
            exact .inr ⟨index :: rest, ⟨index, rest, rfl, (has_below_iff _ _ _ _).1 there⟩, rfl⟩
  | parent =>
      simp only [Axis.routes, Axis.Relates]
      rcases List.eq_nil_or_concat' context with rfl | ⟨parent, index, rfl⟩
      · simp
      · have above := has_parent document has
        simp only [List.isEmpty_iff, List.append_eq_nil_iff, List.cons_ne_nil, and_false, if_false,
          List.dropLast_concat, List.mem_singleton]
        constructor
        · intro given
          subst given
          exact ⟨above, index, rfl⟩
        · intro given
          rcases given with ⟨_, other, same⟩
          exact (List.append_inj_left' same rfl).symm
  | self =>
      simp only [Axis.routes, Axis.Relates, List.mem_singleton]
      constructor
      · intro given
        subst given
        exact ⟨has, rfl⟩
      · intro given
        rcases given with ⟨_, same⟩
        exact same

theorem Axis.routes_increase (document : Document) (axis : Axis) (context : Route) :
    (axis.routes document context).Pairwise Route.Before := by
  cases axis with
  | child =>
      refine List.pairwise_map.2 (List.pairwise_lt_range.imp ?_)
      intro index later less
      exact Route.before_of_index_lt context less [] []
  | descendantOrSelf =>
      refine List.pairwise_cons.2 ⟨?_, ?_⟩
      · intro node member
        rcases List.mem_map.1 member with ⟨below, found, rfl⟩
        rcases (Forest.mem_routes_from _ _ _).1 found with ⟨index, rest, rfl, _⟩
        exact Route.before_below context _ rest
      · refine List.pairwise_map.2 ((Forest.routes_from_increase _ 0).imp ?_)
        intro one other before
        exact Route.before_append context before
  | parent =>
      simp only [Axis.routes]
      split <;> simp
  | self => simp [Axis.routes]

/-- The routes are those of the given nodes in document order. -/
structure Enumerates (routes : List Route) (nodes : Set Route) : Prop where
  increase : routes.Pairwise Route.Before
  mem_iff : ∀ route, route ∈ routes ↔ route ∈ nodes

theorem nodup_of_increase {routes : List Route} (increase : routes.Pairwise Route.Before) :
    routes.Nodup := by
  refine increase.imp ?_
  intro one other before given
  subst given
  exact Route.before_irrefl one before

theorem ncard_of_nodup {routes : List Route} (nodup : routes.Nodup) :
    {route | route ∈ routes}.ncard = routes.length := by
  have same : {route | route ∈ routes} = ((routes.toFinset : Finset Route) : Set Route) := by
    ext route
    simp
  rw [same, Set.ncard_coe_finset, List.toFinset_card_of_nodup nodup]

theorem Enumerates.ncard_eq {routes : List Route} {nodes : Set Route}
    (enumerates : Enumerates routes nodes) : nodes.ncard = routes.length := by
  have same : nodes = {route | route ∈ routes} := by
    ext route
    exact (enumerates.mem_iff route).symm
  rw [same, ncard_of_nodup (nodup_of_increase enumerates.increase)]

/-- Up to a node there are the nodes listed before it, and itself. -/
theorem Enumerates.place_eq {routes : List Route} {nodes : Set Route}
    (enumerates : Enumerates routes nodes) {index : Nat} {route : Route}
    (here : routes[index]? = some route) : place nodes route = index + 1 := by
  obtain ⟨front, back, rfl, rfl⟩ : ∃ front back,
      routes = front ++ route :: back ∧ front.length = index := by
    rcases List.getElem?_eq_some_iff.1 here with ⟨bound, at_index⟩
    refine ⟨routes.take index, routes.drop (index + 1), ?_, by simp; omega⟩
    rw [← at_index, List.getElem_cons_drop, List.take_append_drop]
  have increase := enumerates.increase
  rw [List.append_cons] at increase
  rcases List.pairwise_append.1 increase with ⟨upTo, _, across⟩
  have same : {other ∈ nodes | ¬Route.Before route other} =
      {other | other ∈ front ++ [route]} := by
    ext other
    rw [Set.mem_ofPred_eq, Set.mem_ofPred_eq, ← enumerates.mem_iff other, List.append_cons,
      List.mem_append]
    constructor
    · intro given
      rcases given with ⟨before | later, notAfter⟩
      · exact before
      · exact absurd (across route (by simp) other later) notAfter
    · intro before
      refine ⟨.inl before, ?_⟩
      rcases List.mem_append.1 before with earlier | same
      · exact Route.before_asymm ((List.pairwise_append.1 upTo).2.2 other earlier route (by simp))
      · rw [List.mem_singleton.1 same]
        exact Route.before_irrefl route
  rw [place, same, ncard_of_nodup (nodup_of_increase upTo), List.length_append]
  rfl

end Selector

namespace Markup

theorem Name.of_written_prefixed {lead base : String} (some_lead : lead ≠ "")
    (some_base : base ≠ "") (first : ':' ∉ lead.toList) :
    ofWritten (lead ++ ":" ++ base) = ⟨some lead, base, none⟩ := by
  have chars : (lead ++ ":" ++ base).toList = lead.toList ++ ':' :: base.toList := by simp
  have some_chars : (lead.toList.isEmpty || base.toList.isEmpty) = false := by
    simp [some_lead, some_base]
  rw [ofWritten, chars, Text.cut_at_append _ first]
  dsimp only
  rw [some_chars, String.ofList_toList, String.ofList_toList]
  rfl

theorem Name.spells_of_written (written : String) : (ofWritten written).Spells written := by
  by_cases split : ∃ lead base, lead ≠ "" ∧ base ≠ "" ∧ ':' ∉ lead.toList ∧
      written = lead ++ ":" ++ base
  · obtain ⟨lead, base, some_lead, some_base, first, rfl⟩ := split
    rw [of_written_prefixed some_lead some_base first]
    exact .prefixed some_lead some_base first
  · have whole : ofWritten written = plain written := by
      unfold ofWritten
      split
      · rename_i front back cut
        refine if_pos (not_not.1 fun some_text => split ?_)
        simp only [Bool.or_eq_true, List.isEmpty_iff, not_or] at some_text
        refine ⟨.ofList front, .ofList back, ?_, ?_, ?_, ?_⟩
        · simpa using some_text.1
        · simpa using some_text.2
        · simpa using Text.not_mem_of_cut_at cut
        · apply String.toList_injective
          simpa using Text.eq_of_cut_at cut
      · rfl
    rw [whole]
    exact .whole fun lead base some_lead some_base first same =>
      split ⟨lead, base, some_lead, some_base, first, same⟩

theorem Name.spells_iff {name : Name} {written : String} :
    name.Spells written ↔ name.spelledLike (.ofWritten written) = true := by
  rw [spelled_like_iff]
  constructor
  · intro spells
    cases spells with
    | prefixed some_lead some_base first =>
        rw [of_written_prefixed some_lead some_base first]
        exact ⟨rfl, rfl⟩
    | whole unsplit =>
        have read := spells_of_written written
        generalize ofWritten written = other at read
        cases read with
        | prefixed some_lead some_base first =>
            exact absurd rfl (unsplit _ _ some_lead some_base first)
        | whole => exact ⟨rfl, rfl⟩
  · rintro ⟨front, base⟩
    have read := spells_of_written written
    obtain ⟨lead, localName, uri⟩ := name
    generalize ofWritten written = other at read front base
    cases read with
    | prefixed some_lead some_base first =>
        cases front
        cases base
        exact .prefixed some_lead some_base first
    | whole unsplit =>
        cases front
        cases base
        exact .whole unsplit

theorem Attributes.written_eq_some_iff {attributes : Attributes} {written value : String} :
    attributes.written? written = some value ↔ attributes.Gives written value := by
  rw [written?, spelled?, Option.map_eq_some_iff]
  constructor
  · rintro ⟨item, found, same⟩
    obtain ⟨spelled, front, back, split, others⟩ := List.find?_eq_some_iff_append.1 found
    refine ⟨front, item, back, split, Name.spells_iff.2 spelled, same,
      fun other before spells => ?_⟩
    have apart := others other before
    rw [Name.spells_iff.1 spells] at apart
    cases apart
  · rintro ⟨front, item, back, split, spells, same, others⟩
    refine ⟨item,
      List.find?_eq_some_iff_append.2 ⟨Name.spells_iff.1 spells, front, back, split, ?_⟩, same⟩
    intro other before
    rw [Bool.not_eq_true', Bool.eq_false_iff]
    exact fun spelled => others other before (Name.spells_iff.2 spelled)

end Markup

namespace Selector

theorem goes_by_iff {element : Element} {name : String} :
    goesBy name element = true ↔ element.GoesBy name := by
  unfold goesBy Element.GoesBy Name.written
  by_cases colon : ':' ∈ name.toList
  · rw [if_pos (List.contains_iff_mem.2 colon), beq_iff_eq]
    cases element.name.nsPrefix with
    | none => simp
    | some lead => simp [colon, eq_comm]
  · have other : ∀ lead, name ≠ lead ++ ":" ++ element.name.localName := by
      rintro lead rfl
      exact colon (by simp)
    rw [if_neg (mt List.contains_iff_mem.1 colon), beq_iff_eq]
    simp [colon, other]

theorem Predicate.holds_iff (document : Document) (predicate : Predicate) {routes : List Route}
    {nodes : Set Route} (enumerates : Enumerates routes nodes) {index : Nat} {route : Route}
    (here : routes[index]? = some route) :
    predicate.holds document (index + 1) routes.length route = true ↔
      predicate.Satisfied document nodes route := by
  have element : (document.nodes.at? route).bind Node.element? = document.elementAt? route := rfl
  cases predicate with
  | position wanted => simp [Predicate.holds, Predicate.Satisfied, enumerates.place_eq here]
  | last =>
      simp [Predicate.holds, Predicate.Satisfied, enumerates.place_eq here, enumerates.ncard_eq]
  | hasAttribute name =>
      simp [Predicate.holds, Predicate.Satisfied, Predicate.holdsOn, element,
        Option.any_eq_true, Option.isSome_iff_exists, Attributes.written_eq_some_iff]
  | «attribute» name value negated =>
      simp only [Predicate.holds, Predicate.Satisfied, element, Option.any_eq_true,
        Predicate.holdsOn, ← Attributes.written_eq_some_iff]
      refine exists_congr fun found => and_congr_right fun _ => ?_
      cases found.attributes.written? name with
      | none => simp
      | some actual => cases negated <;> simp
  | hasChild name =>
      simp [Predicate.holds, Predicate.Satisfied, Predicate.holdsOn, element, Option.any_eq_true,
        goes_by_iff]
  | child name value =>
      simp [Predicate.holds, Predicate.Satisfied, Predicate.holdsOn, element, Option.any_eq_true,
        goes_by_iff]

theorem Predicate.mem_keep_iff (document : Document) (predicate : Predicate)
    (routes : List Route) (route : Route) :
    route ∈ Predicate.keep document routes predicate ↔ ∃ index, routes[index]? = some route ∧
      predicate.holds document (index + 1) routes.length route = true := by
  simp only [Predicate.keep, List.mem_map, List.mem_filter, Prod.exists,
    List.mem_zipIdx_iff_getElem?]
  constructor
  · intro given
    rcases given with ⟨_, index, ⟨here, holds⟩, rfl⟩
    exact ⟨index, here, holds⟩
  · intro given
    rcases given with ⟨index, here, holds⟩
    exact ⟨route, index, ⟨here, holds⟩, rfl⟩

theorem Predicate.keep_sublist (document : Document) (predicate : Predicate)
    (routes : List Route) : (Predicate.keep document routes predicate).Sublist routes := by
  have numbered : (routes.zipIdx.map Prod.fst).Sublist routes := by
    rw [List.zipIdx_map_fst]
  exact (List.filter_sublist.map Prod.fst).trans numbered

/-- One predicate keeps the survivors of the nodes listed so far. -/
theorem Predicate.keep_enumerates (document : Document) (predicate : Predicate)
    {routes : List Route} {nodes : Set Route} (enumerates : Enumerates routes nodes) :
    Enumerates (Predicate.keep document routes predicate)
      (predicate.survivors document nodes) := by
  refine ⟨enumerates.increase.sublist (Predicate.keep_sublist document predicate routes), ?_⟩
  intro route
  rw [Predicate.mem_keep_iff]
  constructor
  · intro given
    rcases given with ⟨index, here, holds⟩
    exact ⟨(enumerates.mem_iff route).1 (List.mem_of_getElem? here),
      (Predicate.holds_iff document predicate enumerates here).1 holds⟩
  · intro given
    rcases given with ⟨member, satisfied⟩
    rcases List.mem_iff_getElem?.1 ((enumerates.mem_iff route).2 member) with ⟨index, here⟩
    exact ⟨index, here, (Predicate.holds_iff document predicate enumerates here).2 satisfied⟩

theorem Predicate.keep_all_enumerates (document : Document) (predicates : List Predicate)
    {routes : List Route} {nodes : Set Route} (enumerates : Enumerates routes nodes) :
    Enumerates (predicates.foldl (Predicate.keep document) routes)
      (predicates.foldl (Predicate.survivors document) nodes) := by
  induction predicates generalizing routes nodes with
  | nil => exact enumerates
  | cons predicate later ih => exact ih (Predicate.keep_enumerates document predicate enumerates)

theorem Step.candidates_enumerated (document : Document) (step : Step) {context : Route}
    (has : document.Has context) :
    Enumerates ((step.axis.routes document context).filter (step.test.passesAt document))
      (step.candidates document context) := by
  refine ⟨(step.axis.routes_increase document context).filter _, ?_⟩
  intro route
  rw [List.mem_filter, Axis.mem_routes document step.axis has route]
  constructor
  · intro given
    rcases given with ⟨⟨there, relates⟩, passes⟩
    exact ⟨there, relates, (NodeTest.passes_at_iff document step.test there).1 passes⟩
  · intro given
    rcases given with ⟨there, relates, admits⟩
    exact ⟨⟨there, relates⟩, (NodeTest.passes_at_iff document step.test there).2 admits⟩

theorem Step.reached_enumerates (document : Document) (step : Step) {context : Route}
    (has : document.Has context) :
    Enumerates (step.reached document context) (step.ends document context) :=
  Predicate.keep_all_enumerates document step.predicates
    (Step.candidates_enumerated document step has)

theorem Predicate.survivors_subset (document : Document) (predicates : List Predicate)
    (nodes : Set Route) : predicates.foldl (Predicate.survivors document) nodes ⊆ nodes := by
  induction predicates generalizing nodes with
  | nil => exact fun _ member => member
  | cons predicate later ih =>
      intro route member
      exact (ih (predicate.survivors document nodes) member).1

theorem Step.has_of_mem_ends {document : Document} {step : Step} {context route : Route}
    (member : route ∈ step.ends document context) : document.Has route :=
  (Predicate.survivors_subset document step.predicates _ member).1

theorem mem_steps_reached (document : Document) (steps : List Step) (contexts : List Route)
    (has : ∀ context ∈ contexts, document.Has context) (route : Route) :
    route ∈ steps.foldl (fun contexts step =>
        document.inOrder (contexts.flatMap (step.reached document))) contexts ↔
      ∃ context ∈ contexts, Chain document steps context route := by
  induction steps generalizing contexts with
  | nil =>
      constructor
      · intro member
        exact ⟨route, member, .stop route⟩
      · intro given
        rcases given with ⟨context, member, ⟨⟩⟩
        exact member
  | cons first later ih =>
      have next : ∀ middle,
          middle ∈ document.inOrder (contexts.flatMap (first.reached document)) ↔
            ∃ context ∈ contexts, middle ∈ first.ends document context := by
        intro middle
        rw [Document.mem_in_order, List.mem_flatMap]
        constructor
        · intro given
          rcases given with ⟨_, context, member, reached⟩
          exact ⟨context, member,
            ((first.reached_enumerates document (has context member)).mem_iff middle).1 reached⟩
        · intro given
          rcases given with ⟨context, member, ends⟩
          exact ⟨Step.has_of_mem_ends ends, context, member,
            ((first.reached_enumerates document (has context member)).mem_iff middle).2 ends⟩
      rw [List.foldl_cons, ih]
      · constructor
        · intro given
          rcases given with ⟨middle, member, there⟩
          rcases (next middle).1 member with ⟨context, known, here⟩
          exact ⟨context, known, .step here there⟩
        · intro given
          rcases given with ⟨context, known, chain⟩
          cases chain with
          | step here there => exact ⟨_, (next _).2 ⟨context, known, here⟩, there⟩
      · intro middle member
        exact ((document.mem_in_order _ middle).1 member).1

theorem Chain.has {document : Document} {steps : List Step} {context route : Route}
    (chain : Chain document steps context route) (has : document.Has context) :
    document.Has route := by
  induction chain with
  | stop => exact has
  | step here _ ih => exact ih (Step.has_of_mem_ends here)

theorem Path.mem_reached_iff (document : Document) (path : Path) (route : Route) :
    route ∈ path.reached document ↔ Chain document path.steps [] route := by
  rw [Path.reached, mem_steps_reached]
  · simp
  · intro context member
    exact .inl (List.mem_singleton.1 member)

/-- What a step leads to from nodes that are there could be sorted as well. -/
theorem Step.reached_eq_sorted (document : Document) (step : Step) {contexts : List Route}
    (has : ∀ context ∈ contexts, document.Has context) :
    document.inOrder (contexts.flatMap (step.reached document)) =
      ((contexts.flatMap (step.reached document)).mergeSort (· ≤ ·)).destutter (· ≠ ·) := by
  apply document.in_order_eq_sorted
  intro route member
  obtain ⟨context, known, reached⟩ := List.mem_flatMap.1 member
  exact Step.has_of_mem_ends
    (((step.reached_enumerates document (has context known)).mem_iff route).1 reached)

theorem matched_eq_sorted (selector : Selector) (document : Document) :
    selector.matched document =
      ((selector.paths.flatMap (Path.reached document)).mergeSort (· ≤ ·)).destutter (· ≠ ·) := by
  apply document.in_order_eq_sorted
  intro route member
  obtain ⟨path, -, reached⟩ := List.mem_flatMap.1 member
  exact ((path.mem_reached_iff document route).1 reached).has (.inl rfl)

end Selector

/-- A selector matches exactly the nodes that one of its paths leads to from the document node. They
are listed in document order, each once, and all of them are there. -/
theorem Selector.matched_characterized (selector : Selector) (document : Document) :
    (selector.matched document).Pairwise Route.Before ∧
      (∀ route ∈ selector.matched document, document.Has route) ∧
      ∀ route, route ∈ selector.matched document ↔
        ∃ path ∈ selector.paths, Chain document path.steps [] route := by
  refine ⟨document.in_order_increases _, ?_, ?_⟩
  · intro route member
    exact ((document.mem_in_order _ route).1 member).1
  · intro route
    rw [Selector.matched, Document.mem_in_order, List.mem_flatMap]
    constructor
    · intro given
      rcases given with ⟨_, path, member, reached⟩
      exact ⟨path, member, (path.mem_reached_iff document route).1 reached⟩
    · intro given
      rcases given with ⟨path, member, chain⟩
      exact ⟨chain.has (.inl rfl), path, member, (path.mem_reached_iff document route).2 chain⟩

end XmlTemplate
