import XmlTemplate.Proofs.Markup.Documents
import XmlTemplate.Proofs.Selector.GrammarExtension
import XmlTemplate.Proofs.Selector.Selection

/-!
Child elements asked for in two ways: by a predicate, and by a step to them and back. The predicate
compares written names and the step compares prefixes and local names, so the two agree where every
name splits at its first colon, as those that were read do. What was asked of the nodes before,
their places included, is untouched by both.
-/

namespace XmlTemplate

open Markup

/-- Names that split at their first colons are spelled alike if they are written alike. -/
theorem Markup.Name.written_eq_iff {name other : Name} (splits : name.Splits)
    (also : other.Splits) : name.written = other.written ↔
      name.nsPrefix = other.nsPrefix ∧ name.localName = other.localName := by
  constructor
  · intro same
    unfold Name.Splits at splits also
    rw [same, also, Prod.mk.injEq] at splits
    have fronts := Option.map_injective (fun _ _ => String.toList_injective) splits.1
    exact ⟨fronts.symm, splits.2.symm⟩
  · rintro ⟨front, base⟩
    rw [Name.written, Name.written, front, base]

namespace Selector

theorem name_without_colon {name : String} {text : List Char}
    (form : Grammar.NameForm name text) : ':' ∉ name.toList := by
  cases form with
  | name begins continues =>
      intro colon
      rw [String.toList_ofList] at colon
      rcases List.mem_cons.1 colon with rfl | later
      · exact absurd begins (by decide)
      · exact absurd (continues ':' later) (by decide)

/-- Where the name of an element splits, the test that is written as a name with an optional prefix
asks of the element what the name itself asks. -/
theorem test_of_qualified {name : String} {text : List Char}
    (form : Grammar.QualifiedForm name text) :
    ∃ test, Grammar.TestForm test text ∧ ∀ (document : Document) (route : Route),
      (∀ element, document.elementAt? route = some element → element.name.Splits) →
        (test.Admits document route ↔ ∃ element,
          document.elementAt? route = some element ∧ element.GoesBy name) := by
  cases form with
  | plain named =>
      refine ⟨.named name, .named named, fun document route _ => ?_⟩
      have plain : name.toList.contains ':' = false := by
        simpa using name_without_colon named
      simp only [NodeTest.Admits, ← goes_by_iff, goesBy, plain, Bool.false_eq_true, if_false,
        beq_iff_eq]
  | @qualified lead base front back leads named =>
      refine ⟨.qualified lead base, .qualified leads named, fun document route splits => ?_⟩
      have colon : (lead ++ ":" ++ base).toList.contains ':' = true := by simp
      have own : Name.Splits ⟨some lead, base, none⟩ := by
        have cut := Text.cut_at_append base.toList (name_without_colon leads)
        simp [Name.Splits, splitWritten, Name.written, cut]
      simp only [NodeTest.Admits, ← goes_by_iff, goesBy, colon, if_true, beq_iff_eq]
      apply exists_congr
      intro element
      apply and_congr_right
      intro found
      exact (Name.written_eq_iff (splits element found) own).symm

section
variable (document : Document)

theorem chain_append_iff (steps others : List Step) (context node : Route) :
    Chain document (steps ++ others) context node ↔
      ∃ middle, Chain document steps context middle ∧ Chain document others middle node := by
  constructor
  · intro chain
    induction steps generalizing context with
    | nil => exact ⟨context, .stop context, chain⟩
    | cons first later ih =>
        cases chain with
        | step here there =>
            obtain ⟨middle, front, back⟩ := ih _ there
            exact ⟨middle, .step here front, back⟩
  · rintro ⟨middle, front, back⟩
    induction front with
    | stop => exact back
    | step here _ ih => exact .step here (ih back)

theorem chain_singleton_iff (step : Step) (context node : Route) :
    Chain document [step] context node ↔ node ∈ step.ends document context := by
  constructor
  · intro chain
    cases chain with
    | step here there =>
        cases there
        exact here
  · intro here
    exact .step here (.stop node)

/-- A step to children of a kind and one back lead to a node from itself, if it has such a child. -/
theorem chain_to_child_and_back_iff (test : NodeTest) (context node : Route) :
    Chain document [⟨.child, test, []⟩, ⟨.parent, .anyNode, []⟩] context node ↔
      node = context ∧ ∃ index, document.Has (context ++ [index]) ∧
        test.Admits document (context ++ [index]) := by
  constructor
  · intro chain
    cases chain with
    | step here there =>
        obtain ⟨has, ⟨index, rfl⟩, admits⟩ := here
        obtain ⟨_, ⟨other, back⟩, _⟩ := (chain_singleton_iff document _ _ _).1 there
        obtain ⟨rfl, _⟩ := List.append_inj' back rfl
        exact ⟨rfl, index, has, admits⟩
  · rintro ⟨rfl, index, has, admits⟩
    have here : node ++ [index] ∈ Step.ends document ⟨.child, test, []⟩ node :=
      ⟨has, ⟨index, rfl⟩, admits⟩
    exact .step here ((chain_singleton_iff document _ _ _).2
      ⟨has_parent document has, ⟨index, rfl⟩, trivial⟩)

/-- One more predicate at the end of a step leaves those of its ends that satisfy it. -/
theorem ends_with_predicate (axis : Axis) (test : NodeTest) (predicates : List Predicate)
    (predicate : Predicate) (context : Route) :
    Step.ends document ⟨axis, test, predicates ++ [predicate]⟩ context =
      predicate.survivors document (Step.ends document ⟨axis, test, predicates⟩ context) := by
  simp only [Step.ends, List.foldl_append, List.foldl_cons, List.foldl_nil]
  rfl

/-- The elements among the children of an element are found one step below it. -/
theorem element_below_iff {context : Route} (below : context ≠ []) (child : Element) :
    (∃ index, document.elementAt? (context ++ [index]) = some child) ↔
      ∃ element, document.elementAt? context = some element ∧
        child ∈ element.children.elements := by
  have inside : ∀ index, document.elementAt? (context ++ [index]) =
      (document.childrenAt context)[index]?.bind Node.element? := by
    intro index
    rw [Document.elementAt?, Forest.at?_append, Forest.at?_cons]
    simp
  have children : document.childrenAt context =
      (document.elementAt? context).elim [] Element.children := by
    rw [Document.childrenAt, if_neg (by simpa using below), Document.elementAt?]
    cases document.nodes.at? context with
    | none => rfl
    | some node => cases node <;> rfl
  have among : (∃ index, document.elementAt? (context ++ [index]) = some child) ↔
      child ∈ Forest.elements (document.childrenAt context) := by
    simp only [inside, Forest.elements, List.mem_filterMap, Option.bind_eq_some_iff]
    constructor
    · rintro ⟨index, node, here, same⟩
      exact ⟨node, List.mem_of_getElem? here, same⟩
    · rintro ⟨node, member, same⟩
      obtain ⟨index, here⟩ := List.mem_iff_getElem?.1 member
      exact ⟨index, node, here, same⟩
  rw [among, children]
  cases document.elementAt? context <;> simp [Forest.elements]

/-- Having a child of a name is a matter of one more step, if the names of elements split. -/
theorem has_child_iff {name : String} {test : NodeTest} {context : Route} (below : context ≠ [])
    (asks : ∀ route, test.Admits document route ↔ ∃ element,
      document.elementAt? route = some element ∧ element.GoesBy name)
    (nodes : Set Route) :
    Predicate.Satisfied document nodes context (.hasChild name) ↔
      ∃ index, document.Has (context ++ [index]) ∧
        test.Admits document (context ++ [index]) := by
  constructor
  · rintro ⟨element, found, child, member, named⟩
    obtain ⟨index, here⟩ := (element_below_iff document below child).2 ⟨element, found, member⟩
    obtain ⟨node, there, -⟩ := Option.bind_eq_some_iff.1 here
    exact ⟨index, .inr ⟨node, there⟩, (asks _).2 ⟨child, here, named⟩⟩
  · rintro ⟨index, -, admits⟩
    obtain ⟨child, here, named⟩ := (asks _).1 admits
    obtain ⟨element, found, member⟩ := (element_below_iff document below child).1 ⟨index, here⟩
    exact ⟨element, found, child, member, named⟩

/-- Asking for a child and going to it and back lead to the same nodes. -/
theorem chain_with_child_iff {name : String} {asked : NodeTest}
    (asks : ∀ route, asked.Admits document route ↔ ∃ element,
      document.elementAt? route = some element ∧ element.GoesBy name)
    (front : List Step) (test : NodeTest) (predicates : List Predicate) (node : Route) :
    Chain document (front ++ [⟨.child, test, predicates ++ [.hasChild name]⟩]) [] node ↔
      Chain document (front ++ [⟨.child, test, predicates⟩] ++
        [⟨.child, asked, []⟩, ⟨.parent, .anyNode, []⟩]) [] node := by
  have below : ∀ middle, node ∈ Step.ends document ⟨.child, test, predicates⟩ middle →
      node ≠ [] := by
    intro middle ends
    obtain ⟨-, ⟨index, rfl⟩, -⟩ := Predicate.survivors_subset document predicates _ ends
    exact List.append_ne_nil_of_right_ne_nil _ (List.cons_ne_nil _ _)
  simp only [chain_append_iff, chain_singleton_iff, chain_to_child_and_back_iff,
    ends_with_predicate]
  constructor
  · rintro ⟨middle, front, ends, satisfied⟩
    exact ⟨node, ⟨middle, front, ends⟩, rfl,
      (has_child_iff document (below middle ends) asks _).1 satisfied⟩
  · rintro ⟨_, ⟨middle, front, ends⟩, rfl, child⟩
    exact ⟨middle, front, ends, (has_child_iff document (below middle ends) asks _).2 child⟩

theorem matched_of_same_chains (absolute : Bool) {steps others : List Step}
    (same : ∀ route, Chain document steps [] route ↔ Chain document others [] route) :
    matched ⟨[⟨absolute, steps⟩]⟩ document = matched ⟨[⟨absolute, others⟩]⟩ document := by
  apply document.in_order_congr
  intro route
  simp only [List.flatMap_cons, List.flatMap_nil, List.append_nil, Path.mem_reached_iff, same]

end

section
variable {written name : String} {absolute : Bool} {front : List Step} {test : NodeTest}
  {predicates : List Predicate}
  (parsed : Selector.parse written = .ok ⟨[⟨absolute, front ++ [⟨.child, test, predicates⟩]⟩]⟩)
  (named : Grammar.QualifiedForm name name.toList)
include parsed

include named in
theorem parse_with_predicate : Selector.parse (written ++ "[" ++ name ++ "]") =
    .ok ⟨[⟨absolute, front ++ [⟨.child, test, predicates ++ [.hasChild name]⟩]⟩]⟩ := by
  apply Grammar.parse_of_form
  have path := Grammar.only_path (Grammar.form_of_parse parsed)
  have inside := Grammar.spaced_of_form (Grammar.PredicateForm.hasChild named)
  have whole := Grammar.UnionForm.one (Grammar.path_with_predicate path inside)
  simpa using whole

theorem parse_to_child_and_back {asked : NodeTest} (form : Grammar.TestForm asked name.toList) :
    Selector.parse (written ++ "/" ++ name ++ "/..") =
      .ok ⟨[⟨absolute, front ++ [⟨.child, test, predicates⟩] ++
        [⟨.child, asked, []⟩, ⟨.parent, .anyNode, []⟩]⟩]⟩ := by
  apply Grammar.parse_of_form
  have path := Grammar.only_path (Grammar.form_of_parse parsed)
  have down : Grammar.StepForm ⟨.child, asked, []⟩ (name.toList ++ []) := .child form .none
  have later := Grammar.LaterForm.more .single (Grammar.spaced_of_form down)
    (.more .single (Grammar.spaced_of_form .parent) .none)
  have whole := Grammar.UnionForm.one (Grammar.path_with_steps path (by simp) later)
  simpa using whole

end

/-- The name of every element that was read splits at its first colon. -/
theorem splits_of_well_read {around : Surroundings} {nodes : Forest}
    (well : Forest.WellRead around nodes) {route : Route} {element : Element}
    (found : (nodes.at? route).bind Node.element? = some element) : element.name.Splits := by
  induction route generalizing nodes around with
  | nil => simp [Forest.at?] at found
  | cons index rest ih =>
      rw [Forest.at?_cons, Option.bind_assoc] at found
      obtain ⟨node, here, found⟩ := Option.bind_eq_some_iff.1 found
      have read := forest_well_read_iff.1 well node (List.mem_of_getElem? here)
      split at found
      · cases node with
        | element name attributes children =>
            cases found
            exact read.1.splits
        | _ => cases found
      · cases node with
        | element name attributes children => exact ih read.2.2.2 found
        | _ => simp [Node.children, Forest.at?_of_children_nil] at found

/-- In a document that was read, a path selects the same nodes whether a predicate after its last
test asks for a child of some name, or whether further steps go to such children and back. -/
theorem child_predicate_selects {text written name : String} {document : Document}
    {absolute : Bool} {front : List Step} {test : NodeTest}
    {predicates : List Predicate} (read : Document.read text = .ok document)
    (parsed : Selector.parse written =
      .ok ⟨[⟨absolute, front ++ [⟨.child, test, predicates⟩]⟩]⟩)
    (named : Grammar.QualifiedForm name name.toList) :
    ∃ routes, document.Selects (written ++ "[" ++ name ++ "]") routes ∧
      document.Selects (written ++ "/" ++ name ++ "/..") routes := by
  obtain ⟨-, well⟩ := well_read_of_document read
  obtain ⟨asked, form, asks⟩ := test_of_qualified named
  have splits := fun route => asks document route fun element found =>
    splits_of_well_read well found
  have same := matched_of_same_chains document absolute
    (chain_with_child_iff document splits front test predicates)
  have narrowed := selects_of_parsed document (parse_with_predicate parsed named)
  have returned := selects_of_parsed document (parse_to_child_and_back parsed form)
  rw [same] at narrowed
  exact ⟨_, narrowed, returned⟩

def prefixedPage : String := "<a xmlns:p='u'><b><c/></b><b>x<p:c/></b><b><p:c/><p:c/></b></a>"

def prefixedTree : Document :=
  let below : Node := .element ⟨some "p", "c", some "u"⟩ [] []
  ⟨[.element (.plain "a") [⟨⟨some "xmlns", "p", none⟩, "u"⟩]
    [.element (.plain "b") [] [.element (.plain "c") [] []],
      .element (.plain "b") [] [.text "x", below], .element (.plain "b") [] [below, below]]]⟩

/-- A child asked for after a place and blanks. -/
theorem last_with_child_selects :
    Document.read prefixedPage = .ok prefixedTree ∧
      Selector.parse "//b[last()] " =
        .ok ⟨[⟨true, [.everywhere] ++ [⟨.child, .named "b", [.last]⟩]⟩]⟩ ∧
      Grammar.QualifiedForm "p:c" "p:c".toList ∧
      ∃ routes, prefixedTree.Selects ("//b[last()] " ++ "[" ++ "p:c" ++ "]") routes ∧
        prefixedTree.Selects ("//b[last()] " ++ "/" ++ "p:c" ++ "/..") routes := by
  have read : Document.read prefixedPage = .ok prefixedTree := by decide +kernel
  have parsed : Selector.parse "//b[last()] " =
      .ok ⟨[⟨true, [.everywhere] ++ [⟨.child, .named "b", [.last]⟩]⟩]⟩ := by decide +kernel
  have named : Grammar.QualifiedForm "p:c" "p:c".toList :=
    Grammar.form_of_begins (Grammar.qualified_sound (by decide +kernel))
  exact ⟨read, parsed, named, child_predicate_selects read parsed named⟩

end Selector

end XmlTemplate
