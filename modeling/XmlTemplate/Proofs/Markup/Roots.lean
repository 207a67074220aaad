import XmlTemplate.Proofs.Markup.Seams

/-!
Documents among texts. Whether a text is a document is decided by the nodes that it is read as: it
must have exactly one element at the top. A text with more is refused where the second of them
begins, that is, where it can be taken apart into a document and a text that begins with an element.
-/

namespace XmlTemplate.Markup

/-- The second top-level element of a text begins with `back`. -/
structure SecondRoot (text front back : String) : Prop where
  split : text = front ++ back
  before : ∃ nodes, Forest.read front = .ok nodes ∧ nodes.elements.length = 1
  element : ∃ (root : Element) (rest : Forest), Forest.read back = .ok (root.toNode :: rest)
  tag : back.toList.head? = some '<'

theorem document_of_grow {text : String} {grown : Growth} (grew : grow text.toList = .ok grown) :
    Document.read text = match grown.roots.reverse with
      | [_] => .ok ⟨grown.finished.reverse⟩
      | [] => .error ⟨Text.lineAt text.toList (Text.size text.toList), .noRoot⟩
      | _ :: second :: _ => .error ⟨Text.lineAt text.toList second, .manyRoots⟩ := by
  rw [Document.read, grew]
  rfl

theorem many_roots_of_behind {text : String} {first second : Growth} {distance : Nat}
    (grew : grow text.toList = .ok (second.behind first distance)) (one : first.roots.length = 1)
    (starts : [0] <:+ second.roots) :
    Document.read text = .error ⟨Text.lineAt text.toList distance, .manyRoots⟩ := by
  obtain ⟨root, only⟩ := List.length_eq_one_iff.1 one
  obtain ⟨later, recorded⟩ := starts
  have roots : (second.behind first distance).roots.reverse =
      root :: distance :: (later.map (distance + ·)).reverse := by
    rw [Growth.behind, only, ← recorded]
    simp
  rw [document_of_grow grew, roots]

theorem document_of_refused {text : String} {malformed : Malformed}
    (refused : Forest.read text = .error malformed) : Document.read text = .error malformed := by
  unfold Forest.read at refused
  unfold Document.read
  cases grew : grow text.toList with
  | ok grown =>
      rw [grew] at refused
      cases refused
  | error fault =>
      rw [grew] at refused
      cases refused
      rfl

theorem no_root_of_read {text : String} {nodes : Forest} (read : Forest.read text = .ok nodes)
    (none : nodes.elements = []) :
    Document.read text = .error ⟨1 + text.toList.count '\n', .noRoot⟩ := by
  obtain ⟨grown, grew, rfl⟩ := forest_read_iff.1 read
  have roots : grown.roots = [] := by
    rw [← List.length_eq_zero_iff, roots_of_grow grew, none]
    rfl
  rw [document_of_grow grew, roots, ← Text.line_at_size]
  rfl

theorem second_root_of_read {text : String} {nodes : Forest} (read : Forest.read text = .ok nodes)
    (many : 1 < nodes.elements.length) :
    ∃ front back, SecondRoot text front back ∧ Document.read text =
      .error ⟨Text.lineAt text.toList (Text.size (withoutMark front.toList)), .manyRoots⟩ := by
  obtain ⟨grown, grew, rfl⟩ := forest_read_iff.1 read
  rw [← roots_of_grow grew] at many
  obtain ⟨front, back, first, second, split, grew_front, one, grew_back, tag,
    ⟨root, rest, element⟩, rfl⟩ := grow_split grew many
  have read_front : Forest.read (String.ofList front) = .ok first.finished.reverse :=
    forest_read_iff.2 ⟨first, by simpa using grew_front, rfl⟩
  have read_back : Forest.read (String.ofList back) = .ok (root.toNode :: rest) :=
    forest_read_iff.2 ⟨second, by simpa using grew_back, element⟩
  have elements := (roots_of_grow grew_front).symm.trans one
  refine ⟨String.ofList front, String.ofList back, ?_, ?_⟩
  · constructor
    · apply String.toList_injective
      simp [split]
    · exact ⟨_, read_front, elements⟩
    · exact ⟨root, rest, read_back⟩
    · simpa using tag
  · rw [String.toList_ofList]
    exact many_roots_of_behind grew one (first_root grew_back element).2

/-- A document is a text of nodes with exactly one element among them. Any other text is refused as
it is when read as nodes, or for the number of its roots: at its end if there is none, and where the
second one begins if there are more. -/
theorem document_read_cases (text : String) :
    (∀ document, Document.read text = .ok document ↔
      ∃ root, Forest.read text = .ok document.nodes ∧ document.nodes.elements = [root]) ∧
    (∀ malformed, Forest.read text = .error malformed → Document.read text = .error malformed) ∧
    (∀ nodes, Forest.read text = .ok nodes → nodes.elements = [] →
      Document.read text = .error ⟨1 + text.toList.count '\n', .noRoot⟩) ∧
    (∀ nodes, Forest.read text = .ok nodes → 1 < nodes.elements.length →
      ∃ front back, SecondRoot text front back ∧ Document.read text =
        .error ⟨Text.lineAt text.toList (Text.size (withoutMark front.toList)), .manyRoots⟩) := by
  refine ⟨?_, ?_, ?_, ?_⟩
  · intro document
    rw [document_read_iff, List.length_eq_one_iff]
    exact ⟨fun ⟨read, root, one⟩ => ⟨root, read, one⟩, fun ⟨root, read, one⟩ => ⟨read, root, one⟩⟩
  · intro malformed refused
    exact document_of_refused refused
  · intro nodes read none
    exact no_root_of_read read none
  · intro nodes read many
    exact second_root_of_read read many

/-- A document may be followed by a text that begins with an element as far as their nodes go, but
together they are no document, and the element is where they stop being one. -/
theorem second_root_refused {first second : String} {nodes rest : Forest} {root : Element}
    (read_first : Forest.read first = .ok nodes) (one : nodes.elements.length = 1)
    (read_second : Forest.read second = .ok (root.toNode :: rest))
    (unmarked_first : first.toList.head? ≠ some '\ufeff')
    (unmarked_second : second.toList.head? ≠ some '\ufeff') :
    Forest.read (first ++ second) = .ok (nodes ++ root.toNode :: rest) ∧
      Document.read (first ++ second) = .error ⟨1 + first.toList.count '\n', .manyRoots⟩ ∧
      Fault.manyRoots.message = "document has more than one root element" := by
  obtain ⟨grown, grew_first, rfl⟩ := forest_read_iff.1 read_first
  obtain ⟨later, grew_second, element⟩ := forest_read_iff.1 read_second
  obtain ⟨tag, starts⟩ := first_root grew_second element
  rw [without_mark_of_unmarked unmarked_second] at tag
  have grew := grow_append grew_first grew_second tag
  rw [without_mark_of_unmarked unmarked_first, ← String.toList_append] at grew
  refine ⟨?_, ?_, rfl⟩
  · apply forest_read_iff.2
    refine ⟨_, grew, ?_⟩
    rw [← element, Growth.behind, List.reverse_append]
  · rw [← roots_of_grow grew_first] at one
    rw [many_roots_of_behind grew one starts, String.toList_append, Text.line_at_append]

theorem second_root_after_lines :
    Forest.read "<a>\n</a>\n<!---->x<b/><c/>" = .ok
        [.element (.plain "a") [] [.text "\n"], .text "\n", .comment "", .text "x",
          .element (.plain "b") [] [], .element (.plain "c") [] []] ∧
      Document.read "<a>\n</a>\n<!---->x<b/><c/>" = .error ⟨3, .manyRoots⟩ := by
  have first : Forest.read "<a>\n</a>\n<!---->x" = .ok
      [.element (.plain "a") [] [.text "\n"], .text "\n", .comment "", .text "x"] := by
    decide +kernel
  have second : Forest.read "<b/><c/>" =
      .ok (Element.toNode ⟨.plain "b", [], []⟩ :: [.element (.plain "c") [] []]) := by
    decide +kernel
  obtain ⟨together, refused, -⟩ := second_root_refused first rfl second (by decide) (by decide)
  exact ⟨together, refused⟩

end XmlTemplate.Markup
