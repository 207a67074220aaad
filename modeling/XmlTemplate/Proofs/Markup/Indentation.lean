import XmlTemplate.Proofs.Markup.Rereading

/-!
Indented markup is the compact markup of another tree: one that holds the line breaks as text, in
place of the blank text that indentation leaves out. So it is read back like any compact markup.
-/

namespace XmlTemplate.Markup

/-- What passes from children to their element holds of every node, if it holds of leaves. -/
@[elab_as_elim]
theorem Node.induction_on_children {holds : Node → Prop} (node : Node)
    (element : ∀ name attributes children, (∀ child ∈ children, holds child) →
      holds (.element name attributes children))
    (leaf : ∀ node, node.element? = none → holds node) : holds node := by
  cases node with
  | element name attributes children =>
      exact element name attributes children fun child _ =>
        Node.induction_on_children child element leaf
  | _ => exact leaf _ rfl

theorem Forest.write_append (front back : Forest) :
    Forest.write (front ++ back) = Forest.write front ++ Forest.write back := by
  induction front with
  | nil => simp [Forest.write]
  | cons node rest ih => rw [List.cons_append, Forest.write, Forest.write, ih, String.append_assoc]

theorem Node.write_element {children : Forest} (name : Name) (attributes : Attributes)
    (some_child : children ≠ []) :
    Node.write (.element name attributes children) =
      writeTagStart name attributes ++ ">" ++ Forest.write children ++ writeTagEnd name := by
  cases children with
  | nil => exact absurd rfl some_child
  | cons child rest => rfl

/-- The nodes that indentation keeps: all but blank text. -/
def Forest.shown (nodes : Forest) : Forest := nodes.filter (!·.isBlank)

/-- Whether the children of an element are written without indentation: there are none, or there is
text among them that shows. -/
def Forest.isInline (children : Forest) : Bool :=
  children.isEmpty || children.any Node.isSignificantText

/-- The line break before the end tag of an element, which is left out where no child is shown. -/
def Forest.lastLine (depth : Nat) (children : Forest) : String :=
  if children.all Node.isBlank then "" else newLine depth

mutual
/-- The node with the line breaks of its indented markup as text, and without the text that
indentation leaves out. -/
def Node.layOut (depth : Nat) : Node → Node
  | .element name attributes children =>
      .element name attributes <|
        if Forest.isInline children then children
        else Forest.lines (depth + 1) children ++ [.text (Forest.lastLine depth children)]
  | node => node

/-- Siblings without the blank ones, a line break before each. -/
def Forest.lines (depth : Nat) : Forest → Forest
  | [] => []
  | node :: rest =>
      if node.isBlank then Forest.lines depth rest
      else .text (newLine depth) :: node.layOut depth :: Forest.lines depth rest
end

/-- Top-level nodes without the blank ones, a line break after each. -/
def Forest.layOut (nodes : Forest) : Forest :=
  nodes.shown.flatMap fun node => [node.layOut 0, .text "\n"]

theorem Forest.shown_cons (node : Node) (rest : Forest) :
    Forest.shown (node :: rest) =
      if node.isBlank then Forest.shown rest else node :: Forest.shown rest := by
  cases blank : node.isBlank <;> simp [Forest.shown, blank]

theorem Forest.lines_eq (depth : Nat) (nodes : Forest) :
    Forest.lines depth nodes = nodes.shown.flatMap fun node =>
      [.text (newLine depth), node.layOut depth] := by
  induction nodes with
  | nil => rfl
  | cons node rest ih =>
      rw [Forest.lines, ih, Forest.shown_cons]
      split <;> rfl

theorem Forest.lay_out_cons (node : Node) (rest : Forest) :
    Forest.layOut (node :: rest) =
      if node.isBlank then Forest.layOut rest
      else node.layOut 0 :: .text "\n" :: Forest.layOut rest := by
  rw [Forest.layOut, Forest.shown_cons]
  split <;> rfl

theorem Node.lay_out_leaf {node : Node} (leaf : node.element? = none) (depth : Nat) :
    node.layOut depth = node := by
  cases node with
  | element => cases leaf
  | _ => rfl

section
variable {name : Name} {attributes : Attributes} {children : Forest}

theorem Node.lay_out_inline (shown : Forest.isInline children = true) (depth : Nat) :
    Node.layOut depth (.element name attributes children) = .element name attributes children := by
  rw [Node.layOut, if_pos shown]

theorem Node.lay_out_lines (hidden : Forest.isInline children = false) (depth : Nat) :
    Node.layOut depth (.element name attributes children) =
      .element name attributes (Forest.lines (depth + 1) children ++
        [.text (Forest.lastLine depth children)]) := by
  rw [Node.layOut, hidden, if_neg Bool.false_ne_true]

end

theorem Node.write_text_unescaped {content : String}
    (plain : ∀ c ∈ content.toList, c ≠ '<' ∧ c ≠ '>' ∧ c ≠ '&') :
    Node.write (.text content) = content := by
  have each : content.toList.flatMap Reference.escapedInText = content.toList.flatMap ([·]) := by
    apply List.flatMap_congr
    intro c member
    have apart := plain c member
    simp [Reference.escapedInText, apart]
  rw [Node.write, Reference.escapeText, each, List.flatMap_singleton', String.ofList_toList]

theorem write_new_line (depth : Nat) : Node.write (.text (newLine depth)) = newLine depth := by
  apply Node.write_text_unescaped
  intro c member
  rw [newLine, String.toList_ofList, List.mem_cons, List.mem_replicate] at member
  rcases member with rfl | ⟨_, rfl⟩ <;> decide

mutual
theorem Node.write_lay_out (depth : Nat) :
    (node : Node) → (node.layOut depth).write = node.writeIndented depth
  | .element name attributes [] => rfl
  | .element name attributes (child :: rest) => by
      have inside := Forest.write_lines (depth + 1) (child :: rest)
      rw [Node.layOut, Node.writeIndented, Forest.isInline, List.isEmpty_cons, Bool.false_or]
      cases shows : (child :: rest).any Node.isSignificantText with
      | true => rfl
      | false =>
          have last : Forest.write [.text (Forest.lastLine depth (child :: rest))] =
              if (child :: rest).all Node.isBlank then "" else newLine depth := by
            rw [Forest.write, Forest.write, String.append_empty, Forest.lastLine]
            split
            · rfl
            · exact write_new_line depth
          rw [if_neg Bool.false_ne_true, if_neg Bool.false_ne_true,
            Node.write_element name attributes (by simp), Forest.write_append, inside, last,
            ← String.append_assoc]
  | .text _ | .cdata _ | .comment _ | .instruction _ | .doctype _ | .declaration _ => rfl

theorem Forest.write_lines (depth : Nat) :
    (nodes : Forest) → (Forest.lines depth nodes).write = Forest.writeLines depth nodes
  | [] => rfl
  | node :: rest => by
      have later := Forest.write_lines depth rest
      rw [Forest.lines, Forest.writeLines]
      split
      · rw [later, String.empty_append]
      · rw [Forest.write, Forest.write, write_new_line, Node.write_lay_out depth node, later,
          ← String.append_assoc]
end

/-- Indented markup is the compact markup of the layout. -/
theorem write_indented_eq (nodes : Forest) :
    Forest.writeIndented nodes = Forest.write nodes.layOut := by
  unfold Forest.writeIndented Forest.layOut Forest.shown
  induction nodes.filter (!·.isBlank) with
  | nil => rfl
  | cons node rest ih =>
      have line : Node.write (.text "\n") = "\n" := write_new_line 0
      rw [List.map_cons, String.join_cons, List.flatMap_cons, Forest.write_append, ← ih,
        Forest.write, Forest.write, Forest.write, line, Node.write_lay_out, String.append_empty]

theorem forest_readable_iff {around : Surroundings} {nodes : Forest} :
    Forest.Readable around nodes ↔ ∀ node ∈ nodes, node.Readable around := by
  induction nodes with
  | nil => simp [Forest.Readable]
  | cons node rest ih => simp [Forest.Readable, ih]

/-- Of the children of an element only this matters to its tags: whether there are any. -/
theorem tags_stand_of_empty_iff {name : Name} {attributes : Attributes} {children others : Forest}
    (empty : others = [] ↔ children = []) (stand : TagsStand name attributes children) :
    TagsStand name attributes others where
  keeps := stand.keeps
  opens := stand.opens
  shown := fun none_left => stand.shown (empty.1 none_left)
  unslashed := fun some_child => stand.unslashed (empty.not.1 some_child)
  closes := fun some_child => stand.closes (empty.not.1 some_child)

theorem readable_lines {around : Surroundings} {depth : Nat} {nodes : Forest}
    (each : ∀ node ∈ nodes, (node.layOut depth).Readable around) :
    ∀ node ∈ Forest.lines depth nodes, node.Readable around := by
  intro node member
  rw [Forest.lines_eq, List.mem_flatMap] at member
  obtain ⟨original, inside, among⟩ := member
  rcases List.mem_cons.1 among with rfl | second
  · trivial
  · rw [List.mem_singleton.1 second]
    exact each original (List.mem_of_mem_filter inside)

theorem Node.readable_lay_out {node : Node} {around : Surroundings} (depth : Nat)
    (readable : node.Readable around) : (node.layOut depth).Readable around := by
  induction node using Node.induction_on_children generalizing around depth with
  | leaf node leaf =>
      rw [Node.lay_out_leaf leaf]
      exact readable
  | element name attributes children ih =>
      cases shown : Forest.isInline children with
      | true =>
          rw [Node.lay_out_inline shown]
          exact readable
      | false =>
          rw [Node.lay_out_lines shown]
          obtain ⟨tag, stand, below⟩ := readable
          have some_child : children ≠ [] := by
            rintro rfl
            cases shown
          have empty : Forest.lines (depth + 1) children ++
              [.text (Forest.lastLine depth children)] = [] ↔ children = [] := by
            simp [some_child]
          refine ⟨tag, tags_stand_of_empty_iff empty stand, forest_readable_iff.2 ?_⟩
          intro node member
          rcases List.mem_append.1 member with inside | last
          · have each := fun child member =>
              ih child member (depth + 1) (forest_readable_iff.1 below child member)
            exact readable_lines each node inside
          · rw [List.mem_singleton.1 last]
            trivial

theorem Forest.readable_lay_out {nodes : Forest} {around : Surroundings}
    (readable : Forest.Readable around nodes) : Forest.Readable around nodes.layOut := by
  rw [forest_readable_iff] at readable ⊢
  intro node member
  obtain ⟨original, inside, among⟩ := List.mem_flatMap.1 member
  rcases List.mem_cons.1 among with rfl | second
  · exact Node.readable_lay_out 0 (readable original (List.mem_of_mem_filter inside))
  · rw [List.mem_singleton.1 second]
    trivial

theorem Forest.reread_eq_map (around : Surroundings) (nodes : Forest) :
    Forest.reread around nodes = nodes.map (Node.reread around) := by
  induction nodes with
  | nil => rfl
  | cons node rest ih => rw [Forest.reread, ih, List.map_cons]

section
variable (around : Surroundings)

@[simp] theorem Node.is_blank_reread (node : Node) :
    (node.reread around).isBlank = node.isBlank := by
  cases node <;> rfl

@[simp] theorem Node.is_significant_text_reread (node : Node) :
    (node.reread around).isSignificantText = node.isSignificantText := by
  cases node <;> rfl

theorem Forest.is_inline_reread (children : Forest) :
    Forest.isInline (Forest.reread around children) = Forest.isInline children := by
  simp [Forest.isInline, Forest.reread_eq_map, List.any_map, Function.comp_def]

theorem Forest.last_line_reread (depth : Nat) (children : Forest) :
    Forest.lastLine depth (Forest.reread around children) = Forest.lastLine depth children := by
  simp [Forest.lastLine, Forest.reread_eq_map, List.all_map, Function.comp_def]

theorem Forest.shown_reread (nodes : Forest) :
    Forest.shown (Forest.reread around nodes) = Forest.reread around nodes.shown := by
  simp [Forest.shown, Forest.reread_eq_map, List.filter_map, Function.comp_def]

theorem lines_reread {depth : Nat} {nodes : Forest}
    (each : ∀ node ∈ nodes, (node.layOut depth).reread around = (node.reread around).layOut depth) :
    Forest.reread around (Forest.lines depth nodes) =
      Forest.lines depth (Forest.reread around nodes) := by
  induction nodes with
  | nil => rfl
  | cons node rest ih =>
      obtain ⟨first, others⟩ := List.forall_mem_cons.1 each
      rw [Forest.reread, Forest.lines, Forest.lines, Node.is_blank_reread]
      split
      · exact ih others
      · rw [Forest.reread, Forest.reread, first, ih others]
        rfl

theorem Node.reread_lay_out (node : Node) (depth : Nat) :
    (node.layOut depth).reread around = (node.reread around).layOut depth := by
  induction node using Node.induction_on_children generalizing around depth with
  | leaf node leaf =>
      have still : (node.reread around).element? = none := by
        cases node with
        | element => cases leaf
        | _ => rfl
      rw [Node.lay_out_leaf leaf, Node.lay_out_leaf still]
  | element name attributes children ih =>
      have same := Forest.is_inline_reread (attributes :: around) children
      cases shown : Forest.isInline children with
      | true =>
          rw [Node.lay_out_inline shown, Node.reread, Node.lay_out_inline (same.trans shown)]
      | false =>
          have below := lines_reread (attributes :: around) fun child member =>
            ih child member (attributes :: around) (depth + 1)
          rw [Node.lay_out_lines shown, Node.reread, Node.reread,
            Node.lay_out_lines (same.trans shown), ← below, Forest.last_line_reread]
          simp [Forest.reread_eq_map, Node.reread]

theorem Forest.reread_lay_out (nodes : Forest) :
    Forest.reread around nodes.layOut = Forest.layOut (Forest.reread around nodes) := by
  unfold Forest.layOut
  rw [Forest.shown_reread]
  induction nodes.shown with
  | nil => rfl
  | cons node rest ih =>
      rw [Forest.reread, List.flatMap_cons, List.flatMap_cons, ← ih, ← Node.reread_lay_out]
      rfl

end

theorem Forest.elements_cons (node : Node) (rest : Forest) :
    Forest.elements (node :: rest) = node.element?.toList ++ Forest.elements rest := by
  rw [Forest.elements, List.filterMap_cons]
  cases node.element? <;> rfl

theorem Forest.elements_prepend (node : Node) (rest : Forest) :
    Forest.elements (Forest.prepend node rest) = Forest.elements (node :: rest) := by
  cases node with
  | text content =>
      rw [Forest.prepend, Forest.elements_cons]
      by_cases begins : ∃ later more, rest = .text later :: more
      · obtain ⟨later, more, rfl⟩ := begins
        rfl
      · rw [Forest.prepend_text_alone content fun later more same => begins ⟨later, more, same⟩]
        split <;> rfl
  | _ => rfl

theorem Forest.elements_tidy (nodes : Forest) :
    Forest.elements nodes.tidy = Forest.elements (nodes.map Node.tidy) := by
  induction nodes with
  | nil => rfl
  | cons node rest ih =>
      rw [Forest.tidy, Forest.elements_prepend, List.map_cons, Forest.elements_cons,
        Forest.elements_cons, ih]

theorem Forest.elements_lay_out (nodes : Forest) :
    Forest.elements nodes.layOut = Forest.elements (nodes.map (Node.layOut 0)) := by
  induction nodes with
  | nil => rfl
  | cons node rest ih =>
      rw [Forest.lay_out_cons, List.map_cons, Forest.elements_cons]
      cases blank : node.isBlank with
      | true =>
          cases node with
          | text content => exact ih
          | _ => cases blank
      | false =>
          rw [if_neg nofun, Forest.elements_cons, Forest.elements_cons, ih]
          rfl

/-- A change that makes elements of elements, and of nothing else, changes the elements one by
one. -/
theorem Forest.elements_map {change : Node → Node}
    (kind : ∀ node, (change node).isElement = node.isElement) (nodes : Forest) :
    Forest.elements (nodes.map change) = (Forest.elements nodes).map fun element =>
      (change element.toNode).element?.getD element := by
  induction nodes with
  | nil => rfl
  | cons node rest ih =>
      have same := kind node
      rw [List.map_cons, Forest.elements_cons, Forest.elements_cons, List.map_append, ih]
      congr 1
      cases node with
      | element name attributes children =>
          obtain ⟨changed, found⟩ := Option.isSome_iff_exists.1 same
          have own : (change (Element.toNode ⟨name, attributes, children⟩)).element? =
              some changed := found
          rw [found, Node.element?, Option.toList_some, Option.toList_some, List.map_cons, own]
          rfl
      | _ =>
          rw [Option.not_isSome_iff_eq_none.1 (Bool.eq_false_iff.1 same)]
          rfl

theorem Node.is_element_lay_out (node : Node) (depth : Nat) :
    (node.layOut depth).isElement = node.isElement := by
  cases node <;> rfl

theorem Node.is_element_tidy (node : Node) : node.tidy.isElement = node.isElement := by
  cases node <;> rfl

/-- The elements at the top are those that were there before, each laid out. -/
theorem Forest.elements_lay_out_map {change : Node → Node}
    (kind : ∀ node, (change node).isElement = node.isElement) (nodes : Forest) :
    Forest.elements (nodes.layOut.map change) =
      Forest.elements (nodes.map fun node => change (node.layOut 0)) := by
  rw [Forest.elements_map kind, Forest.elements_lay_out, ← Forest.elements_map kind, List.map_map]
  rfl

theorem Forest.length_elements_lay_out_tidy (nodes : Forest) :
    (Forest.elements nodes.layOut.tidy).length = (Forest.elements nodes).length := by
  have kind : ∀ node : Node, (node.layOut 0).tidy.isElement = node.isElement := fun node =>
    (Node.is_element_tidy _).trans (Node.is_element_lay_out node 0)
  rw [Forest.elements_tidy, Forest.elements_lay_out_map Node.is_element_tidy,
    Forest.elements_map kind, List.length_map]

/-- Readable nodes are read back from their indented markup as they were laid out. -/
theorem read_write_indented {nodes : Forest} (readable : Forest.Readable [] nodes)
    (unmarked : (Forest.writeIndented nodes).toList.head? ≠ some '\ufeff') :
    Forest.read (Forest.writeIndented nodes) =
      .ok (Forest.layOut (Forest.reread [] nodes)).tidy := by
  rw [write_indented_eq] at unmarked ⊢
  rw [read_write_of_readable (Forest.readable_lay_out readable) unmarked, Forest.reread_lay_out]

end XmlTemplate.Markup
