import Mathlib.Algebra.Order.BigOperators.Group.List
import Mathlib.Algebra.Order.Group.Nat
import XmlTemplate.Proofs.Markup.Blanks
import XmlTemplate.Proofs.Markup.IndentedText

/-!
Indented markup that is indented again. An element with nothing but blank text loses that text when
it is indented but keeps both its tags; read back it is empty, and one tag does. This is the only
thing that changes the second time, and the third time nothing changes.
-/

namespace XmlTemplate.Markup

mutual
/-- The node with nothing inside those of its indented elements that have no child to show. -/
def Node.emptied : Node → Node
  | .element name attributes children =>
      .element name attributes <|
        if Forest.isInline children then children
        else if children.all Node.isBlank then [] else Forest.emptied children
  | node => node

def Forest.emptied : Forest → Forest
  | [] => []
  | node :: rest => node.emptied :: Forest.emptied rest
end

mutual
def Node.Filled : Node → Prop
  | .element _ _ children =>
      Forest.isInline children = false → children.all Node.isBlank = false ∧ Forest.Filled children
  | _ => True

def Forest.Filled : Forest → Prop
  | [] => True
  | node :: rest => node.Filled ∧ Forest.Filled rest
end

theorem forest_filled_iff {nodes : Forest} :
    Forest.Filled nodes ↔ ∀ node ∈ nodes, node.Filled := by
  induction nodes with
  | nil => simp [Forest.Filled]
  | cons node rest ih => simp [Forest.Filled, ih]

theorem Node.filled_leaf {node : Node} (leaf : node.element? = none) : node.Filled := by
  cases node with
  | element => cases leaf
  | _ => trivial

theorem Node.filled_inline {children : Forest} (name : Name) (attributes : Attributes)
    (shown : Forest.isInline children = true) :
    Node.Filled (.element name attributes children) := by
  intro hidden
  rw [shown] at hidden
  cases hidden

theorem Node.filled_of_blank {node : Node} (blank : node.isBlank = true) : node.Filled := by
  cases node with
  | text content => trivial
  | _ => cases blank

theorem Forest.emptied_eq_map (nodes : Forest) : nodes.emptied = nodes.map Node.emptied := by
  induction nodes with
  | nil => rfl
  | cons node rest ih => rw [Forest.emptied, ih, List.map_cons]

section
variable (node : Node)

@[simp] theorem Node.is_blank_emptied : node.emptied.isBlank = node.isBlank := by
  cases node <;> simp [Node.emptied, Node.isBlank]

@[simp] theorem Node.is_text_emptied : node.emptied.isText = node.isText := by
  cases node <;> simp [Node.emptied, Node.isText]

@[simp] theorem Node.is_significant_text_emptied :
    node.emptied.isSignificantText = node.isSignificantText := by
  cases node <;> simp [Node.emptied, Node.isSignificantText]

end

theorem Node.emptied_leaf {node : Node} (leaf : node.element? = none) : node.emptied = node := by
  cases node with
  | element => cases leaf
  | _ => rfl

theorem Forest.shown_emptied (nodes : Forest) :
    nodes.emptied.shown = nodes.shown.map Node.emptied := by
  rw [Forest.emptied_eq_map, shown_map Node.is_blank_emptied]

theorem all_blank_iff {nodes : Forest} : nodes.all Node.isBlank = true ↔ nodes.shown = [] := by
  simp [Forest.shown, List.filter_eq_nil_iff]

section
variable {name : Name} {attributes : Attributes} {children : Forest}

theorem Node.emptied_inline (shown : Forest.isInline children = true) :
    Node.emptied (.element name attributes children) = .element name attributes children := by
  rw [Node.emptied, if_pos shown]

theorem Node.emptied_blank (hidden : Forest.isInline children = false)
    (blank : children.all Node.isBlank = true) :
    Node.emptied (.element name attributes children) = .element name attributes [] := by
  rw [Node.emptied, hidden, if_neg Bool.false_ne_true, if_pos blank]

theorem Node.emptied_shown (hidden : Forest.isInline children = false)
    (shown : children.all Node.isBlank = false) :
    Node.emptied (.element name attributes children) =
      .element name attributes children.emptied := by
  rw [Node.emptied, hidden, shown, if_neg Bool.false_ne_true, if_neg Bool.false_ne_true]

end

theorem Forest.write_lines_eq (depth : Nat) (nodes : Forest) :
    Forest.writeLines depth nodes =
      String.join (nodes.shown.map fun node => newLine depth ++ node.writeIndented depth) := by
  induction nodes with
  | nil => rfl
  | cons node rest ih =>
      rw [Forest.writeLines, Forest.shown_cons, ih]
      split
      · rw [String.empty_append]
      · rw [List.map_cons, String.join_cons]

section
variable {name : Name} {attributes : Attributes} {children : Forest}

theorem Node.write_indented_blank (some_child : children ≠ [])
    (blank : children.all Node.isBlank = true) (depth : Nat) :
    Node.writeIndented depth (.element name attributes children) =
      writeTagStart name attributes ++ ">" ++ writeTagEnd name := by
  have none_shown := all_blank_iff.1 blank
  have bare : children.any Node.isSignificantText = false := by
    rw [← any_significant_shown, none_shown, List.any_nil]
  cases children with
  | nil => exact absurd rfl some_child
  | cons child rest =>
      rw [Node.writeIndented, bare, if_neg Bool.false_ne_true, Forest.write_lines_eq, none_shown,
        if_pos blank, List.map_nil, String.join_nil, String.append_empty, String.append_empty]

theorem Node.write_indented_shown (bare : children.any Node.isSignificantText = false)
    (shown : children.all Node.isBlank = false) (depth : Nat) :
    Node.writeIndented depth (.element name attributes children) =
      writeTagStart name attributes ++ ">" ++
        String.join (children.shown.map fun child =>
          newLine (depth + 1) ++ child.writeIndented (depth + 1)) ++
        newLine depth ++ writeTagEnd name := by
  cases children with
  | nil => cases shown
  | cons child rest =>
      rw [Node.writeIndented, bare, if_neg Bool.false_ne_true, Forest.write_lines_eq, shown,
        if_neg Bool.false_ne_true]

section
variable {others : Forest} {change : Node → Node} {depth : Nat}
  (bare : children.any Node.isSignificantText = false) (shown : children.all Node.isBlank = false)
  (significant : ∀ node, (change node).isSignificantText = node.isSignificantText)
  (changed : others.shown = children.shown.map change)
include bare shown significant changed

/-- Children that were changed without hiding any are written as what the shown ones became. -/
theorem Node.write_indented_changed :
    Node.writeIndented depth (.element name attributes others) =
      writeTagStart name attributes ++ ">" ++
        String.join (children.shown.map fun child =>
          newLine (depth + 1) ++ (change child).writeIndented (depth + 1)) ++
        newLine depth ++ writeTagEnd name := by
  have same : others.any Node.isSignificantText = false := by
    rw [← any_significant_shown, changed, List.any_map]
    simp only [Function.comp_def, significant]
    rw [any_significant_shown, bare]
  have some_shown : others.all Node.isBlank = false := by
    rw [Bool.eq_false_iff, Ne, all_blank_iff] at shown ⊢
    rwa [changed, List.map_eq_nil_iff]
  rw [Node.write_indented_shown same some_shown, changed, List.map_map]
  rfl

theorem Node.write_indented_congr {more : Forest} {another : Node → Node}
    (likewise : ∀ node, (another node).isSignificantText = node.isSignificantText)
    (altered : more.shown = children.shown.map another)
    (each : ∀ child ∈ children,
      (change child).writeIndented (depth + 1) = (another child).writeIndented (depth + 1)) :
    Node.writeIndented depth (.element name attributes others) =
      Node.writeIndented depth (.element name attributes more) := by
  have lines : (children.shown.map fun child =>
        newLine (depth + 1) ++ (change child).writeIndented (depth + 1)) =
      children.shown.map fun child =>
        newLine (depth + 1) ++ (another child).writeIndented (depth + 1) :=
    List.map_congr_left fun child member =>
      congrArg (newLine (depth + 1) ++ ·) (each child (List.mem_of_mem_filter member))
  rw [Node.write_indented_changed bare shown significant changed,
    Node.write_indented_changed bare shown likewise altered, lines]

end

end

theorem tidy_lines_of_blank {children : Forest} (blank : children.all Node.isBlank = true)
    (inside outside : Nat) : Forest.tidy (Forest.lines inside children ++
      [.text (Forest.lastLine outside children)]) = [] := by
  rw [Forest.lines_eq, all_blank_iff.1 blank, Forest.lastLine, if_pos blank]
  rfl

/-- What was laid out is written like what was emptied. -/
theorem Node.write_indented_lay_out {node : Node} {around : Surroundings} (depth : Nat)
    (read : node.WellRead around) :
    (node.layOut depth).tidy.writeIndented depth = node.emptied.writeIndented depth := by
  induction node using Node.induction_on_children generalizing around depth with
  | leaf node leaf =>
      rw [Node.lay_out_leaf leaf, Node.emptied_leaf leaf, Node.tidy_of_well_read _ read]
  | element name attributes children ih =>
      cases shows : Forest.isInline children with
      | true =>
          rw [Node.lay_out_inline shows, Node.emptied_inline shows, Node.tidy_of_well_read _ read]
      | false =>
          rw [Node.lay_out_lines shows, Node.tidy]
          cases blank : children.all Node.isBlank with
          | true => rw [Node.emptied_blank shows blank, tidy_lines_of_blank blank]
          | false =>
              have bare : children.any Node.isSignificantText = false :=
                (Bool.or_eq_false_iff.1 shows).2
              have laid_out := lines_tidy (depth + 1) bare (blank_last_line depth children)
              rw [List.map_map] at laid_out
              have significant : ∀ node : Node,
                  (node.layOut (depth + 1)).tidy.isSignificantText = node.isSignificantText := by
                simp
              rw [Node.emptied_shown shows blank]
              refine Node.write_indented_congr bare blank significant laid_out
                Node.is_significant_text_emptied (Forest.shown_emptied children) ?_
              obtain ⟨-, -, -, below⟩ := read
              exact fun child member =>
                ih child member (depth + 1) (forest_well_read_iff.1 below child member)

theorem Attributes.write_reread (around : Surroundings) (attributes : Attributes) :
    Attributes.write (attributes.map (·.reread around)) = attributes.write := by
  rw [Attributes.write, List.foldr_map]
  rfl

mutual
theorem Node.write_reread (around : Surroundings) :
    (node : Node) → (node.reread around).write = node.write
  | .element name attributes [] => by
      have start := Attributes.write_reread (attributes :: around) attributes
      rw [Node.reread, Forest.reread, Node.write, Node.write, writeTagStart, start]
      rfl
  | .element name attributes (child :: rest) => by
      have start := Attributes.write_reread (attributes :: around) attributes
      rw [Node.reread, Forest.reread, Node.write, Node.write, writeTagStart, start,
        Node.write_reread _ child, Forest.write_reread _ rest]
      rfl
  | .text _ | .cdata _ | .comment _ | .instruction _ | .doctype _ | .declaration _ => rfl

theorem Forest.write_reread (around : Surroundings) :
    (nodes : Forest) → (Forest.reread around nodes).write = Forest.write nodes
  | [] => rfl
  | node :: rest => by
      rw [Forest.reread, Forest.write, Forest.write, Node.write_reread around node,
        Forest.write_reread around rest]
end

theorem Forest.write_indented_reread (around : Surroundings) (nodes : Forest) :
    Forest.writeIndented (Forest.reread around nodes) = Forest.writeIndented nodes := by
  rw [write_indented_eq, ← Forest.reread_lay_out, Forest.write_reread, ← write_indented_eq]

theorem Node.emptied_element (name : Name) (attributes : Attributes) (children : Forest) :
    ∃ others, Node.emptied (.element name attributes children) =
        .element name attributes others ∧
      (others = children ∨ others = [] ∨ others = children.emptied) := by
  cases shows : Forest.isInline children with
  | true => exact ⟨_, Node.emptied_inline shows, .inl rfl⟩
  | false =>
      cases blank : children.all Node.isBlank with
      | true => exact ⟨_, Node.emptied_blank shows blank, .inr (.inl rfl)⟩
      | false => exact ⟨_, Node.emptied_shown shows blank, .inr (.inr rfl)⟩

theorem apart_emptied {nodes : Forest} (apart : nodes.Apart) : nodes.emptied.Apart := by
  rw [Forest.emptied_eq_map, Forest.Apart, List.isChain_map]
  simp only [Node.is_text_emptied]
  exact apart

theorem Node.well_read_emptied {node : Node} {around : Surroundings}
    (read : node.WellRead around) : node.emptied.WellRead around := by
  induction node using Node.induction_on_children generalizing around with
  | leaf node leaf =>
      rw [Node.emptied_leaf leaf]
      exact read
  | element name attributes children ih =>
      obtain ⟨tag, keeps, apart, below⟩ := read
      obtain ⟨others, same, rfl | rfl | rfl⟩ := Node.emptied_element name attributes children
      · rw [same]
        exact ⟨tag, keeps, apart, below⟩
      · rw [same]
        exact ⟨tag, fun some_child => absurd rfl some_child, .nil, trivial⟩
      · rw [same]
        refine ⟨tag, fun some_child => keeps ?_, apart_emptied apart, ?_⟩
        · rintro rfl
          exact some_child rfl
        · rw [Forest.emptied_eq_map, forest_well_read_iff, List.forall_mem_map]
          exact fun child member => ih child member (forest_well_read_iff.1 below child member)

theorem Node.simple_emptied {node : Node} (simple : node.Throughout Node.Simple) :
    node.emptied.Throughout Node.Simple := by
  induction node using Node.induction_on_children with
  | leaf node leaf =>
      rw [Node.emptied_leaf leaf]
      exact simple
  | element name attributes children ih =>
      obtain ⟨tag, below⟩ := simple
      obtain ⟨others, same, rfl | rfl | rfl⟩ := Node.emptied_element name attributes children
      · rw [same]
        exact ⟨tag, below⟩
      · rw [same]
        exact ⟨tag, trivial⟩
      · rw [same]
        refine ⟨tag, ?_⟩
        rw [Forest.emptied_eq_map, throughout_iff, List.forall_mem_map]
        exact fun child member => ih child member (throughout_iff.1 below child member)

theorem blank_texts_emptied {nodes : Forest} (texts : nodes.BlankTexts) :
    nodes.emptied.BlankTexts := by
  rw [Forest.emptied_eq_map, Forest.BlankTexts, List.forall_mem_map]
  simp only [Node.is_text_emptied, Node.is_blank_emptied]
  exact texts

section
variable {nodes : Forest}

theorem Forest.well_read_emptied {around : Surroundings} (read : Forest.WellRead around nodes) :
    Forest.WellRead around nodes.emptied := by
  rw [Forest.emptied_eq_map, forest_well_read_iff, List.forall_mem_map]
  exact fun node member => Node.well_read_emptied (forest_well_read_iff.1 read node member)

theorem Forest.simple_emptied (simple : Forest.Throughout Node.Simple nodes) :
    Forest.Throughout Node.Simple nodes.emptied := by
  rw [Forest.emptied_eq_map, throughout_iff, List.forall_mem_map]
  exact fun node member => Node.simple_emptied (throughout_iff.1 simple node member)

theorem Forest.length_elements_emptied (nodes : Forest) :
    (Forest.elements nodes.emptied).length = (Forest.elements nodes).length := by
  have kind : ∀ node : Node, node.emptied.isElement = node.isElement := by
    intro node
    cases node <;> simp [Node.emptied, Node.isElement, Node.element?]
  rw [Forest.emptied_eq_map, Forest.elements_map kind, List.length_map]

end

theorem Node.emptied_of_filled {node : Node} (filled : node.Filled) : node.emptied = node := by
  induction node using Node.induction_on_children with
  | leaf node leaf => exact Node.emptied_leaf leaf
  | element name attributes children ih =>
      cases shows : Forest.isInline children with
      | true => exact Node.emptied_inline shows
      | false =>
          obtain ⟨shown, below⟩ := filled shows
          have same : children.map Node.emptied = children.map id :=
            List.map_congr_left fun child member =>
              ih child member (forest_filled_iff.1 below child member)
          rw [Node.emptied_shown shows shown, Forest.emptied_eq_map, same, List.map_id]

theorem Node.filled_emptied (node : Node) : node.emptied.Filled := by
  induction node using Node.induction_on_children with
  | leaf node leaf =>
      rw [Node.emptied_leaf leaf]
      exact Node.filled_leaf leaf
  | element name attributes children ih =>
      cases shows : Forest.isInline children with
      | true =>
          rw [Node.emptied_inline shows]
          exact Node.filled_inline name attributes shows
      | false =>
          cases blank : children.all Node.isBlank with
          | true =>
              rw [Node.emptied_blank shows blank]
              exact nofun
          | false =>
              rw [Node.emptied_shown shows blank, Forest.emptied_eq_map]
              refine fun _ => ⟨?_, ?_⟩
              · rw [List.all_map]
                simpa only [Function.comp_def, Node.is_blank_emptied] using blank
              · rw [forest_filled_iff, List.forall_mem_map]
                exact ih

/-- Markup that is no longer than before, and shorter unless a condition holds. -/
structure Shortens (filled : Prop) (before after : String) : Prop where
  noLonger : after.length ≤ before.length
  shorter : ¬ filled → after.length < before.length

theorem shortens_nothing {filled : Prop} (holds : filled) (markup : String) :
    Shortens filled markup markup where
  noLonger := le_rfl
  shorter := fun unfilled => absurd holds unfilled

theorem shortens_lines {nodes : Forest} {depth extra : Nat} {line : String → String}
    (longer : ∀ markup, (line markup).length = markup.length + extra)
    (each : ∀ node ∈ nodes,
      Shortens node.Filled (node.writeIndented depth) (node.emptied.writeIndented depth)) :
    Shortens (Forest.Filled nodes)
      (String.join (nodes.shown.map fun node => line (node.writeIndented depth)))
      (String.join (nodes.shown.map fun node => line (node.emptied.writeIndented depth))) := by
  have lines : ∀ node ∈ nodes.shown, (line (node.emptied.writeIndented depth)).length ≤
      (line (node.writeIndented depth)).length := by
    intro node member
    rw [longer, longer]
    exact Nat.add_le_add_right (each node (List.mem_of_mem_filter member)).noLonger extra
  constructor
  · rw [String.length_join, String.length_join, List.map_map, List.map_map]
    exact List.sum_le_sum lines
  · intro unfilled
    rw [forest_filled_iff] at unfilled
    push Not at unfilled
    obtain ⟨node, member, blanks⟩ := unfilled
    have shows : node ∈ nodes.shown := by
      refine List.mem_filter.2 ⟨member, ?_⟩
      rw [Bool.not_eq_true']
      exact Bool.eq_false_iff.2 fun blank => blanks (Node.filled_of_blank blank)
    have fewer : (line (node.emptied.writeIndented depth)).length <
        (line (node.writeIndented depth)).length := by
      rw [longer, longer]
      exact Nat.add_lt_add_right ((each node member).shorter blanks) extra
    rw [String.length_join, String.length_join, List.map_map, List.map_map]
    exact List.sum_lt_sum _ _ lines ⟨node, shows, fewer⟩

/-- One tag is shorter than two. -/
theorem Node.shorter_of_blank {children : Forest} (name : Name) (attributes : Attributes)
    (some_child : children ≠ []) (blank : children.all Node.isBlank = true) (depth : Nat) :
    (Node.writeIndented depth (.element name attributes [])).length <
      (Node.writeIndented depth (.element name attributes children)).length := by
  have closed : "/>".length = 2 := rfl
  have opened : ">".length = 1 := rfl
  have ends : "</".length = 2 := rfl
  rw [Node.write_indented_blank some_child blank, Node.writeIndented, writeTagEnd]
  simp only [String.length_append]
  omega

theorem Node.shortens_emptied (node : Node) (depth : Nat) :
    Shortens node.Filled (node.writeIndented depth) (node.emptied.writeIndented depth) := by
  induction node using Node.induction_on_children generalizing depth with
  | leaf node leaf =>
      rw [Node.emptied_leaf leaf]
      exact shortens_nothing (Node.filled_leaf leaf) _
  | element name attributes children ih =>
      cases shows : Forest.isInline children with
      | true =>
          rw [Node.emptied_inline shows]
          exact shortens_nothing (Node.filled_inline name attributes shows) _
      | false =>
          cases blank : children.all Node.isBlank with
          | true =>
              have some_child : children ≠ [] := by
                rintro rfl
                cases shows
              have shorter := Node.shorter_of_blank name attributes some_child blank depth
              rw [Node.emptied_blank shows blank]
              exact ⟨shorter.le, fun _ => shorter⟩
          | false =>
              have bare : children.any Node.isSignificantText = false :=
                (Bool.or_eq_false_iff.1 shows).2
              have longer : ∀ markup : String, (newLine (depth + 1) ++ markup).length =
                  markup.length + (newLine (depth + 1)).length := fun markup => by
                rw [String.length_append, Nat.add_comm]
              obtain ⟨noLonger, shorter⟩ := shortens_lines longer fun child member =>
                ih child member (depth + 1)
              rw [Node.emptied_shown shows blank, Node.write_indented_shown bare blank,
                Node.write_indented_changed bare blank Node.is_significant_text_emptied
                  (Forest.shown_emptied children)]
              constructor
              · simp only [String.length_append] at noLonger ⊢
                omega
              · intro unfilled
                have fewer := shorter fun below => unfilled fun _ => ⟨blank, below⟩
                simp only [String.length_append] at fewer ⊢
                omega

section
variable {nodes : Forest}

theorem Forest.write_indented_lay_out {around : Surroundings}
    (read : Forest.WellRead around nodes) (texts : nodes.BlankTexts) :
    Forest.writeIndented nodes.layOut.tidy = Forest.writeIndented nodes.emptied := by
  have laid_out := (shown_tidy (blank_texts_lay_out texts)).2
  rw [shown_lay_out, List.map_map] at laid_out
  have emptied := nodes.shown_emptied
  unfold Forest.writeIndented
  unfold Forest.shown at laid_out emptied
  rw [laid_out, emptied, List.map_map, List.map_map]
  apply congrArg String.join
  apply List.map_congr_left
  intro node member
  have inside := List.mem_of_mem_filter member
  have same := Node.write_indented_lay_out 0 (forest_well_read_iff.1 read node inside)
  exact congrArg (· ++ "\n") same

theorem Forest.write_indented_emptied_iff (nodes : Forest) :
    Forest.writeIndented nodes.emptied = Forest.writeIndented nodes ↔ Forest.Filled nodes := by
  have emptied := nodes.shown_emptied
  unfold Forest.shown at emptied
  have longer : ∀ markup : String, (markup ++ "\n").length = markup.length + 1 := fun markup =>
    String.length_append markup "\n"
  have shortens := shortens_lines longer fun node (_ : node ∈ nodes) => node.shortens_emptied 0
  constructor
  · intro same
    by_contra unfilled
    have fewer := shortens.shorter unfilled
    unfold Forest.writeIndented at same
    rw [emptied, List.map_map] at same
    exact absurd (congrArg String.length same) fewer.ne
  · intro filled
    have same : nodes.map Node.emptied = nodes.map id := List.map_congr_left fun node member =>
      Node.emptied_of_filled (forest_filled_iff.1 filled node member)
    rw [Forest.emptied_eq_map, same, List.map_id]

theorem Forest.filled_emptied (nodes : Forest) : Forest.Filled nodes.emptied := by
  rw [Forest.emptied_eq_map, forest_filled_iff, List.forall_mem_map]
  exact fun node _ => node.filled_emptied

/-- What is read from indented markup is written, indented, like the emptied nodes. -/
theorem read_indented_again (well : Forest.WellRead [] nodes)
    (simple : Forest.Throughout Node.Simple nodes) (texts : nodes.BlankTexts) :
    ∃ again, Forest.read (Forest.writeIndented nodes) = .ok again ∧
      Forest.writeIndented again = Forest.writeIndented nodes.emptied ∧
      (Forest.elements again).length = (Forest.elements nodes).length := by
  have readable := Forest.readable_of_simple nodes well simple
  refine ⟨_, read_write_indented readable (unmarked_of_blank_texts texts), ?_, ?_⟩
  · rw [← Forest.reread_lay_out, Forest.tidy_reread, Forest.write_indented_reread,
      Forest.write_indented_lay_out well texts]
  · have kind : ∀ node : Node, (node.reread []).isElement = node.isElement := by
      intro node
      cases node <;> rfl
    rw [Forest.length_elements_lay_out_tidy, Forest.reread_eq_map, Forest.elements_map kind,
      List.length_map]

end

/-- A document with simple names and without text at the top is read from its indented markup, and
indented again it is the same text if, and only if, no indented element is without a child to show.
Those that are have one tag from then on, and nothing changes any more. -/
theorem indented_again {text : String} {document : Document}
    (read : Document.read text = .ok document)
    (simple : Forest.Throughout Node.Simple document.nodes)
    (texts : Forest.BlankTexts document.nodes) :
    ∃ again settled, Document.read document.writeIndented = .ok again ∧
      again.writeIndented = Forest.writeIndented (Forest.emptied document.nodes) ∧
      (again.writeIndented = document.writeIndented ↔ Forest.Filled document.nodes) ∧
      Document.read again.writeIndented = .ok settled ∧
      settled.writeIndented = again.writeIndented := by
  obtain ⟨-, well⟩ := well_read_of_document read
  have one := (document_read_iff.1 read).2
  obtain ⟨again, first, changed, count⟩ := read_indented_again well simple texts
  obtain ⟨settled, second, same, still⟩ := read_indented_again (Forest.well_read_emptied well)
    (Forest.simple_emptied simple) (blank_texts_emptied texts)
  rw [Forest.length_elements_emptied] at still
  rw [(Forest.write_indented_emptied_iff _).2 (Forest.filled_emptied _), ← changed] at same
  rw [← changed] at second
  refine ⟨⟨again⟩, ⟨settled⟩, document_read_iff.2 ⟨first, count.trans one⟩, changed, ?_,
    document_read_iff.2 ⟨second, still.trans one⟩, same⟩
  rw [← Forest.write_indented_emptied_iff, ← changed]
  rfl

def sortedPage : String :=
  "<a> <b>x <c> </c></b><!-- c --><d> <![CDATA[y]]></d> <e> <f> </f> <g/></e> </a>"

def sortedTree : Document :=
  ⟨[.element (.plain "a") []
    [.text " ",
      .element (.plain "b") [] [.text "x ", .element (.plain "c") [] [.text " "]],
      .comment " c ",
      .element (.plain "d") [] [.text " ", .cdata "y"],
      .text " ",
      .element (.plain "e") []
        [.text " ", .element (.plain "f") [] [.text " "], .text " ", .element (.plain "g") [] []],
      .text " "]]⟩

theorem sorted_page_indented_again : Document.read sortedPage = .ok sortedTree ∧
    Forest.Throughout Node.Simple sortedTree.nodes ∧ Forest.BlankTexts sortedTree.nodes ∧
    ∃ again settled, Document.read sortedTree.writeIndented = .ok again ∧
      again.writeIndented = Forest.writeIndented (Forest.emptied sortedTree.nodes) ∧
      (again.writeIndented = sortedTree.writeIndented ↔ Forest.Filled sortedTree.nodes) ∧
      Document.read again.writeIndented = .ok settled ∧
      settled.writeIndented = again.writeIndented := by
  have read : Document.read sortedPage = .ok sortedTree := by decide +kernel
  have simple : Forest.Throughout Node.Simple sortedTree.nodes := by decide +kernel
  have texts : Forest.BlankTexts sortedTree.nodes := by decide
  exact ⟨read, simple, texts, indented_again read simple texts⟩

/-- An element with nothing but a blank is written with two tags at first, then with one. -/
theorem indented_not_always_same_again :
    ¬ ∀ (text : String) (document : Document), Document.read text = .ok document →
      Forest.Throughout Node.Simple document.nodes → Forest.BlankTexts document.nodes →
        ∃ again, Document.read document.writeIndented = .ok again ∧
          again.writeIndented = document.writeIndented := by
  intro all
  let document : Document := ⟨[.element (.plain "a") [] [.text " "]]⟩
  have read : Document.read "<a> </a>" = .ok document := by decide +kernel
  have simple : Forest.Throughout Node.Simple document.nodes := by decide +kernel
  have texts : Forest.BlankTexts document.nodes := by decide
  have indented : Document.read document.writeIndented =
      .ok ⟨[.element (.plain "a") [] [], .text "\n"]⟩ := by
    decide +kernel
  obtain ⟨again, back, same⟩ := all _ document read simple texts
  rw [indented] at back
  cases back
  exact absurd same (by decide +kernel)

end XmlTemplate.Markup
