import XmlTemplate.Proofs.Markup.Indentation
import XmlTemplate.Proofs.Markup.PlainDeclarations

/-!
What indentation changes. Blank text comes and goes in elements that hold no text that shows, and at
the top of the document; if it is left out of account there, a document comes back from its indented
markup as it was.
-/

namespace XmlTemplate.Markup

mutual
/-- A node without the blank text among the children of elements that hold no text that shows. An
element with such text keeps all of its own text; whether the elements in it are changed is told by
`deep`. -/
def Node.withoutBlanks (deep : Bool) : Node → Node
  | .element name attributes children =>
      .element name attributes <|
        if children.any Node.isSignificantText then
          if deep then Forest.eachWithoutBlanks deep children else children
        else Forest.shown (Forest.eachWithoutBlanks deep children)
  | node => node

/-- Siblings, blank text included, each without the blank text inside it. -/
def Forest.eachWithoutBlanks (deep : Bool) : Forest → Forest
  | [] => []
  | node :: rest => node.withoutBlanks deep :: Forest.eachWithoutBlanks deep rest
end

/-- A document without blank text at the top and among the children of elements that hold no text
that shows. -/
def Document.withoutBlanks (deep : Bool) (document : Document) : Document :=
  ⟨Forest.shown (Forest.eachWithoutBlanks deep document.nodes)⟩

theorem each_without_blanks_eq_map (deep : Bool) (nodes : Forest) :
    Forest.eachWithoutBlanks deep nodes = nodes.map (Node.withoutBlanks deep) := by
  induction nodes with
  | nil => rfl
  | cons node rest ih => rw [Forest.eachWithoutBlanks, ih, List.map_cons]

section
variable (node : Node)

@[simp] theorem Node.is_blank_lay_out (depth : Nat) :
    (node.layOut depth).isBlank = node.isBlank := by
  cases node <;> simp [Node.layOut, Node.isBlank]

@[simp] theorem Node.is_text_lay_out (depth : Nat) :
    (node.layOut depth).isText = node.isText := by
  cases node <;> simp [Node.layOut, Node.isText]

@[simp] theorem Node.is_significant_text_lay_out (depth : Nat) :
    (node.layOut depth).isSignificantText = node.isSignificantText := by
  cases node <;> simp [Node.layOut, Node.isSignificantText]

@[simp] theorem Node.is_text_tidy : node.tidy.isText = node.isText := by
  cases node <;> simp [Node.tidy, Node.isText]

@[simp] theorem Node.is_blank_tidy : node.tidy.isBlank = node.isBlank := by
  cases node <;> simp [Node.tidy, Node.isBlank]

@[simp] theorem Node.is_significant_text_tidy :
    node.tidy.isSignificantText = node.isSignificantText := by
  cases node <;> simp [Node.tidy, Node.isSignificantText]

@[simp] theorem Node.is_blank_without_blanks (deep : Bool) :
    (node.withoutBlanks deep).isBlank = node.isBlank := by
  cases node <;> simp [Node.withoutBlanks, Node.isBlank]

end

section
variable {nodes rest : Forest} {node : Node}

theorem shown_map {change : Node → Node} (same : ∀ node, (change node).isBlank = node.isBlank)
    (nodes : Forest) : Forest.shown (nodes.map change) = nodes.shown.map change := by
  simp [Forest.shown, List.filter_map, Function.comp_def, same]

/-- Text that shows is shown. -/
theorem any_significant_shown (nodes : Forest) :
    nodes.shown.any Node.isSignificantText = nodes.any Node.isSignificantText := by
  rw [Forest.shown, List.any_filter]
  congr 1
  funext node
  cases node <;> simp [Node.isBlank, Node.isSignificantText]

/-- No text among the siblings shows anything. There may be character data. -/
def Forest.BlankTexts (nodes : Forest) : Prop :=
  ∀ node ∈ nodes, node.isText = true → node.isBlank = true

instance (nodes : Forest) : Decidable nodes.BlankTexts :=
  inferInstanceAs (Decidable (∀ node ∈ nodes, _ → _))

theorem blank_texts_cons_iff : Forest.BlankTexts (node :: rest) ↔
    (node.isText = true → node.isBlank = true) ∧ Forest.BlankTexts rest :=
  List.forall_mem_cons

theorem blank_new_line (depth : Nat) : Text.isAllBlank (newLine depth) = true := by
  rw [Text.isAllBlank, newLine, String.toList_ofList, List.all_cons, List.all_replicate]
  split <;> rfl

/-- Blank text that is put before siblings is not shown. -/
theorem shown_prepend_text {content : String} (blank : (Node.text content).isBlank = true)
    (texts : nodes.BlankTexts) : Forest.BlankTexts (nodes.prependText content) ∧
      Forest.shown (nodes.prependText content) = nodes.shown := by
  by_cases begins : ∃ later rest, nodes = .text later :: rest
  · obtain ⟨later, rest, rfl⟩ := begins
    obtain ⟨first, others⟩ := blank_texts_cons_iff.1 texts
    have both : (Node.text (content ++ later)).isBlank = true := by
      rw [Node.isBlank, Text.is_all_blank_append, Bool.and_eq_true]
      exact ⟨blank, first rfl⟩
    rw [Forest.prependText, Forest.shown_cons, Forest.shown_cons, if_pos both, if_pos (first rfl)]
    exact ⟨blank_texts_cons_iff.2 ⟨fun _ => both, others⟩, rfl⟩
  · have markup : ∀ later rest, nodes ≠ .text later :: rest := fun later rest same =>
      begins ⟨later, rest, same⟩
    rw [Forest.prepend_text_alone content markup]
    split
    · exact ⟨texts, rfl⟩
    · rw [Forest.shown_cons, if_pos blank]
      exact ⟨blank_texts_cons_iff.2 ⟨fun _ => blank, texts⟩, rfl⟩

theorem shown_prepend (texts : Forest.BlankTexts (node :: rest)) :
    Forest.BlankTexts (Forest.prepend node rest) ∧
      Forest.shown (Forest.prepend node rest) = Forest.shown (node :: rest) := by
  obtain ⟨first, others⟩ := blank_texts_cons_iff.1 texts
  cases node with
  | text content =>
      rw [Forest.prepend, Forest.shown_cons, if_pos (first rfl)]
      exact shown_prepend_text (first rfl) others
  | _ => exact ⟨texts, rfl⟩

/-- Tidying siblings among which all text is blank is tidying those that are shown. -/
theorem shown_tidy (texts : nodes.BlankTexts) :
    nodes.tidy.BlankTexts ∧ nodes.tidy.shown = nodes.shown.map Node.tidy := by
  induction nodes with
  | nil => exact ⟨texts, rfl⟩
  | cons node rest ih =>
      obtain ⟨first, others⟩ := blank_texts_cons_iff.1 texts
      obtain ⟨still, same⟩ := ih others
      have tidied : Forest.BlankTexts (node.tidy :: Forest.tidy rest) := by
        apply blank_texts_cons_iff.2
        rw [Node.is_text_tidy, Node.is_blank_tidy]
        exact ⟨first, still⟩
      obtain ⟨kept, shown⟩ := shown_prepend tidied
      refine ⟨kept, ?_⟩
      rw [Forest.tidy, shown, Forest.shown_cons, Forest.shown_cons, Node.is_blank_tidy, same]
      split <;> rfl

theorem blank_texts_lines (depth : Nat) (texts : nodes.BlankTexts) :
    (Forest.lines depth nodes).BlankTexts := by
  induction nodes with
  | nil => exact nofun
  | cons node rest ih =>
      obtain ⟨first, others⟩ := blank_texts_cons_iff.1 texts
      rw [Forest.lines]
      split
      · exact ih others
      · apply blank_texts_cons_iff.2
        refine ⟨fun _ => blank_new_line depth, blank_texts_cons_iff.2 ⟨?_, ih others⟩⟩
        rw [Node.is_text_lay_out, Node.is_blank_lay_out]
        exact first

theorem shown_lines (depth : Nat) (nodes : Forest) :
    Forest.shown (Forest.lines depth nodes) = nodes.shown.map (Node.layOut depth) := by
  induction nodes with
  | nil => rfl
  | cons node rest ih =>
      have line : (Node.text (newLine depth)).isBlank = true := blank_new_line depth
      rw [Forest.lines, Forest.shown_cons]
      cases blank : node.isBlank with
      | true => exact ih
      | false =>
          rw [if_neg nofun, if_neg nofun, Forest.shown_cons, if_pos line, Forest.shown_cons,
            Node.is_blank_lay_out, blank, if_neg nofun, ih, List.map_cons]

end

theorem blank_last_line (depth : Nat) (children : Forest) :
    (Node.text (Forest.lastLine depth children)).isBlank = true := by
  rw [Node.isBlank, Forest.lastLine]
  split
  · rfl
  · exact blank_new_line depth

theorem lines_tidy {children : Forest} {last : String} (depth : Nat)
    (bare : children.any Node.isSignificantText = false)
    (blank : (Node.text last).isBlank = true) :
    Forest.shown (Forest.tidy (Forest.lines depth children ++ [.text last])) =
      (children.shown.map (Node.layOut depth)).map Node.tidy := by
  have texts : children.BlankTexts := by
    intro node member text
    have hidden := List.any_eq_false.1 bare node member
    cases node <;> simp_all [Node.isText, Node.isBlank, Node.isSignificantText]
  have closed : Forest.BlankTexts (Forest.lines depth children ++ [.text last]) := by
    intro node member
    rcases List.mem_append.1 member with inside | end_line
    · exact blank_texts_lines depth texts node inside
    · rw [List.mem_singleton.1 end_line]
      exact fun _ => blank
  have hidden : Forest.shown [.text last] = [] := by
    rw [Forest.shown_cons, if_pos blank]
    rfl
  rw [(shown_tidy closed).2, ← shown_lines]
  unfold Forest.shown at hidden ⊢
  rw [List.filter_append, hidden, List.append_nil]

/-- Laying out changes nothing but the blank text that may come and go. -/
theorem Node.without_blanks_lay_out {node : Node} {around : Surroundings} (deep : Bool)
    (depth : Nat) (read : node.WellRead around) :
    (node.layOut depth).tidy.withoutBlanks deep = node.withoutBlanks deep := by
  induction node using Node.induction_on_children generalizing around depth with
  | leaf node leaf =>
      rw [Node.lay_out_leaf leaf]
      cases node with
      | element => cases leaf
      | _ => rfl
  | element name attributes children ih =>
      cases shows : Forest.isInline children with
      | true => rw [Node.lay_out_inline shows, Node.tidy_of_well_read _ read]
      | false =>
          obtain ⟨-, -, -, below⟩ := read
          have bare : children.any Node.isSignificantText = false :=
            (Bool.or_eq_false_iff.1 shows).2
          have shown := lines_tidy (depth + 1) bare (blank_last_line depth children)
          have still : List.any (Forest.tidy (Forest.lines (depth + 1) children ++
              [.text (Forest.lastLine depth children)])) Node.isSignificantText = false := by
            rw [← any_significant_shown, shown, List.any_map, List.any_map]
            simp only [Function.comp_def, Node.is_significant_text_tidy,
              Node.is_significant_text_lay_out]
            rw [any_significant_shown, bare]
          have blank := fun node => Node.is_blank_without_blanks node deep
          rw [Node.lay_out_lines shows, Node.tidy, Node.withoutBlanks, Node.withoutBlanks, still,
            bare, if_neg Bool.false_ne_true, if_neg Bool.false_ne_true, each_without_blanks_eq_map,
            each_without_blanks_eq_map, shown_map blank, shown_map blank, shown, List.map_map,
            List.map_map]
          apply congrArg (Node.element name attributes)
          apply List.map_congr_left
          intro child member
          have inside := List.mem_of_mem_filter member
          exact ih child inside (depth + 1) (forest_well_read_iff.1 below child inside)

section
variable {nodes : Forest}

theorem blank_texts_lay_out (texts : nodes.BlankTexts) : nodes.layOut.BlankTexts := by
  induction nodes with
  | nil => exact nofun
  | cons node rest ih =>
      obtain ⟨first, others⟩ := blank_texts_cons_iff.1 texts
      rw [Forest.lay_out_cons]
      split
      · exact ih others
      · apply blank_texts_cons_iff.2
        rw [Node.is_text_lay_out, Node.is_blank_lay_out]
        exact ⟨first, blank_texts_cons_iff.2 ⟨fun _ => rfl, ih others⟩⟩

theorem shown_lay_out (nodes : Forest) :
    Forest.shown nodes.layOut = nodes.shown.map (Node.layOut 0) := by
  induction nodes with
  | nil => rfl
  | cons node rest ih =>
      have line : (Node.text "\n").isBlank = true := rfl
      rw [Forest.lay_out_cons, Forest.shown_cons]
      cases blank : node.isBlank with
      | true => exact ih
      | false =>
          rw [if_neg nofun, if_neg nofun, Forest.shown_cons, Node.is_blank_lay_out, blank,
            if_neg nofun, Forest.shown_cons, if_pos line, ih, List.map_cons]

/-- Where no text at the top shows, indented markup begins with that of another node. -/
theorem unmarked_of_blank_texts (texts : nodes.BlankTexts) :
    (Forest.writeIndented nodes).toList.head? ≠ some '\ufeff' := by
  rw [write_indented_eq, Forest.layOut]
  cases kept : nodes.shown with
  | nil =>
      intro mark
      cases mark
  | cons node rest =>
      have member : node ∈ nodes.shown := by
        rw [kept]
        exact .head _
      obtain ⟨inside, shows⟩ := List.mem_filter.1 member
      have markup : ∀ content, node.layOut 0 ≠ .text content := by
        intro content same
        have text : node.isText = true := by rw [← Node.is_text_lay_out node 0, same]; rfl
        rw [texts node inside text] at shows
        cases shows
      intro mark
      have begins := Node.write_begins markup
        (Forest.write (.text "\n" :: rest.flatMap fun node => [node.layOut 0, .text "\n"])).toList
        '\ufeff'
      rw [← String.toList_append] at begins
      exact absurd (begins mark) (by decide)

/-- A document whose namespaces need no escaping comes back from its indented markup, up to blank
text. -/
theorem indented_of_reproducible {text : String} {document : Document}
    (read : Document.read text = .ok document) (reproducible : Forest.Reproducible document.nodes)
    (texts : Forest.BlankTexts document.nodes) :
    Document.read document.writeIndented = .ok ⟨document.nodes.layOut.tidy⟩ := by
  obtain ⟨-, well⟩ := well_read_of_document read
  obtain ⟨readable, same⟩ := (Forest.readable_iff_reproducible document.nodes well).2 reproducible
  have back := read_write_indented readable (unmarked_of_blank_texts texts)
  rw [same] at back
  have one := (document_read_iff.1 read).2
  rw [← Forest.length_elements_lay_out_tidy] at one
  exact document_read_iff.2 ⟨back, one⟩

end

/-- A plainly written document without text at the top comes back from its indented markup as it
was, if blank text is left out of account where no other text is beside it. Elements that hold text
that shows come back whole. -/
theorem indented_read_back {text : String} {document : Document}
    (read : Document.read text = .ok document) (declares : DeclaresPlainly text)
    (plain : Forest.Throughout Node.PlainlyWritten document.nodes)
    (texts : Forest.BlankTexts document.nodes) :
    ∃ again, Document.read document.writeIndented = .ok again ∧
      ∀ deep, again.withoutBlanks deep = document.withoutBlanks deep := by
  have escaped := escaped_of_read declares (document_read_iff.1 read).1
  have reproducible := Forest.reproducible_of_plain document.nodes plain escaped
  obtain ⟨-, well⟩ := well_read_of_document read
  refine ⟨_, indented_of_reproducible read reproducible texts, ?_⟩
  intro deep
  have blank := fun node => Node.is_blank_without_blanks node deep
  have shown := (shown_tidy (blank_texts_lay_out texts)).2
  apply congrArg Document.mk
  rw [each_without_blanks_eq_map, each_without_blanks_eq_map, shown_map blank, shown_map blank,
    shown, shown_lay_out, List.map_map, List.map_map]
  apply List.map_congr_left
  intro node member
  have inside := List.mem_of_mem_filter member
  exact Node.without_blanks_lay_out deep 0 (forest_well_read_iff.1 well node inside)

/-- A page with elements of both sorts, an element with text in one without, and the other way
round. -/
def mixedPage : String :=
  "<?xml version='1.0'?> <!DOCTYPE a><a xmlns:p='u'><!-- c --><p:b> x <p:c> <d/> </p:c></p:b> <e> " ++
    "</e></a>"

def mixedTree : Document :=
  ⟨[.declaration ⟨"1.0", none, none⟩, .text " ", .doctype "a",
    .element (.plain "a") [⟨⟨some "xmlns", "p", none⟩, "u"⟩]
      [.comment " c ",
        .element ⟨some "p", "b", some "u"⟩ []
          [.text " x ", .element ⟨some "p", "c", some "u"⟩ []
            [.text " ", .element (.plain "d") [] [], .text " "]],
        .text " ", .element (.plain "e") [] [.text " "]]]⟩

theorem mixed_read_back : Document.read mixedPage = .ok mixedTree ∧ DeclaresPlainly mixedPage ∧
    Forest.Throughout Node.PlainlyWritten mixedTree.nodes ∧ Forest.BlankTexts mixedTree.nodes ∧
    ∃ again, Document.read mixedTree.writeIndented = .ok again ∧
      ∀ deep, again.withoutBlanks deep = mixedTree.withoutBlanks deep := by
  have read : Document.read mixedPage = .ok mixedTree := by decide +kernel
  have declares : DeclaresPlainly mixedPage := by decide +kernel
  have plain : Forest.Throughout Node.PlainlyWritten mixedTree.nodes := by decide +kernel
  have texts : Forest.BlankTexts mixedTree.nodes := by decide
  exact ⟨read, declares, plain, texts, indented_read_back read declares plain texts⟩

end XmlTemplate.Markup
