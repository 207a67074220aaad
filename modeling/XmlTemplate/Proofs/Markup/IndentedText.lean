import XmlTemplate.Proofs.Markup.Indentation
import XmlTemplate.Proofs.Markup.PlainDeclarations

/-!
What indentation does to the text of a document. It adds line breaks and leaves out blank text, and
all other characters stay in order. The blanks that are left out may be of any kind, while those of
markup are only four; a no-break space is lost.
-/

namespace XmlTemplate.Markup

structure Name.IsSimple (name : Name) : Prop where
  word : IsWord name.localName
  unprefixed : name.nsPrefix = none

instance (name : Name) : Decidable name.IsSimple :=
  decidable_of_iff (_ ∧ _) ⟨fun ⟨word, unprefixed⟩ => ⟨word, unprefixed⟩,
    fun ⟨word, unprefixed⟩ => ⟨word, unprefixed⟩⟩

def Node.Simple : Node → Prop
  | .element name attributes _ => name.IsSimple ∧ ∀ item ∈ attributes, item.name.IsSimple
  | .doctype _ => False
  | .declaration _ => False
  | _ => True

instance : DecidablePred Node.Simple
  | .element name attributes _ =>
      inferInstanceAs (Decidable (name.IsSimple ∧ ∀ item ∈ attributes, item.name.IsSimple))
  | .doctype _ | .declaration _ => .isFalse nofun
  | .text _ | .cdata _ | .comment _ | .instruction _ => .isTrue trivial

theorem Name.IsSimple.of_words {name : Name} (simple : name.IsSimple) : name.OfWords := by
  refine ⟨simple.word, ?_⟩
  rw [simple.unprefixed]
  nofun

theorem readable_tag_of_simple {around : Surroundings} {name : Name} {attributes : Attributes}
    (read : WellReadTag (attributes :: around) name attributes) (simple : name.IsSimple)
    (each : ∀ item ∈ attributes, item.name.IsSimple) :
    ReadableTag (attributes :: around) name attributes where
  splits := read.splits
  unblank := read.unblank
  known := by
    rw [simple.unprefixed]
    nofun
  items := by
    intro item member
    have unprefixed := (each item member).unprefixed
    obtain ⟨splits, stands⟩ := read.keys item member
    refine ⟨splits, stands, fun _ => ?_, fun declares => ?_⟩
    · rw [unprefixed]
      nofun
    · rw [Attribute.declaresPrefix, unprefixed] at declares
      cases declares
  distinct := read.distinct

mutual
/-- What was read with simple names can be read back. -/
theorem Node.readable_of_simple {around : Surroundings} : (node : Node) →
    node.WellRead around → node.Throughout Node.Simple → node.Readable around
  | .element _ _ children, ⟨tag, _, _, below⟩, ⟨⟨simple, each⟩, inside⟩ =>
      ⟨readable_tag_of_simple tag simple each,
        tags_stand_of_words simple.of_words (fun item member => (each item member).of_words)
          children,
        Forest.readable_of_simple children below inside⟩
  | .text _, _, _ => trivial
  | .cdata _, read, _ | .comment _, read, _ | .instruction _, read, _ => read
  | .doctype _, _, simple | .declaration _, _, simple => simple.elim

theorem Forest.readable_of_simple {around : Surroundings} : (nodes : Forest) →
    Forest.WellRead around nodes → Forest.Throughout Node.Simple nodes →
      Forest.Readable around nodes
  | [], _, _ => trivial
  | node :: rest, ⟨first, later⟩, ⟨simple, others⟩ =>
      ⟨Node.readable_of_simple node first simple, Forest.readable_of_simple rest later others⟩
end

def Forest.unmarked : Forest → Forest
  | .text content :: rest => .text (String.ofList (withoutMark content.toList)) :: rest
  | nodes => nodes

theorem Forest.elements_unmarked (nodes : Forest) :
    Forest.elements nodes.unmarked = Forest.elements nodes := by
  unfold Forest.unmarked
  split <;> rfl

theorem without_mark_escaped {chars : List Char} (some_chars : chars ≠ []) (rest : List Char) :
    withoutMark (chars.flatMap Reference.escapedInText ++ rest) =
      (withoutMark chars).flatMap Reference.escapedInText ++ rest := by
  cases chars with
  | nil => exact absurd rfl some_chars
  | cons c later =>
      by_cases mark : c = '\ufeff'
      · subst mark
        rfl
      · have head : ((c :: later).flatMap Reference.escapedInText ++ rest).head? ≠
            some '\ufeff' := by
          rw [List.flatMap_cons, Reference.escapedInText]
          split_ifs <;> simp [mark]
        rw [without_mark_of_unmarked head, withoutMark, if_neg mark]

/-- A text that is read from its markup is read without a byte order mark. -/
theorem write_unmarked {nodes : Forest} (some_text : ∀ rest, nodes ≠ .text "" :: rest) :
    withoutMark (Forest.write nodes).toList = (Forest.write nodes.unmarked).toList := by
  cases nodes with
  | nil => rfl
  | cons node rest =>
      by_cases text : ∃ content, node = .text content
      · obtain ⟨content, rfl⟩ := text
        have some_chars : content.toList ≠ [] := by
          intro none_left
          rw [String.toList_eq_nil_iff.1 none_left] at some_text
          exact some_text rest rfl
        rw [Forest.unmarked, Forest.write, Forest.write, Node.write, Node.write,
          Reference.escapeText, Reference.escapeText, String.toList_append, String.toList_append,
          String.toList_ofList, String.toList_ofList, String.toList_ofList,
          without_mark_escaped some_chars]
      · have markup : ∀ content, node ≠ .text content := fun content same => text ⟨content, same⟩
        have begins := Node.write_begins markup (Forest.write rest).toList
        have still : Forest.unmarked (node :: rest) = node :: rest := by
          rw [Forest.unmarked]
          exact fun content more same => markup content (List.cons.inj same).1
        rw [still, Forest.write, String.toList_append]
        apply without_mark_of_unmarked
        intro mark
        exact absurd (begins '\ufeff' mark) (by decide)

theorem readable_unmarked {around : Surroundings} {nodes : Forest}
    (readable : Forest.Readable around nodes) : Forest.Readable around nodes.unmarked := by
  unfold Forest.unmarked
  split
  · exact ⟨trivial, readable.2⟩
  · exact readable

/-- Readable nodes are read back from their markup whatever it begins with. -/
theorem read_write_unmarked {nodes : Forest} (readable : Forest.Readable [] nodes)
    (some_text : ∀ rest, nodes ≠ .text "" :: rest) :
    Forest.read (Forest.write nodes) = .ok (Forest.reread [] nodes.unmarked).tidy := by
  apply read_of_reads
  rw [write_unmarked some_text]
  exact reads_of_readable (readable_unmarked readable)

theorem lay_out_begins (nodes rest : Forest) : nodes.layOut ≠ .text "" :: rest := by
  rw [Forest.layOut]
  cases kept : nodes.shown with
  | nil => exact (List.cons_ne_nil _ _).symm
  | cons node later =>
      have member : node ∈ nodes.shown := by
        rw [kept]
        exact .head _
      have shows := (List.mem_filter.1 member).2
      intro same
      have first : node.layOut 0 = .text "" := (List.cons.inj same).1
      cases node with
      | text content =>
          cases first
          cases shows
      | _ => cases first

theorem Forest.inner_text_append (front back : Forest) :
    Forest.innerText (front ++ back) = Forest.innerText front ++ Forest.innerText back := by
  induction front with
  | nil => exact (String.empty_append ..).symm
  | cons node rest ih =>
      rw [List.cons_append, Forest.innerText, Forest.innerText, ih, String.append_assoc]

theorem Forest.inner_text_prepend (node : Node) (rest : Forest) :
    Forest.innerText (Forest.prepend node rest) = node.innerText ++ Forest.innerText rest := by
  cases node with
  | text content =>
      rw [Forest.prepend]
      by_cases begins : ∃ later more, rest = .text later :: more
      · obtain ⟨later, more, rfl⟩ := begins
        exact String.append_assoc
      · rw [Forest.prepend_text_alone content fun later more same => begins ⟨later, more, same⟩]
        split
        · rename_i empty
          rw [empty]
          exact (String.empty_append ..).symm
        · rfl
  | _ => rfl

mutual
theorem Node.inner_text_tidy : (node : Node) → node.tidy.innerText = node.innerText
  | .element _ _ children => Forest.inner_text_tidy children
  | .text _ | .cdata _ | .comment _ | .instruction _ | .doctype _ | .declaration _ => rfl

/-- Dividing text in another way does not change it. -/
theorem Forest.inner_text_tidy : (nodes : Forest) →
    Forest.innerText nodes.tidy = Forest.innerText nodes
  | [] => rfl
  | node :: rest => by
      rw [Forest.tidy, Forest.inner_text_prepend, Node.inner_text_tidy node,
        Forest.inner_text_tidy rest, Forest.innerText]
end

mutual
theorem Node.inner_text_reread (around : Surroundings) :
    (node : Node) → (node.reread around).innerText = node.innerText
  | .element _ attributes children => Forest.inner_text_reread (attributes :: around) children
  | .text _ | .cdata _ | .comment _ | .instruction _ | .doctype _ | .declaration _ => rfl

theorem Forest.inner_text_reread (around : Surroundings) : (nodes : Forest) →
    Forest.innerText (Forest.reread around nodes) = Forest.innerText nodes
  | [] => rfl
  | node :: rest => by
      rw [Forest.reread, Forest.innerText, Forest.innerText, Node.inner_text_reread around node,
        Forest.inner_text_reread around rest]
end

mutual
def Node.leftOut : Node → String
  | .element _ _ children => if Forest.isInline children then "" else Forest.leftOut children
  | _ => ""

def Forest.leftOut : Forest → String
  | [] => ""
  | node :: rest => (if node.isBlank then node.innerText else node.leftOut) ++ Forest.leftOut rest
end

/-- Of the characters that are kept, one text has those of another and those that were lost from it,
and nothing is out of order. -/
structure Loses (keep : Char → Bool) (before after lost : String) : Prop where
  inOrder : (after.toList.filter keep).Sublist (before.toList.filter keep)
  count : (before.toList.filter keep).length =
    (after.toList.filter keep).length + (lost.toList.filter keep).length

section
variable {keep : Char → Bool}

theorem loses_nothing (keep : Char → Bool) (text : String) : Loses keep text text "" where
  inOrder := .refl _
  count := rfl

theorem loses_all (keep : Char → Bool) (text : String) : Loses keep text "" text where
  inOrder := List.nil_sublist _
  count := (Nat.zero_add _).symm

theorem loses_append {before after lost more others rest : String}
    (first : Loses keep before after lost) (second : Loses keep more others rest) :
    Loses keep (before ++ more) (after ++ others) (lost ++ rest) where
  inOrder := by
    rw [String.toList_append, String.toList_append, List.filter_append, List.filter_append]
    exact first.inOrder.append second.inOrder
  count := by
    have front := first.count
    have back := second.count
    simp only [String.toList_append, List.filter_append, List.length_append]
    omega

/-- Nothing is lost exactly if what was left out has none of the characters. -/
theorem same_iff_nothing_lost {before after lost : String} (loses : Loses keep before after lost) :
    after.toList.filter keep = before.toList.filter keep ↔
      ∀ c ∈ lost.toList, keep c = false := by
  have count := loses.count
  have nothing : lost.toList.filter keep = [] ↔ ∀ c ∈ lost.toList, keep c = false := by
    rw [List.filter_eq_nil_iff]
    simp only [Bool.not_eq_true]
  rw [← nothing, ← List.length_eq_zero_iff]
  constructor
  · intro same
    rw [same] at count
    omega
  · intro none_lost
    apply loses.inOrder.eq_of_length
    omega

variable (feed : keep '\n' = false) (space : keep ' ' = false)
include feed space

theorem loses_line {line : String} (depth : Nat) (line_break : line = "" ∨ line = newLine depth) :
    Loses keep "" line "" := by
  have nothing : line.toList.filter keep = [] := by
    rcases line_break with rfl | rfl
    · rfl
    · rw [newLine, String.toList_ofList, List.filter_eq_nil_iff]
      intro c member
      rcases List.mem_cons.1 member with rfl | inside
      · simp [feed]
      · rw [(List.mem_replicate.1 inside).2]
        simp [space]
  constructor
  · rw [nothing]
    exact .refl _
  · rw [nothing]
    rfl

theorem loses_lines {depth : Nat} {nodes : Forest}
    (each : ∀ node ∈ nodes, Loses keep node.innerText (node.layOut depth).innerText node.leftOut) :
    Loses keep (Forest.innerText nodes) (Forest.innerText (Forest.lines depth nodes))
      (Forest.leftOut nodes) := by
  induction nodes with
  | nil => exact loses_nothing keep ""
  | cons node rest ih =>
      obtain ⟨first, others⟩ := List.forall_mem_cons.1 each
      rw [Forest.innerText, Forest.lines, Forest.leftOut]
      split
      · have dropped := loses_append (loses_all keep node.innerText) (ih others)
        rwa [String.empty_append] at dropped
      · have line := loses_line feed space depth (.inr rfl)
        have shown := loses_append line (loses_append first (ih others))
        rwa [String.empty_append, String.empty_append] at shown

theorem loses_lay_out (node : Node) (depth : Nat) :
    Loses keep node.innerText (node.layOut depth).innerText node.leftOut := by
  induction node using Node.induction_on_children generalizing depth with
  | leaf node leaf =>
      rw [Node.lay_out_leaf leaf]
      cases node with
      | element => cases leaf
      | _ => exact loses_nothing keep _
  | element name attributes children ih =>
      rw [Node.leftOut]
      cases shows : Forest.isInline children with
      | true =>
          rw [Node.lay_out_inline shows]
          exact loses_nothing keep _
      | false =>
          have body := loses_lines feed space fun child member => ih child member (depth + 1)
          have choice : Forest.lastLine depth children = "" ∨
              Forest.lastLine depth children = newLine depth := by
            unfold Forest.lastLine
            split
            · exact .inl rfl
            · exact .inr rfl
          have whole := loses_append body (loses_line feed space depth choice)
          rw [String.append_empty, String.append_empty] at whole
          rw [Node.lay_out_lines shows, Node.innerText, Node.innerText, Forest.inner_text_append]
          rw [Forest.innerText, Forest.innerText, Node.innerText, String.append_empty]
          exact whole

end

theorem blank_left_out {nodes : Forest}
    (each : ∀ node ∈ nodes, Text.isAllBlank node.leftOut = true) :
    Text.isAllBlank (Forest.leftOut nodes) = true := by
  induction nodes with
  | nil => rfl
  | cons node rest ih =>
      obtain ⟨first, others⟩ := List.forall_mem_cons.1 each
      rw [Forest.leftOut, Text.is_all_blank_append, ih others, Bool.and_true]
      cases blank : node.isBlank with
      | true =>
          cases node with
          | text content => exact blank
          | _ => cases blank
      | false => exact first

/-- All that is left out is blank. -/
theorem Node.blank_left_out (node : Node) : Text.isAllBlank node.leftOut = true := by
  induction node using Node.induction_on_children with
  | leaf node leaf =>
      cases node with
      | element => cases leaf
      | _ => rfl
  | element name attributes children ih =>
      rw [Node.leftOut]
      split
      · rfl
      · exact Markup.blank_left_out ih

theorem text_of_element {node : Node} {other : Element} (isElement : node.isElement = true) :
    (node.element?.getD other).text = node.innerText := by
  cases node with
  | element name attributes children => rfl
  | _ => cases isElement

def Node.readBack (node : Node) : Node := (node.reread []).tidy

theorem Node.is_element_read_back (node : Node) : node.readBack.isElement = node.isElement := by
  cases node <;> rfl

/-- Neither a byte order mark nor the layout touches the elements at the top. -/
theorem elements_read_back (nodes : Forest) :
    Forest.elements (Forest.reread [] nodes.layOut.unmarked).tidy =
      (Forest.elements nodes).map fun element =>
        (element.toNode.layOut 0).readBack.element?.getD element := by
  have kind : ∀ node : Node, (node.layOut 0).readBack.isElement = node.isElement := fun node =>
    (Node.is_element_read_back _).trans (Node.is_element_lay_out node 0)
  calc Forest.elements (Forest.reread [] nodes.layOut.unmarked).tidy
      = Forest.elements (nodes.layOut.unmarked.map Node.readBack) := by
        rw [Forest.elements_tidy, Forest.reread_eq_map, List.map_map]
        rfl
    _ = Forest.elements (nodes.layOut.map Node.readBack) := by
        rw [Forest.elements_map Node.is_element_read_back, Forest.elements_unmarked,
          ← Forest.elements_map Node.is_element_read_back]
    _ = Forest.elements (nodes.map fun node => (node.layOut 0).readBack) :=
        Forest.elements_lay_out_map Node.is_element_read_back nodes
    _ = _ := Forest.elements_map kind nodes

/-- A document with simple names is read back from its indented markup, and the text of its root is
that of the root as it was laid out. -/
theorem indented_of_simple {text : String} {document : Document}
    (read : Document.read text = .ok document)
    (simple : Forest.Throughout Node.Simple document.nodes) :
    ∃ again root same, Document.read document.writeIndented = .ok again ∧
      document.root? = some root ∧ again.root? = some same ∧
        same.text = (root.toNode.layOut 0).innerText := by
  obtain ⟨-, well⟩ := well_read_of_document read
  have readable := Forest.readable_lay_out (Forest.readable_of_simple document.nodes well simple)
  have back := read_write_unmarked readable (lay_out_begins document.nodes)
  rw [← write_indented_eq] at back
  obtain ⟨root, only⟩ := List.length_eq_one_iff.1 (document_read_iff.1 read).2
  have elements := elements_read_back document.nodes
  rw [only, List.map_singleton] at elements
  let again : Document := ⟨(Forest.reread [] document.nodes.layOut.unmarked).tidy⟩
  let same : Element := (root.toNode.layOut 0).readBack.element?.getD root
  have found : again.root? = some same := by
    rw [Document.root?, elements]
    rfl
  have first : document.root? = some root := by
    rw [Document.root?, only]
    rfl
  refine ⟨again, root, same, document_read_iff.2 ⟨back, ?_⟩, first, found, ?_⟩
  · rw [elements]
    rfl
  · have isElement : (root.toNode.layOut 0).readBack.isElement = true := rfl
    rw [text_of_element isElement, Node.readBack, Node.inner_text_tidy, Node.inner_text_reread]

/-- The root of a document with simple names, read back from indented markup, has all characters of
its text that are not blank, in order. It has also the blanks that do not count as blanks of markup
if, and only if, there are none in the text that was left out. -/
theorem indented_text {text : String} {document : Document}
    (read : Document.read text = .ok document)
    (simple : Forest.Throughout Node.Simple document.nodes) :
    ∃ again root same, Document.read document.writeIndented = .ok again ∧
      document.root? = some root ∧ again.root? = some same ∧
      same.text.toList.filter (!Text.isBlank ·) = root.text.toList.filter (!Text.isBlank ·) ∧
      (same.text.toList.filter (!Text.isMarkupBlank ·) =
          root.text.toList.filter (!Text.isMarkupBlank ·) ↔
        ∀ c ∈ root.toNode.leftOut.toList, Text.isMarkupBlank c = true) := by
  obtain ⟨again, root, same, back, first, found, laidOut⟩ := indented_of_simple read simple
  have blank := Node.blank_left_out root.toNode
  have shown : Loses (!Text.isBlank ·) root.text same.text root.toNode.leftOut := by
    rw [laidOut]
    exact loses_lay_out (by decide) (by decide) root.toNode 0
  have kept : Loses (!Text.isMarkupBlank ·) root.text same.text root.toNode.leftOut := by
    rw [laidOut]
    exact loses_lay_out (by decide) (by decide) root.toNode 0
  refine ⟨again, root, same, back, first, found, ?_, ?_⟩
  · apply (same_iff_nothing_lost shown).2
    intro c member
    rw [List.all_eq_true.1 blank c member]
    rfl
  · rw [same_iff_nothing_lost kept]
    simp only [Bool.not_eq_false']

def spacedPage : String := "<a>&#160;<b>x&#160;</b> <c/></a>"

def spacedTree : Document :=
  ⟨[.element (.plain "a") []
    [.text "\u00a0", .element (.plain "b") [] [.text "x\u00a0"], .text " ",
      .element (.plain "c") [] []]]⟩

theorem spaced_page_indented : Document.read spacedPage = .ok spacedTree ∧
    Forest.Throughout Node.Simple spacedTree.nodes ∧
    ∃ again root same, Document.read spacedTree.writeIndented = .ok again ∧
      spacedTree.root? = some root ∧ again.root? = some same ∧
      same.text.toList.filter (!Text.isBlank ·) = root.text.toList.filter (!Text.isBlank ·) ∧
      (same.text.toList.filter (!Text.isMarkupBlank ·) =
          root.text.toList.filter (!Text.isMarkupBlank ·) ↔
        ∀ c ∈ root.toNode.leftOut.toList, Text.isMarkupBlank c = true) := by
  have read : Document.read spacedPage = .ok spacedTree := by decide +kernel
  have simple : Forest.Throughout Node.Simple spacedTree.nodes := by decide +kernel
  exact ⟨read, simple, indented_text read simple⟩

/-- A no-break space that stands between elements is lost. -/
theorem content_not_always_kept :
    ¬ ∀ (text : String) (document : Document), Document.read text = .ok document →
      Forest.Throughout Node.Simple document.nodes →
        ∃ again root same, Document.read document.writeIndented = .ok again ∧
          document.root? = some root ∧ again.root? = some same ∧
          same.text.toList.filter (!Text.isMarkupBlank ·) =
            root.text.toList.filter (!Text.isMarkupBlank ·) := by
  intro all
  let document : Document :=
    ⟨[.element (.plain "a") [] [.text "\u00a0", .element (.plain "b") [] []]]⟩
  have read : Document.read "<a>&#160;<b/></a>" = .ok document := by decide +kernel
  have simple : Forest.Throughout Node.Simple document.nodes := by decide +kernel
  have indented : Document.read document.writeIndented =
      .ok ⟨[.element (.plain "a") []
        [.text "\n  ", .element (.plain "b") [] [], .text "\n"], .text "\n"]⟩ := by
    decide +kernel
  obtain ⟨again, root, same, back, first, found, kept⟩ := all _ document read simple
  rw [indented] at back
  cases back
  cases first
  cases found
  exact absurd kept (by decide)

end XmlTemplate.Markup
