import XmlTemplate.Proofs.Markup.Documents
import XmlTemplate.Proofs.Markup.Faithful

/-!
Which documents are read again from their compact markup. What was read may have names that cut
their own tag short, namespaces and declared values that are written differently than they came, or
a document type without a name; everything else comes back as it was.
-/

namespace XmlTemplate.Markup

mutual
theorem Node.tidy_of_well_read {around : Surroundings} :
    (node : Node) → node.WellRead around → node.tidy = node
  | .element name attributes children, ⟨_, _, apart, below⟩ => by
      rw [Node.tidy, Forest.tidy_of_well_read children apart below]
  | .text _, _ | .cdata _, _ | .comment _, _ | .instruction _, _ | .doctype _, _
  | .declaration _, _ => rfl

theorem Forest.tidy_of_well_read {around : Surroundings} : (nodes : Forest) →
    nodes.Apart → Forest.WellRead around nodes → Forest.tidy nodes = nodes
  | [], _, _ => rfl
  | node :: rest, apart, ⟨read, later⟩ => by
      obtain ⟨first, others⟩ := List.isChain_cons.1 apart
      rw [Forest.tidy, Node.tidy_of_well_read node read,
        Forest.tidy_of_well_read rest others later]
      by_cases text : ∃ content, node = .text content
      · obtain ⟨content, rfl⟩ := text
        have other : ∀ next more, rest ≠ .text next :: more := by
          rintro next more rfl
          exact first _ rfl ⟨rfl, rfl⟩
        rw [Forest.prepend, Forest.prepend_text_alone content other, if_neg read]
      · exact Forest.prepend_markup rest fun content same => text ⟨content, same⟩
end

/-- Nodes that were read are read again if and only if they can be read back as they are. -/
theorem forest_read_write_iff {nodes : Forest} (apart : nodes.Apart)
    (well : Forest.WellRead [] nodes) :
    Forest.read (Forest.write nodes) = .ok nodes ↔
      (Forest.Readable [] nodes ∧ Forest.reread [] nodes = nodes) ∧
        (Forest.write nodes).toList.head? ≠ some '\ufeff' := by
  have tidy := Forest.tidy_of_well_read nodes apart well
  have back : Forest.Readable [] nodes → (Forest.write nodes).toList.head? ≠ some '\ufeff' →
      Forest.read (Forest.write nodes) = .ok (Forest.reread [] nodes).tidy :=
    read_write_of_readable
  rw [Forest.tidy_reread, tidy] at back
  constructor
  · intro read
    obtain ⟨readable, unmarked⟩ := (read_write_iff nodes).1 ⟨nodes, read, by rw [tidy]⟩
    rw [back readable unmarked] at read
    exact ⟨⟨readable, Except.ok.inj read⟩, unmarked⟩
  · rintro ⟨⟨readable, same⟩, unmarked⟩
    rw [same] at back
    exact back readable unmarked

def IsEscaped (uri : String) : Prop := ∃ value, Reference.escapeValue value = uri

/-- An element that comes back among those that were read: its start tag ends where it was written
to end, its namespaces are spelled as they will be, and it binds no prefix to what is reserved. -/
structure ReproducibleTag (name : Name) (attributes : Attributes) (children : Forest) : Prop where
  keeps : KeepsTagOpen (tagContent name attributes)
  shown : children = [] → tagContent name attributes ≠ []
  unslashed : children ≠ [] → (tagContent name attributes).getLast? ≠ some '/'
  element : ∀ uri ∈ name.uri, IsEscaped uri
  items : ∀ item ∈ attributes, ∀ uri ∈ item.name.uri, IsEscaped uri
  free : ∀ item ∈ attributes, item.declaresPrefix = true → item.name.localName ≠ "xml" →
    item.value ≠ xmlUri ∧ item.value ≠ xmlnsUri

mutual
/-- A node that comes back, provided that it was read before. -/
def Node.Reproducible : Node → Prop
  | .element name attributes children =>
      ReproducibleTag name attributes children ∧ Forest.Reproducible children
  | .doctype content => content ≠ ""
  | .declaration content => ∀ value ∈ content.values, '"' ∉ value.toList
  | _ => True

def Forest.Reproducible : Forest → Prop
  | [] => True
  | node :: rest => Node.Reproducible node ∧ Forest.Reproducible rest
end

structure Document.Reproducible (document : Document) : Prop where
  nodes : Forest.Reproducible document.nodes
  unmarked : document.write.toList.head? ≠ some '\ufeff'

section
variable {around : Surroundings} {name : Name} {attributes : Attributes} {item : Attribute}

theorem reserved_escaped {uri : String} (reserved : uri = xmlUri ∨ uri = xmlnsUri) :
    IsEscaped uri :=
  ⟨uri, String.toList_injective ((written_reserved_iff reserved).2 rfl)⟩

theorem namespace_of_means {lead uri : String} (means : around.Means lead uri) :
    around.namespace? lead ≠ none ∧ (around.namespace? lead = some uri ↔ IsEscaped uri) := by
  unfold Surroundings.Means at means
  unfold Surroundings.namespace?
  split
  · rename_i xml
    rw [if_pos xml] at means
    subst means
    exact ⟨nofun, fun _ => reserved_escaped (.inl rfl), fun _ => rfl⟩
  · rename_i not_xml
    rw [if_neg not_xml] at means
    split
    · rename_i xmlns
      rw [if_pos xmlns] at means
      subst means
      exact ⟨nofun, fun _ => reserved_escaped (.inr rfl), fun _ => rfl⟩
    · rename_i not_xmlns
      rw [if_neg not_xmlns] at means
      obtain ⟨value, bound, some_value, resolved⟩ := means
      rw [Option.mem_def] at bound
      rw [bound, Option.filter_some, if_pos (by simpa using some_value), Option.map_some,
        Option.some.injEq]
      refine ⟨nofun, fun same => ⟨value, same⟩, ?_⟩
      rintro ⟨other, rfl⟩
      rw [Reference.resolve_escape_value] at resolved
      rw [Except.ok.inj resolved]

theorem element_reread_iff (declared : name.DeclaredIn around) :
    (∀ lead ∈ name.nsPrefix, around.Knows lead) ∧
      (name.reread around = name ↔ ∀ uri ∈ name.uri, IsEscaped uri) := by
  unfold Name.DeclaredIn at declared
  unfold Name.reread
  rcases name with ⟨front, base, _ | uri⟩
  · obtain ⟨rfl, empty⟩ := declared
    have absent : around.namespace? "" = none := by
      rw [Surroundings.namespace?, if_neg (by decide), if_neg (by decide)]
      cases bound : around.bound? "" with
      | none => rfl
      | some value => simp [empty value bound]
    refine ⟨nofun, ?_⟩
    simp [absent]
  · obtain ⟨some_front, means⟩ := declared
    obtain ⟨known, spelled⟩ := namespace_of_means means
    constructor
    · rintro lead ⟨⟩
      exact ⟨fun empty => some_front (congrArg some empty), known⟩
    · simpa using spelled

theorem item_reread_iff (declared : item.DeclaredIn around) :
    (item.declaresPrefix = false → ∀ lead ∈ item.name.nsPrefix, around.Knows lead) ∧
      (item.reread around = item ↔ ∀ uri ∈ item.name.uri, IsEscaped uri) := by
  unfold Attribute.DeclaredIn Attribute.declaresPrefix at declared
  unfold Attribute.reread Attribute.declaresPrefix
  rcases item with ⟨⟨front, base, _ | uri⟩, value⟩
  · rcases declared with rfl | declares
    · exact ⟨fun _ => nofun, by simp⟩
    · refine ⟨fun other => ?_, by simp [declares]⟩
      rw [declares] at other
      cases other
  · obtain ⟨lead, rfl, some_lead, not_xmlns, means⟩ := declared
    obtain ⟨known, spelled⟩ := namespace_of_means means
    constructor
    · rintro - other ⟨⟩
      exact ⟨some_lead, known⟩
    · simpa [not_xmlns] using spelled

theorem may_declare_iff (reserved : item.name.localName ≠ "xmlns" ∧
    (item.name.localName = "xml" → item.value = xmlUri)) :
    item.MayDeclare ↔
      (item.name.localName ≠ "xml" → item.value ≠ xmlUri ∧ item.value ≠ xmlnsUri) := by
  unfold Attribute.MayDeclare
  by_cases xml : item.name.localName = "xml"
  · simp [xml, reserved.2 xml]
  · simp [xml, reserved.1]

theorem tag_readable_iff {children : Forest}
    (well : WellReadTag (attributes :: around) name attributes)
    (closes : children ≠ [] → KeepsTagOpen name.written.toList) :
    ((ReadableTag (attributes :: around) name attributes ∧ TagsStand name attributes children) ∧
        name.reread (attributes :: around) = name ∧
        attributes.map (·.reread (attributes :: around)) = attributes) ↔
      ReproducibleTag name attributes children := by
  obtain ⟨known, element⟩ := element_reread_iff well.declared
  have items := fun item member => item_reread_iff (well.items item member)
  have each : attributes.map (·.reread (attributes :: around)) = attributes ↔
      ∀ item ∈ attributes, item.reread (attributes :: around) = item := by
    have pointwise := List.map_inj_left (l := attributes)
      (f := fun item => item.reread (attributes :: around)) (g := id)
    rw [List.map_id] at pointwise
    exact pointwise
  constructor
  · rintro ⟨⟨readable, stand⟩, same, all⟩
    refine ⟨stand.keeps, stand.shown, stand.unslashed, element.1 same, ?_, ?_⟩
    · intro item member
      exact (items item member).2.1 (each.1 all item member)
    · intro item member declares
      exact (may_declare_iff (well.reserved item member declares)).1
        ((readable.items item member).allowed declares)
  · intro tag
    refine ⟨⟨⟨well.splits, well.unblank, known, ?_, well.distinct⟩, ?_⟩, element.2 tag.element, ?_⟩
    · intro item member
      obtain ⟨splits, stands⟩ := well.keys item member
      exact ⟨splits, stands, (items item member).1, fun declares =>
        (may_declare_iff (well.reserved item member declares)).2 (tag.free item member declares)⟩
    · exact ⟨tag.keeps, tag_content_may_open well.opens, tag.shown, tag.unslashed,
        closes⟩
    · exact each.2 fun item member => (items item member).2.2 (tag.items item member)

end

mutual
theorem Node.readable_iff_reproducible {around : Surroundings} :
    (node : Node) → node.WellRead around →
      (node.Readable around ∧ node.reread around = node ↔ node.Reproducible)
  | .element name attributes children, ⟨tag, closes, _, below⟩ => by
      have inside := Forest.readable_iff_reproducible children below
      rw [Node.Reproducible, ← tag_readable_iff tag closes, ← inside, Node.Readable, Node.reread,
        Node.element.injEq]
      tauto
  | .text _, _ => ⟨fun _ => trivial, fun _ => ⟨trivial, rfl⟩⟩
  | .cdata _, well | .comment _, well | .instruction _, well =>
      ⟨fun _ => trivial, fun _ => ⟨well, rfl⟩⟩
  | .doctype content, ⟨trimmed, balanced⟩ => by
      constructor
      · rintro ⟨readable, -⟩ rfl
        exact readable.named rfl
      · intro named
        exact ⟨⟨fun empty => named (String.toList_eq_nil_iff.1 empty), trimmed, balanced⟩, rfl⟩
  | .declaration content, well => by
      constructor
      · rintro ⟨readable, -⟩ value member
        exact (serializable_iff_values.1 readable value member).unquoted
      · intro unquoted
        exact ⟨serializable_iff_values.2 fun value member =>
          ⟨unquoted value member, well value member⟩, rfl⟩

theorem Forest.readable_iff_reproducible {around : Surroundings} :
    (nodes : Forest) → Forest.WellRead around nodes →
      (Forest.Readable around nodes ∧ Forest.reread around nodes = nodes ↔
        Forest.Reproducible nodes)
  | [], _ => ⟨fun _ => trivial, fun _ => ⟨trivial, rfl⟩⟩
  | node :: rest, ⟨first, later⟩ => by
      have here := Node.readable_iff_reproducible node first
      have others := Forest.readable_iff_reproducible rest later
      rw [Forest.Reproducible, ← here, ← others, Forest.Readable, Forest.reread, List.cons.injEq]
      tauto
end

/-- A document that was read is read again from its compact markup if and only if none of its names,
namespaces, declared values and document types, nor the first character, stands in the way. -/
theorem document_reproduced_iff {text : String} {document : Document}
    (read : Document.read text = .ok document) :
    Document.read document.write = .ok document ↔ document.Reproducible := by
  have one := (document_read_iff.1 read).2
  obtain ⟨apart, well⟩ := well_read_of_document read
  have again := forest_read_write_iff apart well
  rw [Forest.readable_iff_reproducible document.nodes well] at again
  rw [document_read_iff, Document.write]
  constructor
  · rintro ⟨reproduced, -⟩
    obtain ⟨nodes, unmarked⟩ := again.1 reproduced
    exact ⟨nodes, unmarked⟩
  · rintro ⟨nodes, unmarked⟩
    exact ⟨again.2 ⟨nodes, unmarked⟩, one⟩

def page : String :=
  "<?xml version='1.0'?><!DOCTYPE  a ><a xmlns:p='u&amp;v' p:x = \"'\"><b></b>1 &lt; 2</a>"

def pageTree : Document :=
  ⟨[.declaration ⟨"1.0", none, none⟩, .doctype "a",
    .element (.plain "a")
      [⟨⟨some "xmlns", "p", none⟩, "u&v"⟩, ⟨⟨some "p", "x", some "u&amp;v"⟩, "'"⟩]
      [.element (.plain "b") [] [], .text "1 < 2"]]⟩

theorem page_reproduced : Document.read page = .ok pageTree ∧
    Document.read pageTree.write = .ok pageTree ∧ pageTree.Reproducible := by
  have read : Document.read page = .ok pageTree := by decide +kernel
  have again : Document.read pageTree.write = .ok pageTree := by decide +kernel
  exact ⟨read, again, (document_reproduced_iff read).1 again⟩

/-- A declared value in single quotes may hold a double quote, which ends it when it is written. -/
theorem document_not_always_reproduced :
    ¬ ∀ (text : String) (document : Document), Document.read text = .ok document →
      Document.read document.write = .ok document := by
  intro all
  have read : Document.read "<?xml version='1\"0'?><a/>" =
      .ok ⟨[.declaration ⟨"1\"0", none, none⟩, .element (.plain "a") [] []]⟩ := by decide +kernel
  exact absurd (all _ _ read) (by decide +kernel)

end XmlTemplate.Markup
