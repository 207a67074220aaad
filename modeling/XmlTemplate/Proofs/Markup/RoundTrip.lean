import XmlTemplate.Proofs.Markup.Rereading

/-!
Nodes of plain names can be read back. Where local names are not empty and no two attributes of a
tag are written alike, what a prefix stands for is the value of its nearest declaration.
-/

namespace XmlTemplate.Markup

section
variable {declared : Surroundings → String → Prop} {around : Surroundings}

theorem of_words_of_name {name : Name} (holds : name.Serializable declared around) : name.OfWords :=
  ⟨holds.base, fun lead named => (holds.lead lead named).1⟩

theorem of_words_of_serializable {item : Attribute} (holds : item.Serializable declared around) :
    item.name.OfWords := by
  unfold Attribute.Serializable at holds
  split at holds
  · rename_i declares
    refine ⟨holds.base, ?_⟩
    intro lead named
    have same : item.name.nsPrefix = some "xmlns" := by
      simpa [Attribute.declaresPrefix] using declares
    rw [same] at named
    cases named
    decide
  · exact of_words_of_name holds

end

/-- No declaration is written in two ways, and none is empty but the default one. -/
structure Surroundings.Plain (around : Surroundings) : Prop where
  distinct : around.Distinct
  bases : ∀ attributes ∈ around, ∀ item ∈ attributes, item.name.localName ≠ ""

section
variable {around : Surroundings} {lead : String}

theorem namespace_eq_uri (plain : around.Plain) (not_xml : lead ≠ "xml")
    (not_xmlns : lead ≠ "xmlns") : around.namespace? lead = around.uri? lead := by
  rw [Surroundings.namespace?, if_neg not_xml, if_neg not_xmlns,
    bound_eq_nearest (.inr plain.bases) plain.distinct, Surroundings.uri?]

theorem knows_of_in_force (plain : around.Plain) (not_xml : lead ≠ "xml")
    (not_xmlns : lead ≠ "xmlns") (word : IsWord lead) (bound : around.InForce lead) :
    around.Knows lead := by
  obtain ⟨value, nearest, some_value⟩ := bound
  refine ⟨word.1, ?_⟩
  rw [namespace_eq_uri plain not_xml not_xmlns, Surroundings.uri?, nearest, Option.filter_some,
    if_pos (decide_eq_true some_value)]
  exact Option.some_ne_none _

theorem name_of_serializable {name : Name} (plain : around.Plain)
    (holds : name.Serializable Surroundings.InForce around) :
    (∀ lead ∈ name.nsPrefix, around.Knows lead) ∧
      (∀ lead ∈ name.nsPrefix, around.namespace? lead = around.uri? lead) ∧
        name.reread around = name.resolved around := by
  refine ⟨?_, ?_, ?_⟩
  · intro lead named
    obtain ⟨word, not_xml, not_xmlns, bound⟩ := holds.lead lead named
    exact knows_of_in_force plain not_xml not_xmlns word bound
  · intro lead named
    obtain ⟨-, not_xml, not_xmlns, -⟩ := holds.lead lead named
    exact namespace_eq_uri plain not_xml not_xmlns
  · unfold Name.reread Name.resolved
    rw [namespace_eq_uri plain]
    · cases front : name.nsPrefix with
      | none => decide
      | some lead => exact (holds.lead lead front).2.1
    · cases front : name.nsPrefix with
      | none => decide
      | some lead => exact (holds.lead lead front).2.2.1

theorem attribute_of_serializable {item : Attribute} (plain : around.Plain)
    (holds : item.Serializable Surroundings.InForce around) :
    item.Readable around ∧ item.reread around = item.resolved around := by
  have words := of_words_of_serializable holds
  have splits := splits_of_words words
  have stands := (is_written_name_of_words words).stands_as_key
  unfold Attribute.Serializable at holds
  cases declares : item.declaresPrefix with
  | true =>
      rw [declares, if_pos rfl] at holds
      refine ⟨⟨splits, stands, fun other => ?_, fun _ => ?_⟩, ?_⟩
      · rw [declares] at other
        cases other
      · exact .inr ⟨holds.prefixFree.1, holds.prefixFree.2, holds.uriFree⟩
      · simp only [Attribute.reread, Attribute.resolved, declares, if_true]
  | false =>
      rw [declares, if_neg Bool.false_ne_true] at holds
      obtain ⟨known, given, -⟩ := name_of_serializable plain holds
      refine ⟨⟨splits, stands, fun _ => known, fun other => ?_⟩, ?_⟩
      · rw [declares] at other
        cases other
      · have same : item.name.nsPrefix.bind around.namespace? =
            item.name.nsPrefix.bind around.uri? := by
          cases front : item.name.nsPrefix with
          | none => rfl
          | some lead => exact given lead front
        simp only [Attribute.reread, Attribute.resolved, declares, same]

end

theorem plain_cons {attributes : Attributes} {around : Surroundings} (plain : around.Plain)
    (holds : attributes.Serializable Surroundings.InForce (attributes :: around)) :
    Surroundings.Plain (attributes :: around) where
  distinct := List.forall_mem_cons.2 ⟨holds.distinct, plain.distinct⟩
  bases := List.forall_mem_cons.2
    ⟨fun item member => (of_words_of_serializable (holds.each item member)).base.1, plain.bases⟩

theorem tag_of_serializable {name : Name} {attributes : Attributes} {around : Surroundings}
    (plain : around.Plain) (named : name.Serializable Surroundings.InForce (attributes :: around))
    (holds : attributes.Serializable Surroundings.InForce (attributes :: around))
    (children : Forest) :
    ReadableTag (attributes :: around) name attributes ∧ TagsStand name attributes children := by
  have within := plain_cons plain holds
  have words := of_words_of_name named
  have items := fun item member => (attribute_of_serializable within (holds.each item member)).1
  refine ⟨⟨splits_of_words words, (is_written_name_of_words words).unblank,
    (name_of_serializable within named).1, items, holds.distinct⟩, ?_⟩
  exact tags_stand_of_words words
    (fun item member => of_words_of_serializable (holds.each item member)) children

mutual
theorem Node.readable_of_writable {around : Surroundings} (plain : around.Plain) :
    (node : Node) → Node.Writable Surroundings.InForce around node →
      node.Readable around ∧ node.reread around = node.resolved around
  | .element name attributes children, ⟨named, holds, below⟩ => by
      have within := plain_cons plain holds
      obtain ⟨readable, stand⟩ := tag_of_serializable plain named holds children
      obtain ⟨inside, same⟩ := Forest.readable_of_writable within children below
      have items : attributes.map (·.reread (attributes :: around)) =
          attributes.map (·.resolved (attributes :: around)) :=
        List.map_congr_left fun item member =>
          (attribute_of_serializable within (holds.each item member)).2
      refine ⟨⟨readable, stand, inside⟩, ?_⟩
      rw [Node.reread, Node.resolved, (name_of_serializable within named).2.2, items, same]
  | .text _, holds | .cdata _, holds | .comment _, holds | .instruction _, holds
  | .doctype _, holds | .declaration _, holds => ⟨holds, rfl⟩

theorem Forest.readable_of_writable {around : Surroundings} (plain : around.Plain) :
    (nodes : Forest) → Forest.Writable Surroundings.InForce around nodes →
      Forest.Readable around nodes ∧ Forest.reread around nodes = Forest.resolved around nodes
  | [], _ => ⟨trivial, rfl⟩
  | node :: rest, ⟨first, later⟩ => by
      obtain ⟨readable, same⟩ := Node.readable_of_writable plain node first
      obtain ⟨others, rest_same⟩ := Forest.readable_of_writable plain rest later
      refine ⟨⟨readable, others⟩, ?_⟩
      rw [Forest.reread, Forest.resolved, same, rest_same]
end

/-- Nodes that can be read back are read back from their markup, tidied and with the namespaces
that their declarations give. Apart from namespaces, tidying is all that changes. -/
theorem read_write_of_serializable {nodes : Forest}
    (serializable : nodes.Serializable Surroundings.InForce) :
    ∃ parsed, Forest.read (Forest.write nodes) = .ok parsed ∧
      parsed.unresolved = nodes.tidy.unresolved ∧ parsed = (Forest.resolved [] nodes).tidy := by
  have outside : Surroundings.Plain [] := ⟨nofun, nofun⟩
  obtain ⟨readable, same⟩ := Forest.readable_of_writable outside nodes serializable.writable
  have read := read_write_of_readable readable serializable.unmarked
  rw [same] at read
  refine ⟨_, read, ?_, rfl⟩
  rw [Forest.unresolved_tidy, Forest.unresolved_resolved, Forest.unresolved_tidy]

/-- One node of each kind, and text that does not come back as it was split up. -/
def everyKind : Forest :=
  [.declaration ⟨"1.0", some "it's", none⟩, .doctype "d [<!-- -->]", .text "\"'", .text "",
    .text "&<",
    .element ⟨some "p", "a", none⟩
      [⟨⟨some "xmlns", "p", none⟩, "u"⟩, ⟨⟨some "p", "x", none⟩, "<\"'>"⟩]
      [.cdata "]]", .comment ">-", .instruction "xmlish ?", .element (.plain "e") [] [.text ""]]]

theorem read_write_every_kind : everyKind.Serializable Surroundings.InForce ∧
    ∃ parsed, Forest.read (Forest.write everyKind) = .ok parsed ∧
      parsed.unresolved = everyKind.tidy.unresolved ∧
        parsed = (Forest.resolved [] everyKind).tidy :=
  ⟨by decide +kernel, read_write_of_serializable (by decide +kernel)⟩

/-- A prefix that an outer element declares and an inner one takes away again. -/
def takenAway : Forest :=
  [.element (.plain "a") [⟨⟨some "xmlns", "p", none⟩, "u"⟩]
    [.element (.plain "b") [⟨⟨some "xmlns", "p", none⟩, ""⟩]
      [.element ⟨some "p", "c", none⟩ [] []]]]

/-- It is not enough that some element around a prefix declares it. -/
theorem read_write_needs_nearest : ¬ ∀ nodes : Forest, nodes.Serializable Surroundings.Declares →
    ∃ parsed, Forest.read (Forest.write nodes) = .ok parsed ∧
      parsed.unresolved = nodes.tidy.unresolved := by
  intro all
  have serializable : takenAway.Serializable Surroundings.Declares := by decide +kernel
  have refused : (Forest.read (Forest.write takenAway)).isOk = false := by decide +kernel
  rcases all takenAway serializable with ⟨parsed, read, _⟩
  rw [read] at refused
  cases refused

end XmlTemplate.Markup
