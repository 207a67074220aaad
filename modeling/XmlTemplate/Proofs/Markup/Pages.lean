import XmlTemplate.Proofs.Markup.Faithful

/-!
Pages: trees whose elements have plain names without a prefix, while their attributes were set by
names that can be any text. Whether a page comes back from its markup is decided by its attributes
alone, since nothing else in it is written as it stands.
-/

namespace XmlTemplate.Markup

structure SettledNames (names : List Name) : Prop where
  canonical : ∀ name ∈ names, name.spelledLike (.ofWritten name.written) = true
  distinct : names.Pairwise (·.written ≠ ·.written)

section
variable {attributes : Attributes}

theorem settled_set (settled : SettledNames (attributes.map (·.name))) (written value : String) :
    SettledNames ((attributes.set written value).map (·.name)) := by
  unfold Attributes.set
  rcases Attributes.set_spelled_cases (.ofWritten written) value attributes with
    same | ⟨others, added⟩
  · rw [same]
    exact settled
  · rw [added, List.map_append]
    refine ⟨List.forall_mem_append.2 ⟨settled.canonical, ?_⟩,
      List.pairwise_append.2 ⟨settled.distinct, List.pairwise_singleton _ _, ?_⟩⟩
    · intro name member
      rw [List.mem_singleton.1 member, Name.written_of_written]
      exact Name.spelled_like_iff.2 ⟨rfl, rfl⟩
    · intro name member new last
      rw [List.mem_singleton.1 last, Name.written_of_written]
      rintro rfl
      -- A name written in this way would have been found.
      have found := settled.canonical name member
      obtain ⟨item, inside, rfl⟩ := List.mem_map.1 member
      rw [others item inside] at found
      cases found

theorem settled_sublist {names others : List Name} (settled : SettledNames others)
    (part : names.Sublist others) : SettledNames names :=
  ⟨fun name member => settled.canonical name (part.subset member), settled.distinct.sublist part⟩

theorem settled_erase (settled : SettledNames (attributes.map (·.name))) (written : String) :
    SettledNames ((attributes.erase written).map (·.name)) :=
  settled_sublist settled ((List.eraseP_sublist).map _)

theorem canonical_of_word {name : Name} (word : IsWord name.localName)
    (unprefixed : name.nsPrefix = none) : name.spelledLike (.ofWritten name.written) = true := by
  have written : name.written = name.localName := by
    rw [Name.written, unprefixed]
  have whole : Name.ofWritten name.written = .plain name.localName := by
    rw [Name.ofWritten, written, cut_colon_of_word word]
  rw [whole]
  exact Name.spelled_like_iff.2 ⟨unprefixed, rfl⟩

end

inductive Node.OfPage : Node → Prop
  | element {name : Name} {attributes : Attributes} {children : Forest}
      (word : IsWord name.localName) (unprefixed : name.nsPrefix = none)
      (settled : SettledNames (attributes.map (·.name)))
      (inside : ∀ child ∈ children, Node.OfPage child) :
      Node.OfPage (.element name attributes children)
  | leaf {node : Node} (childless : node.element? = none) (readable : node.Readable []) :
      Node.OfPage node

def Forest.OfPage (nodes : Forest) : Prop := ∀ node ∈ nodes, node.OfPage

structure TagFits (around : Surroundings) (name : Name) (attributes : Attributes) : Prop where
  keeps : KeepsTagOpen (tagContent name attributes)
  items : ∀ item ∈ attributes, item.Readable (attributes :: around)

mutual
def Node.Fits (around : Surroundings) : Node → Prop
  | .element name attributes children =>
      TagFits around name attributes ∧ Forest.Fits (attributes :: around) children
  | _ => True

def Forest.Fits (around : Surroundings) : Forest → Prop
  | [] => True
  | node :: rest => Node.Fits around node ∧ Forest.Fits around rest
end

theorem tag_readable_iff_fits {around : Surroundings} {name : Name} {attributes : Attributes}
    (word : IsWord name.localName) (unprefixed : name.nsPrefix = none)
    (settled : SettledNames (attributes.map (·.name))) (children : Forest) :
    ReadableTag (attributes :: around) name attributes ∧ TagsStand name attributes children ↔
      TagFits around name attributes := by
  have words : name.OfWords := ⟨word, by rw [unprefixed]; nofun⟩
  have written := is_written_name_of_words words
  constructor
  · rintro ⟨readable, stand⟩
    exact ⟨stand.keeps, readable.items⟩
  · rintro ⟨keeps, items⟩
    have distinct := settled.distinct
    rw [List.pairwise_map] at distinct
    refine ⟨⟨splits_of_words words, written.unblank, ?_, items, distinct⟩,
      tags_stand_of_name written keeps children⟩
    rw [unprefixed]
    nofun

mutual
theorem Node.readable_iff_fits {around : Surroundings} :
    (node : Node) → node.OfPage → (node.Readable around ↔ node.Fits around)
  | .element name attributes children, page => by
      cases page with
      | leaf childless _ => cases childless
      | element word unprefixed settled inside =>
          rw [Node.Readable, Node.Fits, Forest.readable_iff_fits children inside,
            ← tag_readable_iff_fits word unprefixed settled children, and_assoc]
  | .text _, page | .cdata _, page | .comment _, page | .instruction _, page | .doctype _, page
  | .declaration _, page => by
      cases page with
      | leaf _ readable => exact ⟨fun _ => trivial, fun _ => readable⟩

theorem Forest.readable_iff_fits {around : Surroundings} :
    (nodes : Forest) → nodes.OfPage → (Forest.Readable around nodes ↔ Forest.Fits around nodes)
  | [], _ => Iff.rfl
  | node :: rest, page => by
      obtain ⟨first, later⟩ := List.forall_mem_cons.1 page
      rw [Forest.Readable, Forest.Fits, Node.readable_iff_fits node first,
        Forest.readable_iff_fits rest later]
end

instance (around : Surroundings) (lead : String) : Decidable (around.Knows lead) :=
  inferInstanceAs (Decidable (lead ≠ "" ∧ around.namespace? lead ≠ none))

instance (name : Name) : Decidable name.Splits :=
  inferInstanceAs (Decidable (splitWritten name.written.toList = _))

instance (item : Attribute) : Decidable item.MayDeclare :=
  inferInstanceAs (Decidable (_ ∧ _ ∨ _ ∧ _ ∧ _ ∧ _))

instance (around : Surroundings) (item : Attribute) : Decidable (item.Readable around) :=
  decidable_of_iff (_ ∧ _ ∧ _ ∧ _)
    ⟨fun ⟨splits, stands, known, allowed⟩ => ⟨splits, stands, known, allowed⟩,
      fun ⟨splits, stands, known, allowed⟩ => ⟨splits, stands, known, allowed⟩⟩

instance (around : Surroundings) (name : Name) (attributes : Attributes) :
    Decidable (TagFits around name attributes) :=
  decidable_of_iff (_ ∧ _)
    ⟨fun ⟨keeps, items⟩ => ⟨keeps, items⟩, fun ⟨keeps, items⟩ => ⟨keeps, items⟩⟩

mutual
def Node.decideFits (around : Surroundings) : (node : Node) → Decidable (node.Fits around)
  | .element _ attributes children =>
      have := Forest.decideFits (attributes :: around) children
      inferInstanceAs (Decidable (_ ∧ Forest.Fits _ children))
  | .text _ | .cdata _ | .comment _ | .instruction _ | .doctype _ | .declaration _ =>
      .isTrue trivial

def Forest.decideFits (around : Surroundings) :
    (nodes : Forest) → Decidable (Forest.Fits around nodes)
  | [] => .isTrue trivial
  | node :: rest =>
      have := Node.decideFits around node
      have := Forest.decideFits around rest
      inferInstanceAs (Decidable (_ ∧ _))
end

instance (around : Surroundings) (nodes : Forest) : Decidable (Forest.Fits around nodes) :=
  Forest.decideFits around nodes

/-- A page comes back from its markup, tidied and in whatever namespaces, if and only if its
attributes fit and it does not begin with a byte order mark. -/
theorem page_read_write_iff {nodes : Forest} (page : nodes.OfPage) :
    (∃ parsed, Forest.read (Forest.write nodes) = .ok parsed ∧
      parsed.unresolved = nodes.tidy.unresolved) ↔
        Forest.Fits [] nodes ∧ (Forest.write nodes).toList.head? ≠ some '\ufeff' := by
  rw [read_write_iff, Forest.readable_iff_fits nodes page]

end XmlTemplate.Markup
