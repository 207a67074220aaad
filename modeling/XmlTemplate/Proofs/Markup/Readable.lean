import XmlTemplate.Proofs.Markup.Declarations

/-!
Trees whose markup is read back as the same elements and attributes. Only what is written as it
stands can go wrong: names, the prefixes they use, and leaves. In what is read back every name has
the namespace that the declarations around it give, in the spelling of the written declaration.
-/

namespace XmlTemplate.Markup

namespace Surroundings

def namespace? (around : Surroundings) (lead : String) : Option String :=
  if lead = "xml" then some xmlUri
  else if lead = "xmlns" then some xmlnsUri
  else ((around.bound? lead).filter (· ≠ "")).map Reference.escapeValue

def Knows (around : Surroundings) (lead : String) : Prop :=
  lead ≠ "" ∧ around.namespace? lead ≠ none

end Surroundings

def Name.reread (around : Surroundings) (name : Name) : Name :=
  { name with uri := around.namespace? (name.nsPrefix.getD "") }

/-- An attribute as it is read back. Declarations have no namespace. -/
def Attribute.reread (around : Surroundings) (item : Attribute) : Attribute :=
  let uri := if item.declaresPrefix then none else item.name.nsPrefix.bind around.namespace?
  { item with name := { item.name with uri } }

mutual
def Node.reread (around : Surroundings) : Node → Node
  | .element name attributes children =>
      let inner := attributes :: around
      .element (name.reread inner) (attributes.map (·.reread inner)) (Forest.reread inner children)
  | node => node

def Forest.reread (around : Surroundings) : Forest → Forest
  | [] => []
  | node :: rest => Node.reread around node :: Forest.reread around rest
end

section
variable {scope : Scope} {around : Surroundings} {lead : String}

theorem namespace_iff (reflects : scope.Reflects around) {uri : String} :
    around.namespace? lead = some uri ↔ uri ≠ "" ∧ scope.find? lead.toList = some uri.toList := by
  have reserved : ∀ own : String, own ≠ "" → scope.find? lead.toList = some own.toList →
      (some own = some uri ↔ uri ≠ "" ∧ scope.find? lead.toList = some uri.toList) := by
    intro own some_own found
    rw [found, Option.some.injEq, Option.some.injEq, String.toList_inj]
    constructor
    · rintro rfl
      exact ⟨some_own, rfl⟩
    · exact And.right
  unfold Surroundings.namespace?
  split
  · rename_i xml
    exact reserved xmlUri (by decide) (by rw [xml]; exact reflects.xml)
  · split
    · rename_i xmlns
      exact reserved xmlnsUri (by decide) (by rw [xmlns]; exact reflects.xmlns)
    · rename_i not_xml not_xmlns
      have related := reflects.others lead not_xml not_xmlns
      generalize scope.find? lead.toList = found at related
      generalize around.bound? lead = bound at related
      cases related with
      | none => simp
      | @some raw value same =>
          subst same
          by_cases empty : value = ""
          · have none_written : Reference.escapeValue value = "" :=
              (Reference.escape_value_eq_empty_iff value).2 empty
            rw [none_written, Option.filter_some, if_neg (by simpa using empty), Option.some.injEq,
              String.toList_inj]
            constructor
            · rintro ⟨⟩
            · rintro ⟨some_uri, same⟩
              exact absurd same.symm some_uri
          · have some_written : Reference.escapeValue value ≠ "" :=
              fun same => empty ((Reference.escape_value_eq_empty_iff value).1 same)
            rw [Option.filter_some, if_pos (by simpa using empty), Option.map_some,
              Option.some.injEq, Option.some.injEq, String.toList_inj]
            constructor
            · rintro rfl
              exact ⟨some_written, rfl⟩
            · exact And.right

theorem prefix_uri_of_reflects (reflects : scope.Reflects around) {uri : String} :
    scope.prefixUri lead.toList = .ok uri ↔ lead ≠ "" ∧ around.namespace? lead = some uri := by
  rw [prefix_uri_iff, namespace_iff reflects, ne_eq, String.toList_eq_nil_iff]

theorem default_uri_of_reflects (reflects : scope.Reflects around) :
    scope.defaultUri? = around.namespace? "" := by
  rw [default_uri_iff]
  cases given : around.namespace? "" with
  | some uri => exact (namespace_iff reflects).1 given
  | none =>
      intro raw found
      rw [Option.mem_def, ← String.toList_ofList (l := raw)] at found
      by_cases some_raw : String.ofList raw = ""
      · exact String.ofList_eq_empty_iff.1 some_raw
      · have same : around.namespace? "" = some (String.ofList raw) :=
          (namespace_iff reflects).2 ⟨some_raw, found⟩
        rw [given] at same
        cases same

end

/-- A declaration that is allowed: `xml` may only be bound to what it means anyway, and no other
prefix to what is reserved. -/
def Attribute.MayDeclare (item : Attribute) : Prop :=
  item.name.localName = "xml" ∧ item.value = xmlUri ∨
    item.name.localName ≠ "xml" ∧ item.name.localName ≠ "xmlns" ∧
      item.value ≠ xmlUri ∧ item.value ≠ xmlnsUri

abbrev RawAttribute.Writes (raw : RawAttribute) (item : Attribute) : Prop :=
  raw.GoesWith (fun text value => text = (Reference.escapeValue value).toList) item

theorem written_reserved_iff {value uri : String}
    (reserved : uri = xmlUri ∨ uri = xmlnsUri) :
    (Reference.escapeValue value).toList = uri.toList ↔ value = uri := by
  have plain : Reference.escapeValue uri = uri := by
    rcases reserved with rfl | rfl <;> decide +kernel
  rw [String.toList_inj]
  constructor
  · intro same
    exact Reference.escape_value_injective (same.trans plain.symm)
  · rintro rfl
    exact plain

section
variable {scope : Scope} {raw : RawAttribute} {item : Attribute}

theorem may_declare (writes : raw.Writes item) (declares : item.declaresPrefix = true) :
    (∃ next, scope.declare raw = .ok next) ↔ item.MayDeclare := by
  obtain ⟨split, written⟩ := writes
  have front : item.name.nsPrefix = some "xmlns" := beq_iff_eq.1 declares
  rw [front, Option.map_some] at split
  have found : Scope.declared? raw.key = some item.name.localName.toList := by
    rw [declared_eq_of_split, split]
    exact if_pos rfl
  have colon : raw.key ≠ "xmlns".toList := by
    intro same
    rw [same] at split
    cases congrArg Prod.fst split
  have value : ∀ uri : String, uri = xmlUri ∨ uri = xmlnsUri →
      ((Reference.escapeValue item.value).toList = uri.toList ↔ item.value = uri) :=
    fun _ reserved => written_reserved_iff reserved
  simp only [declare_iff, found, written, colon, false_or, ne_eq, String.toList_inj,
    value xmlUri (.inl rfl), value xmlnsUri (.inr rfl), exists_or, exists_and_left, exists_eq',
    and_true, Attribute.MayDeclare]

theorem may_stand (writes : raw.Writes item) (other : item.declaresPrefix = false) :
    ∃ next, scope.declare raw = .ok next := by
  have split := writes.1
  have whole := written_of_split split
  have found := declared_eq_of_split raw.key
  rw [split] at found
  simp only [declare_iff, found]
  unfold Attribute.declaresPrefix at other
  rcases item with ⟨⟨_ | lead, base, uri⟩, value⟩
  · by_cases default : base = "xmlns"
    · have key : raw.key = "xmlns".toList := by rw [← whole, default]; rfl
      simp [default, key]
    · simp [default]
  · have apart : lead.toList ≠ "xmlns".toList := fun same => by
      rw [String.toList_injective same] at other
      cases other
    rw [Option.map_some]
    dsimp only
    rw [if_neg apart]
    exact ⟨scope, rfl⟩

/-- A tag may be entered if and only if its declarations are allowed. -/
theorem enter_iff {raws : List RawAttribute} {attributes : Attributes}
    (writes : List.Forall₂ RawAttribute.Writes raws attributes) :
    (∃ inner, scope.enter raws = .ok inner) ↔
      ∀ item ∈ attributes, item.declaresPrefix = true → item.MayDeclare := by
  induction writes generalizing scope with
  | nil => simp [Scope.enter, pure, Except.pure]
  | @cons raw item raws attributes first _ ih =>
      simp only [Scope.enter, List.foldlM_cons, bind_eq_ok_iff, List.forall_mem_cons]
      constructor
      · rintro ⟨inner, next, declared, later⟩
        exact ⟨fun declares => (may_declare first declares).1 ⟨next, declared⟩, ih.1 ⟨inner, later⟩⟩
      · rintro ⟨may, others⟩
        have steps : ∃ next, scope.declare raw = .ok next := by
          cases declares : item.declaresPrefix with
          | true => exact (may_declare first declares).2 (may declares)
          | false => exact may_stand first declares
        obtain ⟨next, declared⟩ := steps
        obtain ⟨inner, later⟩ := ih.2 others
        exact ⟨inner, next, declared, later⟩

end

/-- An attribute that is found again in its tag, and may be used there. -/
structure Attribute.Readable (around : Surroundings) (item : Attribute) : Prop where
  splits : item.name.Splits
  stands : StandsAsKey item.name.written.toList
  known : item.declaresPrefix = false → ∀ lead ∈ item.name.nsPrefix, around.Knows lead
  allowed : item.declaresPrefix = true → item.MayDeclare

/-- What a start tag says can be read back. Its own attributes are innermost around it. -/
structure ReadableTag (around : Surroundings) (name : Name) (attributes : Attributes) : Prop where
  splits : name.Splits
  unblank : ∀ c ∈ name.written.toList, Text.isMarkupBlank c = false
  known : ∀ lead ∈ name.nsPrefix, around.Knows lead
  items : ∀ item ∈ attributes, item.Readable around
  distinct : attributes.Pairwise (·.name.written ≠ ·.name.written)

def Attribute.pair (item : Attribute) : List Char × List Char :=
  (item.name.written.toList, (Reference.escapeValue item.value).toList)

def tagContent (name : Name) (attributes : Attributes) : List Char :=
  writeTagContent name.written.toList (attributes.map Attribute.pair)

theorem write_tag_start_to_list (name : Name) (attributes : Attributes) :
    (writeTagStart name attributes).toList = '<' :: tagContent name attributes := by
  have pairs : (Attributes.write attributes).toList =
      (attributes.map Attribute.pair).flatMap writePair := by
    induction attributes with
    | nil => rfl
    | cons item attributes ih =>
        have first : item.write.toList = writePair item.pair := by
          simp [Attribute.write, Attribute.pair, writePair]
        rw [Attributes.write, List.foldr_cons, String.toList_append, List.map_cons,
          List.flatMap_cons, first]
        exact congrArg _ ih
  simp [writeTagStart, pairs, tagContent, writeTagContent]

theorem is_pair_of_stands {attributes : Attributes}
    (stand : ∀ item ∈ attributes, StandsAsKey item.name.written.toList) :
    ∀ pair ∈ attributes.map Attribute.pair, IsPair pair := by
  intro pair member
  obtain ⟨item, inside, rfl⟩ := List.mem_map.1 member
  exact ⟨stand item inside, Reference.not_mem_escape_value item.value⟩

theorem forall_and_right {Left Right : Type} {holds : Right → Prop} {relates : Left → Right → Prop}
    {left : List Left} {right : List Right} (each : ∀ other ∈ right, holds other)
    (related : List.Forall₂ relates left right) :
    List.Forall₂ (fun one other => holds other ∧ relates one other) left right := by
  induction related with
  | nil => exact .nil
  | cons first _ ih =>
      exact .cons ⟨each _ (.head _), first⟩ (ih fun other member => each other (.tail _ member))

theorem writes_of_pairs {raws : List RawAttribute} {attributes : Attributes}
    (same : raws.map RawAttribute.pair = attributes.map Attribute.pair)
    (splits : ∀ item ∈ attributes, item.name.Splits) :
    List.Forall₂ RawAttribute.Writes raws attributes := by
  have pairs : List.Forall₂ (fun raw item => RawAttribute.pair raw = Attribute.pair item) raws
      attributes := by
    have equal : List.Forall₂ (· = ·) (raws.map RawAttribute.pair)
        (attributes.map Attribute.pair) := by
      rw [List.forall₂_eq_eq_eq]
      exact same
    rw [List.forall₂_map_left_iff, List.forall₂_map_right_iff] at equal
    exact equal
  apply (forall_and_right splits pairs).imp
  rintro raw item ⟨split, pair⟩
  refine ⟨?_, congrArg Prod.snd pair⟩
  have key : raw.key = item.name.written.toList := congrArg Prod.fst pair
  rw [key]
  exact split

variable {scope : Scope} {around : Surroundings}

theorem read_element_name_of_knows {name : Name} (reflects : scope.Reflects around)
    (splits : name.Splits) (known : ∀ lead ∈ name.nsPrefix, around.Knows lead) :
    readElementName scope name.written.toList = .ok (name.reread around) := by
  rw [read_element_name_iff]
  refine ⟨splits, ?_⟩
  rcases name with ⟨_ | lead, base, uri⟩
  · exact default_uri_of_reflects reflects
  · obtain ⟨some_lead, given⟩ := known lead rfl
    obtain ⟨own, same⟩ := Option.ne_none_iff_exists'.1 given
    exact ⟨own, same, (prefix_uri_of_reflects reflects).2 ⟨some_lead, same⟩⟩

theorem becomes_of_readable {raw : RawAttribute} {item : Attribute}
    (reflects : scope.Reflects around) (readable : item.Readable around)
    (writes : raw.Writes item) : raw.Becomes scope (item.reread around) := by
  refine ⟨read_attribute_name_iff.2 ⟨writes.1, ?_⟩, ?_⟩
  · have known := readable.known
    unfold Attribute.declaresPrefix at known
    rcases item with ⟨⟨_ | lead, base, uri⟩, value⟩
    · rfl
    · by_cases declares : lead = "xmlns"
      · simp [Attribute.reread, Attribute.declaresPrefix, declares]
      · obtain ⟨some_lead, given⟩ := known (by simpa using declares) lead rfl
        obtain ⟨own, same⟩ := Option.ne_none_iff_exists'.1 given
        simp only [Attribute.reread, Attribute.declaresPrefix, declares, if_false]
        refine ⟨own, by simpa [declares] using same, ?_⟩
        exact (prefix_uri_of_reflects reflects).2 ⟨some_lead, same⟩
  · rw [writes.2]
    exact Reference.resolve_escape_value item.value

/-- A start tag is read as it was written. -/
theorem read_tag_of_readable {name : Name} {attributes : Attributes}
    (reflects : scope.Reflects around)
    (readable : ReadableTag (attributes :: around) name attributes) :
    ∃ inner : Scope, inner.Reflects (attributes :: around) ∧
      readTag scope (tagContent name attributes) =
        .ok ⟨name.written.toList, ⟨name.reread (attributes :: around),
          attributes.map (·.reread (attributes :: around)), []⟩, inner, []⟩ := by
  obtain ⟨splits, unblank, known, items, distinct⟩ := readable
  have pairs := is_pair_of_stands fun item member => (items item member).stands
  obtain ⟨raws, scanned, same⟩ := tag_attributes unblank pairs
  have writes := writes_of_pairs same fun item member => (items item member).splits
  obtain ⟨inner, entered⟩ := (enter_iff writes).2 fun item member => (items item member).allowed
  have inside := enter_answers reflects entered writes
  have named := tag_name (attributes.map Attribute.pair) unblank
  refine ⟨inner, inside, read_tag_iff.2 ⟨raws, scanned, entered, named.symm,
    read_element_name_of_knows inside splits known, ?_, ?_, rfl, rfl⟩⟩
  · rw [List.forall₂_map_right_iff]
    exact (forall_and_right items writes).imp fun raw item both =>
      becomes_of_readable inside both.1 both.2
  · have keys : raws.map (·.key) = attributes.map (·.name.written.toList) := by
      have firsts := congrArg (List.map Prod.fst) same
      rw [List.map_map, List.map_map] at firsts
      exact firsts
    have apart : (raws.map (·.key)).Pairwise (· ≠ ·) := by
      rw [keys, List.pairwise_map]
      exact distinct.imp fun apart same => apart (String.toList_injective same)
    exact List.pairwise_map.1 apart

structure TagsStand (name : Name) (attributes : Attributes) (children : Forest) : Prop where
  keeps : KeepsTagOpen (tagContent name attributes)
  opens : MayOpen (tagContent name attributes)
  shown : children = [] → tagContent name attributes ≠ []
  unslashed : children ≠ [] → (tagContent name attributes).getLast? ≠ some '/'
  closes : children ≠ [] → KeepsTagOpen name.written.toList

theorem keeps_tag_content {name : Name} {attributes : Attributes}
    (keeps : KeepsTagOpen name.written.toList)
    (keep : ∀ item ∈ attributes, KeepsTagOpen item.name.written.toList) :
    KeepsTagOpen (tagContent name attributes) := by
  apply tag_content_keeps_open keeps
  intro pair member
  obtain ⟨item, inside, rfl⟩ := List.mem_map.1 member
  exact ⟨keep item inside, Reference.not_mem_escape_value item.value⟩

/-- With a name of plain characters only the attributes could end a tag too late. -/
theorem tags_stand_of_name {name : Name} {attributes : Attributes}
    (written : IsWrittenName name.written.toList)
    (keeps : KeepsTagOpen (tagContent name attributes)) (children : Forest) :
    TagsStand name attributes children where
  keeps := keeps
  opens := tag_content_may_open written.may_open
  shown := fun _ empty => written.some_chars (List.append_eq_nil_iff.1 empty).1
  unslashed := by
    intro _ slash
    rw [tagContent, last_of_tag_content] at slash
    split at slash
    · have apart := not_mem_tag_marks (written.parts '/' (List.mem_of_getLast? slash))
      exact apart (by decide)
    · cases slash
  closes := fun _ => written.keeps_tag_open

/-- Names of words leave the tags of an element where they were written. -/
theorem tags_stand_of_words {name : Name} {attributes : Attributes} (words : name.OfWords)
    (each : ∀ item ∈ attributes, item.name.OfWords) (children : Forest) :
    TagsStand name attributes children := by
  have written := is_written_name_of_words words
  apply tags_stand_of_name written
  apply keeps_tag_content written.keeps_tag_open
  intro item member
  exact (is_written_name_of_words (each item member)).keeps_tag_open

mutual
def Node.Readable (around : Surroundings) : Node → Prop
  | .element name attributes children =>
      ReadableTag (attributes :: around) name attributes ∧ TagsStand name attributes children ∧
        Forest.Readable (attributes :: around) children
  | .text _ => True
  | .cdata content => ¬ "]]>".toList <:+: content.toList
  | .comment content => ¬ "-->".toList <:+: content.toList
  | .instruction content => InstructionContent content.toList
  | .doctype content => DoctypeContent content.toList
  | .declaration content => content.Serializable

def Forest.Readable (around : Surroundings) : Forest → Prop
  | [] => True
  | node :: rest => Node.Readable around node ∧ Forest.Readable around rest
end

mutual
@[simp] theorem Node.unresolved_reread (around : Surroundings) :
    (node : Node) → (node.reread around).unresolved = node.unresolved
  | .element name attributes children => by
      have below := Forest.unresolved_reread (attributes :: around) children
      simp only [Node.reread, Node.unresolved, List.map_map, below]
      rfl
  | .text _ | .cdata _ | .comment _ | .instruction _ | .doctype _ | .declaration _ => rfl

/-- Namespaces are all that may change. -/
@[simp] theorem Forest.unresolved_reread (around : Surroundings) :
    (nodes : Forest) → (Forest.reread around nodes).unresolved = Forest.unresolved nodes
  | [] => rfl
  | node :: rest => by
      simp only [Forest.reread, Forest.unresolved, Node.unresolved_reread around node,
        Forest.unresolved_reread around rest]
end

end XmlTemplate.Markup
