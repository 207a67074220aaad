import XmlTemplate.Proofs.Markup.Reproducible

/-!
Documents that are written plainly: with names of words, and with declarations of namespaces that
need no escaping. The scopes in force while such a document is read hold escaped values only, so
every namespace in the tree is spelled as it will be written, and the tree comes back from its
markup.
-/

namespace XmlTemplate.Markup

mutual
def Node.Throughout (holds : Node → Prop) : Node → Prop
  | .element name attributes children =>
      holds (.element name attributes children) ∧ Forest.Throughout holds children
  | node => holds node

def Forest.Throughout (holds : Node → Prop) : Forest → Prop
  | [] => True
  | node :: rest => Node.Throughout holds node ∧ Forest.Throughout holds rest
end

theorem throughout_iff {holds : Node → Prop} {nodes : Forest} :
    Forest.Throughout holds nodes ↔ ∀ node ∈ nodes, node.Throughout holds := by
  induction nodes with
  | nil => simp [Forest.Throughout]
  | cons node rest ih => simp [Forest.Throughout, ih]

theorem throughout_leaf {holds : Node → Prop} {node : Node} (leaf : node.element? = none)
    (here : holds node) : node.Throughout holds := by
  cases node with
  | element => cases leaf
  | _ => exact here

mutual
def Node.decideThroughout (holds : Node → Prop) [DecidablePred holds] :
    (node : Node) → Decidable (node.Throughout holds)
  | .element _ _ children =>
      have := Forest.decideThroughout holds children
      inferInstanceAs (Decidable (holds _ ∧ Forest.Throughout holds children))
  | .text _ | .cdata _ | .comment _ | .instruction _ | .doctype _ | .declaration _ =>
      inferInstanceAs (Decidable (holds _))

def Forest.decideThroughout (holds : Node → Prop) [DecidablePred holds] :
    (nodes : Forest) → Decidable (Forest.Throughout holds nodes)
  | [] => .isTrue trivial
  | node :: rest =>
      have := Node.decideThroughout holds node
      have := Forest.decideThroughout holds rest
      inferInstanceAs (Decidable (_ ∧ _))
end

instance (holds : Node → Prop) [DecidablePred holds] (nodes : Forest) :
    Decidable (Forest.Throughout holds nodes) :=
  Forest.decideThroughout holds nodes

def valueMarks : List Char := ['&', '<', '>', '"', '\'']

def Construct.startTag? : Construct → Option (List Char)
  | .opening content => some content
  | .selfClosing content => some content
  | _ => none

/-- Declarations of namespaces in a start tag have values in which nothing is escaped. -/
def TagDeclaresPlainly (content : List Char) : Prop :=
  ∀ raw ∈ (Tag.attributes content).attributes, Scope.declared? raw.key ≠ none →
    ∀ c ∈ raw.value, c ∉ valueMarks

instance (content : List Char) : Decidable (TagDeclaresPlainly content) :=
  -- As for a key, only the characters of the value are asked.
  have (raw : RawAttribute) : Decidable (∀ c ∈ raw.value, c ∉ valueMarks) :=
    List.decidableBAll _ raw.value
  inferInstanceAs (Decidable (∀ raw ∈ (Tag.attributes content).attributes, _ → ∀ c ∈ raw.value, _))

def startTags (text : String) : List (List Char) :=
  let marked := withoutMark text.toList
  (lexemes (Text.size marked) marked).1.filterMap (·.construct.startTag?)

/-- Declarations of namespaces are written in the text without references, quotes and angle
brackets. -/
def DeclaresPlainly (text : String) : Prop := ∀ content ∈ startTags text, TagDeclaresPlainly content

instance (text : String) : Decidable (DeclaresPlainly text) :=
  inferInstanceAs (Decidable (∀ content ∈ startTags text, _))

theorem is_escaped_of_plain {uri : List Char} (plain : ∀ c ∈ uri, c ∉ valueMarks) :
    IsEscaped (String.ofList uri) := by
  have each : uri.flatMap Reference.escapedInValue = uri.flatMap ([·]) := by
    apply List.flatMap_congr
    intro c member
    have apart := plain c member
    simp only [valueMarks, List.mem_cons, not_or] at apart
    simp [Reference.escapedInValue, Reference.escapedInText, apart]
  refine ⟨String.ofList uri, ?_⟩
  rw [Reference.escapeValue, String.toList_ofList, each, List.flatMap_singleton']

def Scope.Escaped (scope : Scope) : Prop :=
  ∀ binding ∈ scope, IsEscaped (String.ofList binding.uri)

/-- The namespaces in a start tag are spelled as they would be written, and no prefix is bound to
what is reserved. -/
structure EscapedTag (name : Name) (attributes : Attributes) : Prop where
  element : ∀ uri ∈ name.uri, IsEscaped uri
  items : ∀ item ∈ attributes, ∀ uri ∈ item.name.uri, IsEscaped uri
  free : ∀ item ∈ attributes, item.declaresPrefix = true → item.name.localName ≠ "xml" →
    item.value ≠ xmlUri ∧ item.value ≠ xmlnsUri

section
variable {scope outer inner : Scope} {raws : List RawAttribute} {content : List Char}

theorem outermost_escaped : Scope.outermost.Escaped := by
  intro binding member
  rcases List.mem_cons.1 member with rfl | later
  · exact reserved_escaped (.inr (String.ofList_toList))
  · rw [List.mem_singleton.1 later]
    exact reserved_escaped (.inl (String.ofList_toList))

theorem escaped_of_find {lead : List Char} {uri : String} (escaped : scope.Escaped)
    (found : scope.find? lead = some uri.toList) : IsEscaped uri := by
  obtain ⟨binding, first, same⟩ := Option.map_eq_some_iff.1 found
  have member := escaped binding (List.mem_of_find?_eq_some first)
  rwa [same, String.ofList_toList] at member

theorem escaped_of_prefix {lead : List Char} {uri : String} (escaped : scope.Escaped)
    (given : scope.prefixUri lead = .ok uri) : IsEscaped uri :=
  escaped_of_find escaped (prefix_uri_iff.1 given).2.2

theorem enter_escaped (escaped : outer.Escaped) (entered : outer.enter raws = .ok inner)
    (plain : ∀ raw ∈ raws, Scope.declared? raw.key ≠ none → ∀ c ∈ raw.value, c ∉ valueMarks) :
    inner.Escaped := by
  induction raws generalizing outer with
  | nil =>
      cases entered
      exact escaped
  | cons raw raws ih =>
      rw [Scope.enter, List.foldlM_cons, bind_eq_ok_iff] at entered
      obtain ⟨middle, declared, later⟩ := entered
      obtain ⟨first, others⟩ := List.forall_mem_cons.1 plain
      apply ih _ later others
      rw [declare_iff] at declared
      cases declares : Scope.declared? raw.key with
      | none =>
          rw [declares] at declared
          subst declared
          exact escaped
      | some lead =>
          rw [declares] at declared first
          rcases declared with ⟨-, -, rfl⟩ | ⟨-, -, -, rfl⟩
          · exact escaped
          · intro binding member
            rcases List.mem_cons.1 member with rfl | before
            · exact is_escaped_of_plain (first (Option.some_ne_none lead))
            · exact escaped binding before

/-- A plain value is the text that it was written as. -/
theorem value_of_plain {raw : RawAttribute} {item : Attribute} (becomes : raw.Becomes scope item)
    (plain : ∀ c ∈ raw.value, c ∉ valueMarks) : item.value.toList = raw.value := by
  have resolved := becomes.2
  have unreferenced : '&' ∉ (String.ofList raw.value).toList := by
    rw [String.toList_ofList]
    exact fun member => plain '&' member (.head _)
  have own := Reference.resolve_self_iff.2 unreferenced
  rw [String.toList_ofList, resolved] at own
  rw [Except.ok.inj own, String.toList_ofList]

theorem element_escaped {written : List Char} {name : Name} (escaped : scope.Escaped)
    (read : readElementName scope written = .ok name) : ∀ uri ∈ name.uri, IsEscaped uri := by
  obtain ⟨-, source⟩ := read_element_name_iff.1 read
  intro uri given
  rw [Option.mem_def] at given
  cases front : name.nsPrefix with
  | none =>
      rw [front, given] at source
      exact escaped_of_find escaped (default_uri_iff.1 source).2
  | some lead =>
      rw [front, given] at source
      obtain ⟨other, same, found⟩ := source
      cases same
      exact escaped_of_prefix escaped found

theorem item_escaped {raw : RawAttribute} {item : Attribute} (escaped : scope.Escaped)
    (becomes : raw.Becomes scope item) : ∀ uri ∈ item.name.uri, IsEscaped uri := by
  obtain ⟨-, source⟩ := read_attribute_name_iff.1 becomes.1
  intro uri given
  rw [Option.mem_def] at given
  cases front : item.name.nsPrefix with
  | none =>
      rw [front, given] at source
      cases source
  | some lead =>
      rw [front, given] at source
      dsimp only at source
      split at source
      · cases source
      · obtain ⟨other, same, prefixed⟩ := source
        cases same
        exact escaped_of_prefix escaped prefixed

/-- What was allowed to be declared may be declared again. -/
theorem free_of_declare {before after : Scope} {raw : RawAttribute} {item : Attribute}
    (declared : before.declare raw = .ok after) (becomes : raw.Becomes scope item)
    (plain : Scope.declared? raw.key ≠ none → ∀ c ∈ raw.value, c ∉ valueMarks)
    (declares : item.declaresPrefix = true) (other : item.name.localName ≠ "xml") :
    item.value ≠ xmlUri ∧ item.value ≠ xmlnsUri := by
  have split := (read_attribute_name_iff.1 becomes.1).1
  have front : item.name.nsPrefix = some "xmlns" := beq_iff_eq.1 declares
  have found : Scope.declared? raw.key = some item.name.localName.toList := by
    rw [declared_eq_of_split, split, front]
    rfl
  have prefixed : raw.key ≠ "xmlns".toList := by
    intro same
    rw [same, front] at split
    cases congrArg Prod.fst split
  have value := value_of_plain becomes (plain (by rw [found]; nofun))
  rw [declare_iff, found] at declared
  rcases declared with ⟨xml, -⟩ | ⟨-, -, default | free, -⟩
  · exact absurd (String.toList_injective xml) other
  · exact absurd default prefixed
  · rw [← value] at free
    exact ⟨fun same => free.1 (congrArg String.toList same),
      fun same => free.2 (congrArg String.toList same)⟩

theorem escaped_tag_of_read {opened : OpenElement} (escaped : outer.Escaped)
    (plain : TagDeclaresPlainly content) (read : readTag outer content = .ok opened) :
    opened.scope.Escaped ∧ EscapedTag opened.element.name opened.element.attributes := by
  obtain ⟨raws, scanned, entered, -, named, becomes, -, -, -⟩ := read_tag_iff.1 read
  unfold TagDeclaresPlainly at plain
  rw [scanned] at plain
  have inside := enter_escaped escaped entered plain
  refine ⟨inside, element_escaped inside named, ?_, ?_⟩
  · intro item member
    obtain ⟨raw, -, found⟩ := becomes_of_mem becomes member
    exact item_escaped inside found
  · intro item member
    obtain ⟨raw, among, found⟩ := becomes_of_mem becomes member
    obtain ⟨before, after, declared⟩ := declared_of_enter entered raw among
    exact free_of_declare declared found (plain raw among)

end

def Node.Escaped : Node → Prop
  | .element name attributes _ => EscapedTag name attributes
  | _ => True

/-- The scopes in force and all that was read before hold escaped values only. -/
structure Growth.Escaped (growth : Growth) : Prop where
  opened : ∀ inner ∈ growth.opened, inner.scope.Escaped ∧
    EscapedTag inner.element.name inner.element.attributes ∧
    ∀ node ∈ inner.before, node.Throughout Node.Escaped
  finished : ∀ node ∈ growth.finished, node.Throughout Node.Escaped

namespace Growth

variable {growth grown : Growth} {node : Node}

theorem scope_escaped (escaped : growth.Escaped) : growth.scope.Escaped := by
  obtain ⟨_ | ⟨inner, outer⟩, finished, roots⟩ := growth
  · exact outermost_escaped
  · exact (escaped.opened inner (.head _)).1

theorem attach_escaped (escaped : growth.Escaped) (here : node.Throughout Node.Escaped) :
    (growth.attach node).Escaped := by
  obtain ⟨_ | ⟨inner, outer⟩, finished, roots⟩ := growth
  · exact ⟨nofun, List.forall_mem_cons.2 ⟨here, escaped.finished⟩⟩
  · obtain ⟨⟨scope, tag, before⟩, others⟩ := List.forall_mem_cons.1 escaped.opened
    exact ⟨List.forall_mem_cons.2 ⟨⟨scope, tag, List.forall_mem_cons.2 ⟨here, before⟩⟩, others⟩,
      escaped.finished⟩

theorem with_roots_escaped (roots : List Nat) (escaped : growth.Escaped) :
    (growth.withRoots roots).Escaped :=
  ⟨escaped.opened, escaped.finished⟩

theorem step_escaped {lexeme : Lexeme} (escaped : growth.Escaped)
    (plain : ∀ content ∈ lexeme.construct.startTag?, TagDeclaresPlainly content)
    (stepped : growth.step lexeme = .ok grown) : grown.Escaped := by
  obtain ⟨start, stop, construct⟩ := lexeme
  obtain ⟨roots, noted⟩ := growth.note_root_with_roots start
  cases takes_of_step stepped with
  | leaf stands =>
      apply attach_escaped escaped
      cases stands <;> exact throughout_leaf rfl trivial
  | opening read =>
      obtain ⟨scope, tag⟩ := escaped_tag_of_read (scope_escaped escaped) (plain _ rfl) read
      obtain ⟨raws, from_content⟩ := read_tag_iff.1 read
      rw [noted]
      refine ⟨List.forall_mem_cons.2 ⟨⟨scope, tag, ?_⟩, escaped.opened⟩, escaped.finished⟩
      rw [from_content.first]
      nofun
  | selfClosing read =>
      obtain ⟨-, tag⟩ := escaped_tag_of_read (scope_escaped escaped) (plain _ rfl) read
      obtain ⟨raws, from_content⟩ := read_tag_iff.1 read
      rw [noted]
      apply attach_escaped (with_roots_escaped roots escaped)
      rw [Element.toNode, from_content.childless]
      exact ⟨tag, trivial⟩
  | @closing content inner outer opened named =>
      have all := escaped.opened
      rw [opened] at all
      obtain ⟨⟨-, tag, before⟩, others⟩ := List.forall_mem_cons.1 all
      have rest : Escaped { growth with opened := outer } := ⟨others, escaped.finished⟩
      apply attach_escaped rest
      refine ⟨tag, throughout_iff.2 ?_⟩
      intro node member
      exact before node (List.mem_reverse.1 member)

theorem run_escaped {lexemes : List Lexeme} (escaped : growth.Escaped)
    (plain : ∀ lexeme ∈ lexemes, ∀ content ∈ lexeme.construct.startTag?,
      TagDeclaresPlainly content)
    (ran : growth.run lexemes = .ok grown) : grown.Escaped :=
  run_keeps (fun lexeme member _ _ escaped stepped =>
    step_escaped escaped (plain lexeme member) stepped) escaped ran

end Growth

/-- Where declarations are written plainly, all namespaces are spelled as they will be. -/
theorem escaped_of_read {text : String} {nodes : Forest} (plain : DeclaresPlainly text)
    (read : Forest.read text = .ok nodes) : Forest.Throughout Node.Escaped nodes := by
  obtain ⟨grown, grew, rfl⟩ := forest_read_iff.1 read
  obtain ⟨ran, -, -⟩ := grow_iff.1 grew
  have start : Growth.empty.Escaped := ⟨nofun, nofun⟩
  have escaped := Growth.run_escaped start (fun lexeme member content tag =>
    plain content (List.mem_filterMap.2 ⟨lexeme, member, tag⟩)) ran
  apply throughout_iff.2
  intro node member
  exact escaped.finished node (List.mem_reverse.1 member)

def Node.PlainlyWritten : Node → Prop
  | .element name attributes _ => name.OfWords ∧ ∀ item ∈ attributes, item.name.OfWords
  | .doctype content => content ≠ ""
  | .declaration content => ∀ value ∈ content.values, '"' ∉ value.toList
  | _ => True

instance : DecidablePred Node.PlainlyWritten
  | .element name attributes _ =>
      inferInstanceAs (Decidable (name.OfWords ∧ ∀ item ∈ attributes, item.name.OfWords))
  | .doctype content => inferInstanceAs (Decidable (content ≠ ""))
  | .declaration content =>
      inferInstanceAs (Decidable (∀ value ∈ content.values, '"' ∉ value.toList))
  | .text _ | .cdata _ | .comment _ | .instruction _ => .isTrue trivial

theorem reproducible_tag_of_words {name : Name} {attributes : Attributes} (words : name.OfWords)
    (each : ∀ item ∈ attributes, item.name.OfWords) (escaped : EscapedTag name attributes)
    (children : Forest) : ReproducibleTag name attributes children := by
  have stand := tags_stand_of_words words each children
  exact ⟨stand.keeps, stand.shown, stand.unslashed, escaped.element, escaped.items, escaped.free⟩

mutual
theorem Node.reproducible_of_plain : (node : Node) → node.Throughout Node.PlainlyWritten →
    node.Throughout Node.Escaped → node.Reproducible
  | .element _ _ children, ⟨⟨words, each⟩, inside⟩, ⟨tag, below⟩ =>
      ⟨reproducible_tag_of_words words each tag children,
        Forest.reproducible_of_plain children inside below⟩
  | .doctype _, named, _ => named
  | .declaration _, unquoted, _ => unquoted
  | .text _, _, _ | .cdata _, _, _ | .comment _, _, _ | .instruction _, _, _ => trivial

theorem Forest.reproducible_of_plain : (nodes : Forest) →
    Forest.Throughout Node.PlainlyWritten nodes → Forest.Throughout Node.Escaped nodes →
      Forest.Reproducible nodes
  | [], _, _ => trivial
  | node :: rest, ⟨first, others⟩, ⟨tag, later⟩ =>
      ⟨Node.reproducible_of_plain node first tag, Forest.reproducible_of_plain rest others later⟩
end

end XmlTemplate.Markup
