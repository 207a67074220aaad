import Mathlib.Data.List.Infix
import XmlTemplate.Markup.Reading
import XmlTemplate.Markup.Writing
import XmlTemplate.Text.Letters

/-!
Which nodes can be written so that reading gives them back. Text and attribute values are free, for
they are escaped; everything else stands in markup as it is and must not end its construct early.
What comes back differs in two ways that the writer cannot help: neighbouring text is one node, and
names have the namespaces that the declarations around them give.
-/

namespace XmlTemplate.Markup

def isWordPart (c : Char) : Bool := Text.isAlphanumeric c || c == '_' || c == '-' || c == '.'

def IsWord (text : String) : Prop := text ≠ "" ∧ text.toList.all isWordPart = true

instance (text : String) : Decidable (IsWord text) :=
  inferInstanceAs (Decidable (_ ∧ _))

/-- The attributes of the elements around a place, innermost first. -/
abbrev Surroundings := List Attributes

/-- The name of the attribute that declares a prefix, or the default namespace if the prefix is
empty. -/
def declaring (lead : String) : Name :=
  if lead = "" then .plain "xmlns" else ⟨some "xmlns", lead, none⟩

namespace Surroundings

def nearest? (around : Surroundings) (lead : String) : Option String :=
  around.findSome? fun attributes => attributes.spelled? (declaring lead)

theorem nearest_cons (attributes : Attributes) (around : Surroundings) (lead : String) :
    nearest? (attributes :: around) lead =
      (attributes.spelled? (declaring lead)).or (around.nearest? lead) := by
  rw [nearest?, List.findSome?_cons, nearest?]
  cases attributes.spelled? (declaring lead) <;> rfl

/-- A prefix is in force if its nearest declaration does not take it away. -/
def InForce (around : Surroundings) (lead : String) : Prop :=
  ∃ value ∈ around.nearest? lead, value ≠ ""

instance (around : Surroundings) (lead : String) : Decidable (around.InForce lead) :=
  inferInstanceAs (Decidable (∃ value ∈ around.nearest? lead, value ≠ ""))

/-- Some declaration of the prefix has a value, whether or not a nearer one takes it away. -/
def Declares (around : Surroundings) (lead : String) : Prop :=
  ∃ attributes ∈ around, ∃ item ∈ attributes,
    item.name.spelledLike (declaring lead) = true ∧ item.value ≠ ""

instance (around : Surroundings) (lead : String) : Decidable (around.Declares lead) :=
  inferInstanceAs (Decidable (∃ attributes ∈ around, ∃ item ∈ attributes, _ ∧ _))

/-- The namespace that a prefix stands for, with references as they are written. -/
def uri? (around : Surroundings) (lead : String) : Option String :=
  ((around.nearest? lead).filter (· ≠ "")).map Reference.escapeValue

end Surroundings

section Serializable
variable (declared : Surroundings → String → Prop)

structure Name.Serializable (around : Surroundings) (name : Name) : Prop where
  base : IsWord name.localName
  lead : ∀ lead ∈ name.nsPrefix,
    IsWord lead ∧ lead ≠ "xml" ∧ lead ≠ "xmlns" ∧ declared around lead

/-- A declaration of a prefix that involves nothing reserved. -/
structure Attribute.DeclaresFreely (item : Attribute) : Prop where
  base : IsWord item.name.localName
  prefixFree : item.name.localName ≠ "xml" ∧ item.name.localName ≠ "xmlns"
  uriFree : item.value ≠ xmlUri ∧ item.value ≠ xmlnsUri

def Attribute.Serializable (around : Surroundings) (item : Attribute) : Prop :=
  if item.declaresPrefix then item.DeclaresFreely else item.name.Serializable declared around

structure Attributes.Serializable (around : Surroundings) (attributes : Attributes) : Prop where
  each : ∀ item ∈ attributes, item.Serializable declared around
  distinct : attributes.Pairwise (·.name.written ≠ ·.name.written)

/-- Whether every `<` is closed by a later `>` and every `>` closes an earlier `<`, when `depth` are
open already. -/
def isBalanced : (depth : Nat) → List Char → Bool
  | depth, [] => depth == 0
  | depth, c :: rest =>
      if c = '<' then isBalanced (depth + 1) rest
      else if c = '>' then depth != 0 && isBalanced (depth - 1) rest
      else isBalanced depth rest

structure InstructionContent (content : List Char) : Prop where
  unended : ¬ "?>".toList <:+: content
  closed : content.head? ≠ some '>'
  plain : isDeclaration content = false

/-- A document type that its own content neither ends nor changes. -/
structure DoctypeContent (content : List Char) : Prop where
  named : content ≠ []
  trimmed : Text.trimBlanks content = content
  balanced : isBalanced 0 content = true

structure DeclaredContent (value : String) : Prop where
  unquoted : '"' ∉ value.toList
  unended : ¬ "?>".toList <:+: value.toList

structure Declaration.Serializable (content : Declaration) : Prop where
  version : DeclaredContent content.version
  encoding : ∀ value ∈ content.encoding, DeclaredContent value
  standalone : ∀ value ∈ content.standalone, DeclaredContent value

mutual
def Node.Writable (around : Surroundings) : Node → Prop
  | .element name attributes children =>
      name.Serializable declared (attributes :: around) ∧
        attributes.Serializable declared (attributes :: around) ∧
        Forest.Writable (attributes :: around) children
  | .text _ => True
  | .cdata content => ¬ "]]>".toList <:+: content.toList
  | .comment content => ¬ "-->".toList <:+: content.toList
  | .instruction content => InstructionContent content.toList
  | .doctype content => DoctypeContent content.toList
  | .declaration content => content.Serializable

def Forest.Writable (around : Surroundings) : Forest → Prop
  | [] => True
  | node :: rest => Node.Writable around node ∧ Forest.Writable around rest
end

/-- Nodes that can be read back. A byte order mark in front would be taken for one of the text. -/
structure Forest.Serializable (nodes : Forest) : Prop where
  writable : Forest.Writable declared [] nodes
  unmarked : (Forest.write nodes).toList.head? ≠ some '\ufeff'

instance (item : Attribute) : Decidable item.DeclaresFreely :=
  decidable_of_iff (_ ∧ _ ∧ _) ⟨fun ⟨base, lead, uri⟩ => ⟨base, lead, uri⟩,
    fun ⟨base, lead, uri⟩ => ⟨base, lead, uri⟩⟩

instance (content : List Char) : Decidable (InstructionContent content) :=
  decidable_of_iff (_ ∧ _ ∧ _) ⟨fun ⟨unended, closed, plain⟩ => ⟨unended, closed, plain⟩,
    fun ⟨unended, closed, plain⟩ => ⟨unended, closed, plain⟩⟩

instance (content : List Char) : Decidable (DoctypeContent content) :=
  decidable_of_iff (_ ∧ _ ∧ _) ⟨fun ⟨named, trimmed, balanced⟩ => ⟨named, trimmed, balanced⟩,
    fun ⟨named, trimmed, balanced⟩ => ⟨named, trimmed, balanced⟩⟩

instance (value : String) : Decidable (DeclaredContent value) :=
  decidable_of_iff (_ ∧ _) ⟨fun ⟨unquoted, unended⟩ => ⟨unquoted, unended⟩,
    fun ⟨unquoted, unended⟩ => ⟨unquoted, unended⟩⟩

instance (content : Declaration) : Decidable content.Serializable :=
  decidable_of_iff (_ ∧ _ ∧ _) ⟨fun ⟨version, encoding, standalone⟩ =>
      ⟨version, encoding, standalone⟩,
    fun ⟨version, encoding, standalone⟩ => ⟨version, encoding, standalone⟩⟩

variable [∀ around lead, Decidable (declared around lead)]

instance (around : Surroundings) (name : Name) : Decidable (name.Serializable declared around) :=
  decidable_of_iff (_ ∧ _) ⟨fun ⟨base, lead⟩ => ⟨base, lead⟩, fun ⟨base, lead⟩ => ⟨base, lead⟩⟩

instance (around : Surroundings) (item : Attribute) :
    Decidable (item.Serializable declared around) :=
  inferInstanceAs (Decidable
    (if item.declaresPrefix then item.DeclaresFreely else item.name.Serializable declared around))

instance (around : Surroundings) (attributes : Attributes) :
    Decidable (attributes.Serializable declared around) :=
  decidable_of_iff (_ ∧ _) ⟨fun ⟨each, distinct⟩ => ⟨each, distinct⟩,
    fun ⟨each, distinct⟩ => ⟨each, distinct⟩⟩

mutual
def Node.decideWritable (around : Surroundings) :
    (node : Node) → Decidable (node.Writable declared around)
  | .element _ attributes children =>
      have := Forest.decideWritable (attributes :: around) children
      inferInstanceAs (Decidable (_ ∧ _ ∧ Forest.Writable _ _ children))
  | .text _ => .isTrue trivial
  | .cdata _ => inferInstanceAs (Decidable (¬ _))
  | .comment _ => inferInstanceAs (Decidable (¬ _))
  | .instruction content => inferInstanceAs (Decidable (InstructionContent content.toList))
  | .doctype content => inferInstanceAs (Decidable (DoctypeContent content.toList))
  | .declaration content => inferInstanceAs (Decidable content.Serializable)

def Forest.decideWritable (around : Surroundings) :
    (nodes : Forest) → Decidable (Forest.Writable declared around nodes)
  | [] => .isTrue trivial
  | node :: rest =>
      have := Node.decideWritable around node
      have := Forest.decideWritable around rest
      inferInstanceAs (Decidable (_ ∧ _))
end

instance (nodes : Forest) : Decidable (nodes.Serializable declared) :=
  have := Forest.decideWritable declared [] nodes
  decidable_of_iff (_ ∧ _) ⟨fun ⟨writable, unmarked⟩ => ⟨writable, unmarked⟩,
    fun ⟨writable, unmarked⟩ => ⟨writable, unmarked⟩⟩

end Serializable

/-- Puts text before siblings: nothing if it is empty, and no node of its own before other text. -/
def Forest.prependText (content : String) : Forest → Forest
  | .text later :: rest => .text (content ++ later) :: rest
  | nodes => if content = "" then nodes else .text content :: nodes

def Forest.prepend : Node → Forest → Forest
  | .text content, nodes => nodes.prependText content
  | node, nodes => node :: nodes

mutual
def Node.tidy : Node → Node
  | .element name attributes children => .element name attributes (Forest.tidy children)
  | node => node

/-- Siblings without empty text and with neighbouring text made one, at every depth. -/
def Forest.tidy : Forest → Forest
  | [] => []
  | node :: rest => Forest.prepend (Node.tidy node) (Forest.tidy rest)
end

/-- The name of an element with its namespace, which the default declaration gives where there is no
prefix. -/
def Name.resolved (around : Surroundings) (name : Name) : Name :=
  { name with uri := around.uri? (name.nsPrefix.getD "") }

/-- An attribute with its namespace, which only a prefix gives, and none to a declaration. -/
def Attribute.resolved (around : Surroundings) (item : Attribute) : Attribute :=
  let uri := if item.declaresPrefix then none else item.name.nsPrefix.bind around.uri?
  { item with name := { item.name with uri } }

mutual
def Node.resolved (around : Surroundings) : Node → Node
  | .element name attributes children =>
      let inner := attributes :: around
      .element (name.resolved inner) (attributes.map (·.resolved inner))
        (Forest.resolved inner children)
  | node => node

def Forest.resolved (around : Surroundings) : Forest → Forest
  | [] => []
  | node :: rest => Node.resolved around node :: Forest.resolved around rest
end

def Name.unresolved (name : Name) : Name := { name with uri := none }

def Attribute.unresolved (item : Attribute) : Attribute :=
  { item with name := item.name.unresolved }

mutual
def Node.unresolved : Node → Node
  | .element name attributes children =>
      .element name.unresolved (attributes.map Attribute.unresolved) (Forest.unresolved children)
  | node => node

def Forest.unresolved : Forest → Forest
  | [] => []
  | node :: rest => Node.unresolved node :: Forest.unresolved rest
end

@[simp] theorem Name.unresolved_resolved (around : Surroundings) (name : Name) :
    (name.resolved around).unresolved = name.unresolved := rfl

@[simp] theorem Attribute.unresolved_resolved (around : Surroundings) (item : Attribute) :
    (item.resolved around).unresolved = item.unresolved := rfl

mutual
@[simp] theorem Node.unresolved_resolved (around : Surroundings) :
    (node : Node) → (node.resolved around).unresolved = node.unresolved
  | .element name attributes children => by
      have below := Forest.unresolved_resolved (attributes :: around) children
      simp only [Node.resolved, Node.unresolved, Name.unresolved_resolved, List.map_map, below]
      rfl
  | .text _ | .cdata _ | .comment _ | .instruction _ | .doctype _ | .declaration _ => rfl

/-- Namespaces are all that resolving changes. -/
@[simp] theorem Forest.unresolved_resolved (around : Surroundings) :
    (nodes : Forest) → (Forest.resolved around nodes).unresolved = Forest.unresolved nodes
  | [] => rfl
  | node :: rest => by
      simp only [Forest.resolved, Forest.unresolved, Node.unresolved_resolved around node,
        Forest.unresolved_resolved around rest]
end

end XmlTemplate.Markup
