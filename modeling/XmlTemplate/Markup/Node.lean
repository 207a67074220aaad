import XmlTemplate.Markup.Attribute

/-!
Markup as a tree. A document is the list of its top-level nodes, and so is a fragment; a document
read from text has exactly one element among them, while one that was produced may have any number.
-/

namespace XmlTemplate.Markup

/-- The declaration that may open a document, with its values as they were written. -/
structure Declaration where
  version : String
  encoding : Option String
  standalone : Option String
deriving DecidableEq

/-- A node of a document. Instructions and document types are kept as raw text: what stands between
`<?` and `?>`, or between `<!DOCTYPE` and `>`. -/
inductive Node
  | element (name : Name) (attributes : Attributes) (children : List Node)
  | text (content : String)
  | cdata (content : String)
  | comment (content : String)
  | instruction (content : String)
  | doctype (content : String)
  | declaration (content : Declaration)

abbrev Forest := List Node

structure Element where
  name : Name
  attributes : Attributes := []
  children : Forest := []

structure Document where
  nodes : Forest

namespace Node

def element? : Node → Option Element
  | .element name attributes children => some ⟨name, attributes, children⟩
  | _ => none

def isElement (node : Node) : Bool := node.element?.isSome

end Node

def Element.toNode (element : Element) : Node :=
  .element element.name element.attributes element.children

@[simp] theorem Element.element_to_node (element : Element) :
    element.toNode.element? = some element := rfl

def Forest.elements (nodes : Forest) : List Element := nodes.filterMap Node.element?

def Document.root? (document : Document) : Option Element := document.nodes.elements.head?

mutual
/-- The characters that a node contributes to the text around it: those of character data, and those
of all descendants of an element. -/
def Node.innerText : Node → String
  | .element _ _ children => Forest.innerText children
  | .text content => content
  | .cdata content => content
  | _ => ""

def Forest.innerText : Forest → String
  | [] => ""
  | node :: rest => node.innerText ++ Forest.innerText rest
end

def Element.text (element : Element) : String := Forest.innerText element.children

/-- The value of a node as a string: the text of an element and the content of a leaf. A document
type and a declaration have none. -/
def Node.stringValue : Node → String
  | .comment content => content
  | .instruction content => content
  | node => node.innerText

mutual
/-- Whether two nodes agree in everything, namespaces included. -/
def Node.same : Node → Node → Bool
  | .element n as cs, .element m bs ds => n == m && as == bs && Forest.same cs ds
  | .text a, .text b => a == b
  | .cdata a, .cdata b => a == b
  | .comment a, .comment b => a == b
  | .instruction a, .instruction b => a == b
  | .doctype a, .doctype b => a == b
  | .declaration a, .declaration b => a == b
  | _, _ => false

def Forest.same : Forest → Forest → Bool
  | [], [] => true
  | a :: as, b :: bs => Node.same a b && Forest.same as bs
  | _, _ => false
end

mutual
theorem Node.same_iff_eq : (a b : Node) → (Node.same a b = true ↔ a = b)
  | .element _ _ cs, b => by
      cases b <;> simp [Node.same, Forest.same_iff_eq cs, and_assoc]
  | .text _, b => by cases b <;> simp [Node.same]
  | .cdata _, b => by cases b <;> simp [Node.same]
  | .comment _, b => by cases b <;> simp [Node.same]
  | .instruction _, b => by cases b <;> simp [Node.same]
  | .doctype _, b => by cases b <;> simp [Node.same]
  | .declaration _, b => by cases b <;> simp [Node.same]

theorem Forest.same_iff_eq : (as bs : Forest) → (Forest.same as bs = true ↔ as = bs)
  | [], bs => by cases bs <;> simp [Forest.same]
  | a :: as, bs => by
      cases bs <;> simp [Forest.same, Node.same_iff_eq a, Forest.same_iff_eq as]
end

instance : DecidableEq Node := fun a b => decidable_of_iff _ (Node.same_iff_eq a b)

deriving instance DecidableEq for Element, Document

end XmlTemplate.Markup
