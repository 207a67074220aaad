/-!
Selectors: location paths in a small part of XPath. A path is a chain of steps; each step moves
along an axis, keeps the nodes that pass a test and then those that satisfy its predicates. A
selector is a union of paths.
-/

namespace XmlTemplate

namespace Selector

inductive Axis
  | child
  | descendantOrSelf
  | parent
  | self
deriving DecidableEq

/-- What a step asks of a node. A name without prefix looks at the local name alone, so that
elements in a default namespace are found. -/
inductive NodeTest
  | anyElement
  | named (localName : String)
  | qualified (lead localName : String)
  | prefixed (lead : String)
  | text
  | comment
  | anyNode
deriving DecidableEq

/-- A further condition on the nodes of a step: a place among them, or something about the
element. -/
inductive Predicate
  | position (wanted : Nat)
  | last
  | hasAttribute (name : String)
  | attribute (name value : String) (negated : Bool)
  | hasChild (name : String)
  | child (name value : String)
deriving DecidableEq

structure Step where
  axis : Axis
  test : NodeTest
  predicates : List Predicate
deriving DecidableEq

/-- The step that a double slash stands for. -/
def Step.everywhere : Step := ⟨.descendantOrSelf, .anyNode, []⟩

/-- A chain of steps. Relative paths start at the document node as absolute ones do. -/
structure Path where
  absolute : Bool
  steps : List Step
deriving DecidableEq

end Selector

structure Selector where
  paths : List Selector.Path
deriving DecidableEq

end XmlTemplate
