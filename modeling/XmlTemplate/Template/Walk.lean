import XmlTemplate.Selector.Query
import XmlTemplate.Template.Directive
import XmlTemplate.Template.Progress

/-!
The walk over one template. Ordinary elements are copied and directives take their effect. What a
node contributes to the element around it is a list of nodes and a list of attribute edits, so the
contribution of siblings is that of each of them put together. How the target of an include is
obtained is left open here.
-/

namespace XmlTemplate.Template

open Markup

def templateUri : String := "http://www.b13media.com/xemplate/1.0"

def declaringDirectives (root inner : String) : String :=
  "<" ++ root ++ " xmlns:t=\"" ++ templateUri ++ "\">" ++ inner ++ "</" ++ root ++ ">"

/-- What is selected from an included source if the include does not say: the children of its
root. -/
def defaultSelector : String := "/*/*"

/-- Sets an attribute, or removes it where there is no value. -/
structure Edit where
  name : String
  value : Option String
deriving DecidableEq

def Edit.apply (attributes : Attributes) (edit : Edit) : Attributes :=
  match edit.value with
  | some value => attributes.set edit.name value
  | none => attributes.erase edit.name

/-- What part of a template contributes to the element around it. -/
structure Yield where
  edits : List Edit
  nodes : Forest

namespace Yield

def none : Yield := ⟨[], []⟩

def ofNodes (nodes : Forest) : Yield := ⟨[], nodes⟩

def append (first second : Yield) : Yield :=
  ⟨first.edits ++ second.edits, first.nodes ++ second.nodes⟩

end Yield

/-- What one expansion of one source depends on. -/
structure Surroundings where
  bindings : Bindings
  source : SourceId
  /-- The expanded document of a target, for an include that is written in a certain way. -/
  fetch : (written : String) → (target : SourceId) → Expand Document

/-- Whether an attribute is part of the templating and not of the page: one in the template
namespace, a declaration of a prefix, or one whose value is the template namespace. -/
def isTemplating (item : Attribute) : Bool :=
  item.name.uri == some templateUri || item.declaresPrefix || item.value == templateUri

def pageAttributes (attributes : Attributes) : Attributes := attributes.filter (!isTemplating ·)

def isDirective (name : Name) : Bool := name.uri == some templateUri

namespace Surroundings

def lookup? (around : Surroundings) (var : Option String) : Option Value :=
  var.bind around.bindings.get?

/-- Whether a condition holds: its variable is bound, and its value is the required one or, where
none is required, true. -/
def isActive (around : Surroundings) (var : Option String) (value : Setting) : Bool :=
  match around.lookup? var, (value.resolve around.bindings).2 with
  | none, _ => false
  | some actual, some required => actual.text == required
  | some actual, none => actual.isTruthy

def select (selector : String) (document : Document) : Expand Forest :=
  match document.select selector with
  | .error failure => throw failure
  | .ok nodes => do
      note (.selected selector nodes.length)
      return nodes

/-- Runs an include. A direct source is relative to the source that holds the include, while a bound
one is used as it is. -/
def runInclusion (around : Surroundings) (src elements : Setting) : Expand Yield := do
  let (form, written) ← src.require around.bindings .inclusion around.source
  let target := match form with
    | .indirect => SourceId.ofPath written
    | .direct => around.source.joinRelative written
  let document ← around.fetch written target
  let selector := (elements.resolve around.bindings).2.getD defaultSelector
  return .ofNodes (← select selector document)

def runAttr (around : Surroundings) (enclosed : Bool) (name value : Setting) : Expand Yield := do
  let (_, attr) ← name.require around.bindings .attr around.source
  if enclosed then return ⟨[⟨attr, (value.resolve around.bindings).2⟩], []⟩
  else throw (.attrOutsideElement around.source)

/-- Injects what is bound to a variable; nothing where it is unbound. -/
def runDynamic (around : Surroundings) (var : Option String) : Expand Yield :=
  match around.lookup? var with
  | some value => return .ofNodes value.toNodes
  | none => do
      note (.unbound (var.getD "") around.source)
      return .none

/-- Emits the text of a variable, which is empty if it is unbound. -/
def textOf (around : Surroundings) (var : Option String) : Node :=
  .text (((around.lookup? var).map Value.text).getD "")

mutual
/-- What a node contributes. `enclosed` tells whether an element of the same source is around it. -/
def expandNode (around : Surroundings) (enclosed : Bool) : Node → Expand Yield
  | .element name attributes children => do
      if isDirective name then
        let directive ← Directive.decode name.localName attributes around.source
        note (.running directive.kind around.source)
        match directive with
        | .condition var value =>
            if around.isActive var value then expandForest around enclosed children
            else return .none
        | .inclusion src elements => around.runInclusion src elements
        | .text var => return .ofNodes [around.textOf var]
        | .attr name value => around.runAttr enclosed name value
        | .dynamic var => around.runDynamic var
      else
        let inner ← expandForest around true children
        let edited := inner.edits.foldl Edit.apply (pageAttributes attributes)
        return .ofNodes [.element name edited inner.nodes]
  | other => return .ofNodes [other]

def expandForest (around : Surroundings) (enclosed : Bool) : Forest → Expand Yield
  | [] => return .none
  | node :: rest => do
      let first ← expandNode around enclosed node
      let later ← expandForest around enclosed rest
      return first.append later
end

def expandDocument (around : Surroundings) (document : Document) : Expand Document := do
  let contribution ← expandForest around false document.nodes
  return ⟨contribution.nodes⟩

end Surroundings

end XmlTemplate.Template
