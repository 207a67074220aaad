import XmlTemplate.Failure
import XmlTemplate.Template.Bindings
import XmlTemplate.Template.DirectiveKind

/-!
Directives as they are written in a template. Most attributes have two forms: `x` gives a value
directly, `xvar` names a variable that holds it. A bound variable wins over the direct form.
-/

namespace XmlTemplate.Template

open Markup

inductive Form
  | direct
  | indirect
deriving DecidableEq

/-- An attribute of a directive with both its forms, as far as they are written. -/
structure Setting where
  name : String
  direct : Option String
  indirect : Option String
deriving DecidableEq

namespace Setting

def indirectName (name : String) : String := name ++ "var"

def ofAttributes (attributes : Attributes) (name : String) : Setting :=
  ⟨name, attributes.plain? name, attributes.plain? (indirectName name)⟩

/-- The value of a setting with the form it comes from. An unbound variable falls back to the direct
form. -/
def resolve (setting : Setting) (bindings : Bindings) : Form × Option String :=
  match setting.indirect.bind bindings.get? with
  | some value => (.indirect, some value.text)
  | none => (.direct, setting.direct)

def require (setting : Setting) (bindings : Bindings) (kind : DirectiveKind) (source : SourceId) :
    Except Failure (Form × String) :=
  match setting.resolve bindings, setting.indirect with
  | (form, some value), _ => .ok (form, value)
  | (_, none), some var => .error (.unboundIndirect kind.name setting.name var source)
  | (_, none), none => .error (.missingAttribute kind.name setting.name source)

end Setting

inductive Directive
  | condition (var : Option String) (value : Setting)
  | inclusion (src elements : Setting)
  | text (var : Option String)
  | attr (name value : Setting)
  | dynamic (var : Option String)
deriving DecidableEq

namespace Directive

def kind : Directive → DirectiveKind
  | .condition _ _ => .condition
  | .inclusion _ _ => .inclusion
  | .text _ => .text
  | .attr _ _ => .attr
  | .dynamic _ => .dynamic

def var? : Directive → Option String
  | .condition var _ => var
  | .text var => var
  | .dynamic var => var
  | _ => none

/-- The settings of a directive in the order in which they are documented. -/
def settings : Directive → List Setting
  | .condition _ value => [value]
  | .inclusion src elements => [src, elements]
  | .attr name value => [name, value]
  | _ => []

def ofKind (attributes : Attributes) : DirectiveKind → Directive
  | .condition => .condition (attributes.plain? "var") (.ofAttributes attributes "value")
  | .inclusion => .inclusion (.ofAttributes attributes "src") (.ofAttributes attributes "elements")
  | .text => .text (attributes.plain? "var")
  | .attr => .attr (.ofAttributes attributes "name") (.ofAttributes attributes "value")
  | .dynamic => .dynamic (attributes.plain? "var")

def decode (localName : String) (attributes : Attributes) (source : SourceId) :
    Except Failure Directive :=
  match DirectiveKind.ofName? localName with
  | some kind => .ok (ofKind attributes kind)
  | none => .error (.unknownDirective localName source (DirectiveKind.suggestion? localName))

@[simp] theorem kind_of_kind (attributes : Attributes) (kind : DirectiveKind) :
    (ofKind attributes kind).kind = kind := by
  cases kind <;> rfl

end Directive
end XmlTemplate.Template
