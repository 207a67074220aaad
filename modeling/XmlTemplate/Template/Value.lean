import XmlTemplate.Markup.Writing
import XmlTemplate.Number.Decimal

/-!
Values that variables can have: plain ones, and nodes of markup. Each has a form as a string, as a
condition and as nodes.
-/

namespace XmlTemplate.Template

open Markup

inductive Value
  | string (content : String)
  | bool (content : Bool)
  | integer (content : Int)
  | float (content : Float)
  | node (content : Node)
  | nodes (content : Forest)

namespace Value

/-- The value as a string; nodes become their markup. -/
def text : Value → String
  | .string content => content
  | .bool content => if content then "true" else "false"
  | .integer content => toString content
  | .float content => Number.floatText content
  | .node content => content.write
  | .nodes content => Forest.write content

/-- Everything but `false` is true, the empty string and zero included. -/
def isTruthy : Value → Bool
  | .bool false => false
  | _ => true

/-- The value as nodes; a plain value becomes one text node, even if its text is empty. -/
def toNodes : Value → Forest
  | .node content => [content]
  | .nodes content => content
  | plain => [.text plain.text]

end Value
end XmlTemplate.Template
