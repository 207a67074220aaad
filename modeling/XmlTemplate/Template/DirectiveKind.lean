import XmlTemplate.Text.EditDistance
import XmlTemplate.Text.Size

/-!
The five directives and their names. For a name that is none of them, the nearest one is suggested
if it is near enough to be a slip of the pen.
-/

namespace XmlTemplate.Template

/-- What a directive does: expands its children under a condition, splices in another source, emits
a text, edits an attribute of the element around it, or injects bound nodes. -/
inductive DirectiveKind
  | condition
  | inclusion
  | text
  | attr
  | dynamic
deriving DecidableEq

namespace DirectiveKind

def name : DirectiveKind → String
  | .condition => "when"
  | .inclusion => "include"
  | .text => "text"
  | .attr => "attr"
  | .dynamic => "dynamic"

/-- All directives, in the order in which they are listed to the user. -/
def all : List DirectiveKind := [.condition, .inclusion, .text, .attr, .dynamic]

def names : List String := all.map name

def ofName? (text : String) : Option DirectiveKind := all.find? (·.name == text)

/-- The candidate at the least distance; of equally near ones the first. -/
def nearest? (unknown : String) : List String → Option (Nat × String)
  | [] => none
  | candidate :: rest =>
      let here := Text.editDistance unknown candidate
      match nearest? unknown rest with
      | some (distance, name) =>
          if distance < here then some (distance, name) else some (here, candidate)
      | none => some (here, candidate)

/-- The directive name nearest to an unknown one, if its distance is at most half the length of the
unknown name. The distance counts characters and the length bytes; a single byte counts as two. -/
def suggestion? (unknown : String) : Option String :=
  let allowed := max (Text.size unknown.toList) 2 / 2
  ((nearest? unknown names).filter (·.1 ≤ allowed)).map (·.2)

end DirectiveKind
end XmlTemplate.Template
