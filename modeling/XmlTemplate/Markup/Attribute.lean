import XmlTemplate.Markup.Name

/-!
The attributes of an element, in the order in which they were written. They are found by spelling.
An edit keeps the place of an attribute it replaces and appends one that is new.
-/

namespace XmlTemplate.Markup

/-- A name with a value in which references are already resolved. -/
structure Attribute where
  name : Name
  value : String
deriving DecidableEq

/-- A declaration of a prefix, `xmlns:p`; the default declaration `xmlns` is not one. -/
def Attribute.declaresPrefix (item : Attribute) : Bool :=
  item.name.nsPrefix == some "xmlns"

abbrev Attributes := List Attribute

namespace Attributes

def spelled? (attributes : Attributes) (name : Name) : Option String :=
  (attributes.find? (·.name.spelledLike name)).map (·.value)

def plain? (attributes : Attributes) (localName : String) : Option String :=
  attributes.spelled? (.plain localName)

def written? (attributes : Attributes) (written : String) : Option String :=
  attributes.spelled? (.ofWritten written)

/-- Gives the first attribute spelled like the name a new value, or appends one. -/
def setSpelled (name : Name) (value : String) : Attributes → Attributes
  | [] => [⟨name, value⟩]
  | item :: rest =>
      if item.name.spelledLike name then { item with value } :: rest
      else item :: setSpelled name value rest

/-- Setting an attribute changes no name, or adds one that was not there. -/
theorem set_spelled_cases (name : Name) (value : String) (attributes : Attributes) :
    (attributes.setSpelled name value).map (·.name) = attributes.map (·.name) ∨
      (∀ item ∈ attributes, item.name.spelledLike name = false) ∧
        attributes.setSpelled name value = attributes ++ [⟨name, value⟩] := by
  induction attributes with
  | nil => exact .inr ⟨nofun, rfl⟩
  | cons first rest ih =>
      unfold setSpelled
      split
      · exact .inl rfl
      · rename_i other
        rcases ih with same | ⟨others, added⟩
        · exact .inl (congrArg (first.name :: ·) same)
        · refine .inr ⟨List.forall_mem_cons.2 ⟨by simpa using other, others⟩, ?_⟩
          rw [added, List.cons_append]

def set (attributes : Attributes) (written value : String) : Attributes :=
  attributes.setSpelled (.ofWritten written) value

def erase (attributes : Attributes) (written : String) : Attributes :=
  attributes.eraseP (·.name.spelledLike (.ofWritten written))

end Attributes
end XmlTemplate.Markup
