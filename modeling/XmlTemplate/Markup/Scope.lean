import XmlTemplate.Markup.Tag

/-!
Namespace declarations in force at a place. Later and inner declarations stand in front of earlier
and outer ones, so a lookup takes the first that matches. A declaration is bound to its value as
written, with references unresolved.
-/

namespace XmlTemplate.Markup

def xmlUri : String := "http://www.w3.org/XML/1998/namespace"

def xmlnsUri : String := "http://www.w3.org/2000/xmlns/"

/-- A declaration of a prefix; the empty prefix is that of the default namespace. -/
structure NamespaceBinding where
  lead : List Char
  uri : List Char
deriving DecidableEq

/-- The declarations in force, innermost first. -/
abbrev Scope := List NamespaceBinding

namespace Scope

/-- The two prefixes that every document may use undeclared. -/
def outermost : Scope :=
  [⟨"xmlns".toList, xmlnsUri.toList⟩, ⟨"xml".toList, xmlUri.toList⟩]

def declared? (key : List Char) : Option (List Char) :=
  match key with
  | ['x', 'm', 'l', 'n', 's'] => some []
  | 'x' :: 'm' :: 'l' :: 'n' :: 's' :: ':' :: lead => some lead
  | _ => none

/-- Adds the declaration that a pair makes, if it makes one. The prefix `xml` may only be bound to
its own namespace, which changes nothing; the prefix `xmlns` may not be bound at all, and no other
prefix to the namespace of either. The default namespace, being declared by `xmlns` alone, is not
restricted. -/
def declare (scope : Scope) (pair : RawAttribute) : Except Fault Scope :=
  match declared? pair.key with
  | none => .ok scope
  | some lead =>
      let refused := .error (.reservedBinding (String.ofList lead) (String.ofList pair.value))
      if pair.key = "xmlns".toList then .ok (⟨lead, pair.value⟩ :: scope)
      else if lead = "xml".toList then if pair.value = xmlUri.toList then .ok scope else refused
      else if lead = "xmlns".toList then refused
      else if pair.value = xmlUri.toList ∨ pair.value = xmlnsUri.toList then refused
      else .ok (⟨lead, pair.value⟩ :: scope)

def enter (scope : Scope) (pairs : List RawAttribute) : Except Fault Scope :=
  pairs.foldlM declare scope

/-- The value of the innermost declaration of a prefix. -/
def find? (scope : Scope) (lead : List Char) : Option (List Char) :=
  (List.find? (·.lead == lead) scope).map (·.uri)

/-- The namespace of names without a prefix; an empty declaration takes it away. -/
def defaultUri? (scope : Scope) : Option String :=
  ((scope.find? []).filter (!·.isEmpty)).map String.ofList

/-- The namespace of a written prefix. An empty declaration takes it away, and the empty prefix
itself cannot be declared. -/
def prefixUri (scope : Scope) (lead : List Char) : Except Fault String :=
  match lead.isEmpty, scope.find? lead with
  | false, some (c :: uri) => .ok (String.ofList (c :: uri))
  | _, _ => .error (.undeclaredPrefix (String.ofList lead))

end Scope
end XmlTemplate.Markup
