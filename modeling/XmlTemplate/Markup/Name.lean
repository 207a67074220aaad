import XmlTemplate.Text.Split

/-!
Names of elements and attributes. A name keeps the prefix as it was written, so that output has the
author's spelling, next to the namespace that the prefix stands for. The two serve different
questions: attributes are found by spelling, directives by namespace.
-/

namespace XmlTemplate.Markup

structure Name where
  nsPrefix : Option String
  localName : String
  uri : Option String
deriving DecidableEq

namespace Name

def plain (localName : String) : Name := ⟨none, localName, none⟩

/-- Reads a written name. The first colon ends the prefix if there is text on both sides of it;
otherwise the colon belongs to an unprefixed name. No namespace is attached. -/
def ofWritten (written : String) : Name :=
  match Text.cutAt? ':' written.toList with
  | some (front, back) =>
      if front.isEmpty || back.isEmpty then plain written
      else ⟨some (String.ofList front), String.ofList back, none⟩
  | none => plain written

def written (name : Name) : String :=
  match name.nsPrefix with
  | some lead => lead ++ ":" ++ name.localName
  | none => name.localName

def spelledLike (name other : Name) : Bool :=
  name.nsPrefix == other.nsPrefix && name.localName == other.localName

theorem spelled_like_iff {name other : Name} :
    name.spelledLike other = true ↔
      name.nsPrefix = other.nsPrefix ∧ name.localName = other.localName := by
  simp [spelledLike]

theorem written_eq_of_spelled_like {name other : Name} (h : name.spelledLike other = true) :
    name.written = other.written := by
  obtain ⟨lead, base⟩ := spelled_like_iff.1 h
  simp [written, lead, base]

/-- Reading a name loses none of its characters. -/
@[simp] theorem written_of_written (text : String) : (ofWritten text).written = text := by
  unfold ofWritten
  split
  · rename_i front back cut
    split
    · rfl
    · have chars := Text.eq_of_cut_at cut
      apply String.toList_injective
      simp [written, chars]
  · rfl

end Name
end XmlTemplate.Markup
