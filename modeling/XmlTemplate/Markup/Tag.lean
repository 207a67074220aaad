import XmlTemplate.Markup.Fault
import XmlTemplate.Text.Blank
import XmlTemplate.Text.Split

/-!
The inside of a tag: a name and a list of `key="value"` pairs. Pairs are read from left to right up
to the first malformed one, which is kept next to those before it: namespace declarations are taken
from the good pairs whatever follows, while the element itself has to answer for the malformed one
too.
-/

namespace XmlTemplate.Markup

structure RawAttribute where
  key : List Char
  start : Nat
  value : List Char
deriving DecidableEq

/-- What stopped the reading of pairs. A key may be known although its value is malformed. -/
inductive ScanFault
  | key (fault : AttributeFault)
  | value (key : List Char) (start : Nat) (fault : AttributeFault)
deriving DecidableEq

structure Scan where
  attributes : List RawAttribute
  fault? : Option ScanFault
deriving DecidableEq

namespace Tag

/-- The name of a tag: everything up to the first blank. It may be empty. -/
def name (content : List Char) : List Char := content.takeWhile (!Text.isMarkupBlank ·)

def afterName (content : List Char) : List Char := content.dropWhile (!Text.isMarkupBlank ·)

/-- Whether a character belongs to a key. The first character of a key is not asked. -/
def continuesKey (c : Char) : Bool := c != '=' && !Text.isMarkupBlank c

/-- The quoted value at the start of a text and what follows it. Offsets are taken from the end of a
content of `size` bytes. -/
def value (size : Nat) : List Char → Except AttributeFault (List Char × List Char)
  | [] => .error (.missingValue size)
  | c :: rest =>
      if c = '"' ∨ c = '\'' then
        match Text.cutAt? c rest with
        | some found => .ok found
        | none => .error (.missingQuote size c)
      else .error (.unquotedValue (size - Text.size (c :: rest)))

theorem length_of_value {size : Nat} {text content after : List Char}
    (h : value size text = .ok (content, after)) : after.length < text.length := by
  unfold value at h
  split at h
  · simp at h
  · split at h
    · split at h
      · rename_i found cut
        simp only [Except.ok.injEq] at h
        subst h
        have := Text.eq_of_cut_at cut
        simp [this]
        omega
      · simp at h
    · simp at h

/-- Reads pairs from the end of a tag's content of `size` bytes. Blanks may stand around `=`; none
are needed between pairs. -/
def scan (size : Nat) (text : List Char) : Scan :=
  match _keyed : text.dropWhile Text.isMarkupBlank with
  | [] => ⟨[], none⟩
  | c :: rest =>
      let start := size - Text.size (c :: rest)
      let key := c :: rest.takeWhile continuesKey
      match _valued : (rest.dropWhile continuesKey).dropWhile Text.isMarkupBlank with
      | '=' :: afterEquals =>
          match _quoted : value size (afterEquals.dropWhile Text.isMarkupBlank) with
          | .error fault => ⟨[], some (.value key start fault)⟩
          | .ok (content, after) =>
              let later := scan size after
              ⟨⟨key, start, content⟩ :: later.attributes, later.fault?⟩
      | afterKey => ⟨[], some (.key (.missingEquals (size - Text.size afterKey)))⟩
termination_by text.length
decreasing_by
  have h₁ := (List.dropWhile_suffix Text.isMarkupBlank (l := text)).length_le
  have h₂ := (List.dropWhile_suffix continuesKey (l := rest)).length_le
  have h₃ := (List.dropWhile_suffix Text.isMarkupBlank (l := rest.dropWhile continuesKey)).length_le
  have h₄ := (List.dropWhile_suffix Text.isMarkupBlank (l := afterEquals)).length_le
  have h₅ := length_of_value _quoted
  rw [_keyed] at h₁
  rw [_valued] at h₃
  simp only [List.length_cons] at h₁ h₃
  omega

def attributes (content : List Char) : Scan := scan (Text.size content) (afterName content)

end Tag
end XmlTemplate.Markup
