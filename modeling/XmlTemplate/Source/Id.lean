import XmlTemplate.Path

/-!
Identifiers of template sources. An identifier is a path in canonical form, so that two spellings of
a path name the same source: parts `.` are gone, and `..` occurs only where a relative path leaves
the directory it starts from. The form is settled on the text alone; no file is looked at.
-/

namespace XmlTemplate

/-- Where a canonical path starts: at the root, or some levels above the current directory. -/
inductive Anchor
  | root
  | above (levels : Nat)
deriving DecidableEq

/-- A path in canonical form: a start and the names to follow from there. -/
structure SourceId where
  anchor : Anchor
  names : List String
deriving DecidableEq

namespace SourceId

def current : SourceId := ⟨.above 0, []⟩

def root : SourceId := ⟨.root, []⟩

/-- Follows one part. Going up takes back the last name; without one it leaves the starting
directory, and at the root it stays. -/
def follow (source : SourceId) : PathPart → SourceId
  | .here => source
  | .name text => { source with names := source.names ++ [text] }
  | .up =>
      match source.names, source.anchor with
      | [], .root => source
      | [], .above levels => { source with anchor := .above (levels + 1) }
      | _ :: _, _ => { source with names := source.names.dropLast }

def followAll (source : SourceId) (parts : List PathPart) : SourceId := parts.foldl follow source

def ofPath (path : String) : SourceId :=
  (if Path.isAbsolute path then root else current).followAll (Path.parts path)

/-- The directory that holds a source, as a start for relative paths. The root and the current
directory have none, and paths beside them start at the current directory. -/
def directory (source : SourceId) : SourceId :=
  match source.names, source.anchor with
  | [], .root => current
  | [], .above levels => ⟨.above (levels - 1), []⟩
  | _ :: _, _ => { source with names := source.names.dropLast }

def joinRelative (source : SourceId) (path : String) : SourceId :=
  if Path.isAbsolute path then ofPath path else source.directory.followAll (Path.parts path)

def path (source : SourceId) : String :=
  match source.anchor with
  | .root => "/" ++ "/".intercalate source.names
  | .above levels => "/".intercalate (List.replicate levels ".." ++ source.names)

theorem length_le_utf8_byte_size_intercalate {separator : String} (parts : List String)
    (h : ∀ part ∈ parts, 1 ≤ part.utf8ByteSize) (rest : List String) :
    parts.length ≤ (separator.intercalate (parts ++ rest)).utf8ByteSize := by
  induction parts with
  | nil => simp
  | cons part others ih =>
    have here := h part (by simp)
    have there := ih fun other member => h other (by simp [member])
    by_cases last : others ++ rest = []
    · have : others = [] := (List.append_eq_nil_iff.1 last).1
      simp_all
    · rw [List.cons_append, String.intercalate_cons_of_ne_nil last]
      simp only [String.utf8ByteSize_append, List.length_cons]
      omega

/-- A path of limited length leads up a limited number of levels. -/
theorem levels_le_utf8_byte_size_path (levels : Nat) (names : List String) :
    levels ≤ (path ⟨.above levels, names⟩).utf8ByteSize := by
  have := @length_le_utf8_byte_size_intercalate "/" (List.replicate levels "..")
    (by intro part member; rw [List.eq_of_mem_replicate member]; decide) names
  simpa [path] using this

end SourceId
end XmlTemplate
