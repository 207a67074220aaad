import XmlTemplate.Path
import XmlTemplate.Source.Library

/-!
Files and directories as a value. Every entry has a location, the names to follow from the root of
the file system; paths are followed one part at a time, and each part has to be looked up in a
directory. Above the root is the root again. There are no symbolic links, permissions or full disks,
and a file is created, emptied and filled in one step, so a write that has begun never stops halfway
and can only fail because of what is at or above its location. The main statement is that a library
of files is finite: each of its readable sources is a file at a known location, named from the root
or by a path of limited length from the working directory.
-/

namespace XmlTemplate

abbrev Location := List String

inductive Entry
  | directory
  | file (bytes : ByteArray)

instance : DecidableEq Entry
  | .directory, .directory => isTrue rfl
  | .directory, .file _ => isFalse nofun
  | .file _, .directory => isFalse nofun
  | .file ⟨one⟩, .file ⟨other⟩ =>
      if same : one = other then isTrue (by rw [same])
      else isFalse fun equal => by cases equal; exact same rfl

inductive FileError
  | notFound
  | alreadyThere
  | notDirectory
  | isDirectory
  | nameTooLong
  | nulInName
  | notText
deriving DecidableEq

def FileError.cause : FileError → IoCause
  | .notFound => ⟨.notFound, "No such file or directory (os error 2)"⟩
  | .alreadyThere => ⟨.other, "File exists (os error 17)"⟩
  | .notDirectory => ⟨.other, "Not a directory (os error 20)"⟩
  | .isDirectory => ⟨.other, "Is a directory (os error 21)"⟩
  | .nameTooLong => ⟨.other, "File name too long (os error 36)"⟩
  | .nulInName => ⟨.other, "file name contained an unexpected NUL byte"⟩
  | .notText => ⟨.other, "stream did not contain valid UTF-8"⟩

def maxNameBytes : Nat := 255

/-- The bytes that a path must not reach. -/
def pathBytesLimit : Nat := 4096

/-- Files and directories, with the location from which relative paths start. -/
structure Files where
  entries : List (Location × Entry)
  workingDirectory : Location

namespace Files

/-- What stands at a location; the root is a directory. -/
def entry? (files : Files) (location : Location) : Option Entry :=
  if location.isEmpty then some .directory else files.entries.lookup location

/-- Follows the parts of a path; everything but the end has to be a directory. A name that is too
long is noticed when it is looked up. -/
def follow (files : Files) : Location → List PathPart → Except FileError Location
  | location, [] => .ok location
  | location, part :: rest =>
      match files.entry? location with
      | none => .error .notFound
      | some (.file _) => .error .notDirectory
      | some .directory =>
          match part with
          | .here => files.follow location rest
          | .name text =>
              if maxNameBytes < text.utf8ByteSize then .error .nameTooLong
              else files.follow (location ++ [text]) rest
          | .up => files.follow location.dropLast rest

def endsInSlash (path : String) : Bool := path.toList.getLast? = some '/'

/-- The start and the parts of a path as the system sees them. A trailing slash asks for a
directory, as a final part `.` does; the empty path leads nowhere. -/
def route (files : Files) (path : String) : Except FileError (Location × List PathPart) :=
  if path.toList.contains '\x00' then .error .nulInName
  else if path.isEmpty then .error .notFound
  else if pathBytesLimit ≤ path.utf8ByteSize then .error .nameTooLong
  else
    let closing := if endsInSlash path then [.here] else []
    .ok (if Path.isAbsolute path then [] else files.workingDirectory, Path.parts path ++ closing)

def readAt (files : Files) (location : Location) : Except FileError String :=
  match files.entry? location with
  | none => .error .notFound
  | some .directory => .error .isDirectory
  | some (.file bytes) =>
      match String.fromUTF8? bytes with
      | some text => .ok text
      | none => .error .notText

def read (files : Files) (path : String) : Except FileError String := do
  let (start, parts) ← files.route path
  files.readAt (← files.follow start parts)

def isFile (files : Files) (path : String) : Bool :=
  match (do let (start, parts) ← files.route path; files.follow start parts) with
  | .ok location => (files.entry? location).any (· != .directory)
  | .error _ => false

def put (files : Files) (location : Location) (entry : Entry) : Files :=
  { files with entries := (location, entry) :: files.entries.filter (·.1 != location) }

/-- Makes one directory. The parts before the last one have to lead to a directory. -/
def makeDirectory (files : Files) (start : Location) (outer : List PathPart) (last : PathPart) :
    Except FileError Files := do
  let location ← files.follow start (outer ++ [last])
  match files.entry? location with
  | some _ => .error .alreadyThere
  | none => .ok (files.put location .directory)

def isDirectory (files : Files) (start : Location) (parts : List PathPart) : Bool :=
  match files.follow start parts with
  | .ok location => files.entry? location = some .directory
  | .error _ => false

/-- Makes a directory with all that are missing around it; the parts are given innermost first. One
that is already there is left alone, but a file in its place is an error. What was made before an
error stays. -/
def makeDirectories (files : Files) (start : Location) :
    List PathPart → Files × Except FileError Unit
  | [] => (files, .ok ())
  | last :: outer =>
      let there := files.isDirectory start (outer.reverse ++ [last])
      match files.makeDirectory start outer.reverse last with
      | .ok made => (made, .ok ())
      | .error .notFound =>
          match files.makeDirectories start outer with
          | (around, .error refusal) => (around, .error refusal)
          | (around, .ok ()) =>
              match around.makeDirectory start outer.reverse last with
              | .ok made => (made, .ok ())
              | .error refusal =>
                  if around.isDirectory start (outer.reverse ++ [last]) then (around, .ok ())
                  else (around, .error refusal)
      | .error refusal => (files, if there then .ok () else .error refusal)

def tryDirectoriesFor (files : Files) (path : String) : Files × Except FileError Unit :=
  match files.route path with
  | .error refusal => (files, .error refusal)
  | .ok (start, parts) => files.makeDirectories start (parts.filter (· != .here)).reverse

def makeDirectoriesFor (files : Files) (path : String) : Except FileError Files :=
  let (made, outcome) := files.tryDirectoriesFor path
  outcome.map fun _ => made

/-- Writes a file, new or over an old one. A path that ends in a slash can only mean a directory,
whatever its last name leads to. -/
def writeBytes (files : Files) (path : String) (bytes : ByteArray) : Except FileError Files := do
  let (start, parts) ← files.route path
  if endsInSlash path then
    let _ ← files.follow start ((Path.parts path).dropLast ++ [.here])
    .error .isDirectory
  else
    let location ← files.follow start parts
    match files.entry? location with
    | some .directory => .error .isDirectory
    | _ => .ok (files.put location (.file bytes))

def write (files : Files) (path text : String) : Except FileError Files :=
  files.writeBytes path text.toUTF8

def sourceRoute (files : Files) (source : SourceId) : Location × List PathPart :=
  match source.anchor with
  | .root => ([], source.names.map .name)
  | .above levels =>
      (files.workingDirectory, List.replicate levels .up ++ source.names.map .name)

/-- The text of a source. The current directory has the empty path, which leads nowhere. -/
def readSource (files : Files) (source : SourceId) : Except FileError String :=
  if source = .current then .error .notFound
  else if source.names.any (·.toList.contains '\x00') then .error .nulInName
  else if pathBytesLimit ≤ source.path.utf8ByteSize then .error .nameTooLong
  else do
    let (start, parts) := files.sourceRoute source
    files.readAt (← files.follow start parts)

/-- The sources that a location can be: named from the root, or by a path that is short enough from
a directory at or above the working directory. -/
def sourcesAt (files : Files) (location : Location) : List SourceId :=
  ⟨.root, location⟩ :: (List.range pathBytesLimit).map fun levels =>
    ⟨.above levels, location.drop (files.workingDirectory.length - levels)⟩

theorem follow_names {files : Files} {start location : Location} {names : List String}
    (h : files.follow start (names.map .name) = .ok location) : location = start ++ names := by
  induction names generalizing start with
  | nil => simpa [follow, eq_comm] using h
  | cons name rest ih =>
    simp only [List.map_cons, follow] at h
    split at h
    · simp at h
    · simp at h
    · split at h
      · simp at h
      · simpa using ih h

theorem follow_up {files : Files} {start location : Location} {levels : Nat} {names : List String}
    (h : files.follow start (List.replicate levels .up ++ names.map .name) = .ok location) :
    location = start.take (start.length - levels) ++ names := by
  induction levels generalizing start with
  | zero => simpa using follow_names (by simpa using h)
  | succ levels ih =>
    simp only [List.replicate_succ, List.cons_append, follow] at h
    split at h
    · simp at h
    · simp at h
    · rw [ih h, List.length_dropLast, List.dropLast_eq_take, List.take_take]
      congr 2
      omega

theorem mem_entries_of_read_at {files : Files} {location : Location} {text : String}
    (h : files.readAt location = .ok text) : location ∈ files.entries.map (·.1) := by
  unfold readAt at h
  split at h
  · simp at h
  · simp at h
  · rename_i bytes found
    unfold entry? at found
    split at found
    · simp at found
    · obtain ⟨before, after, split, _⟩ := List.lookup_eq_some_iff.1 found
      simp [split]

theorem mem_sources_at_of_follow {files : Files} {source : SourceId} {location : Location}
    (short : source.path.utf8ByteSize < pathBytesLimit)
    (h : files.follow (files.sourceRoute source).1 (files.sourceRoute source).2 = .ok location) :
    source ∈ files.sourcesAt location := by
  obtain ⟨anchor, names⟩ := source
  cases anchor with
  | root =>
    have := follow_names h
    simp only [sourceRoute, List.nil_append] at this
    simp [sourcesAt, this]
  | above levels =>
    have bound := SourceId.levels_le_utf8_byte_size_path levels names
    rw [follow_up h]
    simp only [sourceRoute, sourcesAt, List.mem_cons, List.mem_map, List.mem_range]
    refine .inr ⟨levels, by omega, ?_⟩
    congr 1
    rw [List.drop_append_of_le_length (by simp), List.drop_eq_nil_of_le (by simp)]
    simp

def sources (files : Files) : List SourceId := (files.entries.map (·.1)).flatMap files.sourcesAt

theorem mem_sources_of_read_source {files : Files} {source : SourceId} {text : String}
    (h : files.readSource source = .ok text) : source ∈ files.sources := by
  unfold readSource at h
  split at h
  · simp at h
  · split at h
    · simp at h
    · split at h
      · simp at h
      · rename_i short
        dsimp only at h
        cases followed : files.follow (files.sourceRoute source).1 (files.sourceRoute source).2 with
        | error refusal => simp [followed, bind, Except.bind] at h
        | ok location =>
          have read : files.readAt location = .ok text := by
            simpa [followed, bind, Except.bind] using h
          exact List.mem_flatMap.2 ⟨location, mem_entries_of_read_at read,
            mem_sources_at_of_follow (Nat.lt_of_not_le short) followed⟩

def library (files : Files) : Library where
  read source :=
    match files.readSource source with
    | .ok text => .ok text
    | .error refusal => .error refusal.cause
  ids := files.sources
  mem_ids {source text} h := by
    split at h
    · rename_i found
      cases h
      exact mem_sources_of_read_source found
    · simp at h

end Files
end XmlTemplate
