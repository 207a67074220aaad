import XmlTemplate.Files
import XmlTemplate.Proofs.Markup.References

/-!
What making directories and writing a file do to the files around. A directory is made only where
nothing stood, and a file is written only at the location that its path leads to; everything else
stays as it was. What was written is read back under the same path.
-/

namespace XmlTemplate.Files

open Markup

variable {files before after : Files} {location : Location}

/-- Nothing has changed at a location, except that a directory may stand there now where nothing
stood before. -/
def KeptAt (before after : Files) (location : Location) : Prop :=
  after.entry? location = before.entry? location ∨
    before.entry? location = none ∧ after.entry? location = some .directory

/-- Files between which there is no difference but directories that were made. -/
structure Untouched (before after : Files) : Prop where
  workingDirectory : after.workingDirectory = before.workingDirectory
  kept : ∀ location, before.KeptAt after location

structure WrittenAt (before after : Files) (location : Location) (text : String) : Prop where
  workingDirectory : after.workingDirectory = before.workingDirectory
  written : after.entry? location = some (.file text.toUTF8)
  kept : ∀ other, other ≠ location → before.KeptAt after other

def LeadsTo (files : Files) (path : String) (location : Location) : Prop :=
  ∃ start parts, files.route path = .ok (start, parts) ∧ files.follow start parts = .ok location

theorem is_file_iff {path : String} : files.isFile path = true ↔
    ∃ location bytes, files.LeadsTo path location ∧
      files.entry? location = some (.file bytes) := by
  unfold isFile
  constructor
  · intro file
    split at file
    · rename_i location found
      obtain ⟨⟨start, parts⟩, routed, followed⟩ := bind_eq_ok_iff.1 found
      cases stands : files.entry? location with
      | none =>
        rw [stands] at file
        cases file
      | some entry =>
        cases entry with
        | directory =>
          rw [stands] at file
          cases file
        | file bytes => exact ⟨location, bytes, ⟨start, parts, routed, followed⟩, stands⟩
    · cases file
  · rintro ⟨location, bytes, ⟨start, parts, routed, followed⟩, stands⟩
    simp only [routed, bind, Except.bind, followed, stands]
    rfl

theorem entry_put_of_ne {other : Location} (entry : Entry) (apart : other ≠ location) :
    entry? (files.put location entry) other = files.entry? other := by
  unfold entry? put
  split
  · rfl
  · have differs : (other == location) = false := beq_eq_false_iff_ne.2 apart
    rw [List.lookup_cons, differs]
    dsimp only
    induction files.entries with
    | nil => rfl
    | cons first rest ih =>
      obtain ⟨place, standing⟩ := first
      by_cases same : place = location
      · subst same
        rw [List.filter_cons_of_neg (by simp), ih, List.lookup_cons, differs]
      · rw [List.filter_cons_of_pos (by simpa using same), List.lookup_cons, List.lookup_cons, ih]

theorem entry_put_self (entry : Entry) (inner : location ≠ []) :
    entry? (files.put location entry) location = some entry := by
  unfold entry?
  rw [if_neg (by simpa using inner)]
  exact List.lookup_cons_self

theorem ne_nil_of_free (free : files.entry? location ≠ some .directory) : location ≠ [] := by
  rintro rfl
  exact free rfl

/-- What is put where no directory stands is not on the way to anything, so all paths lead where
they led before. -/
theorem follow_put {entry : Entry} (free : files.entry? location ≠ some .directory)
    {start target : Location} {parts : List PathPart}
    (followed : files.follow start parts = .ok target) :
    (files.put location entry).follow start parts = .ok target := by
  induction parts generalizing start with
  | nil => exact followed
  | cons part rest ih =>
    unfold follow at followed ⊢
    split at followed
    · cases followed
    · cases followed
    · rename_i directory
      -- Only directories are passed on the way, and none stands where something was put.
      have apart : start ≠ location := by
        rintro rfl
        exact free directory
      rw [entry_put_of_ne entry apart, directory]
      cases part with
      | here => exact ih followed
      | up => exact ih followed
      | name text =>
        dsimp only at followed ⊢
        split at followed
        · cases followed
        · rename_i short
          rw [if_neg short]
          exact ih followed

theorem Untouched.refl (files : Files) : files.Untouched files := ⟨rfl, fun _ => .inl rfl⟩

theorem KeptAt.trans {between : Files} (first : before.KeptAt between location)
    (second : between.KeptAt after location) : before.KeptAt after location := by
  rcases first with same | ⟨nothing, made⟩
  · rcases second with still | ⟨nothing, made⟩
    · exact .inl (still.trans same)
    · exact .inr ⟨same ▸ nothing, made⟩
  · rcases second with still | ⟨missing, -⟩
    · exact .inr ⟨nothing, still.trans made⟩
    · rw [made] at missing
      cases missing

theorem Untouched.trans {between : Files} (first : before.Untouched between)
    (second : between.Untouched after) : before.Untouched after :=
  ⟨second.workingDirectory.trans first.workingDirectory,
    fun location => (first.kept location).trans (second.kept location)⟩

theorem untouched_put_directory (nothing : files.entry? location = none) :
    files.Untouched (files.put location .directory) where
  workingDirectory := rfl
  kept other := by
    by_cases same : other = location
    · subst same
      have free : files.entry? other ≠ some .directory := by simp [nothing]
      exact .inr ⟨nothing, entry_put_self _ (ne_nil_of_free free)⟩
    · exact .inl (entry_put_of_ne _ same)

theorem untouched_of_make_directory {start : Location} {outer : List PathPart} {last : PathPart}
    (made : files.makeDirectory start outer last = .ok after) : files.Untouched after := by
  obtain ⟨location, -, rest⟩ := bind_eq_ok_iff.1 made
  split at rest
  · cases rest
  · rename_i nothing
    cases rest
    exact untouched_put_directory nothing

/-- Making directories changes no file, whether or not it succeeds. -/
theorem untouched_make_directories (start : Location) (parts : List PathPart) :
    files.Untouched (files.makeDirectories start parts).1 := by
  induction parts with
  | nil => exact .refl files
  | cons last outer ih =>
    rw [makeDirectories]
    split
    · rename_i one
      exact untouched_of_make_directory one
    · -- Something around it was missing and is made first.
      split
      · rename_i around refusal made_around
        rw [made_around] at ih
        exact ih
      · rename_i around made_around
        rw [made_around] at ih
        split
        · rename_i one
          exact ih.trans (untouched_of_make_directory one)
        · split <;> exact ih
    · exact .refl files

theorem untouched_try_directories_for (path : String) :
    files.Untouched (files.tryDirectoriesFor path).1 := by
  unfold tryDirectoriesFor
  split
  · exact .refl files
  · exact untouched_make_directories _ _

/-- A text can be written if and only if its path does not end in a slash and leads to a location
without a directory; there it is put. -/
theorem write_eq_ok_iff {path text : String} :
    files.write path text = .ok after ↔
      endsInSlash path = false ∧ ∃ location, files.LeadsTo path location ∧
        files.entry? location ≠ some .directory ∧
        after = files.put location (.file text.toUTF8) := by
  unfold write writeBytes
  rw [bind_eq_ok_iff]
  constructor
  · rintro ⟨⟨start, parts⟩, routed, rest⟩
    dsimp only at rest
    split at rest
    · obtain ⟨_, -, refused⟩ := bind_eq_ok_iff.1 rest
      cases refused
    · rename_i plain
      obtain ⟨location, followed, put⟩ := bind_eq_ok_iff.1 rest
      refine ⟨Bool.eq_false_iff.2 plain, location, ⟨start, parts, routed, followed⟩, ?_⟩
      split at put
      · cases put
      · rename_i free
        cases put
        exact ⟨free, rfl⟩
  · rintro ⟨plain, location, ⟨start, parts, routed, followed⟩, free, rfl⟩
    refine ⟨(start, parts), routed, ?_⟩
    dsimp only
    rw [if_neg (Bool.eq_false_iff.1 plain)]
    refine bind_eq_ok_iff.2 ⟨location, followed, ?_⟩
    split
    · rename_i directory
      exact absurd directory free
    · rfl

theorem written_at_put {text : String} (free : files.entry? location ≠ some .directory) :
    files.WrittenAt (files.put location (.file text.toUTF8)) location text where
  workingDirectory := rfl
  written := entry_put_self _ (ne_nil_of_free free)
  kept _ apart := .inl (entry_put_of_ne _ apart)

theorem leads_to_put {path : String} {target : Location} {entry : Entry}
    (free : files.entry? location ≠ some .directory) (leads : files.LeadsTo path target) :
    (files.put location entry).LeadsTo path target := by
  obtain ⟨start, parts, routed, followed⟩ := leads
  exact ⟨start, parts, routed, follow_put free followed⟩

theorem Untouched.written_at {between : Files} {text : String} (first : before.Untouched between)
    (second : between.WrittenAt after location text) : before.WrittenAt after location text where
  workingDirectory := second.workingDirectory.trans first.workingDirectory
  written := second.written
  kept other apart := (first.kept other).trans (second.kept other apart)

theorem read_of_leads {path text : String} (leads : files.LeadsTo path location)
    (stands : files.entry? location = some (.file text.toUTF8)) : files.read path = .ok text := by
  obtain ⟨start, parts, routed, followed⟩ := leads
  have decoded : String.fromUTF8? text.toUTF8 = some text := by
    simp only [String.fromUTF8?, String.toUTF8_eq_toByteArray, dif_pos text.isValidUTF8]
    rfl
  simp only [read, routed, bind, Except.bind, followed, readAt, stands, decoded]

end XmlTemplate.Files
