import XmlTemplate.Config.Settings
import XmlTemplate.Proofs.Files.Writing

/-!
Which settings a command has: those of the file that it asks for, else those of the default file if
there is one, else none. The paths in a file are taken from the directory of the file.
-/

namespace XmlTemplate

open Markup

namespace Config

variable {files : Files} {path : String} {asked : Option String} {settings : Settings}

/-- Settings as they are written in a file, with the paths in them taken from its directory. -/
def LoadedFrom (files : Files) (path : String) (settings : Settings) : Prop :=
  ∃ text written, files.read path = .ok text ∧ Settings.parse text = .ok written ∧
    settings.template = written.template.map (Path.join ((Path.parent? path).getD "")) ∧
    settings.output = written.output.map (Path.join ((Path.parent? path).getD "")) ∧
    settings.bindings = written.bindings

/-- The settings of a command are those of the file that is asked for, else those of the default
file, and without either there are none. -/
inductive Found (files : Files) : Option String → Settings → Prop
  | asked {path : String} {settings : Settings} (loaded : LoadedFrom files path settings) :
      Found files (some path) settings
  | default {location : Location} {bytes : ByteArray} {settings : Settings}
      (leads : files.LeadsTo defaultFile location)
      (stands : files.entry? location = some (.file bytes))
      (loaded : LoadedFrom files defaultFile settings) : Found files none settings
  | without (nowhere : ∀ location bytes, files.LeadsTo defaultFile location →
      files.entry? location ≠ some (.file bytes)) : Found files none {}

theorem load_eq_ok_iff : load files path = .ok settings ↔ LoadedFrom files path settings := by
  unfold load LoadedFrom
  constructor
  · intro loaded
    obtain ⟨text, read, rest⟩ := bind_eq_ok_iff.1 loaded
    obtain ⟨written, parsed, anchored⟩ := bind_eq_ok_iff.1 rest
    cases anchored
    exact ⟨text, written, map_error_eq_ok_iff.1 read, map_error_eq_ok_iff.1 parsed, rfl, rfl, rfl⟩
  · rintro ⟨text, written, read, parsed, template, output, bindings⟩
    obtain ⟨_, _, _⟩ := settings
    cases template
    cases output
    cases bindings
    simp only [read, parsed, Except.mapError, bind, Except.bind]
    rfl

theorem discover_eq_ok_iff : discover files asked = .ok settings ↔ Found files asked settings := by
  cases asked with
  | some path =>
    rw [discover, load_eq_ok_iff]
    refine ⟨.asked, fun found => ?_⟩
    cases found
    assumption
  | none =>
    rw [discover]
    split
    · rename_i file
      obtain ⟨location, bytes, leads, stands⟩ := Files.is_file_iff.1 file
      rw [load_eq_ok_iff]
      refine ⟨.default leads stands, ?_⟩
      rintro (_ | ⟨-, -, loaded⟩ | nowhere)
      · exact loaded
      · exact absurd stands (nowhere location bytes leads)
    · rename_i missing
      have nowhere : ∀ location bytes, files.LeadsTo defaultFile location →
          files.entry? location ≠ some (.file bytes) := by
        intro location bytes leads stands
        exact missing (Files.is_file_iff.2 ⟨location, bytes, leads, stands⟩)
      constructor
      · rintro ⟨⟩
        exact .without nowhere
      · rintro (_ | ⟨leads, stands, -⟩ | _)
        · exact absurd stands (nowhere _ _ leads)
        · rfl

theorem found_unique {other : Settings} (one : Found files asked settings)
    (again : Found files asked other) : settings = other := by
  rw [← discover_eq_ok_iff] at one again
  rw [one] at again
  cases again
  rfl

end Config

end XmlTemplate
