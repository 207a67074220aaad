import XmlTemplate.Command.Arguments
import XmlTemplate.Command.Outcome
import XmlTemplate.Proofs.Config.Variables

/-!
The variables of an expansion. A variable that is assigned on the command line has the value of its
last assignment, every other one that of the settings. Names count without the blanks around them,
so that two arguments may assign to one name although they are written differently.
-/

namespace XmlTemplate

open Markup

deriving instance DecidableEq for Config.Setting, Config.Settings

namespace Command

/-- An argument assigns to a name the value behind its first `=`; blanks around the name do not
count. -/
def Assigns (written name value : String) : Prop :=
  ∃ front, written.toList = front ++ '=' :: value.toList ∧ '=' ∉ front ∧
    name = Text.trim (String.ofList front)

section
variable {written : List String} {assignments : List (String × String)} {raw name value : String}

theorem assigns_of_read {pair : String × String} (read : readVariable raw = .ok pair) :
    Assigns raw name value ↔ pair = (name, value) := by
  unfold readVariable at read
  split at read
  · cases read
  · rename_i front back cut
    have split := Text.eq_of_cut_at cut
    have unmarked := Text.not_mem_of_cut_at cut
    have here : pair = (Text.trim (String.ofList front), String.ofList back) := by
      rw [Text.trim, String.toList_ofList]
      split at read
      · cases read
      · rename_i trimmed
        cases read
        rfl
    constructor
    · rintro ⟨other, again, free, rfl⟩
      have same := Text.cut_at_append value.toList free
      rw [← again, cut] at same
      cases same
      rw [here, String.ofList_toList]
    · rintro rfl
      cases here
      exact ⟨front, by rw [String.toList_ofList, split], unmarked, rfl⟩

/-- A name is without a value if and only if no argument assigns it one. -/
theorem lookup_assigned_none
    (read : List.Forall₂ (fun raw pair => readVariable raw = .ok pair) written assignments) :
    assignments.reverse.lookup name = none ↔
      ∀ raw ∈ written, ∀ value, ¬ Assigns raw name value := by
  induction read with
  | nil => simp
  | @cons raw pair written assignments first _ ih =>
    rw [List.reverse_cons, List.lookup_append, Option.or_eq_none_iff, ih, List.forall_mem_cons,
      and_comm]
    refine and_congr_left fun _ => ?_
    simp only [assigns_of_read first, List.lookup_eq_none_iff, List.mem_singleton, forall_eq,
      bne_iff_ne, ne_eq]
    constructor
    · rintro other value rfl
      exact other rfl
    · rintro never rfl
      exact never pair.2 rfl

theorem lookup_assigned_some
    (read : List.Forall₂ (fun raw pair => readVariable raw = .ok pair) written assignments) :
    (assignments.reverse.lookup name).isSome = true ↔
      ∃ raw ∈ written, ∃ value, Assigns raw name value := by
  rw [Option.isSome_iff_ne_none, ne_eq, lookup_assigned_none read]
  push Not
  rfl

/-- The last argument that assigns a value to a name counts. -/
theorem lookup_assigned_last {front back : List String}
    (read : List.Forall₂ (fun raw pair => readVariable raw = .ok pair)
      (front ++ raw :: back) assignments)
    (assigned : Assigns raw name value)
    (last : ∀ later ∈ back, ∀ other, ¬ Assigns later name other) :
    assignments.reverse.lookup name = some value := by
  -- The lookup goes through the assignments from the last to the first, and none behind this one
  -- has the name.
  induction front generalizing assignments with
  | nil =>
    obtain _ | ⟨first, rest⟩ := read
    have none_later := (lookup_assigned_none rest).2 last
    rw [(assigns_of_read first).1 assigned, List.reverse_cons, List.lookup_append, none_later]
    exact List.lookup_cons_self
  | cons _ front ih =>
    obtain _ | ⟨_, rest⟩ := read
    rw [List.reverse_cons, List.lookup_append, ih rest]
    rfl

end

/-- Bindings in which the assignments of the command line are laid over the settings: the last
assignment of a name counts, and all other names keep what the settings give them. -/
structure LaidOver (settings : Config.Settings) (written : List String)
    (bindings : Template.Bindings) : Prop where
  names : ∀ name, name ∈ bindings.names ↔
    name ∈ settings.bindings.map (·.1) ∨ ∃ raw ∈ written, ∃ value, Assigns raw name value
  assigned : ∀ front raw back name value, written = front ++ raw :: back →
    Assigns raw name value → (∀ later ∈ back, ∀ other, ¬ Assigns later name other) →
      bindings.get? name = some (.string value)
  kept : ∀ name setting, (name, setting) ∈ settings.bindings →
    (∀ raw ∈ written, ∀ value, ¬ Assigns raw name value) →
      ∃ value, setting.Becomes value ∧ bindings.get? name = some value

theorem lookup_map_values {Item Other : Type} (change : Item → Other) (name : String)
    (pairs : List (String × Item)) :
    (pairs.map fun (name, item) => (name, change item)).lookup name =
      (pairs.lookup name).map change := by
  induction pairs with
  | nil => rfl
  | cons pair pairs ih =>
    rw [List.map_cons, List.lookup_cons, List.lookup_cons, ih]
    split <;> rfl

theorem get_overlay (bindings : Template.Bindings) (assignments : List (String × String))
    (name : String) : (overlay bindings assignments).get? name =
      ((assignments.reverse.lookup name).map .string).or (bindings.get? name) := by
  rw [overlay, Template.Bindings.get_insert_all, ← List.map_reverse]
  exact congrArg (Option.or · (bindings.get? name)) (lookup_map_values Template.Value.string name _)

/-- The settings of a command give their variables if and only if all of their markup can be read,
and else the first unreadable one is reported. The assignments of the command line are laid over
them. -/
theorem variables_merged {files : Files} {asked : Option String} {settings : Config.Settings}
    (found : Config.discover files asked = .ok settings) {written : List String}
    {assignments : List (String × String)} (read : written.mapM readVariable = .ok assignments) :
    ((∃ bindings, settings.toBindings = .ok bindings) ↔
        ∀ name content, (name, .markup content) ∈ settings.bindings →
          ∃ nodes, Forest.read content = .ok nodes) ∧
      (∀ problem, settings.toBindings = .error problem →
        ∃ name malformed, settings.FirstUnreadable name malformed ∧
          problem = Config.markupProblem name malformed) ∧
      ∀ bindings, settings.toBindings = .ok bindings →
        LaidOver settings written (overlay bindings assignments) := by
  have ordered := Config.discover_ordered found
  have each := map_m_eq_ok_iff.1 read
  refine ⟨⟨?_, ?_⟩, fun problem failed => Config.first_unreadable_of_error ordered failed, ?_⟩
  · rintro ⟨bindings, made⟩ name content member
    obtain ⟨_, ⟨⟩, -⟩ := (Config.get_of_to_bindings ordered made).2 name _ member
    exact ⟨_, ‹_›⟩
  · intro readable
    cases made : settings.toBindings with
    | ok bindings => exact ⟨bindings, rfl⟩
    | error problem =>
      obtain ⟨name, malformed, ⟨⟨content, member, unread⟩, -⟩, -⟩ :=
        Config.first_unreadable_of_error ordered made
      obtain ⟨nodes, fine⟩ := readable name content member
      rw [unread] at fine
      cases fine
  · intro bindings made
    obtain ⟨names, values⟩ := Config.get_of_to_bindings ordered made
    constructor
    · intro name
      rw [Template.Bindings.mem_names_iff, get_overlay, Option.isSome_or, Bool.or_eq_true, names,
        Option.isSome_map, lookup_assigned_some each, or_comm]
    · rintro front raw back name value rfl assigned last
      rw [get_overlay, lookup_assigned_last each assigned last]
      rfl
    · intro name setting member free
      obtain ⟨value, becomes, got⟩ := values name setting member
      refine ⟨value, becomes, ?_⟩
      rw [get_overlay, (lookup_assigned_none each).2 free]
      exact got

def shopFiles : Files :=
  ⟨[(["shop.toml"], .file "[bindings]\nmenu.markup = \"<i/>&amp;\"\n".toUTF8)], []⟩

def shopVariables : Config.Settings := { bindings := [("menu", .markup "<i/>&amp;")] }

def shopArguments : List String := [" open=1", "sale =a=b", "open\t=", "new= x"]

theorem shop_variables_merged :
    Config.discover shopFiles (some "shop.toml") = .ok shopVariables ∧
      shopArguments.mapM readVariable =
        .ok [("open", "1"), ("sale", "a=b"), ("open", ""), ("new", " x")] ∧
      ∃ bindings, shopVariables.toBindings = .ok bindings ∧
        LaidOver shopVariables shopArguments
          (overlay bindings [("open", "1"), ("sale", "a=b"), ("open", ""), ("new", " x")]) := by
  have found : Config.discover shopFiles (some "shop.toml") = .ok shopVariables := by
    decide +kernel
  have read : shopArguments.mapM readVariable =
      .ok [("open", "1"), ("sale", "a=b"), ("open", ""), ("new", " x")] := by
    decide +kernel
  have menu : Forest.read "<i/>&amp;" =
      .ok [.element (.plain "i") [] [], .text "&"] := by
    decide +kernel
  have readable : ∀ name content, (name, .markup content) ∈ shopVariables.bindings →
      ∃ nodes, Forest.read content = .ok nodes := by
    rintro name content (_ | ⟨_, ⟨⟩⟩)
    exact ⟨_, menu⟩
  obtain ⟨succeeds, -, merged⟩ := variables_merged found read
  obtain ⟨bindings, made⟩ := succeeds.2 readable
  exact ⟨found, read, bindings, made, merged bindings made⟩

end Command
end XmlTemplate
