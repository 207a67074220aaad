import XmlTemplate.Proofs.Config.Discovery
import XmlTemplate.Proofs.Config.DistinctKeys

/-!
The variables of the settings. They are named once and in order, because no table of the file has a
key twice. Each gets the value that is written for it; markup that cannot be read is reported for
the first variable by name.
-/

namespace XmlTemplate

open Markup

section
variable {Item Result Reason : Type} {act : Item → Except Reason Result}

/-- Acting on items in turn succeeds if and only if it does so on each. -/
theorem map_m_eq_ok_iff {items : List Item} {results : List Result} :
    items.mapM act = .ok results ↔
      List.Forall₂ (fun item result => act item = .ok result) items results := by
  induction items generalizing results with
  | nil =>
    rw [List.mapM_nil, List.forall₂_nil_left_iff]
    exact ⟨fun same => (Except.ok.inj same).symm, fun same => same ▸ rfl⟩
  | cons item items ih =>
    rw [List.mapM_cons, bind_eq_ok_iff]
    constructor
    · rintro ⟨result, first, rest⟩
      obtain ⟨others, later, same⟩ := bind_eq_ok_iff.1 rest
      cases same
      exact .cons first (ih.1 later)
    · rintro (_ | ⟨first, later⟩)
      exact ⟨_, first, bind_eq_ok_iff.2 ⟨_, ih.2 later, rfl⟩⟩

/-- Acting on items in turn fails as it does on the first item on which it fails. -/
theorem map_m_eq_error_iff {items : List Item} {reason : Reason} :
    items.mapM act = .error reason ↔
      ∃ front item back, items = front ++ item :: back ∧
        (∀ earlier ∈ front, ∃ result, act earlier = .ok result) ∧ act item = .error reason := by
  induction items with
  | nil => simp [pure, Except.pure]
  | cons item items ih =>
    rw [List.mapM_cons]
    cases first : act item with
    | error fault =>
      constructor
      · intro failed
        cases failed
        exact ⟨[], item, items, rfl, nofun, first⟩
      · rintro ⟨_ | ⟨other, front⟩, failing, back, split, earlier, failed⟩
        · cases split
          rw [first] at failed
          cases failed
          rfl
        · cases split
          obtain ⟨result, fine⟩ := earlier item (.head _)
          rw [first] at fine
          cases fine
    | ok result =>
      have later : (do let others ← items.mapM act; pure (result :: others)) = .error reason ↔
          items.mapM act = .error reason := by
        cases items.mapM act <;> simp [bind, Except.bind, pure, Except.pure]
      refine later.trans (ih.trans ⟨?_, ?_⟩)
      · rintro ⟨front, failing, back, rfl, earlier, failed⟩
        refine ⟨item :: front, failing, back, rfl, ?_, failed⟩
        exact List.forall_mem_cons.2 ⟨⟨result, first⟩, earlier⟩
      · rintro ⟨_ | ⟨other, front⟩, failing, back, split, earlier, failed⟩
        · cases split
          rw [first] at failed
          cases failed
        · cases split
          exact ⟨front, failing, back, rfl, (List.forall_mem_cons.1 earlier).2, failed⟩

end

namespace Config

/-- The variables stand in the order of their names, of which none occurs twice. -/
def Settings.Ordered (settings : Settings) : Prop :=
  settings.bindings.Pairwise fun one other => one.1 < other.1

section
variable {entries : Toml.Entries} {settings next : Settings}

theorem read_ordered {bound : List (String × Setting)} (keyed : Toml.EntriesKeyed entries)
    (read : settings? entries = some bound) :
    bound.Pairwise fun one other => one.1 < other.1 := by
  simp only [settings?, Option.bind_eq_bind, Option.bind_eq_some_iff, Option.some.injEq] at read
  obtain ⟨pairs, made, rfl⟩ := read
  have keys : pairs.map (·.1) = entries.map (·.1) := by
    clear keyed
    induction entries generalizing pairs with
    | nil =>
      cases made
      rfl
    | cons entry entries ih =>
      simp only [List.mapM_cons, Option.bind_eq_bind, Option.bind_eq_some_iff,
        Option.map_eq_some_iff, Option.pure_def, Option.some.injEq] at made
      obtain ⟨_, ⟨setting, -, rfl⟩, others, later, rfl⟩ := made
      rw [List.map_cons, List.map_cons, ih others later]
  let before (one other : String × Setting) : Bool := decide (one.1 ≤ other.1)
  have sorted : (pairs.mergeSort before).Pairwise fun one other => before one other = true := by
    refine List.pairwise_mergeSort ?_ ?_ pairs
    · intro one other third first second
      simp only [before, decide_eq_true_eq] at first second ⊢
      exact String.le_trans first second
    · intro one other
      simpa [before] using String.le_total one.1 other.1
  have distinct : ((pairs.mergeSort before).map (·.1)).Nodup := by
    rw [((List.mergeSort_perm pairs before).map (·.1)).nodup_iff, keys]
    exact (Toml.entries_keyed_iff.1 keyed).1
  refine (sorted.and (List.pairwise_map.1 distinct)).imp fun {one other} ⟨le, ne⟩ => ?_
  exact Std.lt_of_le_of_ne (of_decide_eq_true le) ne

theorem take_in_ordered {entry : String × Toml.Value} (keyed : entry.2.Keyed)
    (ordered : settings.Ordered) (taken : settings.takeIn? entry = some next) : next.Ordered := by
  unfold Settings.takeIn? at taken
  split at taken
  · cases taken
    exact ordered
  · cases taken
    exact ordered
  · simp only [Option.bind_eq_bind, Option.bind_eq_some_iff, Option.some.injEq] at taken
    obtain ⟨bound, read, rfl⟩ := taken
    exact read_ordered keyed read
  · cases taken

theorem taken_ordered (keyed : ∀ entry ∈ entries, entry.2.Keyed) (ordered : settings.Ordered)
    (folded : entries.foldlM Settings.takeIn? settings = some next) : next.Ordered := by
  induction entries generalizing settings with
  | nil =>
    cases folded
    exact ordered
  | cons entry entries ih =>
    rw [List.foldlM_cons, Option.bind_eq_bind, Option.bind_eq_some_iff] at folded
    obtain ⟨middle, first, later⟩ := folded
    have here := take_in_ordered (keyed entry (.head _)) ordered first
    exact ih (fun other member => keyed other (.tail _ member)) here later

/-- The settings in a file are ordered. -/
theorem parse_ordered {text : String} (parsed : Settings.parse text = .ok settings) :
    settings.Ordered := by
  obtain ⟨entries, read, taken⟩ := bind_eq_ok_iff.1 parsed
  have keyed := Toml.entries_keyed_iff.1 (Toml.keyed_of_read (map_error_eq_ok_iff.1 read))
  have nothing : Settings.Ordered {} := .nil
  split at taken
  · rename_i folded
    cases taken
    exact taken_ordered keyed.2 nothing folded
  · cases taken

theorem discover_ordered {files : Files} {asked : Option String}
    (found : discover files asked = .ok settings) : settings.Ordered := by
  have loaded {path : String} (load : LoadedFrom files path settings) : settings.Ordered := by
    obtain ⟨text, written, -, parsed, -, -, same⟩ := load
    have ordered := parse_ordered parsed
    rwa [Settings.Ordered, same]
  cases discover_eq_ok_iff.1 found with
  | asked load => exact loaded load
  | default _ _ load => exact loaded load
  | without _ => exact .nil

end

inductive Setting.Becomes : Setting → Template.Value → Prop
  | bool (content : Bool) : Setting.Becomes (.bool content) (.bool content)
  | integer (content : Int) : Setting.Becomes (.integer content) (.integer content)
  | float (content : Float) : Setting.Becomes (.float content) (.float content)
  | string (content : String) : Setting.Becomes (.string content) (.string content)
  | markup {content : String} {nodes : Forest} (read : Forest.read content = .ok nodes) :
      Setting.Becomes (.markup content) (.nodes nodes)

def markupProblem (name : String) (malformed : Malformed) : Problem :=
  ⟨["Invalid markup in binding '" ++ name ++ "'"],
    .failure (.malformed (markupSource name) malformed.line malformed.fault.message)⟩

section
variable {settings : Settings} {setting : Setting} {name : String} {value : Template.Value}
  {problem : Problem} {bindings : Template.Bindings}

theorem value_eq_ok_iff : setting.value name = .ok value ↔ setting.Becomes value := by
  cases setting with
  | markup content =>
    rw [Setting.value, SourceId.readFragment]
    cases read : Forest.read content with
    | ok nodes =>
      constructor
      · intro same
        cases same
        exact .markup read
      · rintro (_ | _ | _ | _ | @⟨_, others, again⟩)
        rw [read] at again
        cases again
        rfl
    | error malformed =>
      constructor
      · intro failed
        cases failed
      · rintro (_ | _ | _ | _ | @⟨_, others, again⟩)
        rw [read] at again
        cases again
  | bool content | integer content | float content | string content =>
    constructor
    · intro same
      cases same
      constructor
    · intro becomes
      cases becomes
      rfl

theorem value_eq_error_iff : setting.value name = .error problem ↔
    ∃ content malformed, setting = .markup content ∧ Forest.read content = .error malformed ∧
      problem = markupProblem name malformed := by
  cases setting with
  | markup content =>
    rw [Setting.value, SourceId.readFragment]
    cases read : Forest.read content with
    | ok nodes =>
      constructor
      · intro failed
        cases failed
      · rintro ⟨_, malformed, ⟨⟩, again, -⟩
        rw [read] at again
        cases again
    | error malformed =>
      constructor
      · intro failed
        cases failed
        exact ⟨content, malformed, rfl, read, rfl⟩
      · rintro ⟨_, other, ⟨⟩, again, rfl⟩
        rw [read] at again
        cases again
        rfl
  | bool content | integer content | float content | string content =>
    constructor
    · intro failed
      cases failed
    · rintro ⟨_, _, ⟨⟩, -⟩

def Stored (entry : String × Setting) (pair : String × Template.Value) : Prop :=
  pair.1 = entry.1 ∧ entry.2.Becomes pair.2

def store (entry : String × Setting) : Except Problem (String × Template.Value) := do
  return (entry.1, ← entry.2.value entry.1)

theorem to_bindings_eq (settings : Settings) :
    settings.toBindings = (settings.bindings.mapM store).map .ofList := by
  change (settings.bindings.mapM store >>= fun pairs => pure (Template.Bindings.ofList pairs)) = _
  cases settings.bindings.mapM store <;> rfl

theorem store_eq_ok_iff {entry : String × Setting} {pair : String × Template.Value} :
    store entry = .ok pair ↔ Stored entry pair := by
  rw [store, bind_eq_ok_iff]
  constructor
  · rintro ⟨value, given, ⟨⟩⟩
    exact ⟨rfl, value_eq_ok_iff.1 given⟩
  · obtain ⟨name, value⟩ := pair
    rintro ⟨rfl, becomes⟩
    exact ⟨value, value_eq_ok_iff.2 becomes, rfl⟩

theorem to_bindings_eq_ok_iff : settings.toBindings = .ok bindings ↔
    ∃ pairs, List.Forall₂ Stored settings.bindings pairs ∧ bindings = .ofList pairs := by
  rw [to_bindings_eq, map_eq_ok_iff]
  refine exists_congr fun pairs => and_congr ?_ eq_comm
  rw [map_m_eq_ok_iff]
  exact ⟨fun made => made.imp fun _ _ => store_eq_ok_iff.1,
    fun stored => stored.imp fun _ _ => store_eq_ok_iff.2⟩

/-- A markup entry that cannot be read although all entries with smaller names can. -/
def Settings.FirstUnreadable (settings : Settings) (name : String) (malformed : Malformed) : Prop :=
  (∃ content, (name, .markup content) ∈ settings.bindings ∧
      Forest.read content = .error malformed) ∧
    ∀ earlier content, (earlier, .markup content) ∈ settings.bindings → earlier < name →
      ∃ nodes, Forest.read content = .ok nodes

theorem first_unreadable_of_error (ordered : settings.Ordered)
    (failed : settings.toBindings = .error problem) :
    ∃ name malformed, settings.FirstUnreadable name malformed ∧
      problem = markupProblem name malformed := by
  have stopped : settings.bindings.mapM store = .error problem := by
    rw [to_bindings_eq] at failed
    cases made : settings.bindings.mapM store with
    | ok pairs => simp [made, Except.map] at failed
    | error other => simpa [made, Except.map] using failed
  obtain ⟨front, ⟨name, setting⟩, back, split, earlier, failing⟩ := map_m_eq_error_iff.1 stopped
  have at_value : setting.value name = .error problem := by
    cases given : setting.value name with
    | ok value => simp [store, given, bind, Except.bind, pure, Except.pure] at failing
    | error other => simpa [store, given, bind, Except.bind] using failing
  obtain ⟨content, malformed, rfl, unread, rfl⟩ := value_eq_error_iff.1 at_value
  refine ⟨name, malformed, ⟨⟨content, by simp [split], unread⟩, ?_⟩, rfl⟩
  intro other markup member before
  unfold Settings.Ordered at ordered
  rw [split] at member ordered
  obtain ⟨-, from_here, apart⟩ := List.pairwise_append.1 ordered
  rcases List.mem_append.1 member with among | among
  · obtain ⟨⟨_, value⟩, fine⟩ := earlier _ among
    obtain ⟨-, becomes⟩ := store_eq_ok_iff.1 fine
    cases becomes with
    | markup read => exact ⟨_, read⟩
  · -- Names only grow from the failing entry on.
    rcases List.mem_cons.1 among with same | later
    · cases same
      exact absurd before (String.lt_irrefl name)
    · have behind := (List.pairwise_cons.1 from_here).1 _ later
      exact absurd (String.lt_trans before behind) (String.lt_irrefl other)

theorem mem_of_stored {entries : List (String × Setting)} {pairs : List (String × Template.Value)}
    (stored : List.Forall₂ Stored entries pairs) (member : (name, setting) ∈ entries) :
    ∃ value, setting.Becomes value ∧ (name, value) ∈ pairs := by
  induction stored with
  | nil => cases member
  | @cons entry pair entries pairs first _ ih =>
    rcases List.mem_cons.1 member with rfl | later
    · obtain ⟨_, value⟩ := pair
      obtain ⟨rfl, becomes⟩ := first
      exact ⟨value, becomes, .head _⟩
    · obtain ⟨value, becomes, among⟩ := ih later
      exact ⟨value, becomes, .tail _ among⟩

theorem names_of_stored {entries : List (String × Setting)}
    {pairs : List (String × Template.Value)} (stored : List.Forall₂ Stored entries pairs) :
    pairs.map (·.1) = entries.map (·.1) := by
  induction stored with
  | nil => rfl
  | cons first _ ih => rw [List.map_cons, List.map_cons, ih, first.1]

/-- The settings give each of their variables its value and bind nothing else. -/
theorem get_of_to_bindings (ordered : settings.Ordered)
    (made : settings.toBindings = .ok bindings) :
    (∀ name, (bindings.get? name).isSome = true ↔ name ∈ settings.bindings.map (·.1)) ∧
      ∀ name setting, (name, setting) ∈ settings.bindings →
        ∃ value, setting.Becomes value ∧ bindings.get? name = some value := by
  obtain ⟨pairs, stored, rfl⟩ := to_bindings_eq_ok_iff.1 made
  have found (name : String) :
      (Template.Bindings.ofList pairs).get? name = pairs.reverse.lookup name := by
    rw [Template.Bindings.ofList, Template.Bindings.get_insert_all]
    exact Option.or_none
  have names := names_of_stored stored
  constructor
  · intro name
    rw [found, List.lookup_isSome_iff, ← names, List.mem_map]
    constructor
    · rintro ⟨pair, member, same⟩
      exact ⟨pair, List.mem_reverse.1 member, (beq_iff_eq.1 same).symm⟩
    · rintro ⟨pair, member, rfl⟩
      exact ⟨pair, List.mem_reverse.2 member, beq_self_eq_true pair.1⟩
  · intro name setting member
    obtain ⟨value, becomes, among⟩ := mem_of_stored stored member
    refine ⟨value, becomes, ?_⟩
    have distinct : (pairs.map (·.1)).Nodup := by
      rw [names]
      exact List.pairwise_map.2 (ordered.imp fun before => Std.ne_of_lt before)
    have some_value : (pairs.reverse.lookup name).isSome = true :=
      List.lookup_isSome_iff.2 ⟨_, List.mem_reverse.2 among, beq_self_eq_true name⟩
    obtain ⟨other, got⟩ := Option.isSome_iff_exists.1 some_value
    have also := List.mem_reverse.1 (mem_of_lookup got)
    rw [found, got]
    exact congrArg (some ·.2) (List.inj_on_of_nodup_map distinct also among rfl)

end

end Config

end XmlTemplate
