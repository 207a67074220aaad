import Mathlib.Data.List.Nodup
import XmlTemplate.Config.Toml
import XmlTemplate.Proofs.Markup.References
import XmlTemplate.Source.Library

/-!
No table of a settings file has a key twice, at whatever depth: a key is added only where it is
missing, and a table that is there already is changed in its place. Every way in which lines and
braces add to a table goes through one function, so that this has to be shown for the change at the
end of a path alone.
-/

namespace XmlTemplate.Toml

mutual
def Value.Keyed : Value → Prop
  | .array items => ItemsKeyed items
  | .table _ entries => EntriesKeyed entries
  | .series tables => TablesKeyed tables
  | _ => True

def ItemsKeyed : List Value → Prop
  | [] => True
  | item :: rest => item.Keyed ∧ ItemsKeyed rest

def EntriesKeyed : List (String × Value) → Prop
  | [] => True
  | (key, value) :: rest =>
      key ∉ rest.map (·.1) ∧ value.Keyed ∧ EntriesKeyed rest

def TablesKeyed : List (List (String × Value)) → Prop
  | [] => True
  | entries :: rest => EntriesKeyed entries ∧ TablesKeyed rest
end

section
variable {entries changed : Entries} {key : String} {value : Value} {form : TableForm}
  {path : List String}

theorem entries_keyed_iff : EntriesKeyed entries ↔
    (entries.map (·.1)).Nodup ∧ ∀ entry ∈ entries, entry.2.Keyed := by
  induction entries with
  | nil => simp [EntriesKeyed]
  | cons entry rest ih =>
    rw [EntriesKeyed, ih, List.map_cons, List.nodup_cons, List.forall_mem_cons]
    constructor
    · exact fun ⟨fresh, keyed, distinct, later⟩ => ⟨⟨fresh, distinct⟩, keyed, later⟩
    · exact fun ⟨⟨fresh, distinct⟩, keyed, later⟩ => ⟨fresh, keyed, distinct, later⟩

theorem tables_keyed_iff {tables : List Entries} :
    TablesKeyed tables ↔ ∀ entries ∈ tables, EntriesKeyed entries := by
  induction tables with
  | nil => simp [TablesKeyed]
  | cons entries rest ih => rw [TablesKeyed, ih, List.forall_mem_cons]

theorem keyed_of_lookup (keyed : EntriesKeyed entries) (found : entries.lookup key = some value) :
    value.Keyed :=
  (entries_keyed_iff.1 keyed).2 _ (mem_of_lookup found)

theorem add_keyed (keyed : EntriesKeyed entries) (fresh : entries.lookup key = none)
    (value_keyed : value.Keyed) : EntriesKeyed (entries ++ [(key, value)]) := by
  rw [entries_keyed_iff] at keyed ⊢
  obtain ⟨distinct, inside⟩ := keyed
  have absent : key ∉ entries.map (·.1) := by
    rintro member
    obtain ⟨entry, among, rfl⟩ := List.mem_map.1 member
    simpa using List.lookup_eq_none_iff.1 fresh entry among
  refine ⟨?_, fun entry member => ?_⟩
  · rw [List.map_append, List.map_singleton, ← List.concat_eq_append]
    exact distinct.concat absent
  · rcases List.mem_append.1 member with before | last
    · exact inside entry before
    · rw [List.mem_singleton] at last
      exact last ▸ value_keyed

theorem replace_keyed (keyed : EntriesKeyed entries) (value_keyed : value.Keyed) :
    EntriesKeyed (replace entries key value) := by
  rw [entries_keyed_iff] at keyed ⊢
  obtain ⟨distinct, inside⟩ := keyed
  have keys : (replace entries key value).map (·.1) = entries.map (·.1) := by
    rw [replace, List.map_map]
    refine List.map_congr_left fun entry _ => ?_
    by_cases same : entry.1 = key
    · simp [same]
    · simp [same]
  refine ⟨keys ▸ distinct, fun entry member => ?_⟩
  obtain ⟨before, among, rfl⟩ := List.mem_map.1 member
  split
  · exact value_keyed
  · exact inside before among

/-- A change at the end of a path keeps the keys different if it does so on the table there. -/
theorem modify_at_keyed {dotted : Bool} {change : TableForm → Entries → Option Entries}
    (keeps : ∀ {form before after}, EntriesKeyed before → change form before = some after →
      EntriesKeyed after)
    (keyed : EntriesKeyed entries)
    (done : modifyAt dotted change path form entries = some changed) :
    EntriesKeyed changed := by
  induction path generalizing form entries changed with
  | nil => exact keeps keyed done
  | cons key path ih =>
    rw [modifyAt] at done
    split at done
    · rename_i fresh
      simp only [Option.bind_eq_bind, Option.bind_eq_some_iff, Option.some.injEq] at done
      obtain ⟨inner, made, rfl⟩ := done
      have empty : EntriesKeyed [] := trivial
      exact add_keyed keyed fresh (ih empty made)
    · rename_i found
      split at done
      · cases done
      · simp only [Option.bind_eq_bind, Option.bind_eq_some_iff, Option.some.injEq] at done
        obtain ⟨inner, made, rfl⟩ := done
        exact replace_keyed keyed (ih (keyed_of_lookup keyed found) made)
    · rename_i tables found
      simp only [Option.bind_eq_bind, Option.bind_eq_some_iff, Option.some.injEq] at done
      obtain ⟨last, ends, inner, made, rfl⟩ := done
      have all := tables_keyed_iff.1 (keyed_of_lookup keyed found)
      refine replace_keyed keyed (tables_keyed_iff.2 fun table member => ?_)
      rcases List.mem_append.1 member with before | final
      · exact all table (List.dropLast_subset tables before)
      · rw [List.mem_singleton] at final
        exact final ▸ ih (all last (List.mem_of_getLast? ends)) made
    · cases done

theorem insert_keyed (keyed : EntriesKeyed entries) (value_keyed : value.Keyed)
    (done : insert path value form entries = some changed) : EntriesKeyed changed := by
  simp only [insert, Option.bind_eq_bind, Option.bind_eq_some_iff] at done
  obtain ⟨last, -, done⟩ := done
  refine modify_at_keyed (fun {form before after} keyed_before added => ?_) keyed done
  split at added
  · cases added
  · split at added
    · cases added
    · rename_i fresh
      cases added
      exact add_keyed keyed_before (Option.not_isSome_iff_eq_none.1 fresh) value_keyed

theorem open_table_keyed (keyed : EntriesKeyed entries)
    (done : openTable path entries = some changed) : EntriesKeyed changed := by
  simp only [openTable, Option.bind_eq_bind, Option.bind_eq_some_iff] at done
  obtain ⟨last, -, done⟩ := done
  refine modify_at_keyed (fun {form before after} keyed_before added => ?_) keyed done
  split at added
  · rename_i fresh
    cases added
    exact add_keyed keyed_before fresh trivial
  · rename_i inner found
    cases added
    have inside : EntriesKeyed inner := keyed_of_lookup keyed_before found
    exact replace_keyed keyed_before inside
  · cases added

theorem open_series_keyed (keyed : EntriesKeyed entries)
    (done : openSeries path entries = some changed) : EntriesKeyed changed := by
  simp only [openSeries, Option.bind_eq_bind, Option.bind_eq_some_iff] at done
  obtain ⟨last, -, done⟩ := done
  refine modify_at_keyed (fun {form before after} keyed_before added => ?_) keyed done
  split at added
  · rename_i fresh
    cases added
    exact add_keyed keyed_before fresh ⟨trivial, trivial⟩
  · rename_i tables found
    cases added
    have all := tables_keyed_iff.1 (keyed_of_lookup keyed_before found)
    refine replace_keyed keyed_before (tables_keyed_iff.2 fun table member => ?_)
    rcases List.mem_append.1 member with before | final
    · exact all table before
    · rw [List.mem_singleton] at final
      exact final ▸ trivial
  · cases added

end

theorem plain_value_keyed {text : List Char} {value : Value}
    (read : plainValue? text = some value) : value.Keyed := by
  unfold plainValue? at read
  repeat' split at read
  all_goals cases read <;> trivial

section
variable {fuel depth : Nat} {text rest : List Char} {value : Value} {items : List Value}
  {entries found : Entries}

/-- Values are keyed if the items and the pairs in them are. -/
theorem value_keyed
    (inner_items : ∀ {depth text items rest}, items? fuel depth text = some (items, rest) →
      ItemsKeyed items)
    (inner_pairs : ∀ {depth entries text found rest}, EntriesKeyed entries →
      pairs? fuel depth entries text = some (found, rest) → EntriesKeyed found)
    (read : value? (fuel + 1) depth text = some (value, rest)) : value.Keyed := by
  unfold value? at read
  split at read
  · cases read
  · simp only [Option.bind_eq_bind, Option.bind_eq_some_iff, Option.some.injEq] at read
    obtain ⟨⟨items, after⟩, inside, same⟩ := read
    cases same
    exact inner_items inside
  · cases read
  · simp only [Option.bind_eq_bind, Option.bind_eq_some_iff, Option.some.injEq] at read
    obtain ⟨⟨entries, after⟩, inside, same⟩ := read
    cases same
    have empty : EntriesKeyed [] := trivial
    exact inner_pairs empty inside
  · split at read
    · obtain ⟨⟨content, after⟩, -, same⟩ := Option.map_eq_some_iff.1 read
      cases same
      trivial
    · obtain ⟨plain, inside, same⟩ := Option.map_eq_some_iff.1 read
      cases same
      exact plain_value_keyed inside
  · cases read

theorem items_keyed
    (inner_values : ∀ {depth text value rest}, value? fuel depth text = some (value, rest) →
      value.Keyed)
    (inner_items : ∀ {depth text items rest}, items? fuel depth text = some (items, rest) →
      ItemsKeyed items)
    (read : items? (fuel + 1) depth text = some (items, rest)) : ItemsKeyed items := by
  rw [items?] at read
  simp only [Option.bind_eq_bind, Option.bind_eq_some_iff] at read
  obtain ⟨begun, -, read⟩ := read
  split at read
  · cases read
    trivial
  · simp only [Option.bind_eq_some_iff] at read
    obtain ⟨⟨item, behind⟩, first, next, -, read⟩ := read
    have keyed := inner_values first
    dsimp only at read
    split at read
    · cases read
      exact ⟨keyed, trivial⟩
    · simp only [Option.bind_eq_some_iff] at read
      obtain ⟨⟨others, after⟩, later, same⟩ := read
      cases same
      exact ⟨keyed, inner_items later⟩
    · cases read

theorem pairs_keyed
    (inner_values : ∀ {depth text value rest}, value? fuel depth text = some (value, rest) →
      value.Keyed)
    (inner_pairs : ∀ {depth entries text found rest}, EntriesKeyed entries →
      pairs? fuel depth entries text = some (found, rest) → EntriesKeyed found)
    (keyed : EntriesKeyed entries)
    (read : pairs? (fuel + 1) depth entries text = some (found, rest)) : EntriesKeyed found := by
  rw [pairs?] at read
  simp only [Option.bind_eq_bind, Option.bind_eq_some_iff] at read
  obtain ⟨begun, -, read⟩ := read
  split at read
  · cases read
    exact keyed
  · simp only [Option.bind_eq_some_iff] at read
    obtain ⟨⟨path, named⟩, -, equals, -, read⟩ := read
    dsimp only at read
    split at read
    · simp only [Option.bind_eq_some_iff] at read
      obtain ⟨begun, -, ⟨value, behind⟩, first, extended, inserted, next, -, read⟩ := read
      have longer := insert_keyed keyed (inner_values first) inserted
      split at read
      · cases read
        exact longer
      · exact inner_pairs longer read
      · cases read
    · cases read

/-- Whatever is read of a value is keyed, by induction on how much may be read. -/
theorem read_keyed (fuel : Nat) :
    (∀ {depth text value rest}, value? fuel depth text = some (value, rest) → value.Keyed) ∧
      (∀ {depth text items rest}, items? fuel depth text = some (items, rest) →
        ItemsKeyed items) ∧
      ∀ {depth entries text found rest}, EntriesKeyed entries →
        pairs? fuel depth entries text = some (found, rest) → EntriesKeyed found := by
  induction fuel with
  | zero =>
    refine ⟨fun read => ?_, fun read => ?_, fun _ read => ?_⟩
    · rw [value?] at read
      cases read
    · rw [items?] at read
      cases read
    · rw [pairs?] at read
      cases read
  | succ fuel ih =>
    obtain ⟨values, items, pairs⟩ := ih
    exact ⟨value_keyed items pairs, items_keyed values items, pairs_keyed values pairs⟩

end

section
variable {progress next : Progress} {text rest : List Char}

theorem header_keyed (keyed : EntriesKeyed progress.entries)
    (read : header? progress text = some (next, rest)) : EntriesKeyed next.entries := by
  unfold header? at read
  split at read
  · simp only [Option.bind_eq_bind, Option.bind_eq_some_iff] at read
    obtain ⟨⟨path, closing⟩, -, read⟩ := read
    dsimp only at read
    split at read
    · simp only [Option.bind_eq_some_iff, Option.some.injEq] at read
      obtain ⟨opened, made, after, -, same⟩ := read
      cases same
      exact open_series_keyed keyed made
    · cases read
  · simp only [Option.bind_eq_bind, Option.bind_eq_some_iff] at read
    obtain ⟨⟨path, closing⟩, -, read⟩ := read
    dsimp only at read
    split at read
    · simp only [Option.bind_eq_some_iff, Option.some.injEq] at read
      obtain ⟨opened, made, after, -, same⟩ := read
      cases same
      exact open_table_keyed keyed made
    · cases read

theorem pair_keyed (keyed : EntriesKeyed progress.entries)
    (read : pair? progress text = some (next, rest)) : EntriesKeyed next.entries := by
  simp only [pair?, Option.bind_eq_bind, Option.bind_eq_some_iff] at read
  obtain ⟨⟨path, equals⟩, -, read⟩ := read
  dsimp only at read
  split at read
  · simp only [Option.bind_eq_some_iff, Option.some.injEq] at read
    obtain ⟨⟨value, behind⟩, first, entries, added, after, -, same⟩ := read
    cases same
    refine modify_at_keyed (fun {form before after} keyed_before inserted => ?_) keyed added
    exact insert_keyed keyed_before ((read_keyed _).1 first) inserted
  · cases read

/-- One line keeps the keys different. -/
theorem line_keyed (keyed : EntriesKeyed progress.entries)
    (read : line? progress text = some (next, rest)) : EntriesKeyed next.entries := by
  unfold line? at read
  split at read
  · exact header_keyed keyed read
  · split at read
    · cases read
      exact keyed
    · exact pair_keyed keyed read

theorem lines_keyed {fuel : Nat} {entries : Entries} (keyed : EntriesKeyed progress.entries)
    (read : lines fuel progress text = .ok entries) : EntriesKeyed entries := by
  induction fuel generalizing progress text with
  | zero => cases read
  | succ fuel ih =>
    cases text with
    | nil =>
      rw [lines] at read
      cases read
      exact keyed
    | cons c text =>
      rw [lines] at read
      · split at read
        · rename_i next rest one
          exact ih (line_keyed keyed one) read
        · cases read
      · exact nofun

end

/-- No table of a settings file has a key twice. -/
theorem keyed_of_read {text : String} {entries : Entries} (found : read text = .ok entries) :
    EntriesKeyed entries := by
  have empty : EntriesKeyed (Progress.mk [] []).entries := trivial
  exact lines_keyed empty (Markup.map_error_eq_ok_iff.1 found)

end XmlTemplate.Toml
