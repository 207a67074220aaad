import XmlTemplate.Template.Value

/-!
Variables with their values, in the order of their names. An expansion reads them and never changes
them.
-/

namespace XmlTemplate.Template

/-- Pairs of names and values, sorted by name, so that no name occurs twice. -/
structure Bindings where
  entries : List (String × Value)
  sorted : entries.Pairwise (fun one other => one.1 < other.1)

namespace Bindings

def empty : Bindings := ⟨[], .nil⟩

def insertSorted (name : String) (value : Value) :
    List (String × Value) → List (String × Value)
  | [] => [(name, value)]
  | entry :: rest =>
      if name < entry.1 then (name, value) :: entry :: rest
      else if name = entry.1 then (name, value) :: rest
      else entry :: insertSorted name value rest

theorem mem_insert_sorted {name : String} {value : Value} {entries : List (String × Value)}
    {entry : String × Value} (h : entry ∈ insertSorted name value entries) :
    entry = (name, value) ∨ entry ∈ entries := by
  induction entries with
  | nil => simpa [insertSorted] using h
  | cons first rest ih =>
    unfold insertSorted at h
    split at h
    · simpa using h
    · split at h
      · rcases List.mem_cons.1 h with h | h
        · exact .inl h
        · exact .inr (.tail _ h)
      · rcases List.mem_cons.1 h with h | h
        · exact .inr (h ▸ .head _)
        · exact (ih h).imp id (.tail _)

theorem sorted_insert_sorted (name : String) (value : Value) {entries : List (String × Value)}
    (sorted : entries.Pairwise (fun one other => one.1 < other.1)) :
    (insertSorted name value entries).Pairwise (fun one other => one.1 < other.1) := by
  induction entries with
  | nil => simp [insertSorted]
  | cons first rest ih =>
    rw [List.pairwise_cons] at sorted
    unfold insertSorted
    split
    · rename_i before
      refine List.pairwise_cons.2 ⟨fun other member => ?_, List.pairwise_cons.2 sorted⟩
      rcases List.mem_cons.1 member with rfl | member
      · exact before
      · exact String.lt_trans before (sorted.1 _ member)
    · split
      · rename_i same
        subst same
        exact List.pairwise_cons.2 sorted
      · rename_i notBefore different
        refine List.pairwise_cons.2 ⟨fun other member => ?_, ih sorted.2⟩
        rcases mem_insert_sorted member with rfl | member
        · exact Std.lt_of_le_of_ne (String.not_lt.1 notBefore) (Ne.symm different)
        · exact sorted.1 _ member

def insert (bindings : Bindings) (name : String) (value : Value) : Bindings :=
  ⟨insertSorted name value bindings.entries, sorted_insert_sorted name value bindings.sorted⟩

def get? (bindings : Bindings) (name : String) : Option Value := bindings.entries.lookup name

theorem lookup_insert_sorted_of_ne {name other : String} (value : Value)
    (different : other ≠ name) (entries : List (String × Value)) :
    (insertSorted name value entries).lookup other = entries.lookup other := by
  have unlike : (other == name) = false := beq_false_of_ne different
  induction entries with
  | nil => simp only [insertSorted, List.lookup_cons, unlike]
  | cons first rest ih =>
    unfold insertSorted
    split
    · rw [List.lookup_cons, unlike]
    · split
      · rename_i same
        subst same
        rw [List.lookup_cons, List.lookup_cons, unlike]
      · rw [List.lookup_cons, List.lookup_cons, ih]

/-- Binding a name leaves the values of all other names as they are. -/
theorem get?_insert_of_ne {bindings : Bindings} {name other : String} {value : Value}
    (different : other ≠ name) : (bindings.insert name value).get? other = bindings.get? other :=
  lookup_insert_sorted_of_ne value different bindings.entries

theorem lookup_insert_sorted_self (name : String) (value : Value)
    (entries : List (String × Value)) :
    (insertSorted name value entries).lookup name = some value := by
  induction entries with
  | nil => simp [insertSorted]
  | cons first rest ih =>
    unfold insertSorted
    split
    · exact List.lookup_cons_self
    · split
      · exact List.lookup_cons_self
      · rename_i different
        rw [List.lookup_cons, beq_false_of_ne different, ih]

theorem get?_insert (bindings : Bindings) (bound name : String) (value : Value) :
    (bindings.insert bound value).get? name =
      ([(bound, value)].lookup name).or (bindings.get? name) := by
  by_cases same : name = bound
  · subst same
    rw [List.lookup_cons_self]
    exact lookup_insert_sorted_self name value bindings.entries
  · rw [get?_insert_of_ne same, List.lookup_cons, beq_false_of_ne same]
    rfl

def contains (bindings : Bindings) (name : String) : Bool := (bindings.get? name).isSome

def size (bindings : Bindings) : Nat := bindings.entries.length

def isEmpty (bindings : Bindings) : Bool := bindings.entries.isEmpty

def names (bindings : Bindings) : List String := bindings.entries.map (·.1)

theorem mem_names_iff {bindings : Bindings} {name : String} :
    name ∈ bindings.names ↔ (bindings.get? name).isSome = true := by
  rw [get?, List.lookup_isSome_iff, names, List.mem_map]
  constructor
  · rintro ⟨entry, member, rfl⟩
    exact ⟨entry, member, beq_self_eq_true entry.1⟩
  · rintro ⟨entry, member, same⟩
    exact ⟨entry, member, (beq_iff_eq.1 same).symm⟩

/-- Binds pairs one after another; later ones win. -/
def insertAll (bindings : Bindings) (pairs : List (String × Value)) : Bindings :=
  pairs.foldl (fun bound (name, value) => bound.insert name value) bindings

theorem get_insert_all (bindings : Bindings) (pairs : List (String × Value)) (name : String) :
    (bindings.insertAll pairs).get? name = (pairs.reverse.lookup name).or (bindings.get? name) := by
  induction pairs generalizing bindings with
  | nil => rfl
  | cons pair pairs ih =>
    calc (bindings.insertAll (pair :: pairs)).get? name
        = (pairs.reverse.lookup name).or ((bindings.insert pair.1 pair.2).get? name) := ih _
      _ = ((pair :: pairs).reverse.lookup name).or (bindings.get? name) := by
        rw [get?_insert, List.reverse_cons, List.lookup_append, Option.or_assoc]

def ofList (pairs : List (String × Value)) : Bindings := empty.insertAll pairs

/-- Lays other bindings over these; the others win. -/
def extend (bindings other : Bindings) : Bindings := bindings.insertAll other.entries

end Bindings
end XmlTemplate.Template
