import Mathlib.Data.Nat.Basic
import Mathlib.Order.Bounds.Basic
import Mathlib.Order.MinMax
import XmlTemplate.Text.EditDistance

/-!
The edit distance is what it is called: the least number of characters that have to be inserted,
deleted or replaced, one after another and anywhere, to turn one text into the other. The rows of
the computation are read as a recursion first. That no way of editing is shorter rests on one fact:
a single edit of the source changes the distance to any target by at most one.
-/

namespace XmlTemplate.Text

/-- One character is deleted, inserted or replaced. -/
inductive Edited : List Char → List Char → Prop
  | delete (front : List Char) (c : Char) (back : List Char) :
      Edited (front ++ c :: back) (front ++ back)
  | insert (front : List Char) (c : Char) (back : List Char) :
      Edited (front ++ back) (front ++ c :: back)
  | replace (front : List Char) (c d : Char) (back : List Char) :
      Edited (front ++ c :: back) (front ++ d :: back)

inductive EditedBy : Nat → List Char → List Char → Prop
  | done (text : List Char) : EditedBy 0 text text
  | edit {count : Nat} {source middle target : List Char} (first : Edited source middle)
      (later : EditedBy count middle target) : EditedBy (count + 1) source target

/-- So many single edits are needed to turn one text into the other. -/
def Distant (source target : String) (count : Nat) : Prop :=
  IsLeast {enough | EditedBy enough source.toList target.toList} count

section
variable {source middle target : List Char} {c d : Char} {count : Nat}

theorem Edited.cons (c : Char) (edited : Edited source target) :
    Edited (c :: source) (c :: target) := by
  cases edited with
  | delete front d back => exact .delete (c :: front) d back
  | insert front d back => exact .insert (c :: front) d back
  | replace front d e back => exact .replace (c :: front) d e back

theorem EditedBy.cons (c : Char) (edited : EditedBy count source target) :
    EditedBy count (c :: source) (c :: target) := by
  induction edited with
  | done text => exact .done (c :: text)
  | edit first _ ih => exact .edit (first.cons c) ih

def distance (source target : List Char) : Nat := (distanceRow source target).headD 0

/-- A row for a longer target begins with one more distance and goes on as before. -/
theorem distance_row_cons (source : List Char) (d : Char) (target : List Char) :
    distanceRow source (d :: target) =
      distance source (d :: target) :: distanceRow source target := by
  have shape : ∃ first, distanceRow source (d :: target) = first :: distanceRow source target := by
    induction source with
    | nil =>
      refine ⟨target.length + 1, ?_⟩
      rw [distanceRow, distanceRow, List.length_cons, List.range_succ, List.reverse_append]
      rfl
    | cons c source ih =>
      obtain ⟨first, row⟩ := ih
      rw [distanceRow, row, extendRow]
      exact ⟨_, rfl⟩
  obtain ⟨first, row⟩ := shape
  rw [distance, row]
  rfl

theorem distance_nil_left (target : List Char) : distance [] target = target.length := by
  rw [distance, distanceRow, List.range_succ, List.reverse_append]
  rfl

theorem distance_nil_right (source : List Char) : distance source [] = source.length := by
  have row : distanceRow source [] = [source.length] := by
    induction source with
    | nil => rfl
    | cons c source ih =>
      rw [distanceRow, ih]
      rfl
  rw [distance, row]
  rfl

theorem distance_cons_same (c : Char) (source target : List Char) :
    distance (c :: source) (c :: target) = distance source target := by
  rw [distance, distanceRow, distance_row_cons, extendRow, if_pos rfl]
  rfl

theorem distance_cons_of_ne (different : c ≠ d) (source target : List Char) :
    distance (c :: source) (d :: target) =
      1 + min (distance source target)
        (min (distance source (d :: target)) (distance (c :: source) target)) := by
  rw [distance, distanceRow, distance_row_cons, extendRow, if_neg different]
  rfl

theorem distance_comm (source target : List Char) :
    distance source target = distance target source := by
  induction source generalizing target with
  | nil => rw [distance_nil_left, distance_nil_right]
  | cons c source outer =>
    induction target with
    | nil => rw [distance_nil_left, distance_nil_right]
    | cons d target inner =>
      by_cases same : c = d
      · rw [same, distance_cons_same, distance_cons_same, outer]
      · rw [distance_cons_of_ne same, distance_cons_of_ne (Ne.symm same), outer target,
          outer (d :: target), inner, Nat.min_comm (distance (d :: target) source)]

/-- Without the first character of the target the distance grows by one at most, provided that it
does so with one more character in front of the source. -/
theorem distance_tail_le
    (longer : ∀ c source, distance (c :: source) target ≤ distance source target + 1)
    (d : Char) (source : List Char) :
    distance source target ≤ distance source (d :: target) + 1 := by
  induction source with
  | nil =>
    rw [distance_nil_left, distance_nil_left, List.length_cons]
    omega
  | cons c source ih =>
    have here := longer c source
    by_cases same : c = d
    · rw [same, distance_cons_same]
      exact longer d source
    · rw [distance_cons_of_ne same]
      omega

theorem distance_cons_le (c : Char) (source target : List Char) :
    distance (c :: source) target ≤ distance source target + 1 := by
  induction target generalizing c source with
  | nil =>
    rw [distance_nil_right, distance_nil_right]
    exact Nat.le_refl (source.length + 1)
  | cons d target ih =>
    by_cases same : c = d
    · rw [same, distance_cons_same]
      exact distance_tail_le ih d source
    · rw [distance_cons_of_ne same]
      omega

theorem distance_le_cons (c : Char) (source target : List Char) :
    distance source target ≤ distance (c :: source) target + 1 := by
  rw [distance_comm source, distance_comm (c :: source)]
  exact distance_tail_le (fun d text => distance_cons_le d text source) c target

theorem distance_replace_le (c d : Char) (source target : List Char) :
    distance (c :: source) target ≤ distance (d :: source) target + 1 := by
  induction target with
  | nil =>
    rw [distance_nil_right, distance_nil_right]
    exact Nat.le_succ (source.length + 1)
  | cons e target ih =>
    have shorter := distance_tail_le (fun c text => distance_cons_le c text target) e source
    have without := distance_le_cons d source target
    by_cases same : c = e
    · by_cases also : d = e
      · rw [same, also]
        omega
      · rw [same, distance_cons_same, distance_cons_of_ne also]
        omega
    · by_cases also : d = e
      · rw [distance_cons_of_ne same, also, distance_cons_same]
        omega
      · rw [distance_cons_of_ne same, distance_cons_of_ne also]
        omega

/-- If the distances of two sources are apart by one at most, to whatever target, so they are with
the same character in front. -/
theorem distance_cons_congr
    (near : ∀ target, distance source target ≤ distance middle target + 1) (c : Char)
    (target : List Char) :
    distance (c :: source) target ≤ distance (c :: middle) target + 1 := by
  induction target with
  | nil =>
    have ends := near []
    rw [distance_nil_right, distance_nil_right] at ends ⊢
    simpa using ends
  | cons d target ih =>
    by_cases same : c = d
    · rw [same, distance_cons_same, distance_cons_same]
      exact near target
    · have here := near target
      have whole := near (d :: target)
      rw [distance_cons_of_ne same, distance_cons_of_ne same]
      omega

theorem distance_append_congr
    (near : ∀ target, distance source target ≤ distance middle target + 1) (front : List Char)
    (target : List Char) :
    distance (front ++ source) target ≤ distance (front ++ middle) target + 1 := by
  induction front generalizing target with
  | nil => exact near target
  | cons c front ih => exact distance_cons_congr ih c target

theorem distance_le_of_edited (edited : Edited source middle) (target : List Char) :
    distance source target ≤ distance middle target + 1 := by
  cases edited with
  | delete front c back => exact distance_append_congr (distance_cons_le c back) front target
  | insert front c back => exact distance_append_congr (distance_le_cons c back) front target
  | replace front c d back =>
    exact distance_append_congr (distance_replace_le c d back) front target

theorem distance_self (text : List Char) : distance text text = 0 := by
  induction text with
  | nil => rfl
  | cons c text ih => rw [distance_cons_same, ih]

/-- No way of editing is shorter than the distance. -/
theorem distance_le_of_edited_by (edited : EditedBy count source target) :
    distance source target ≤ count := by
  induction edited with
  | done text => exact (distance_self text).le
  | @edit count source middle target first _ ih =>
    calc distance source target ≤ distance middle target + 1 := distance_le_of_edited first target
      _ ≤ count + 1 := Nat.add_le_add_right ih 1

theorem edited_by_nil_left (target : List Char) : EditedBy target.length [] target := by
  induction target with
  | nil => exact .done []
  | cons c target ih => exact .edit (.insert [] c []) (ih.cons c)

theorem edited_by_nil_right (source : List Char) : EditedBy source.length source [] := by
  induction source with
  | nil => exact .done []
  | cons c source ih => exact .edit (.delete [] c source) ih

/-- So many edits as the distance says are enough. -/
theorem edited_by_distance (source target : List Char) :
    EditedBy (distance source target) source target := by
  induction source generalizing target with
  | nil =>
    rw [distance_nil_left]
    exact edited_by_nil_left target
  | cons c source outer =>
    induction target with
    | nil =>
      rw [distance_nil_right]
      exact edited_by_nil_right (c :: source)
    | cons d target inner =>
      by_cases same : c = d
      · rw [same, distance_cons_same]
        exact (outer target).cons d
      · rw [distance_cons_of_ne same, Nat.add_comm]
        rcases min_choice (distance source target)
          (min (distance source (d :: target)) (distance (c :: source) target)) with least | least
        · rw [least]
          exact .edit (.replace [] c d source) ((outer target).cons d)
        · rw [least]
          rcases min_choice (distance source (d :: target)) (distance (c :: source) target)
            with least | least
          · rw [least]
            exact .edit (.delete [] c source) (outer (d :: target))
          · rw [least]
            exact .edit (.insert [] d (c :: source)) (inner.cons d)

end

/-- The edit distance is the number of single edits that are needed. -/
theorem distant_iff {source target : String} {count : Nat} :
    Distant source target count ↔ editDistance source target = count := by
  have least : Distant source target (editDistance source target) :=
    ⟨edited_by_distance source.toList target.toList,
      fun _ edited => distance_le_of_edited_by edited⟩
  exact ⟨fun needed => least.unique needed, fun same => same ▸ least⟩

end XmlTemplate.Text
