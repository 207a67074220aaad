import Mathlib.Data.List.Basic
import XmlTemplate.Source.Library

/-!
Sources moved into a directory. A path below a directory is written by joining the two, and its
canonical form has the names of the directory before its own. A relative path that is written in a
moved source leads to the moved target, as long as the target lies below the directory where paths
start.
-/

namespace XmlTemplate

namespace Path

structure IsName (text : String) : Prop where
  part : part? text.toList = some (.name text)
  noSlash : '/' ∉ text.toList

theorem part_name {piece : List Char} {text : String} (h : part? piece = some (.name text)) :
    text = String.ofList piece := by
  unfold part? at h
  split at h <;> simp_all

theorem is_name_of_part {path text : String} (member : .name text ∈ parts path) :
    IsName text := by
  obtain ⟨piece, between, read⟩ := List.mem_filterMap.1 member
  have spelled := part_name read
  subst spelled
  constructor
  · rw [String.toList_ofList]
    exact read
  · rw [String.toList_ofList]
    exact Text.not_mem_of_mem_pieces between

theorem parts_empty : parts "" = [] := rfl

theorem parts_text {text : String} (closed : '/' ∉ text.toList) :
    parts text = [text].filterMap fun text => part? text.toList := by
  rw [parts, Text.pieces_of_not_mem closed, List.filterMap_cons, List.filterMap_cons]
  rfl

theorem parts_slash (front back : String) :
    parts (front ++ "/" ++ back) = parts front ++ parts back := by
  have split := Text.pieces_append '/' front.toList back.toList
  simp [parts, split]

theorem parts_intercalate_texts {texts : List String} (closed : ∀ text ∈ texts, '/' ∉ text.toList) :
    parts ("/".intercalate texts) = texts.filterMap fun text => part? text.toList := by
  induction texts with
  | nil => rfl
  | cons text rest ih =>
    have here := parts_text (closed text (.head _))
    have later := ih fun other member => closed other (.tail _ member)
    cases rest with
    | nil => simpa using here
    | cons next more =>
      rw [String.intercalate_cons_of_ne_nil (by simp), parts_slash, here, later]
      exact List.filterMap_append.symm

theorem parts_intercalate {names : List String} (proper : ∀ name ∈ names, IsName name) :
    parts ("/".intercalate names) = names.map .name := by
  rw [parts_intercalate_texts fun name member => (proper name member).noSlash]
  exact List.filterMap_eq_map_iff_forall_eq_some.2 fun name member => (proper name member).part

theorem relative_intercalate_texts {texts : List String}
    (closed : ∀ text ∈ texts, text ≠ "" ∧ '/' ∉ text.toList) :
    isAbsolute ("/".intercalate texts) = false := by
  cases texts with
  | nil => rfl
  | cons text rest =>
    obtain ⟨some_text, no_slash⟩ := closed text (.head _)
    cases chars : text.toList with
    | nil => exact absurd (String.toList_eq_nil_iff.1 chars) some_text
    | cons first more =>
      have other : first ≠ '/' := by
        rintro rfl
        exact no_slash (chars ▸ .head _)
      cases rest with
      | nil => simp [isAbsolute, chars, other]
      | cons next others =>
        rw [String.intercalate_cons_of_ne_nil (by simp)]
        simp [isAbsolute, chars, other]

theorem IsName.nonempty {text : String} (name : IsName text) : text ≠ "" := by
  rintro rfl
  cases name.part

theorem relative_intercalate {names : List String} (proper : ∀ name ∈ names, IsName name) :
    isAbsolute ("/".intercalate names) = false :=
  relative_intercalate_texts fun name member =>
    ⟨(proper name member).nonempty, (proper name member).noSlash⟩

theorem ends_with_slash {base : String} (slash : base.toList.getLast? = some '/') :
    ∃ front, base = front ++ "/" := by
  obtain ⟨front, chars⟩ := List.getLast?_eq_some_iff.1 slash
  refine ⟨String.ofList front, ?_⟩
  apply String.toList_injective
  simp [chars]

theorem parts_join (base : String) {path : String} (relative : isAbsolute path = false) :
    parts (join base path) = parts base ++ parts path := by
  unfold join
  by_cases none : base.isEmpty = true
  · have empty : base = "" := by simpa using none
    simp [empty, parts_empty]
  · rw [if_neg (by simp [relative, none])]
    split
    · rename_i slash
      obtain ⟨front, rfl⟩ := ends_with_slash slash
      have alone : parts (front ++ "/") = parts front := by
        simpa [parts_empty] using parts_slash front ""
      rw [parts_slash, alone]
    · exact parts_slash base path

/-- A relative path does not change where another one starts. -/
theorem absolute_join (base : String) {path : String} (relative : isAbsolute path = false) :
    isAbsolute (join base path) = isAbsolute base := by
  unfold join
  cases chars : base.toList with
  | nil =>
    have empty : base = "" := String.toList_eq_nil_iff.1 chars
    simpa [empty, isAbsolute] using relative
  | cons first rest =>
    have some_base : base.isEmpty = false := by
      cases empty : base.isEmpty with
      | false => rfl
      | true => simp [String.isEmpty_iff.1 empty] at chars
    rw [relative, some_base, if_neg (by decide)]
    split <;> simp [isAbsolute, chars]

/-- A relative path that never leads up. -/
structure IsPlain (path : String) : Prop where
  relative : isAbsolute path = false
  noUp : .up ∉ parts path

end Path

namespace SourceId

/-- A source below the directory where relative paths start, by a path that is not empty. -/
structure IsInner (source : SourceId) : Prop where
  canonical : ∃ path, source = ofPath path
  anchor : source.anchor = .above 0
  nonempty : source.names ≠ []

theorem follow_all_append (source : SourceId) (front back : List PathPart) :
    source.followAll (front ++ back) = (source.followAll front).followAll back :=
  List.foldl_append

theorem follow_all_names (source : SourceId) (names : List String) :
    source.followAll (names.map .name) = { source with names := source.names ++ names } := by
  induction names generalizing source with
  | nil => simp [followAll]
  | cons name rest ih => 
    rw [List.map_cons, followAll, List.foldl_cons]
    exact (ih _).trans (by simp [follow])

theorem names_follow {source : SourceId} {part : PathPart} {name : String}
    (member : name ∈ (source.follow part).names) : name ∈ source.names ∨ .name name = part := by
  unfold follow at member
  split at member
  · exact .inl member
  · rcases List.mem_append.1 member with member | member
    · exact .inl member
    · rw [List.mem_singleton.1 member]
      exact .inr rfl
  · split at member
    · exact .inl member
    · exact .inl member
    · exact .inl (List.dropLast_subset _ member)

theorem names_follow_all {source : SourceId} {parts : List PathPart} {name : String}
    (member : name ∈ (source.followAll parts).names) :
    name ∈ source.names ∨ .name name ∈ parts := by
  induction parts generalizing source with
  | nil => exact .inl member
  | cons part rest ih =>
    rcases ih member with first | later
    · exact (names_follow first).imp_right fun same => List.mem_cons.2 (.inl same)
    · exact .inr (.tail _ later)

theorem names_of_path {path name : String} (member : name ∈ (ofPath path).names) :
    Path.IsName name := by
  rcases names_follow_all member with start | part
  · split at start <;> cases start
  · exact Path.is_name_of_part part

theorem anchor_follow_all {source : SourceId} {parts : List PathPart} (noUp : .up ∉ parts) :
    (source.followAll parts).anchor = source.anchor := by
  induction parts generalizing source with
  | nil => rfl
  | cons part rest ih =>
    simp only [List.mem_cons, not_or] at noUp
    rw [followAll, List.foldl_cons]
    refine (ih noUp.2).trans ?_
    cases part with
    | here => rfl
    | up => exact absurd rfl noUp.1
    | name text => rfl

theorem of_path_relative {path : String} (relative : Path.isAbsolute path = false) :
    ofPath path = current.followAll (Path.parts path) := by
  unfold ofPath
  rw [relative]
  rfl

theorem inner_of_path {path : String} (anchor : (ofPath path).anchor = .above 0)
    (nonempty : (ofPath path).names ≠ []) : (ofPath path).IsInner :=
  ⟨⟨path, rfl⟩, anchor, nonempty⟩

theorem IsInner.path_eq {source : SourceId} (inner : source.IsInner) :
    source.path = "/".intercalate source.names := by
  unfold path
  rw [inner.anchor]
  rfl

theorem IsInner.proper {source : SourceId} (inner : source.IsInner) :
    ∀ name ∈ source.names, Path.IsName name := by
  obtain ⟨path, rfl⟩ := inner.canonical
  exact fun name member => names_of_path member

def within (directory : String) (source : SourceId) : SourceId :=
  ofPath (Path.join directory source.path)

def below (front : List String) (source : SourceId) : SourceId :=
  { source with names := front ++ source.names }

theorem follow_up_of_ne_nil {source : SourceId} (nonempty : source.names ≠ []) :
    source.follow .up = { source with names := source.names.dropLast } := by
  obtain ⟨anchor, names⟩ := source
  cases names with
  | nil => exact absurd rfl nonempty
  | cons name names => rfl

theorem directory_of_ne_nil {source : SourceId} (nonempty : source.names ≠ []) :
    source.directory = { source with names := source.names.dropLast } := by
  obtain ⟨anchor, names⟩ := source
  cases names with
  | nil => exact absurd rfl nonempty
  | cons name names => rfl

theorem follow_up_below (front : List String) {source : SourceId} (nonempty : source.names ≠ []) :
    (source.below front).follow .up = (source.follow .up).below front := by
  have moved : (source.below front).names ≠ [] := by simp [below, nonempty]
  rw [follow_up_of_ne_nil moved, follow_up_of_ne_nil nonempty]
  simp only [below, List.dropLast_append_of_ne_nil nonempty]

theorem below_injective (front : List String) : Function.Injective (below front) := by
  intro source other same
  obtain ⟨anchor, names⟩ := SourceId.mk.inj same
  cases source
  cases other
  simp_all

theorem within_eq_below {directory : String} {source : SourceId}
    (plain : Path.IsPlain directory) (inner : source.IsInner) :
    source.within directory = source.below (ofPath directory).names := by
  have relative := Path.relative_intercalate inner.proper
  have moved : Path.isAbsolute (Path.join directory ("/".intercalate source.names)) = false :=
    (Path.absolute_join directory relative).trans plain.relative
  have start : (ofPath directory).anchor = .above 0 := by
    rw [of_path_relative plain.relative]
    exact anchor_follow_all plain.noUp
  rw [within, inner.path_eq, of_path_relative moved,
    Path.parts_join directory relative, Path.parts_intercalate inner.proper, follow_all_append,
    ← of_path_relative plain.relative, follow_all_names, below, start, inner.anchor]

theorem levels_follow_all (levels : Nat) (names : List String) (parts : List PathPart) :
    ∃ more, (followAll ⟨.above levels, names⟩ parts).anchor = .above (levels + more) := by
  induction parts generalizing levels names with
  | nil => exact ⟨0, rfl⟩
  | cons part rest ih =>
    rw [followAll, List.foldl_cons]
    cases part with
    | here => exact ih levels names
    | name text => exact ih levels _
    | up =>
      cases names with
      | nil =>
        obtain ⟨more, anchor⟩ := ih (levels + 1) []
        refine ⟨1 + more, anchor.trans ?_⟩
        rw [Nat.add_assoc]
      | cons name names => exact ih levels _

/-- A path that does not lead out of the directory where it starts leads to the same place below a
directory. -/
theorem follow_all_below (front names : List String) (parts : List PathPart)
    (inside : (followAll ⟨.above 0, names⟩ parts).anchor = .above 0) :
    followAll (below front ⟨.above 0, names⟩) parts =
      below front (followAll ⟨.above 0, names⟩ parts) := by
  induction parts generalizing names with
  | nil => rfl
  | cons part rest ih =>
    rw [followAll, List.foldl_cons] at inside ⊢
    rw [followAll, List.foldl_cons]
    cases part with
    | here => exact ih names inside
    | name text =>
      refine Eq.trans ?_ (ih (names ++ [text]) inside)
      rw [followAll, follow, below, below, List.append_assoc]
    | up =>
      cases names with
      | nil =>
        -- Going up from here would leave the directory for good.
        obtain ⟨more, anchor⟩ := levels_follow_all 1 [] rest
        have returned := anchor.symm.trans inside
        simp only [Anchor.above.injEq] at returned
        omega
      | cons name names =>
        have nonempty := List.cons_ne_nil name names
        have up := @follow_up_of_ne_nil ⟨.above 0, name :: names⟩ nonempty
        rw [@follow_up_below front ⟨.above 0, name :: names⟩ nonempty, up]
        rw [up] at inside
        exact ih _ inside

theorem join_relative_below (front : List String) {source : SourceId} (inner : source.IsInner)
    {written : String} (relative : Path.isAbsolute written = false)
    (inside : (source.joinRelative written).anchor = .above 0) :
    (source.below front).joinRelative written = (source.joinRelative written).below front := by
  have moved : (source.below front).names ≠ [] := by simp [below, inner.nonempty]
  rw [joinRelative, relative, if_neg Bool.false_ne_true, directory_of_ne_nil inner.nonempty,
    inner.anchor] at inside
  rw [joinRelative, joinRelative, relative, if_neg Bool.false_ne_true,
    if_neg Bool.false_ne_true, directory_of_ne_nil moved, directory_of_ne_nil inner.nonempty,
    inner.anchor]
  rw [← follow_all_below front source.names.dropLast _ inside]
  simp only [below, inner.anchor, List.dropLast_append_of_ne_nil inner.nonempty]

end SourceId
end XmlTemplate
