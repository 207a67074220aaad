import Mathlib.Logic.Relation
import XmlTemplate.Proofs.Source.Relocation

/-!
Spellings of a source. Two paths name the same source exactly if one can be turned into the other by
putting in and taking out components that lead nowhere: a `.`, a name that the next component takes
back, and a `..` at the root. The canonical path has none of these left.
-/

namespace XmlTemplate

inductive PathComponent
  | root
  | part (part : PathPart)
deriving DecidableEq

namespace PathComponent

abbrev here : PathComponent := .part .here
abbrev up : PathComponent := .part .up
abbrev name (text : String) : PathComponent := .part (.name text)

/-- One spelling has something more than the other that leads nowhere. -/
inductive Idles : List PathComponent → List PathComponent → Prop
  | here (front back : List PathComponent) : Idles (front ++ back) (front ++ here :: back)
  | back (front back : List PathComponent) {text : String} (proper : Path.IsName text) :
      Idles (front ++ back) (front ++ name text :: up :: back)
  | top (front back : List PathComponent) :
      Idles (front ++ root :: back) (front ++ root :: up :: back)

/-- The same spelling up to components that lead nowhere. -/
abbrev Respelled : List PathComponent → List PathComponent → Prop := Relation.EqvGen Idles

end PathComponent

namespace Path

/-- The parts of a path that are components of it: a part `.` is one only if it begins a relative
path. -/
def keptParts (path : String) : List PathPart :=
  (if isAbsolute path = false ∧ (parts path).head? = some .here then [.here] else []) ++
    (parts path).filter (· ≠ .here)

def components (path : String) : List PathComponent :=
  (if isAbsolute path then [.root] else []) ++ (keptParts path).map .part

example : components "./a//./b/" = [.here, .name "a", .name "b"] := by decide

theorem name_of_kept {path text : String} (member : .name text ∈ keptParts path) : IsName text := by
  have among : .name text ∈ parts path := by
    rcases List.mem_append.1 member with first | later
    · split at first <;> simp at first
    · exact (List.mem_filter.1 later).1
  exact is_name_of_part among

end Path

namespace SourceId

open PathComponent (Idles Respelled)

def start (path : String) : SourceId := if Path.isAbsolute path then root else current

def parts (source : SourceId) : List PathPart :=
  (match source.anchor with
    | .root => []
    | .above levels => List.replicate levels .up) ++ source.names.map .name

def components (source : SourceId) : List PathComponent :=
  (if source.anchor = .root then [.root] else []) ++ source.parts.map .part

/-- Follows one component. The root is reached from anywhere. -/
def enter (source : SourceId) : PathComponent → SourceId
  | .root => root
  | .part part => source.follow part

def locate (source : SourceId) (components : List PathComponent) : SourceId :=
  components.foldl enter source

theorem locate_append (source : SourceId) (front back : List PathComponent) :
    source.locate (front ++ back) = (source.locate front).locate back :=
  List.foldl_append

theorem locate_parts (source : SourceId) (parts : List PathPart) :
    source.locate (parts.map .part) = source.followAll parts :=
  List.foldl_map

theorem follow_kept (source : SourceId) (parts : List PathPart) :
    source.followAll (parts.filter (· ≠ .here)) = source.followAll parts := by
  induction parts generalizing source with
  | nil => rfl
  | cons part rest ih =>
    by_cases idle : part = .here
    · subst idle
      exact ih source
    · rw [List.filter_cons_of_pos (by simpa using idle)]
      exact ih (source.follow part)

theorem follow_kept_parts (source : SourceId) (path : String) :
    source.followAll (Path.keptParts path) = source.followAll (Path.parts path) := by
  have idle : ∀ source : SourceId, ∀ leads : Prop, [Decidable leads] →
      source.followAll (if leads then [.here] else []) = source := by
    intro source leads _
    split <;> rfl
  rw [Path.keptParts, follow_all_append, follow_kept, idle]

/-- The components of a path lead where its parts do, from the root if the path is absolute. -/
theorem locate_path (source : SourceId) (path : String) :
    source.locate (Path.components path) =
      (if Path.isAbsolute path then root else source).followAll (Path.parts path) := by
  rw [Path.components, locate_append, locate_parts, follow_kept_parts]
  split <;> rfl

theorem locate_components (path : String) :
    current.locate (Path.components path) = ofPath path :=
  locate_path current path

theorem follow_name_up (source : SourceId) (text : String) :
    (source.follow (.name text)).follow .up = source := by
  rw [follow_up_of_ne_nil (by simp [follow])]
  simp [follow]

theorem locate_of_idles {short long : List PathComponent} (idles : Idles short long)
    (source : SourceId) : source.locate long = source.locate short := by
  cases idles with
  | here front back =>
    rw [locate_append, locate_append]
    rfl
  | @back front back text proper =>
    rw [locate_append, locate_append]
    exact congrArg (locate · back) (follow_name_up (source.locate front) text)
  | top front back =>
    rw [locate_append, locate_append]
    rfl

theorem locate_of_respelled {left right : List PathComponent} (respelled : Respelled left right)
    (source : SourceId) : source.locate left = source.locate right := by
  induction respelled with
  | rel short long idles => exact (locate_of_idles idles source).symm
  | refl => rfl
  | symm left right _ ih => exact ih.symm
  | trans left middle right _ _ first second => exact first.trans second

theorem components_named (anchor : Anchor) (names : List String) (text : String) :
    components ⟨anchor, names ++ [text]⟩ = components ⟨anchor, names⟩ ++ [.name text] := by
  simp [components, parts]

/-- Following one part more is a respelling of the canonical path with that part behind it. -/
theorem respelled_follow (source : SourceId) (part : PathPart) (back : List PathComponent)
    (proper : ∀ name ∈ source.names, Path.IsName name) :
    Respelled (source.components ++ .part part :: back)
      ((source.follow part).components ++ back) := by
  cases part with
  | here =>
    apply Relation.EqvGen.symm
    exact .rel _ _ (.here source.components back)
  | name text =>
    have spelled : (source.follow (.name text)).components = source.components ++ [.name text] :=
      components_named source.anchor source.names text
    rw [spelled, List.append_assoc]
    exact .refl _
  | up =>
    obtain ⟨anchor, names⟩ := source
    rcases List.eq_nil_or_concat' names with rfl | ⟨outer, last, rfl⟩
    · cases anchor with
      | root =>
        apply Relation.EqvGen.symm
        exact .rel _ _ (.top [] back)
      | above levels =>
        have spelled : (follow ⟨.above levels, []⟩ .up).components =
            components ⟨.above levels, []⟩ ++ [.up] := by
          simp [components, parts, follow, List.replicate_succ']
        rw [spelled, List.append_assoc]
        exact .refl _
    · have returned : follow ⟨anchor, outer ++ [last]⟩ .up = ⟨anchor, outer⟩ :=
        follow_name_up ⟨anchor, outer⟩ last
      rw [returned, components_named, List.append_assoc]
      apply Relation.EqvGen.symm
      exact .rel _ _ (.back _ back (proper last (by simp)))

theorem respelled_follow_all (source : SourceId) (parts : List PathPart)
    (proper : ∀ name ∈ source.names, Path.IsName name)
    (proper_parts : ∀ text, .name text ∈ parts → Path.IsName text) :
    Respelled (source.components ++ parts.map .part) (source.followAll parts).components := by
  induction parts generalizing source with
  | nil =>
    rw [List.map_nil, List.append_nil]
    exact .refl _
  | cons part rest ih =>
    have followed : ∀ name ∈ (source.follow part).names, Path.IsName name := by
      intro name member
      rcases names_follow member with before | same
      · exact proper name before
      · exact proper_parts name (same ▸ .head _)
    have later := ih (source.follow part) followed fun text member =>
      proper_parts text (.tail _ member)
    exact .trans _ _ _ (respelled_follow source part _ proper) later

theorem respelled_canonical (path : String) :
    Respelled (Path.components path) (ofPath path).components := by
  have followed := respelled_follow_all (start path) (Path.keptParts path)
    (by
      intro name member
      unfold start at member
      split at member <;> cases member)
    fun text member => Path.name_of_kept member
  rw [follow_kept_parts] at followed
  change Respelled _ (ofPath path).components at followed
  have spelled : Path.components path =
      (start path).components ++ (Path.keptParts path).map .part := by
    rw [Path.components, start]
    split <;> rfl
  rw [spelled]
  exact followed

theorem here_not_mem_parts (source : SourceId) : .here ∉ source.parts := by
  intro member
  rcases List.mem_append.1 member with outward | named
  · split at outward
    · cases outward
    · cases List.eq_of_mem_replicate outward
  · obtain ⟨name, -, same⟩ := List.mem_map.1 named
    cases same

section
variable {source : SourceId} (proper : ∀ name ∈ source.names, Path.IsName name)
include proper

theorem closed_texts (levels : Nat) {text : String}
    (member : text ∈ List.replicate levels ".." ++ source.names) :
    text ≠ "" ∧ '/' ∉ text.toList := by
  rcases List.mem_append.1 member with outward | named
  · rw [List.eq_of_mem_replicate outward]
    decide
  · exact ⟨(proper text named).nonempty, (proper text named).noSlash⟩

theorem absolute_path : Path.isAbsolute source.path = decide (source.anchor = .root) := by
  unfold path
  split
  · rename_i rooted
    simp [rooted, Path.isAbsolute]
  · rename_i levels above
    rw [above]
    exact Path.relative_intercalate_texts fun text member => closed_texts proper levels member

theorem parts_path : Path.parts source.path = source.parts := by
  obtain ⟨anchor, names⟩ := source
  cases anchor with
  | root =>
    have split := Path.parts_slash "" ("/".intercalate names)
    rw [Path.parts_empty, Path.parts_intercalate proper] at split
    simpa [path, parts] using split
  | above levels =>
    have closed : ∀ text ∈ List.replicate levels ".." ++ names, '/' ∉ text.toList :=
      fun text member => (closed_texts proper levels member).2
    have outward : (List.replicate levels "..").filterMap (fun text => Path.part? text.toList) =
        List.replicate levels .up := List.filterMap_replicate_of_some rfl
    have named : names.filterMap (fun text => Path.part? text.toList) = names.map .name :=
      List.filterMap_eq_map_iff_forall_eq_some.2 fun name member => (proper name member).part
    rw [path, Path.parts_intercalate_texts closed, List.filterMap_append, outward, named]
    rfl

theorem components_path : Path.components source.path = source.components := by
  have plain := source.here_not_mem_parts
  have begins : ¬ (Path.isAbsolute source.path = false ∧
      (Path.parts source.path).head? = some .here) := by
    rw [parts_path proper]
    exact fun both => plain (List.mem_of_mem_head? both.2)
  have kept : source.parts.filter (· ≠ .here) = source.parts := by
    apply List.filter_eq_self.2
    intro part member
    apply decide_eq_true
    rintro rfl
    exact plain member
  rw [Path.components, Path.keptParts, if_neg begins, parts_path proper, absolute_path proper, kept]
  simp [components]

end

theorem here_not_mem_components (source : SourceId) : PathComponent.here ∉ source.components := by
  intro member
  rcases List.mem_append.1 member with first | later
  · split at first <;> simp at first
  · obtain ⟨part, settled, same⟩ := List.mem_map.1 later
    cases same
    exact source.here_not_mem_parts settled

theorem components_settled (source : SourceId) : ∃ (levels : Nat) (names : List String),
    source.components = if source.anchor = .root then .root :: names.map .name
      else List.replicate levels .up ++ names.map .name := by
  obtain ⟨anchor, names⟩ := source
  cases anchor with
  | root => exact ⟨0, names, by simp [components, parts]⟩
  | above levels => exact ⟨levels, names, by simp [components, parts]⟩

theorem follow_parts (source : SourceId) :
    (if source.anchor = .root then root else current).followAll source.parts = source := by
  obtain ⟨anchor, names⟩ := source
  cases anchor with
  | root => exact follow_all_names root names
  | above levels =>
    have outward : current.followAll (List.replicate levels .up) = ⟨.above levels, []⟩ := by
      induction levels with
      | zero => rfl
      | succ levels ih =>
        rw [List.replicate_succ', follow_all_append, ih]
        rfl
    rw [parts, follow_all_append]
    exact outward ▸ follow_all_names ⟨.above levels, []⟩ names

theorem locate_self (source : SourceId) : current.locate source.components = source := by
  rw [components, locate_append, locate_parts]
  refine Eq.trans ?_ (follow_parts source)
  split <;> rfl

theorem rooted_follow_all (source : SourceId) (parts : List PathPart) :
    (source.followAll parts).anchor = .root ↔ source.anchor = .root := by
  induction parts generalizing source with
  | nil => rfl
  | cons part rest ih =>
    refine (ih (source.follow part)).trans ?_
    unfold follow
    split
    · rfl
    · rfl
    · split <;> simp_all

theorem rooted_of_path (path : String) :
    (ofPath path).anchor = .root ↔ Path.isAbsolute path = true := by
  rw [ofPath, rooted_follow_all]
  split
  · simp_all [root]
  · simp_all [current]

theorem of_path_path (path : String) : ofPath (ofPath path).path = ofPath path := by
  rw [← locate_components, components_path fun name member => names_of_path member, locate_self]

theorem of_path_eq_iff (path other : String) :
    ofPath path = ofPath other ↔ Respelled (Path.components path) (Path.components other) := by
  constructor
  · intro same
    have there := respelled_canonical path
    rw [same] at there
    exact .trans _ _ _ there (.symm _ _ (respelled_canonical other))
  · intro respelled
    rw [← locate_components, ← locate_components]
    exact locate_of_respelled respelled current

/-- The identifier of a source is a canonical form of its paths. It consists of names, after the
root or after a run of `..`, is absolute if and only if the path is, and is its own canonical form;
and two paths have the same one if and only if they can be respelled into each other. -/
theorem same_source_iff_respelled (path : String) :
    PathComponent.here ∉ Path.components (ofPath path).path ∧
      (∃ (levels : Nat) (names : List String), Path.components (ofPath path).path =
        if Path.isAbsolute path then .root :: names.map .name
        else List.replicate levels .up ++ names.map .name) ∧
      Path.isAbsolute (ofPath path).path = Path.isAbsolute path ∧
      ofPath (ofPath path).path = ofPath path ∧
      ∀ other, ofPath path = ofPath other ↔
        Respelled (Path.components path) (Path.components other) := by
  have proper : ∀ name ∈ (ofPath path).names, Path.IsName name := fun name => names_of_path
  have spelled := components_path proper
  have absolute := absolute_path proper
  have rooted := rooted_of_path path
  rw [spelled, absolute]
  refine ⟨here_not_mem_components _, ?_, ?_, of_path_path path, of_path_eq_iff path⟩
  · simp only [← rooted]
    exact components_settled (ofPath path)
  · rw [Bool.eq_iff_iff, decide_eq_true_iff]
    exact rooted

end SourceId
end XmlTemplate
