import Mathlib.Data.List.DropRight
import XmlTemplate.Proofs.Source.Spellings

/-!
Paths that are written one after another. The parent of a path has its components but the last one,
and joining two paths puts their components in a row as far as they lead anywhere. So it makes no
difference whether a path is followed from a source found by another path, or the two are joined
first.
-/

namespace XmlTemplate

namespace Path

def innerParts (pieces : List (List Char)) : List PathPart :=
  (pieces.filterMap part?).filter (· ≠ .here)

def isIdle (piece : List Char) : Bool := piece == [] || piece == ['.']

/-- The parts of the pieces of a path that are components; the first piece may be a part `.` if the
path is relative. -/
def placedParts (absolute : Bool) : List (List Char) → List PathPart
  | [] => []
  | first :: rest =>
      (if absolute then innerParts [first] else (part? first).toList) ++ innerParts rest

def body (path : String) : List Char :=
  if isAbsolute path then path.toList.drop 1 else path.toList

theorem inner_parts_append (front back : List (List Char)) :
    innerParts (front ++ back) = innerParts front ++ innerParts back := by
  rw [innerParts, List.filterMap_append, List.filter_append]
  rfl

theorem part_eq_none_iff {piece : List Char} : part? piece = none ↔ piece = [] := by
  unfold part?
  split <;> simp_all

theorem part_eq_here_iff {piece : List Char} : part? piece = some .here ↔ piece = ['.'] := by
  unfold part?
  split <;> simp_all

/-- A piece either is no component inside a path, or stands for one part. -/
theorem inner_parts_single (piece : List Char) :
    (isIdle piece = true ∧ innerParts [piece] = []) ∨
      (isIdle piece = false ∧ ∃ part, innerParts [piece] = [part]) := by
  by_cases idle : piece = [] ∨ piece = ['.']
  · left
    rcases idle with rfl | rfl <;> exact ⟨rfl, rfl⟩
  · right
    obtain ⟨shown, other⟩ := not_or.1 idle
    obtain ⟨part, found⟩ := Option.ne_none_iff_exists'.1 (mt part_eq_none_iff.1 shown)
    have apart : part ≠ .here := fun same => other (part_eq_here_iff.1 (same ▸ found))
    exact ⟨by simp [isIdle, shown, other], part, by simp [innerParts, found, apart]⟩

theorem inner_parts_idle {pieces : List (List Char)}
    (idle : ∀ piece ∈ pieces, isIdle piece = true) : innerParts pieces = [] := by
  induction pieces with
  | nil => rfl
  | cons piece rest ih =>
    obtain ⟨first, later⟩ := List.forall_mem_cons.1 idle
    rw [← List.singleton_append, inner_parts_append, ih later]
    rcases inner_parts_single piece with ⟨-, none⟩ | ⟨shown, -⟩
    · rw [none, List.append_nil]
    · rw [first] at shown
      cases shown

/-- A relative path begins with a piece that is not empty, unless the path is empty. -/
theorem pieces_relative {chars first : List Char} {rest : List (List Char)}
    (split : Text.pieces '/' chars = first :: rest) (relative : chars.head? ≠ some '/') :
    (chars = [] ∧ first = [] ∧ rest = []) ∨ first ≠ [] := by
  cases chars with
  | nil =>
    cases split
    exact .inl ⟨rfl, rfl, rfl⟩
  | cons c later =>
    right
    have other : c ≠ '/' := fun same => relative (congrArg some same)
    unfold Text.pieces at split
    split at split
    · cases split
      exact List.cons_ne_nil c []
    · rw [if_neg other] at split
      cases split
      exact List.cons_ne_nil c _

theorem kept_parts_eq_placed (path : String) :
    keptParts path = placedParts (isAbsolute path) (Text.pieces '/' (body path)) := by
  cases split : Text.pieces '/' (body path) with
  | nil => exact absurd split (Text.pieces_ne_nil _ _)
  | cons first rest =>
    have inner := inner_parts_append [first] rest
    cases absolute : isAbsolute path with
    | true =>
      obtain ⟨later, chars⟩ := List.head?_eq_some_iff.1 (of_decide_eq_true absolute)
      have after : Text.pieces '/' later = first :: rest := by
        simpa [body, absolute, chars] using split
      have all : parts path = (first :: rest).filterMap part? := by
        rw [parts, chars, Text.pieces_cons_mark, after]
        rfl
      rw [keptParts, all, absolute, if_neg (by simp)]
      exact inner
    | false =>
      have chars : body path = path.toList := by simp [body, absolute]
      rw [chars] at split
      have all : parts path = (first :: rest).filterMap part? := by rw [parts, split]
      rw [keptParts, all, absolute]
      rcases pieces_relative split (of_decide_eq_false absolute) with ⟨-, rfl, rfl⟩ | shown
      · rfl
      · obtain ⟨part, found⟩ := Option.ne_none_iff_exists'.1 (mt part_eq_none_iff.1 shown)
        rw [List.filterMap_cons_some found, placedParts, found]
        by_cases idle : part = .here
        · subst idle
          rfl
        · simp [idle, innerParts]

/-- The first piece of a path is a component unless it is idle where it stands. -/
theorem placed_parts_single (absolute : Bool) (first : List Char) :
    ((first == [] || (absolute && first == ['.'])) = true ∧ placedParts absolute [first] = []) ∨
      ((first == [] || (absolute && first == ['.'])) = false ∧
        ∃ part, placedParts absolute [first] = [part]) := by
  cases absolute with
  | true => simpa [placedParts, innerParts, isIdle] using inner_parts_single first
  | false =>
    cases found : part? first with
    | none =>
        exact .inl ⟨by simp [part_eq_none_iff.1 found], by simp [placedParts, innerParts, found]⟩
    | some part =>
      have shown : first ≠ [] := fun empty => Option.some_ne_none part
        (found.symm.trans (part_eq_none_iff.2 empty))
      exact .inr ⟨by simp [shown], part, by simp [placedParts, innerParts, found]⟩

theorem placed_parts_append (absolute : Bool) (first : List Char) (rest back : List (List Char)) :
    placedParts absolute (first :: rest ++ back) =
      placedParts absolute (first :: rest) ++ innerParts back := by
  rw [List.cons_append, placedParts, inner_parts_append, ← List.append_assoc]
  rfl

/-- What is dropped from the end of the pieces is no component, and the last piece that is left
stands for one. -/
theorem drop_idle_cases (absolute : Bool) (pieces : List (List Char)) :
    (dropIdle absolute pieces = [] ∧ placedParts absolute pieces = []) ∨
      ∃ front last part, dropIdle absolute pieces = front ++ [last] ∧
        placedParts absolute (front ++ [last]) = placedParts absolute pieces ∧
        placedParts absolute pieces = placedParts absolute front ++ [part] := by
  cases pieces with
  | nil => exact .inl ⟨rfl, rfl⟩
  | cons first rest =>
    have dropped : innerParts (rest.rtakeWhile isIdle) = [] :=
      inner_parts_idle fun piece member => List.mem_rtakeWhile_imp member
    have same : placedParts absolute (first :: rest.rdropWhile isIdle) =
        placedParts absolute (first :: rest) := by
      conv_rhs => rw [← List.rdropWhile_append_rtakeWhile (p := isIdle) (l := rest)]
      rw [← List.cons_append, placed_parts_append, dropped, List.append_nil]
    have unfolded : dropIdle absolute (first :: rest) =
        if (rest.rdropWhile isIdle).isEmpty && (first == [] || (absolute && first == ['.'])) then []
        else first :: rest.rdropWhile isIdle := rfl
    rw [unfolded]
    rcases List.eq_nil_or_concat' (rest.rdropWhile isIdle) with none | ⟨before, last, kept⟩
    · rw [none] at same ⊢
      rcases placed_parts_single absolute first with ⟨idles, nothing⟩ | ⟨shown, part, alone⟩
      · rw [idles]
        exact .inl ⟨rfl, same.symm.trans nothing⟩
      · rw [shown]
        exact .inr ⟨[], first, part, rfl, same, same.symm.trans alone⟩
    · have shown := List.rdropWhile_last_not isIdle rest (by simp [kept])
      simp only [kept, List.getLast_append_singleton] at shown
      rw [kept] at same ⊢
      rcases inner_parts_single last with ⟨idles, -⟩ | ⟨-, part, alone⟩
      · exact absurd idles shown
      · refine .inr ⟨first :: before, last, part, by simp, same, ?_⟩
        rw [← same, ← List.cons_append, placed_parts_append, alone]

/-- The pieces that are left are the first ones. -/
theorem drop_idle_leads (absolute : Bool) (pieces : List (List Char)) :
    dropIdle absolute pieces <+: pieces := by
  cases pieces with
  | nil => exact List.prefix_rfl
  | cons first rest =>
    unfold dropIdle
    dsimp only
    split
    · exact List.nil_prefix
    · exact List.cons_prefix_cons.2 ⟨rfl, List.rdropWhile_prefix _ _⟩

theorem placed_drop_idle (absolute : Bool) (pieces : List (List Char)) :
    placedParts absolute (dropIdle absolute pieces) = placedParts absolute pieces := by
  rcases drop_idle_cases absolute pieces with ⟨none, nothing⟩ | ⟨front, last, part, kept, same, -⟩
  · rw [none, nothing]
    rfl
  · rw [kept, same]

theorem pieces_of_pieces {pieces : List (List Char)} (some : pieces ≠ [])
    (closed : ∀ piece ∈ pieces, '/' ∉ piece) :
    Text.pieces '/' (ofPieces pieces).toList = pieces := by
  rw [ofPieces, String.toList_ofList]
  induction pieces with
  | nil => exact absurd rfl some
  | cons piece rest ih =>
    obtain ⟨first, later⟩ := List.forall_mem_cons.1 closed
    cases rest with
    | nil => simpa using Text.pieces_of_not_mem first
    | cons next others =>
      have joined : ['/'].intercalate (piece :: next :: others) =
          piece ++ '/' :: ['/'].intercalate (next :: others) := by simp [List.intercalate]
      rw [joined, Text.pieces_append, Text.pieces_of_not_mem first,
        ih (List.cons_ne_nil _ _) later]
      rfl

def ofStart (absolute : Bool) (pieces : List (List Char)) : String :=
  if absolute then "/" ++ ofPieces pieces else ofPieces pieces

theorem components_of_start {absolute : Bool} {pieces : List (List Char)}
    (closed : ∀ piece ∈ pieces, '/' ∉ piece)
    (relative : absolute = false → ∀ first ∈ pieces.head?, first ≠ []) :
    components (ofStart absolute pieces) =
      (if absolute then [.root] else []) ++ (placedParts absolute pieces).map .part := by
  have alone : placedParts absolute [[]] = placedParts absolute [] := by cases absolute <;> rfl
  have again : placedParts absolute (Text.pieces '/' (ofPieces pieces).toList) =
      placedParts absolute pieces := by
    cases pieces with
    | nil => exact alone
    | cons first rest => rw [pieces_of_pieces (List.cons_ne_nil _ _) closed]
  have starts : isAbsolute (ofStart absolute pieces) = absolute := by
    cases absolute with
    | true => simp [ofStart, isAbsolute]
    | false =>
      cases pieces with
      | nil => rfl
      | cons first rest =>
        -- A slash at the start would make the first piece empty.
        apply decide_eq_false
        intro slash
        obtain ⟨later, chars⟩ := List.head?_eq_some_iff.1 slash
        have split := pieces_of_pieces (List.cons_ne_nil first rest) closed
        change (ofPieces (first :: rest)).toList = '/' :: later at chars
        rw [chars, Text.pieces_cons_mark] at split
        exact relative rfl first rfl (List.cons.inj split).1.symm
  have after : body (ofStart absolute pieces) = (ofPieces pieces).toList := by
    rw [body, starts]
    cases absolute <;> simp [ofStart]
  rw [components, kept_parts_eq_placed, starts, after, again]

section
variable {path : String} {others : List (List Char)} {piece : List Char}
  (kept : dropIdle (isAbsolute path) (Text.pieces '/' (body path)) = others ++ [piece])
include kept

theorem others_lead :
    dropIdle (isAbsolute path) others <+: Text.pieces '/' (body path) :=
  (drop_idle_leads _ _).trans ((kept ▸ List.prefix_append others [piece]).trans
    (drop_idle_leads _ _))

theorem others_begin (relative : isAbsolute path = false) :
    ∀ first ∈ (dropIdle (isAbsolute path) others).head?, first ≠ [] := by
  intro first member
  obtain ⟨later, left⟩ := List.head?_eq_some_iff.1 member
  obtain ⟨more, whole⟩ := others_lead kept
  rw [left] at whole
  have chars : body path = path.toList := by simp [body, relative]
  rcases pieces_relative whole.symm (chars ▸ of_decide_eq_false relative) with
    ⟨-, rfl, alone⟩ | shown
  · -- The path is empty, so no piece was left.
    rw [← whole, relative, List.cons_append] at kept
    rw [show later ++ more = [] from alone] at kept
    exact absurd kept.symm (by simp [dropIdle])
  · exact shown

theorem parent_of_kept : parent? path =
    some (ofStart (isAbsolute path) (dropIdle (isAbsolute path) others)) := by
  unfold body at kept
  unfold parent?
  dsimp only
  rw [kept]
  split
  · rename_i none
    exact absurd none (by simp)
  · rw [List.dropLast_concat]
    rfl

end

/-- The parent of a path has all its components but the last one. -/
theorem components_parent {path : String} {front : List PathComponent} {part : PathPart}
    (last : components path = front ++ [.part part]) :
    ∃ parent, parent? path = some parent ∧ components parent = front := by
  have spelled : components path = (if isAbsolute path then [.root] else []) ++
      (placedParts (isAbsolute path) (Text.pieces '/' (body path))).map .part := by
    rw [components, kept_parts_eq_placed]
  rcases drop_idle_cases (isAbsolute path) (Text.pieces '/' (body path)) with
    ⟨-, nothing⟩ | ⟨others, piece, own, kept, -, parted⟩
  · rw [last, nothing] at spelled
    have final := congrArg List.getLast? spelled
    split at final <;> simp at final
  · have closed : ∀ piece ∈ dropIdle (isAbsolute path) others, '/' ∉ piece := fun piece member =>
      Text.not_mem_of_mem_pieces ((others_lead kept).subset member)
    refine ⟨_, parent_of_kept kept, ?_⟩
    rw [components_of_start closed (others_begin kept), placed_drop_idle]
    rw [last, parted, List.map_append, ← List.append_assoc] at spelled
    exact (List.append_inj' spelled rfl).1.symm

theorem join_absolute (base : String) {path : String} (absolute : isAbsolute path = true) :
    join base path = path := by
  simp [join, absolute]

end Path

namespace SourceId

theorem join_relative_eq_locate (source : SourceId) (path : String) :
    source.joinRelative path = source.directory.locate (Path.components path) := by
  rw [locate_path, joinRelative, ofPath]
  split <;> rfl

/-- Joined paths lead where the second leads from the place that the first leads to. -/
theorem locate_join (source : SourceId) (base path : String) :
    source.locate (Path.components (Path.join base path)) =
      (source.locate (Path.components base)).locate (Path.components path) := by
  cases absolute : Path.isAbsolute path with
  | true =>
    rw [Path.join_absolute base absolute, locate_path, locate_path, absolute]
    rfl
  | false =>
    rw [locate_path, locate_path _ base, locate_path _ path, absolute,
      Path.absolute_join base absolute, Path.parts_join base absolute, follow_all_append]
    rfl

theorem directory_locate_name (source : SourceId) (front : List PathComponent) (text : String) :
    (source.locate (front ++ [.name text])).directory = source.locate front := by
  rw [locate_append]
  exact (directory_of_ne_nil (by simp [locate, enter, follow])).trans (by
    simp [locate, enter, follow])

/-- Sources that are found by relative paths in turn. A path whose last component is a name has a
parent, with the components before that name; and a path written in the source that it leads to
leads where the two lead together, with the name left out. An absolute path stands for itself. -/
theorem join_relative_in_turn (source : SourceId) {path text : String}
    {front : List PathComponent} (last : Path.components path = front ++ [.name text]) :
    (∃ parent, Path.parent? path = some parent ∧ Path.components parent = front) ∧
      ∀ outer, Path.components outer = front → ∀ further,
        (source.joinRelative path).joinRelative further =
            source.joinRelative (Path.join outer further) ∧
          (Path.isAbsolute further = true →
            source.joinRelative (Path.join outer further) = ofPath further) := by
  refine ⟨Path.components_parent last, ?_⟩
  intro outer spelled further
  constructor
  · rw [join_relative_eq_locate source, last, join_relative_eq_locate, directory_locate_name,
      join_relative_eq_locate, locate_join, spelled]
  · intro absolute
    rw [Path.join_absolute outer absolute, joinRelative, if_pos absolute]

/-- A skin that includes a part, whose spelling leads out of the directory and has idle pieces. -/
theorem skin_in_turn :
    Path.components "./../parts//a.xml/." = [.here, .up, .name "parts"] ++ [.name "a.xml"] ∧
      Path.components "./../parts" = [.here, .up, .name "parts"] ∧
      ((ofPath "site/skin.html").joinRelative "./../parts//a.xml/.").joinRelative "../../b.xml" =
        (ofPath "site/skin.html").joinRelative (Path.join "./../parts" "../../b.xml") ∧
      Path.isAbsolute "/c/../d.xml" = true ∧
      (ofPath "site/skin.html").joinRelative (Path.join "./../parts" "/c/../d.xml") =
        ofPath "/c/../d.xml" := by
  have last : Path.components "./../parts//a.xml/." =
      [.here, .up, .name "parts"] ++ [.name "a.xml"] := by decide
  have outer : Path.components "./../parts" = [.here, .up, .name "parts"] := by decide
  obtain ⟨-, follows⟩ := join_relative_in_turn (ofPath "site/skin.html") last
  refine ⟨last, outer, ?_, by decide, ?_⟩
  · exact (follows "./../parts" outer "../../b.xml").1
  · exact (follows "./../parts" outer "/c/../d.xml").2 (by decide)

end SourceId
end XmlTemplate
