import XmlTemplate.Proofs.Text.EditDistance
import XmlTemplate.Template.Directive

/-!
What is suggested for an unknown directive. Of the known names the first at the least distance is
the candidate, and it is suggested if its distance is small enough. Distances count characters while
the bound is half of the length in bytes, so a name with characters of several bytes may be told a
directive that is further away than half of its characters.
-/

namespace XmlTemplate

theorem Text.length_le_size (chars : List Char) : chars.length ≤ Text.size chars := by
  induction chars with
  | nil => exact Nat.le_refl 0
  | cons c chars ih =>
    have some_bytes := c.utf8Size_pos
    rw [List.length_cons, Text.size_cons]
    omega

namespace Template

open Markup

/-- The first of the names that are nearest to the unknown one, with its distance. -/
def Nearest (unknown : String) (names : List String) (known : String) (distance : Nat) : Prop :=
  Text.Distant unknown known distance ∧
    ∃ front back, names = front ++ known :: back ∧
      (∀ other ∈ front, ∀ count, Text.Distant unknown other count → distance < count) ∧
      ∀ other ∈ back, ∀ count, Text.Distant unknown other count → distance ≤ count

/-- What has to be suggested if so many edits are allowed: the nearest name if it can be reached,
and nothing only if no name can. -/
def Suggested (unknown : String) (allowed : Nat) : Option String → Prop
  | some known =>
      ∃ distance, Nearest unknown DirectiveKind.names known distance ∧ distance ≤ allowed
  | none =>
      ∀ known ∈ DirectiveKind.names, ∀ distance,
        Text.Distant unknown known distance → allowed < distance

section
variable {unknown known other : String} {names : List String} {distance count allowed : Nat}

theorem least_of_nearest (nearest : Nearest unknown names known distance) :
    known ∈ names ∧
      ∀ other ∈ names, ∀ count, Text.Distant unknown other count → distance ≤ count := by
  obtain ⟨here, front, back, rfl, before, after⟩ := nearest
  refine ⟨by simp, fun other member count there => ?_⟩
  rcases List.mem_append.1 member with earlier | member
  · exact (before other earlier count there).le
  · rcases List.mem_cons.1 member with rfl | later
    · exact (here.unique there).le
    · exact after other later count there

/-- Only the earlier of two names at the least distance comes first. -/
theorem nearest_unique (one : Nearest unknown names known distance)
    (two : Nearest unknown names other count) : known = other ∧ distance = count := by
  have same : distance = count :=
    le_antisymm ((least_of_nearest one).2 other (least_of_nearest two).1 count two.1)
      ((least_of_nearest two).2 known (least_of_nearest one).1 distance one.1)
  obtain ⟨here, front, back, rfl, before, -⟩ := one
  obtain ⟨there, first, last, split, earlier, -⟩ := two
  refine ⟨?_, same⟩
  -- If one of the two stood before the other, the other would have to be nearer.
  rcases List.append_eq_append_iff.1 split with ⟨_ | ⟨c, between⟩, shape, rest⟩ |
    ⟨_ | ⟨c, between⟩, shape, rest⟩
  · cases rest
    rfl
  · cases rest
    exact absurd (earlier known (by simp [shape]) distance here) (by omega)
  · cases rest
    rfl
  · cases rest
    exact absurd (before other (by simp [shape]) count there) (by omega)

theorem nothing_nearest_iff : DirectiveKind.nearest? unknown names = none ↔ names = [] := by
  constructor
  · intro nothing
    cases names with
    | nil => rfl
    | cons candidate rest =>
      rw [DirectiveKind.nearest?] at nothing
      split at nothing
      · split at nothing <;> cases nothing
      · cases nothing
  · rintro rfl
    rfl

theorem nearest_of_found (found : DirectiveKind.nearest? unknown names = some (distance, known)) :
    Nearest unknown names known distance := by
  have measured (name : String) : Text.Distant unknown name (Text.editDistance unknown name) :=
    Text.distant_iff.2 rfl
  induction names generalizing distance known with
  | nil => cases found
  | cons candidate rest ih =>
    rw [DirectiveKind.nearest?] at found
    cases tail : DirectiveKind.nearest? unknown rest with
    | none =>
      rw [tail] at found
      cases found
      exact ⟨measured candidate, [], rest, rfl, nofun, by simp [nothing_nearest_iff.1 tail]⟩
    | some best =>
      obtain ⟨away, name⟩ := best
      have nearest := ih tail
      rw [tail] at found
      dsimp only at found
      split at found
      · rename_i nearer
        cases found
        obtain ⟨here, front, back, rfl, before, after⟩ := nearest
        refine ⟨here, candidate :: front, back, rfl, ?_, after⟩
        intro other member count there
        rcases List.mem_cons.1 member with rfl | earlier
        · rwa [← Text.distant_iff.1 there]
        · exact before other earlier count there
      · rename_i no_nearer
        cases found
        refine ⟨measured candidate, [], rest, rfl, nofun, fun other member count there => ?_⟩
        have least := (least_of_nearest nearest).2 other member count there
        omega

/-- The candidate is the first of the names at the least distance. -/
theorem found_iff_nearest :
    DirectiveKind.nearest? unknown names = some (distance, known) ↔
      Nearest unknown names known distance := by
  refine ⟨nearest_of_found, fun nearest => ?_⟩
  cases found : DirectiveKind.nearest? unknown names with
  | none =>
    have among := (least_of_nearest nearest).1
    rw [nothing_nearest_iff.1 found] at among
    cases among
  | some best =>
    obtain ⟨rfl, rfl⟩ := nearest_unique (nearest_of_found found) nearest
    rfl

/-- For every bound there is one thing to suggest. -/
theorem suggested_iff {suggestion : Option String}
    (nearest : Nearest unknown DirectiveKind.names known distance) :
    Suggested unknown allowed suggestion ↔
      suggestion = if distance ≤ allowed then some known else none := by
  cases suggestion with
  | none =>
    constructor
    · intro far
      have beyond := far known (least_of_nearest nearest).1 distance nearest.1
      rw [if_neg (by omega)]
    · intro refused other member count there
      have least := (least_of_nearest nearest).2 other member count there
      split at refused
      · cases refused
      · omega
  | some name =>
    constructor
    · rintro ⟨count, also, near⟩
      obtain ⟨rfl, rfl⟩ := nearest_unique nearest also
      rw [if_pos near]
    · intro told
      split at told
      · rename_i near
        cases told
        exact ⟨distance, nearest, near⟩
      · cases told

theorem suggestion_eq (nearest : Nearest unknown DirectiveKind.names known distance) :
    DirectiveKind.suggestion? unknown =
      if distance ≤ max (Text.size unknown.toList) 2 / 2 then some known else none := by
  rw [DirectiveKind.suggestion?, found_iff_nearest.2 nearest, Option.filter_some]
  split
  · rename_i near
    rw [if_pos (by simpa using near)]
    rfl
  · rename_i far
    rw [if_neg (by simpa using far)]
    rfl

theorem some_nearest (unknown : String) :
    ∃ known distance, Nearest unknown DirectiveKind.names known distance := by
  cases found : DirectiveKind.nearest? unknown DirectiveKind.names with
  | none => exact absurd (nothing_nearest_iff.1 found) (by decide)
  | some best => exact ⟨best.2, best.1, nearest_of_found found⟩

end

/-- An unknown directive is refused with the suggestion that half of its bytes allow. It is the one
that half of its characters allow if and only if the nearest name is not between the two bounds. -/
theorem suggestion_told_iff {unknown : String} (strange : unknown ∉ DirectiveKind.names)
    (attributes : Attributes) (source : SourceId) :
    ∃ suggestion,
      Directive.decode unknown attributes source =
        .error (.unknownDirective unknown source suggestion) ∧
      Suggested unknown (max (Text.size unknown.toList) 2 / 2) suggestion ∧
      (Suggested unknown (max unknown.length 2 / 2) suggestion ↔
        ∀ known distance, Nearest unknown DirectiveKind.names known distance →
          distance ≤ max (Text.size unknown.toList) 2 / 2 →
            distance ≤ max unknown.length 2 / 2) := by
  obtain ⟨known, distance, nearest⟩ := some_nearest unknown
  refine ⟨DirectiveKind.suggestion? unknown, ?_, ?_, ?_⟩
  · have nameless : DirectiveKind.ofName? unknown = none := by
      refine List.find?_eq_none.2 fun kind among named => strange ?_
      exact List.mem_map.2 ⟨kind, among, by simpa using named⟩
    rw [Directive.decode, nameless]
  · rw [suggested_iff nearest]
    exact suggestion_eq nearest
  · rw [suggested_iff nearest, suggestion_eq nearest]
    constructor
    · intro same other count also near
      obtain ⟨rfl, rfl⟩ := nearest_unique nearest also
      by_contra far
      rw [if_pos near, if_neg far] at same
      cases same
    · intro between
      have fewer : unknown.length ≤ Text.size unknown.toList := by
        rw [← String.length_toList]
        exact Text.length_le_size unknown.toList
      refine if_congr ⟨between known distance nearest, fun near => ?_⟩ rfl rfl
      omega

theorem slip_suggestion_told : "incldue" ∉ DirectiveKind.names ∧
    Directive.decode "incldue" [] ⟨.above 0, ["d.xml"]⟩ =
      .error (.unknownDirective "incldue" ⟨.above 0, ["d.xml"]⟩ (some "include")) ∧
    Suggested "incldue" (max "incldue".length 2 / 2) (some "include") := by
  have strange : "incldue" ∉ DirectiveKind.names := by decide
  have told : Directive.decode "incldue" [] ⟨.above 0, ["d.xml"]⟩ =
      .error (.unknownDirective "incldue" ⟨.above 0, ["d.xml"]⟩ (some "include")) := by
    decide +kernel
  obtain ⟨suggestion, decoded, -, right⟩ :=
    suggestion_told_iff strange [] ⟨.above 0, ["d.xml"]⟩
  rw [told] at decoded
  cases decoded
  refine ⟨strange, told, right.2 fun known distance _ near => ?_⟩
  exact near

/-- Three characters of three bytes each are told a directive that has none of them. -/
theorem suggestion_not_always_near :
    ¬ ∀ unknown : String, unknown ∉ DirectiveKind.names →
      ∀ (attributes : Attributes) (source : SourceId) (suggestion : Option String),
        Directive.decode unknown attributes source =
            .error (.unknownDirective unknown source suggestion) →
          Suggested unknown (max unknown.length 2 / 2) suggestion := by
  intro all
  have told : Directive.decode "日本語" [] ⟨.above 0, ["d.xml"]⟩ =
      .error (.unknownDirective "日本語" ⟨.above 0, ["d.xml"]⟩ (some "when")) := by
    decide +kernel
  obtain ⟨distance, nearest, near⟩ := all "日本語" (by decide) [] _ _ told
  have needed : Text.editDistance "日本語" "when" = distance := Text.distant_iff.1 nearest.1
  have four : Text.editDistance "日本語" "when" = 4 := by decide +kernel
  have one : max "日本語".length 2 / 2 = 1 := by decide +kernel
  omega

end Template
end XmlTemplate
