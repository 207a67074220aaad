import XmlTemplate.Proofs.Selector.GrammarExtension
import XmlTemplate.Proofs.Selector.Selection

/-!
Unions of written selectors. A bar joins two selectors however they end and begin, and which nodes a
union matches depends only on what its paths are, not on their order or number. So the union of two
selectors selects what either of them selects, and joining is commutative and idempotent.
-/

namespace XmlTemplate

open Markup

namespace Selector

section
variable (document : Document)

theorem mem_matched_append (paths others : List Path) (route : Route) :
    route ∈ matched ⟨paths ++ others⟩ document ↔
      route ∈ matched ⟨paths⟩ document ∨ route ∈ matched ⟨others⟩ document := by
  unfold matched
  rw [document.mem_in_order, document.mem_in_order, document.mem_in_order, List.flatMap_append,
    List.mem_append, and_or_left]

/-- Selectors with the same paths match the same nodes. -/
theorem matched_of_same_paths {paths others : List Path}
    (same : ∀ path, path ∈ paths ↔ path ∈ others) :
    matched ⟨paths⟩ document = matched ⟨others⟩ document := by
  apply document.in_order_congr
  intro route
  simp only [List.mem_flatMap, same]

theorem parse_union {first second : String} {paths others : List Path}
    (parsed : Selector.parse first = .ok ⟨paths⟩) (also : Selector.parse second = .ok ⟨others⟩) :
    Selector.parse (first ++ "|" ++ second) = .ok ⟨paths ++ others⟩ := by
  apply Grammar.parse_of_form
  have joined := Grammar.union_append (Grammar.form_of_parse parsed) (Grammar.form_of_parse also)
  rw [String.toList_append, String.toList_append, List.append_assoc]
  exact joined

end

end Selector

theorem Markup.Document.mem_node_routes_or (document : Document) {one other both : List Route}
    (joined : ∀ route, route ∈ both ↔ route ∈ one ∨ route ∈ other) (route : Route) :
    route ∈ document.nodeRoutes both ↔
      route ∈ document.nodeRoutes one ∨ route ∈ document.nodeRoutes other := by
  simp only [Document.nodeRoutes, List.mem_flatMap, joined, or_and_right, exists_or]

/-- Two selectors joined by a bar select the nodes that one of them selects. In which order they are
joined does not matter, and a selector joined with itself selects what it selects alone. -/
theorem union_selects (document : Document) {first second : String} {one other : Selector}
    (parsed : Selector.parse first = .ok one) (also : Selector.parse second = .ok other) :
    ∃ ones others both, document.Selects first ones ∧ document.Selects second others ∧
      document.Selects (first ++ "|" ++ second) both ∧
      (∀ route, route ∈ both ↔ route ∈ ones ∨ route ∈ others) ∧
      document.Selects (second ++ "|" ++ first) both ∧
      document.Selects (first ++ "|" ++ first) ones := by
  obtain ⟨paths⟩ := one
  obtain ⟨more⟩ := other
  have joined := selects_of_parsed document (Selector.parse_union parsed also)
  have turned := selects_of_parsed document (Selector.parse_union also parsed)
  have twice := selects_of_parsed document (Selector.parse_union parsed parsed)
  have reversed : Selector.matched ⟨more ++ paths⟩ document =
      Selector.matched ⟨paths ++ more⟩ document := by
    apply Selector.matched_of_same_paths
    intro path
    rw [List.mem_append, List.mem_append, or_comm]
  have repeated :
      Selector.matched ⟨paths ++ paths⟩ document = Selector.matched ⟨paths⟩ document := by
    apply Selector.matched_of_same_paths
    intro path
    rw [List.mem_append, or_self]
  rw [reversed] at turned
  rw [repeated] at twice
  exact ⟨_, _, _, selects_of_parsed document parsed, selects_of_parsed document also, joined,
    document.mem_node_routes_or (Selector.mem_matched_append document paths more), turned, twice⟩

/-- A comment, and an element in another one of the same name with a bar as the value of an
attribute. -/
def barred : Document :=
  ⟨[.comment "c", .element (.plain "a") [⟨.plain "x", "|"⟩] [.element (.plain "a") [] []]]⟩

/-- A slash alone with blanks after it, joined with a path that has a bar in a literal. -/
theorem slash_and_literal_selects :
    Selector.parse "/ " = .ok ⟨[⟨true, []⟩]⟩ ∧
      Selector.parse "//a[@x='|']" =
        .ok ⟨[⟨true, [.everywhere, ⟨.child, .named "a", [.attribute "x" "|" false]⟩]⟩]⟩ ∧
      ∃ ones others both, barred.Selects "/ " ones ∧ barred.Selects "//a[@x='|']" others ∧
        barred.Selects ("/ " ++ "|" ++ "//a[@x='|']") both ∧
        (∀ route, route ∈ both ↔ route ∈ ones ∨ route ∈ others) ∧
        barred.Selects ("//a[@x='|']" ++ "|" ++ "/ ") both ∧
        barred.Selects ("/ " ++ "|" ++ "/ ") ones := by
  have slash : Selector.parse "/ " = .ok ⟨[⟨true, []⟩]⟩ := by decide +kernel
  have literal : Selector.parse "//a[@x='|']" =
      .ok ⟨[⟨true, [.everywhere, ⟨.child, .named "a", [.attribute "x" "|" false]⟩]⟩]⟩ := by
    decide +kernel
  exact ⟨slash, literal, union_selects barred slash literal⟩

end XmlTemplate
