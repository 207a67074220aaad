import XmlTemplate.Selector.Matching
import Mathlib.Data.Set.Card
import Mathlib.Data.List.Destutter
import Mathlib.Data.List.Lex
import Mathlib.Data.List.Sort

/-!
Document order on routes. The routes of a document are listed in strictly increasing order, and they
are the routes that lead somewhere. Bringing routes into order therefore keeps those that lead
somewhere, each once, which is what sorting them and dropping repetitions comes to.
-/

namespace XmlTemplate

open Markup

/-- A node comes before what is below it, and before all that is at or below a later sibling. -/
abbrev Route.Before : Route → Route → Prop := List.Lex (· < ·)

namespace Route

theorem before_irrefl (route : Route) : ¬Before route route := List.lex_irrefl Nat.lt_irrefl route

theorem before_asymm {one other : Route} (before : Before one other) : ¬Before other one :=
  List.lex_asymm Nat.lt_asymm before

theorem nil_before (index : Nat) (rest : Route) : Before [] (index :: rest) := .nil

theorem before_append (front : Route) {one other : Route} (before : Before one other) :
    Before (front ++ one) (front ++ other) := by
  induction front with
  | nil => exact before
  | cons index rest ih => exact .cons ih

theorem before_of_index_lt (front : Route) {index later : Nat} (less : index < later)
    (one other : Route) : Before (front ++ index :: one) (front ++ later :: other) :=
  before_append front (.rel less)

theorem before_below (front : Route) (index : Nat) (rest : Route) :
    Before front (front ++ index :: rest) := by
  simpa using before_append front (nil_before index rest)

end Route

namespace Markup

theorem Forest.at?_cons (nodes : Forest) (index : Nat) (rest : Route) :
    nodes.at? (index :: rest) = nodes[index]?.bind fun node =>
      if rest.isEmpty then some node else node.children.at? rest := by
  rw [Forest.at?]

theorem Forest.at?_of_children_nil (route : Route) : Forest.at? [] route = none := by
  cases route <;> simp [Forest.at?]

theorem Forest.at?_append (nodes : Forest) (front : Route) (index : Nat) (rest : Route) :
    nodes.at? (front ++ index :: rest) =
      (Document.childrenAt ⟨nodes⟩ front).at? (index :: rest) := by
  induction front generalizing nodes with
  | nil => rfl
  | cons first later ih =>
      have more : (later ++ index :: rest).isEmpty = false := by cases later <;> rfl
      rw [List.cons_append, Forest.at?_cons]
      simp only [Document.childrenAt, List.isEmpty_cons, Bool.false_eq_true, if_false,
        Forest.at?_cons nodes first later, more]
      cases nodes[first]? with
      | none => exact (Forest.at?_of_children_nil _).symm
      | some node =>
          rw [Option.bind_some, Option.bind_some, ih]
          cases later <;> rfl

mutual
theorem Node.mem_routes (node : Node) (route : Route) :
    route ∈ node.routes ↔ (node.children.at? route).isSome := by
  cases node with
  | element name attributes children =>
      simp only [Node.routes, Node.children]
      rw [Forest.mem_routes_from children 0 route]
      simp only [Nat.zero_add]
      constructor
      · intro given
        rcases given with ⟨place, rest, rfl, found⟩
        exact found
      · intro found
        cases route with
        | nil => simp [Forest.at?] at found
        | cons place rest => exact ⟨place, rest, rfl, found⟩
  | _ => simp [Node.routes, Node.children, Forest.at?_of_children_nil]

theorem Forest.mem_routes_from (nodes : Forest) (index : Nat) (route : Route) :
    route ∈ Forest.routesFrom index nodes ↔
      ∃ place rest, route = (index + place) :: rest ∧ (nodes.at? (place :: rest)).isSome := by
  cases nodes with
  | nil => simp [Forest.routesFrom, Forest.at?_of_children_nil]
  | cons node later =>
      simp only [Forest.routesFrom, List.cons_append, List.mem_cons, List.mem_append, List.mem_map]
      rw [Forest.mem_routes_from later (index + 1) route]
      simp only [Node.mem_routes node]
      constructor
      · intro given
        rcases given with rfl | ⟨rest, found, rfl⟩ | ⟨place, rest, rfl, found⟩
        · exact ⟨0, [], rfl, by simp [Forest.at?_cons]⟩
        · refine ⟨0, rest, rfl, ?_⟩
          cases rest with
          | nil => simp [Forest.at?] at found
          | cons first more => simpa [Forest.at?_cons] using found
        · refine ⟨place + 1, rest, ?_, ?_⟩
          · simp only [List.cons.injEq, and_true]
            omega
          · simpa [Forest.at?_cons] using found
      · intro given
        rcases given with ⟨place, rest, rfl, found⟩
        cases place with
        | zero =>
            cases rest with
            | nil => exact .inl rfl
            | cons first more =>
                refine .inr (.inl ⟨first :: more, ?_, rfl⟩)
                simpa [Forest.at?_cons] using found
        | succ place =>
            refine .inr (.inr ⟨place, rest, ?_, ?_⟩)
            · simp only [List.cons.injEq, and_true]
              omega
            · simpa [Forest.at?_cons] using found
end

mutual
theorem Node.routes_increase (node : Node) : node.routes.Pairwise Route.Before := by
  cases node with
  | element name attributes children => exact Forest.routes_from_increase children 0
  | _ => exact .nil

theorem Forest.routes_from_increase (nodes : Forest) (index : Nat) :
    (Forest.routesFrom index nodes).Pairwise Route.Before := by
  cases nodes with
  | nil => exact .nil
  | cons node later =>
      have inside := Node.routes_increase node
      have after := Forest.routes_from_increase later (index + 1)
      simp only [Forest.routesFrom]
      refine List.pairwise_append.2 ⟨List.pairwise_cons.2 ⟨?_, ?_⟩, after, ?_⟩
      · intro route member
        rcases List.mem_map.1 member with ⟨rest, below, rfl⟩
        cases rest with
        | nil => simp [Node.mem_routes, Forest.at?] at below
        | cons first more => exact .cons .nil
      · exact List.pairwise_map.2 (inside.imp fun before => .cons before)
      · intro one memberOne other memberOther
        rcases (Forest.mem_routes_from later (index + 1) other).1 memberOther with ⟨place, rest,
          rfl, _⟩
        have less : index < index + 1 + place := by omega
        rcases List.mem_cons.1 memberOne with rfl | below
        · exact .rel less
        · rcases List.mem_map.1 below with ⟨rest, _, rfl⟩
          exact .rel less
end

namespace Document

def Has (document : Document) (route : Route) : Prop :=
  route = [] ∨ ∃ node, document.nodes.at? route = some node

theorem mem_routes (document : Document) (route : Route) :
    route ∈ document.routes ↔ document.Has route := by
  simp only [routes, List.mem_cons, Forest.mem_routes_from, Nat.zero_add, Has,
    ← Option.isSome_iff_exists]
  apply or_congr_right
  constructor
  · intro given
    rcases given with ⟨place, rest, rfl, found⟩
    exact found
  · intro found
    cases route with
    | nil => simp [Forest.at?] at found
    | cons place rest => exact ⟨place, rest, rfl, found⟩

theorem routes_increase (document : Document) : document.routes.Pairwise Route.Before := by
  refine List.pairwise_cons.2 ⟨?_, Forest.routes_from_increase _ 0⟩
  intro route member
  rcases (Forest.mem_routes_from _ _ _).1 member with ⟨place, rest, rfl, _⟩
  exact .nil

theorem mem_in_order (document : Document) (reached : List Route) (route : Route) :
    route ∈ document.inOrder reached ↔ document.Has route ∧ route ∈ reached := by
  rw [in_order_eq_filter_routes, List.mem_filter, mem_routes, List.contains_iff_mem]

/-- Bringing routes into order depends on nothing but which they are. -/
theorem in_order_congr (document : Document) {reached others : List Route}
    (same : ∀ route, route ∈ reached ↔ route ∈ others) :
    document.inOrder reached = document.inOrder others := by
  rw [in_order_eq_filter_routes, in_order_eq_filter_routes]
  apply List.filter_congr
  intro route _
  rw [Bool.eq_iff_iff, List.contains_iff_mem, List.contains_iff_mem]
  exact same route

theorem in_order_increases (document : Document) (reached : List Route) :
    (document.inOrder reached).Pairwise Route.Before := by
  rw [in_order_eq_filter_routes]
  exact document.routes_increase.filter _

/-- Routes that lead somewhere are brought into order in one way only. -/
theorem eq_in_order (document : Document) {reached sorted : List Route}
    (has : ∀ route ∈ reached, document.Has route) (increases : sorted.Pairwise Route.Before)
    (same : ∀ route, route ∈ sorted ↔ route ∈ reached) : sorted = document.inOrder reached := by
  have asymmetric : Std.Asymm Route.Before := ⟨fun _ _ => Route.before_asymm⟩
  refine increases.eq_of_mem_iff (document.in_order_increases reached) fun {route} => ?_
  rw [same, mem_in_order]
  exact ⟨fun member => ⟨has route member, member⟩, And.right⟩

/-- Routes that lead somewhere may as well be sorted, and those dropped that repeat the one before
them. -/
theorem in_order_eq_sorted (document : Document) {reached : List Route}
    (has : ∀ route ∈ reached, document.Has route) :
    document.inOrder reached = (reached.mergeSort (· ≤ ·)).destutter (· ≠ ·) := by
  have ascends := List.pairwise_mergeSort' (· ≤ ·) reached
  rw [ascends.destutter_eq_dedup]
  refine (document.eq_in_order has ?_ fun route => ?_).symm
  · have both := (ascends.sublist (List.dedup_sublist _)).and (List.nodup_dedup _)
    exact both.imp fun given => lt_of_le_of_ne given.1 given.2
  · rw [List.mem_dedup, List.mem_mergeSort]

end Document
end Markup
end XmlTemplate
