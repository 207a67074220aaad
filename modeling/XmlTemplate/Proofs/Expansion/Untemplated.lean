import XmlTemplate.Proofs.Expansion.Afresh
import XmlTemplate.Proofs.Expansion.Transitions
import XmlTemplate.Proofs.Selector.DocumentOrder

/-!
Nothing of the templating is left in the output. Directives are replaced wherever they stand, and
the attributes of the templating are dropped from the elements that are copied. What an include
takes from an expanded source was cleaned when that source was expanded, so only bound values could
bring in anything else.
-/

namespace XmlTemplate.Template

open Markup

/-- A node without elements and attributes in the namespace of directives, at any depth. -/
inductive Untemplated : Node → Prop
  | element {name : Name} {attributes : Attributes} {children : Forest}
      (ordinary : name.uri ≠ some templateUri)
      (page : ∀ item ∈ attributes, item.name.uri ≠ some templateUri)
      (inside : ∀ child ∈ children, Untemplated child) :
      Untemplated (.element name attributes children)
  | leaf {node : Node} (plain : node.element? = none) : Untemplated node

def AllUntemplated (nodes : Forest) : Prop := ∀ node ∈ nodes, Untemplated node

def Value.Untemplated : Value → Prop
  | .node content => Template.Untemplated content
  | .nodes content => AllUntemplated content
  | _ => True

theorem untemplated_to_nodes {value : Value} (clean : value.Untemplated) :
    AllUntemplated value.toNodes := by
  cases value with
  | node content =>
      intro node member
      rw [List.mem_singleton.1 member]
      exact clean
  | nodes content => exact clean
  | _ =>
      intro node member
      rw [List.mem_singleton.1 member]
      exact .leaf rfl

theorem mem_of_get {bindings : Bindings} {name : String} {value : Value}
    (found : bindings.get? name = some value) : (name, value) ∈ bindings.entries :=
  mem_of_lookup found

theorem untemplated_append {front back : Forest} (first : AllUntemplated front)
    (second : AllUntemplated back) : AllUntemplated (front ++ back) :=
  List.forall_mem_append.2 ⟨first, second⟩

theorem untemplated_children {node : Node} (clean : Untemplated node) :
    AllUntemplated node.children := by
  cases clean with
  | element ordinary page inside => exact inside
  | leaf plain =>
      cases node with
      | element name attributes children => cases plain
      | _ => exact nofun

section
variable {Holds : Node → Prop} (inside : ∀ node, Holds node → ∀ child ∈ node.children, Holds child)
include inside

theorem holds_at {nodes : Forest} (all : ∀ node ∈ nodes, Holds node) {route : Route} {node : Node}
    (found : nodes.at? route = some node) : Holds node := by
  induction route generalizing nodes with
  | nil => cases found
  | cons index rest ih =>
      rw [Forest.at?_cons] at found
      rcases Option.bind_eq_some_iff.1 found with ⟨first, here, below⟩
      have top := all first (List.mem_of_getElem? here)
      cases rest with
      | nil =>
          cases below
          exact top
      | cons _ _ => exact ih (inside first top) below

/-- What elements pass on to their children holds of all that is selected. -/
theorem holds_select {document : Document} (all : ∀ node ∈ document.nodes, Holds node)
    {selector : String} {nodes : Forest} (selected : document.select selector = .ok nodes) :
    ∀ node ∈ nodes, Holds node := by
  unfold Document.select at selected
  split at selected
  · cases selected
  · cases selected
    intro node member
    rcases List.mem_flatMap.1 member with ⟨route, _, there⟩
    split at there
    · exact all node there
    · exact holds_at inside all (Option.mem_toList.1 there)

end

theorem untemplated_select {document : Document} (clean : AllUntemplated document.nodes)
    {selector : String} {nodes : Forest} (selected : document.select selector = .ok nodes) :
    AllUntemplated nodes :=
  holds_select (fun _ => untemplated_children) clean selected

theorem of_written_unresolved (written : String) : (Name.ofWritten written).uri = none := by
  unfold Name.ofWritten
  split
  · split <;> rfl
  · rfl

theorem names_of_set_spelled {name : Name} {value : String} {attributes : Attributes}
    {item : Attribute} (member : item ∈ attributes.setSpelled name value) :
    item.name = name ∨ item.name ∈ attributes.map (·.name) := by
  rcases Attributes.set_spelled_cases name value attributes with same | ⟨-, added⟩
  · right
    rw [← same]
    exact List.mem_map_of_mem member
  · rw [added] at member
    rcases List.mem_append.1 member with before | last
    · exact .inr (List.mem_map_of_mem before)
    · rw [List.mem_singleton.1 last]
      exact .inl rfl

theorem page_after_edit {attributes : Attributes} (edit : Edit)
    (page : ∀ item ∈ attributes, item.name.uri ≠ some templateUri) :
    ∀ item ∈ edit.apply attributes, item.name.uri ≠ some templateUri := by
  intro item member
  unfold Edit.apply at member
  split at member
  · rcases names_of_set_spelled member with new | old
    · rw [new, of_written_unresolved]
      exact (Option.some_ne_none templateUri).symm
    · rcases List.mem_map.1 old with ⟨before, there, same⟩
      rw [← same]
      exact page before there
  · exact page item (List.mem_of_mem_eraseP member)

theorem page_attributes_clean (attributes : Attributes) :
    ∀ item ∈ pageAttributes attributes, item.name.uri ≠ some templateUri := by
  intro item member templating
  have kept := (List.mem_filter.1 member).2
  simp [isTemplating, templating] at kept

theorem page_after_edits {attributes : Attributes} (edits : List Edit)
    (page : ∀ item ∈ attributes, item.name.uri ≠ some templateUri) :
    ∀ item ∈ edits.foldl Edit.apply attributes, item.name.uri ≠ some templateUri := by
  induction edits generalizing attributes with
  | nil => exact page
  | cons edit rest ih => exact ih (page_after_edit edit page)

structure CleanFrame (frame : Frame) : Prop where
  got : AllUntemplated frame.got.nodes
  before : ∀ opened ∈ frame.around, AllUntemplated opened.before.nodes
  ordinary : ∀ opened ∈ frame.around, ¬isDirective opened.name = true

structure Clean (moment : Moment) : Prop where
  current : CleanFrame moment.frame
  outside : ∀ parent ∈ moment.waiting, CleanFrame parent.frame
  kept : ∀ entry ∈ moment.progress.kept, AllUntemplated entry.2.nodes

theorem clean_of_source (source : SourceId) (nodes : Forest) :
    CleanFrame (.ofSource source nodes) :=
  ⟨nofun, nofun, nofun⟩

theorem clean_whatever_next {source : SourceId} {around : List OpenElement} {got : Yield}
    {todo : Forest} (clean : CleanFrame ⟨source, around, got, todo⟩) (other : Forest) :
    CleanFrame ⟨source, around, got, other⟩ :=
  ⟨clean.got, clean.before, clean.ordinary⟩

theorem clean_close {source : SourceId} {opened : OpenElement} {around : List OpenElement}
    {got : Yield} (clean : CleanFrame ⟨source, opened :: around, got, []⟩) :
    CleanFrame ⟨source, around, opened.close got, opened.after⟩ where
  got := by
    apply untemplated_append (clean.before opened (.head _))
    intro node member
    rw [List.mem_singleton.1 member]
    have ordinary := clean.ordinary opened (.head _)
    refine .element ?_ (page_after_edits _ (page_attributes_clean _)) clean.got
    simpa [isDirective] using ordinary
  before := fun other member => clean.before other (.tail _ member)
  ordinary := fun other member => clean.ordinary other (.tail _ member)

theorem clean_of_taken {Described : Forest → Prop} {moment later : Moment}
    (taken : Taken Described moment later) (clean : Clean moment)
    (described : ∀ nodes, Described nodes → AllUntemplated nodes) : Clean later := by
  rcases clean with ⟨current, outside, kept⟩
  cases taken with
  | got quiet part =>
      have together := untemplated_append current.got (described _ part)
      exact ⟨⟨together, current.before, current.ordinary⟩, outside, kept⟩
  | failed acyclic => exact ⟨clean_of_source _ _, outside, kept⟩

section
variable {provider : Provider} {bindings : Bindings}
  (bound : ∀ entry ∈ bindings.entries, entry.2.Untemplated)
include bound

theorem untemplated_of_given {nodes : Forest} (given : Given bindings nodes) :
    AllUntemplated nodes := by
  intro node member
  rcases given node member with plain | ⟨name, value, found, inside⟩
  · exact .leaf plain
  · exact untemplated_to_nodes (bound _ (mem_of_get found)) node inside

theorem clean_of_transition {moment later : Moment}
    (transition : Transition provider bindings moment later) (clean : Clean moment) :
    Clean later := by
  rcases clean with ⟨current, outside, kept⟩
  cases transition with
  | giveUp =>
      refine ⟨clean_of_source _ _, ?_, kept⟩
      intro parent member
      exact outside parent (.tail _ member)
  | close => exact ⟨clean_close current, outside, kept⟩
  | deliver taken =>
      -- What was collected is kept from now on, and a selection from it goes to the outer frame.
      refine clean_of_taken taken ⟨outside _ (.head _), ?_, ?_⟩ ?_
      · intro parent member
        exact outside parent (.tail _ member)
      · intro entry member
        rcases List.mem_cons.1 member with rfl | earlier
        · exact current.got
        · exact kept entry earlier
      · intro nodes selected
        exact untemplated_select current.got selected
  | give taken =>
      refine clean_of_taken taken ⟨clean_whatever_next current _, outside, kept⟩ ?_
      intro nodes given
      exact untemplated_of_given bound given
  | descend inside => exact ⟨clean_whatever_next current _, outside, kept⟩
  | enter ordinary =>
      refine ⟨⟨nofun, ?_, ?_⟩, outside, kept⟩
      · intro opened member
        rcases List.mem_cons.1 member with rfl | outer
        · exact current.got
        · exact current.before opened outer
      · intro opened member
        rcases List.mem_cons.1 member with rfl | outer
        · exact ordinary
        · exact current.ordinary opened outer
  | refuse refers refused => exact ⟨clean_of_source _ _, outside, kept⟩
  | reuse found taken =>
      refine clean_of_taken taken ⟨clean_whatever_next current _, outside, kept⟩ ?_
      intro nodes selected
      exact untemplated_select (kept _ (mem_of_lookup found)) selected
  | miss fresh unkept missing => exact ⟨clean_of_source _ _, outside, kept⟩
  | load refers fresh unkept found =>
      refine ⟨clean_of_source _ _, ?_, kept⟩
      intro parent member
      rcases List.mem_cons.1 member with rfl | outer
      · exact clean_whatever_next current _
      · exact outside parent outer

theorem clean_of_leads {template : Template} {moment : Moment}
    (leads : Moment.Leads provider bindings [] (Moment.first template bindings) moment) :
    Clean moment := by
  induction leads with
  | refl => exact ⟨clean_of_source _ _, nofun, nofun⟩
  | tail _ step ih => exact clean_of_transition bound (transition_of_next step.1) ih

theorem outcome_untemplated {template : Template} {last : Moment} {document : Document}
    (leads : Moment.Leads provider bindings [] (Moment.first template bindings) last)
    (succeeded : last.outcome = .ok document) : AllUntemplated document.nodes := by
  rw [nodes_of_outcome succeeded]
  exact (clean_of_leads bound leads).current.got

end

/-- If no bound value holds templating, no document that an expansion produces does, wherever the
sources come from and whatever they hold. -/
theorem expanded_untemplated (bindings : Bindings)
    (bound : ∀ entry ∈ bindings.entries, entry.2.Untemplated) :
    (∀ template library document, (Template.expand template library bindings).1 = .ok document →
      AllUntemplated document.nodes) ∧
    ∀ template provider last,
      Moment.Leads provider bindings [] (Moment.first template bindings) last →
      last.next provider bindings = none → ∀ document, last.outcome = .ok document →
        AllUntemplated document.nodes := by
  refine ⟨?_, ?_⟩
  · intro template library document succeeded
    rcases expansion_ends template library bindings with ⟨last, leads, _, expanded⟩
    rw [expanded] at succeeded
    exact outcome_untemplated bound (leads_mono List.nil_prefix leads) succeeded
  · intro template provider last leads _ document succeeded
    exact outcome_untemplated bound leads succeeded

namespace Greeting

def bindings : Bindings :=
  .ofList [("title", .string "Hello"), ("body", .node (.element (.plain "b") [] []))]

def directive (localName : String) (attributes : List (String × String)) : Node :=
  .element ⟨some "t", localName, some templateUri⟩
    (attributes.map fun (name, value) => ⟨.plain name, value⟩) []

def page : Template where
  source := .ofPath "page.xml"
  document := ⟨[.element (.plain "p") [⟨⟨some "xmlns", "t", none⟩, templateUri⟩]
    [directive "attr" [("name", "id"), ("valuevar", "title")],
      directive "include" [("src", "part.xml")],
      directive "dynamic" [("var", "body")]]]⟩

def sources : Library :=
  .inMemory [(.ofPath "part.xml",
    declaringDirectives "r" "<i t:part='1'><t:text var='title'/></i>")]

def output : Document :=
  ⟨[.element (.plain "p") [⟨.plain "id", "Hello"⟩]
    [.element (.plain "i") [] [.text "Hello"], .element (.plain "b") [] []]]⟩

theorem bindings_untemplated : ∀ entry ∈ bindings.entries, entry.2.Untemplated := by
  have entries : bindings.entries =
      [("body", .node (.element (.plain "b") [] [])), ("title", .string "Hello")] := rfl
  rw [entries]
  intro entry member
  rcases List.mem_cons.1 member with rfl | later
  · exact .element nofun nofun nofun
  · rw [List.mem_singleton.1 later]
    trivial

theorem output_untemplated :
    (∀ entry ∈ bindings.entries, entry.2.Untemplated) ∧
      (page.expand sources bindings).1 = .ok output ∧ AllUntemplated output.nodes := by
  have expanded : (page.expand sources bindings).1 = .ok output := by decide +kernel
  refine ⟨bindings_untemplated, expanded, ?_⟩
  exact (expanded_untemplated bindings bindings_untemplated).1 page sources output expanded

end Greeting

end XmlTemplate.Template
