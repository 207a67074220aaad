import Mathlib.Data.Finset.Card
import XmlTemplate.Proofs.Expansion.Afresh
import XmlTemplate.Proofs.Expansion.Transitions
import XmlTemplate.Proofs.Selector.DocumentOrder

/-!
The sources being expanded. They are all different, none of them is kept, and each of them holds an
include of the next one, from the template down. The steps of an expansion therefore end, and the
chain of a refused include tells a cycle that the documents really have.
-/

namespace XmlTemplate.Template

open Markup

structure StackSound (template : Template) (library : Library) (moment : Moment) : Prop where
  begins : moment.stack.head? = some template.source
  distinct : moment.stack.Nodup
  apart : Apart moment.stack moment.progress.kept
  readable : moment.stack.tail ⊆ library.ids

/-- The document of a source in the expansion of a template; that of the template is given. -/
def documentOf? (template : Template) (library : Library) (source : SourceId) : Option Document :=
  if source = template.source then some template.document else (library.load source).toOption

def Holds (template : Template) (library : Library) (source : SourceId) (node : Node) : Prop :=
  ∃ document route, documentOf? template library source = some document ∧
    document.nodes.at? route = some node

/-- The document of a source holds an include directive that refers to another. -/
def Includes (template : Template) (library : Library) (bindings : Bindings)
    (source target : SourceId) : Prop :=
  ∃ node, Holds template library source node ∧
    targetOf? (.ofLibrary library) bindings source node = some target

/-- A chain of includes that begins with the template and comes back to one of its sources. -/
structure IncludeCycle (template : Template) (library : Library) (bindings : Bindings)
    (chain : List SourceId) : Prop where
  begins : chain.head? = some template.source
  distinct : chain.dropLast.Nodup
  returns : ∃ last ∈ chain.dropLast, chain.getLast? = some last
  follows : chain.IsChain (Includes template library bindings)

section
variable {template : Template} {library : Library} {bindings : Bindings} {source : SourceId}
  {waiting : List Waiting}

theorem stack_of_ne_nil : stackOf waiting source ≠ [] := by
  simp [stackOf]

theorem last_stack_of : (stackOf waiting source).getLast? = some source := by
  simp [stackOf]

theorem head_stack_of_cons (parent : Waiting) :
    (stackOf (parent :: waiting) source).head? =
      (stackOf waiting parent.frame.source).head? := by
  rw [stack_of_cons, List.head?_append_of_ne_nil _ stack_of_ne_nil]

theorem tail_stack_of_cons (parent : Waiting) :
    (stackOf (parent :: waiting) source).tail =
      (stackOf waiting parent.frame.source).tail ++ [source] := by
  rw [stack_of_cons, List.tail_append_of_ne_nil stack_of_ne_nil]

theorem sound_of_same {moment later : Moment} (sound : StackSound template library moment)
    (stack : later.stack = moment.stack) (kept : later.progress.kept = moment.progress.kept) :
    StackSound template library later := by
  rcases sound with ⟨begins, distinct, apart, readable⟩
  constructor
  · rw [stack]
    exact begins
  · rw [stack]
    exact distinct
  · rw [stack, kept]
    exact apart
  · rw [stack]
    exact readable

theorem sound_of_taken {Described : Forest → Prop} {moment later : Moment}
    (taken : Taken Described moment later) (sound : StackSound template library moment) :
    StackSound template library later := by
  cases taken with
  | got quiet described => exact sound_of_same sound rfl rfl
  | failed acyclic => exact sound_of_same sound rfl rfl

/-- Leaving the innermost source keeps the others sound, also if it is kept now. -/
theorem sound_of_left {frame other : Frame} {parent : Waiting} {progress later : Progress}
    {failure failureLater : Option Failure}
    (sound : StackSound template library ⟨frame, parent :: waiting, progress, failure⟩)
    (same : other.source = parent.frame.source)
    (kept : later.kept = progress.kept ∨
      ∃ expanded, later.kept = (frame.source, expanded) :: progress.kept) :
    StackSound template library ⟨other, waiting, later, failureLater⟩ := by
  rcases sound with ⟨begins, distinct, apart, readable⟩
  simp only [Moment.stack] at begins distinct apart readable
  rw [head_stack_of_cons] at begins
  rw [tail_stack_of_cons] at readable
  rw [stack_of_cons] at distinct apart
  have fresh : frame.source ∉ stackOf waiting parent.frame.source := by
    intro member
    exact (List.nodup_append.1 distinct).2.2 _ member _ (List.mem_singleton_self _) rfl
  constructor
  · rw [Moment.stack, same]
    exact begins
  · rw [Moment.stack, same]
    exact (List.nodup_append.1 distinct).1
  · rw [Moment.stack, same]
    have before := (apart_concat.1 apart).1
    rcases kept with unchanged | ⟨expanded, added⟩
    · rw [unchanged]
      exact before
    · rw [added]
      exact apart_cons.2 ⟨fresh, before⟩
  · rw [Moment.stack, same]
    intro earlier member
    exact readable (List.mem_append_left _ member)

theorem sound_of_loaded {before frame : Frame} {progress : Progress} {target : SourceId}
    {loaded : Document} {selector : String} {nodes : Forest}
    {failure failureLater : Option Failure}
    (sound : StackSound template library ⟨before, waiting, progress, failure⟩)
    (same : frame.source = before.source) (fresh : target ∉ stackOf waiting before.source)
    (unkept : progress.kept.lookup target = none) (found : library.load target = .ok loaded)
    {later : Progress} (kept : later.kept = progress.kept) :
    StackSound template library
      ⟨.ofSource target nodes, ⟨frame, selector⟩ :: waiting, later, failureLater⟩ := by
  rcases sound with ⟨begins, distinct, apart, readable⟩
  simp only [Moment.stack] at begins distinct apart readable
  constructor
  · rw [Moment.stack, head_stack_of_cons, same]
    exact begins
  · rw [Moment.stack, stack_of_cons, same]
    exact List.concat_eq_append ▸ distinct.concat fresh
  · rw [Moment.stack, stack_of_cons, same, kept]
    exact apart_concat.2 ⟨apart, not_kept_of_lookup unkept⟩
  · rw [Moment.stack, tail_stack_of_cons, same]
    intro source member
    rcases List.mem_append.1 member with earlier | last
    · exact readable earlier
    · rw [List.mem_singleton.1 last]
      exact Library.mem_ids_of_load found

theorem sound_of_transition {moment later : Moment}
    (transition : Transition (.ofLibrary library) bindings moment later)
    (sound : StackSound template library moment) : StackSound template library later := by
  cases transition with
  | giveUp => exact sound_of_left sound rfl (.inl rfl)
  | close => exact sound_of_same sound rfl rfl
  | deliver taken => exact sound_of_taken taken (sound_of_left sound rfl (.inr ⟨_, rfl⟩))
  | give taken => exact sound_of_taken taken (sound_of_same sound rfl rfl)
  | descend inside => exact sound_of_same sound rfl rfl
  | enter ordinary => exact sound_of_same sound rfl rfl
  | refuse refers refused => exact sound_of_same sound rfl rfl
  | reuse found taken => exact sound_of_taken taken (sound_of_same sound rfl rfl)
  | miss fresh unkept missing => exact sound_of_same sound rfl rfl
  | load refers fresh unkept found =>
      refine sound_of_loaded sound ?_ fresh unkept found ?_
      · rfl
      · rfl

theorem sound_first : StackSound template library (Moment.first template bindings) where
  begins := rfl
  distinct := List.nodup_singleton _
  apart := fun _ _ => List.not_mem_nil
  readable := List.nil_subset _

/-- Only the template itself can be expanded without being a source of the library. -/
theorem stack_length_le {moment : Moment} (sound : StackSound template library moment) :
    moment.stack.length ≤ library.ids.toFinset.card + 1 := by
  have tail : moment.stack.tail.length ≤ library.ids.toFinset.card := by
    rw [← List.toFinset_card_of_nodup (sound.distinct.sublist (List.tail_sublist _))]
    apply Finset.card_le_card
    intro source member
    exact List.mem_toFinset.2 (sound.readable (List.mem_toFinset.1 member))
  rw [List.length_tail] at tail
  omega

theorem child_at {nodes : Forest} {route : Route} {node child : Node}
    (found : nodes.at? route = some node) (member : child ∈ node.children) :
    ∃ below, nodes.at? below = some child := by
  rcases List.getElem?_of_mem member with ⟨index, here⟩
  refine ⟨route ++ [index], ?_⟩
  have below : route.isEmpty = false := by
    cases route with
    | nil => cases found
    | cons first rest => rfl
  rw [Forest.at?_append, Document.childrenAt, below]
  simp only [Bool.false_eq_true, if_false, found, Option.elim_some, Forest.at?_cons, here]
  rfl

theorem holds_child {node child : Node} (holds : Holds template library source node)
    (member : child ∈ node.children) : Holds template library source child := by
  rcases holds with ⟨document, route, own, found⟩
  rcases child_at found member with ⟨below, there⟩
  exact ⟨document, below, own, there⟩

theorem holds_top {document : Document} {node : Node}
    (own : documentOf? template library source = some document) (member : node ∈ document.nodes) :
    Holds template library source node := by
  rcases List.getElem?_of_mem member with ⟨index, here⟩
  refine ⟨document, [index], own, ?_⟩
  rw [Forest.at?_cons, here]
  rfl

def Frame.pending (frame : Frame) : Forest := frame.todo ++ frame.around.flatMap (·.after)

structure Traced (template : Template) (library : Library) (bindings : Bindings)
    (moment : Moment) : Prop where
  follows : moment.stack.IsChain (Includes template library bindings)
  held : ∀ frame ∈ moment.frame :: moment.waiting.map (·.frame), ∀ node ∈ frame.pending,
    Holds template library frame.source node
  cyclic : ∀ chain, moment.failure = some (.cyclicInclude chain) →
    IncludeCycle template library bindings chain

/-- A moment at which the same sources are expanded, with fewer nodes to visit or ones that are held
as well. -/
theorem traced_of_same {moment later : Moment} (traced : Traced template library bindings moment)
    (source : later.frame.source = moment.frame.source) (waiting : later.waiting = moment.waiting)
    (held : ∀ node ∈ later.frame.pending, node ∈ moment.frame.pending ∨
      Holds template library moment.frame.source node)
    (cyclic : ∀ chain, later.failure = some (.cyclicInclude chain) →
      IncludeCycle template library bindings chain) :
    Traced template library bindings later := by
  constructor
  · rw [Moment.stack, source, waiting]
    exact traced.follows
  · intro frame member node pending
    rw [waiting] at member
    rcases List.mem_cons.1 member with rfl | below
    · rw [source]
      rcases held node pending with before | holds
      · exact traced.held _ (.head _) node before
      · exact holds
    · exact traced.held frame (.tail _ below) node pending
  · exact cyclic

theorem traced_of_taken {Described : Forest → Prop} {moment later : Moment}
    (taken : Taken Described moment later) (traced : Traced template library bindings moment) :
    Traced template library bindings later := by
  cases taken with
  | got quiet described =>
      exact traced_of_same traced rfl rfl (fun node pending => .inl pending) nofun
  | failed acyclic =>
      refine traced_of_same traced rfl rfl nofun ?_
      intro chain same
      exact absurd (Option.some.inj same) (acyclic chain)

theorem traced_of_left {frame other : Frame} {parent : Waiting} {progress later : Progress}
    {failure : Option Failure}
    (traced : Traced template library bindings ⟨frame, parent :: waiting, progress, failure⟩)
    (same : other.source = parent.frame.source)
    (fewer : ∀ node ∈ other.pending, node ∈ parent.frame.pending) :
    Traced template library bindings ⟨other, waiting, later, failure⟩ := by
  rcases traced with ⟨follows, held, cyclic⟩
  simp only [Moment.stack] at follows
  rw [stack_of_cons] at follows
  constructor
  · rw [Moment.stack, same]
    exact follows.left_of_append
  · intro current member node pending
    rcases List.mem_cons.1 member with rfl | below
    · rw [same]
      exact held parent.frame (.tail _ (.head _)) node (fewer node pending)
    · exact held current (.tail _ (.tail _ below)) node pending
  · exact cyclic

theorem follows_concat {node : Node} {target : SourceId}
    (follows : (stackOf waiting source).IsChain (Includes template library bindings))
    (holds : Holds template library source node)
    (refers : targetOf? (.ofLibrary library) bindings source node = some target) :
    (stackOf waiting source ++ [target]).IsChain (Includes template library bindings) := by
  refine follows.append (.singleton _) ?_
  intro last isLast next isNext
  rw [last_stack_of, Option.mem_some] at isLast
  rw [List.head?_singleton, Option.mem_some] at isNext
  rw [← isLast, ← isNext]
  exact ⟨node, holds, refers⟩

/-- The chain that a refused include reports. -/
theorem cycle_of_refused {node : Node} {target : SourceId} {frame : Frame} {progress : Progress}
    (sound : StackSound template library ⟨frame, waiting, progress, none⟩)
    (traced : Traced template library bindings ⟨frame, waiting, progress, none⟩)
    (holds : Holds template library frame.source node)
    (refers : targetOf? (.ofLibrary library) bindings frame.source node = some target)
    (refused : target ∈ stackOf waiting frame.source) :
    IncludeCycle template library bindings (stackOf waiting frame.source ++ [target]) where
  begins := by
    rw [List.head?_append_of_ne_nil _ stack_of_ne_nil]
    exact sound.begins
  distinct := by
    rw [List.dropLast_concat]
    exact sound.distinct
  returns := by
    refine ⟨target, ?_, List.getLast?_concat⟩
    rw [List.dropLast_concat]
    exact refused
  follows := follows_concat traced.follows holds refers

theorem document_of_loaded {stack : List SourceId} {target : SourceId} {loaded : Document}
    (begins : stack.head? = some template.source) (fresh : target ∉ stack)
    (found : library.load target = .ok loaded) :
    documentOf? template library target = some loaded := by
  have other : target ≠ template.source := by
    intro root
    rw [root] at fresh
    exact fresh (List.mem_of_mem_head? begins)
  rw [documentOf?, if_neg other, found]
  rfl

theorem traced_of_loaded {before frame : Frame} {node : Node} {target : SourceId}
    {loaded : Document} {selector : String} {progress later : Progress}
    (sound : StackSound template library ⟨before, waiting, progress, none⟩)
    (traced : Traced template library bindings ⟨before, waiting, progress, none⟩)
    (same : frame.source = before.source)
    (fewer : ∀ node ∈ frame.pending, node ∈ before.pending)
    (holds : Holds template library before.source node)
    (refers : targetOf? (.ofLibrary library) bindings before.source node = some target)
    (fresh : target ∉ stackOf waiting before.source) (found : library.load target = .ok loaded) :
    Traced template library bindings
      ⟨.ofSource target loaded.nodes, ⟨frame, selector⟩ :: waiting, later, none⟩ := by
  have own := document_of_loaded sound.begins fresh found
  constructor
  · rw [Moment.stack, stack_of_cons, same]
    exact follows_concat traced.follows holds refers
  · intro current member node pending
    rcases List.mem_cons.1 member with rfl | below
    · simp only [Frame.pending, Frame.ofSource, List.flatMap_nil, List.append_nil] at pending
      exact holds_top own pending
    · rcases List.mem_cons.1 below with rfl | outer
      · rw [same]
        exact traced.held before (.head _) node (fewer node pending)
      · exact traced.held current (.tail _ outer) node pending
  · intro chain running
    cases running

theorem traced_of_transition {moment later : Moment}
    (transition : Transition (.ofLibrary library) bindings moment later)
    (sound : StackSound template library moment)
    (traced : Traced template library bindings moment) :
    Traced template library bindings later := by
  have visited : ∀ node rest, moment.frame.todo = node :: rest →
      Holds template library moment.frame.source node := by
    intro node rest first
    refine traced.held moment.frame (.head _) node ?_
    rw [Frame.pending, first]
    exact .head _
  cases transition with
  | giveUp => exact traced_of_left traced rfl nofun
  | close =>
      refine traced_of_same traced rfl rfl ?_ nofun
      intro node pending
      exact .inl pending
  | deliver taken =>
      exact traced_of_taken taken (traced_of_left traced rfl fun _ pending => pending)
  | give taken =>
      refine traced_of_taken taken (traced_of_same traced rfl rfl ?_ nofun)
      intro node pending
      exact .inl (.tail _ pending)
  | descend inside =>
      refine traced_of_same traced rfl rfl ?_ nofun
      intro child pending
      simp only [Frame.pending, List.append_assoc] at pending
      rcases List.mem_append.1 pending with within | after
      · exact .inr (holds_child (visited _ _ rfl) (inside within))
      · exact .inl (.tail _ after)
  | enter ordinary =>
      refine traced_of_same traced rfl rfl ?_ nofun
      intro child pending
      simp only [Frame.pending, List.flatMap_cons] at pending
      rcases List.mem_append.1 pending with within | after
      · exact .inr (holds_child (visited _ _ rfl) within)
      · exact .inl (.tail _ after)
  | refuse refers refused =>
      refine traced_of_same traced rfl rfl nofun ?_
      intro chain same
      cases same
      exact cycle_of_refused sound traced (visited _ _ rfl) refers refused
  | reuse found taken =>
      refine traced_of_taken taken (traced_of_same traced rfl rfl ?_ nofun)
      intro node pending
      exact .inl (.tail _ pending)
  | miss fresh unkept missing => exact traced_of_same traced rfl rfl nofun nofun
  | load refers fresh unkept found =>
      refine traced_of_loaded sound traced ?_ ?_ (visited _ _ rfl) refers fresh found
      · rfl
      · intro node pending
        exact .tail _ pending

theorem traced_first : Traced template library bindings (Moment.first template bindings) where
  follows := .singleton _
  held := by
    intro frame member node pending
    rw [List.mem_singleton.1 member] at pending ⊢
    simp only [Frame.pending, Moment.first, Frame.ofSource, List.flatMap_nil,
      List.append_nil] at pending
    exact holds_top (if_pos rfl) pending
  cyclic := nofun

end

section
variable (template : Template) (library : Library) (bindings : Bindings)

def Reached (moment : Moment) : Prop :=
  Moment.Leads (.ofLibrary library) bindings [] (Moment.first template bindings) moment

end

section
variable {template : Template} {library : Library} {bindings : Bindings}

theorem sound_of_reached {moment : Moment} (reached : Reached template library bindings moment) :
    StackSound template library moment ∧ Traced template library bindings moment := by
  induction reached with
  | refl => exact ⟨sound_first, traced_first⟩
  | tail _ step ih =>
      have transition := transition_of_next step.1
      exact ⟨sound_of_transition transition ih.1, traced_of_transition transition ih.1 ih.2⟩

/-- A failure that is met anywhere is what the whole expansion returns. -/
theorem error_of_reached {moment : Moment} {failure : Failure}
    (reached : Reached template library bindings moment) (failed : moment.failure = some failure) :
    (template.expand library bindings).1 = .error failure := by
  obtain ⟨last, leads, final, expanded⟩ := expansion_ends template library bindings
  have onward := leads_to_end (leads_mono List.nil_prefix leads) final reached
  rw [expanded]
  simp only [Moment.outcome, failure_leads failed onward]

theorem stack_of_taken {Described : Forest → Prop} {moment later : Moment}
    (taken : Taken Described moment later) : later.stack = moment.stack := by
  cases taken with
  | got quiet described => rfl
  | failed acyclic => rfl

/-- A source that is begun is left again, whether it can be expanded or not. -/
theorem returns_to_stack {before inside : Moment}
    (begins : before.next (.ofLibrary library) bindings = some inside)
    (deeper : before.stack.length < inside.stack.length) :
    ∃ last after, Moment.Leads (.ofLibrary library) bindings inside.stack inside last ∧
      last.next (.ofLibrary library) bindings = some after ∧ after.stack = before.stack := by
  cases transition_of_next begins with
  | load refers fresh unkept found =>
      rename_i source target around got node todo waiting progress selector loaded
      let parent : Waiting := ⟨⟨source, around, got, todo⟩, selector⟩
      have leads := source_leads library bindings (parent :: waiting) target loaded.nodes
        ((progress.tell [.running .inclusion source]).request target)
      rcases take_returns _ parent target with ⟨after, next, stack⟩
      exact ⟨_, after, leads, next, stack⟩
  | deliver taken =>
      rw [stack_of_taken taken] at deeper
      simp only [Moment.stack, stack_of_cons, List.length_append] at deeper
      omega
  | giveUp =>
      simp only [Moment.stack, stack_of_cons, List.length_append, Frame.ofSource] at deeper
      omega
  | give taken =>
      rw [stack_of_taken taken] at deeper
      exact absurd deeper (Nat.lt_irrefl _)
  | reuse found taken =>
      rw [stack_of_taken taken] at deeper
      exact absurd deeper (Nat.lt_irrefl _)
  | _ => exact absurd deeper (Nat.lt_irrefl _)

end

/-- The expansion of a template ends: all its steps lead to one last moment, which tells what the
expansion returns. At every moment the sources being expanded begin with that of the template, are
different and not kept, and are at most one more than the library has; they are the same again when
a source that was begun is left. A cycle is reported only where the documents include one another in
a cycle. -/
theorem expansion_steps_end (template : Template) (library : Library) (bindings : Bindings) :
    (∃ last, last.next (.ofLibrary library) bindings = none ∧
      template.expand library bindings = (last.outcome, last.conclusion) ∧
      ∀ moment, Reached template library bindings moment →
        Moment.Leads (.ofLibrary library) bindings [] moment last) ∧
    (∀ moment, Reached template library bindings moment →
      moment.stack.head? = some template.source ∧ moment.stack.Nodup ∧
        (∀ source ∈ moment.stack, source ∉ moment.progress.kept.map (·.1)) ∧
        moment.stack.length ≤ library.ids.toFinset.card + 1) ∧
    (∀ before inside, Reached template library bindings before →
      before.next (.ofLibrary library) bindings = some inside →
      before.stack.length < inside.stack.length →
        ∃ last after, Moment.Leads (.ofLibrary library) bindings inside.stack inside last ∧
          last.next (.ofLibrary library) bindings = some after ∧ after.stack = before.stack) ∧
    ∀ chain, (template.expand library bindings).1 = .error (.cyclicInclude chain) →
      IncludeCycle template library bindings chain := by
  rcases expansion_ends template library bindings with ⟨last, leads, final, expanded⟩
  have reached : Reached template library bindings last :=
    leads_mono List.nil_prefix leads
  refine ⟨⟨last, final, expanded, ?_⟩, ?_, ?_, ?_⟩
  · intro moment earlier
    exact leads_to_end reached final earlier
  · intro moment earlier
    have sound := (sound_of_reached earlier).1
    exact ⟨sound.begins, sound.distinct, sound.apart, stack_length_le sound⟩
  · intro before inside _ begins deeper
    exact returns_to_stack begins deeper
  · intro chain refused
    rw [expanded] at refused
    exact (sound_of_reached reached).2.cyclic chain (failure_of_outcome refused)

end XmlTemplate.Template
