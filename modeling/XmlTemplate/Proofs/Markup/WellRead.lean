import Mathlib.Data.List.DropRight
import XmlTemplate.Proofs.Markup.Declarations
import XmlTemplate.Proofs.Markup.Growing

/-!
What holds of every tree that was read. Names and values are unrestricted otherwise, but nothing in
the tree would have ended earlier than it did, no two texts are neighbours, and every name has the
namespace that the declarations around it give. The tree in the making has these properties at
every step.
-/

namespace XmlTemplate.Markup

def Node.isText : Node → Bool
  | .text _ => true
  | _ => false

def Forest.Apart (nodes : Forest) : Prop :=
  nodes.IsChain fun first second => ¬ (first.isText = true ∧ second.isText = true)

/-- A start tag that was read; the attributes of the tag itself are innermost around it. -/
structure WellReadTag (around : Surroundings) (name : Name) (attributes : Attributes) : Prop
    extends SpelledTag name attributes where
  opens : MayOpen name.written.toList
  declared : name.DeclaredIn around
  items : ∀ item ∈ attributes, item.DeclaredIn around
  reserved : ∀ item ∈ attributes, item.declaresPrefix = true →
    item.name.localName ≠ "xmlns" ∧ (item.name.localName = "xml" → item.value = xmlUri)

mutual
def Node.WellRead (around : Surroundings) : Node → Prop
  | .element name attributes children =>
      WellReadTag (attributes :: around) name attributes ∧
        (children ≠ [] → KeepsTagOpen name.written.toList) ∧
        Forest.Apart children ∧ Forest.WellRead (attributes :: around) children
  | .text content => content ≠ ""
  | .cdata content => ¬ "]]>".toList <:+: content.toList
  | .comment content => ¬ "-->".toList <:+: content.toList
  | .instruction content => InstructionContent content.toList
  | .doctype content =>
      Text.trimBlanks content.toList = content.toList ∧ isBalanced 0 content.toList = true
  | .declaration content => ∀ value ∈ content.values, ¬ "?>".toList <:+: value.toList

def Forest.WellRead (around : Surroundings) : Forest → Prop
  | [] => True
  | node :: rest => Node.WellRead around node ∧ Forest.WellRead around rest
end

theorem forest_well_read_iff {around : Surroundings} {nodes : Forest} :
    Forest.WellRead around nodes ↔ ∀ node ∈ nodes, node.WellRead around := by
  induction nodes with
  | nil => simp [Forest.WellRead]
  | cons node rest ih => simp [Forest.WellRead, ih]

theorem well_read_reverse {around : Surroundings} {nodes : Forest}
    (read : Forest.WellRead around nodes) : Forest.WellRead around nodes.reverse := by
  rw [forest_well_read_iff] at read ⊢
  intro node member
  exact read node (List.mem_reverse.1 member)

theorem apart_reverse {nodes : Forest} (apart : nodes.Apart) : Forest.Apart nodes.reverse := by
  unfold Forest.Apart at apart ⊢
  rw [List.isChain_reverse]
  exact apart.imp fun first second other both => other both.symm

section
variable {scope outer inner : Scope} {raws : List RawAttribute} {attributes : Attributes}
  {around : Surroundings} {content : List Char} {opened : OpenElement}

theorem declared_of_enter (entered : scope.enter raws = .ok inner) :
    ∀ raw ∈ raws, ∃ before after, Scope.declare before raw = .ok after := by
  induction raws generalizing scope with
  | nil =>
      intro raw member
      cases member
  | cons first raws ih =>
      rw [Scope.enter, List.foldlM_cons, bind_eq_ok_iff] at entered
      obtain ⟨middle, declared, later⟩ := entered
      intro raw member
      rcases List.mem_cons.1 member with rfl | further
      · exact ⟨scope, middle, declared⟩
      · exact ih later raw further

theorem reserved_of_declare {before after : Scope} {raw : RawAttribute} {item : Attribute}
    (declared : before.declare raw = .ok after) (becomes : raw.Becomes scope item)
    (declares : item.declaresPrefix = true) :
    item.name.localName ≠ "xmlns" ∧ (item.name.localName = "xml" → item.value = xmlUri) := by
  have split := (read_attribute_name_iff.1 becomes.1).1
  have front : item.name.nsPrefix = some "xmlns" := by
    simpa [Attribute.declaresPrefix] using declares
  have found := declared_eq_of_split raw.key
  rw [split, front] at found
  rw [declare_iff, found] at declared
  rcases declared with ⟨xml, own, -⟩ | ⟨not_xml, not_xmlns, -⟩
  · have base := String.toList_injective xml
    refine ⟨by rw [base]; decide, fun _ => ?_⟩
    have resolved := becomes.2
    rw [own] at resolved
    exact (Except.ok.inj resolved).symm
  · constructor
    · rintro same
      exact not_xmlns (congrArg String.toList same)
    · rintro same
      exact absurd (congrArg String.toList same) not_xml

theorem may_open_take_while (keeps : Char → Bool) (opens : MayOpen content) :
    MayOpen (content.takeWhile keeps) := by
  intro c first
  cases content with
  | nil => cases first
  | cons d later =>
      rw [List.takeWhile_cons] at first
      split at first
      · exact opens c first
      · cases first

theorem well_read_tag (tracks : outer.Tracks around) (opens : MayOpen content)
    (read : readTag outer content = .ok opened) :
    opened.written = opened.element.name.written.toList ∧ opened.element.children = [] ∧
      opened.before = [] ∧ opened.scope.Tracks (opened.element.attributes :: around) ∧
      WellReadTag (opened.element.attributes :: around) opened.element.name
        opened.element.attributes := by
  obtain ⟨raws, from_content⟩ := read_tag_iff.1 read
  obtain ⟨scanned, entered, written, named, becomes, distinct, childless, first⟩ := from_content
  have inside := enter_tracks tracks entered becomes
  have same := written_of_split (read_element_name_iff.1 named).1
  refine ⟨same.symm, childless, first, inside, spelled_of_read read, ?_,
    element_declared inside named, ?_, ?_⟩
  · rw [same, written]
    exact may_open_take_while _ opens
  · intro item member
    obtain ⟨raw, -, found⟩ := becomes_of_mem becomes member
    exact attribute_declared inside found.1
  · intro item member declares
    obtain ⟨raw, among, found⟩ := becomes_of_mem becomes member
    obtain ⟨before, after, declared⟩ := declared_of_enter entered raw among
    exact reserved_of_declare declared found declares

end

theorem trim_blanks_idem (chars : List Char) :
    Text.trimBlanks (Text.trimBlanks chars) = Text.trimBlanks chars := by
  let shown := chars.dropWhile Text.isBlank
  have front : Text.trimEnd Text.isBlank shown <+: shown := List.rdropWhile_prefix _ _
  have first : (Text.trimEnd Text.isBlank shown).dropWhile Text.isBlank =
      Text.trimEnd Text.isBlank shown := by
    cases same : Text.trimEnd Text.isBlank shown with
    | nil => rfl
    | cons c later =>
        rw [same] at front
        obtain ⟨rest, split⟩ := front
        have starts := List.head?_dropWhile_not Text.isBlank chars
        have head : (chars.dropWhile Text.isBlank).head? = some c := by
          change shown.head? = some c
          rw [← split]
          rfl
        rw [head] at starts
        rw [List.dropWhile_cons_of_neg (by simpa using starts)]
  change Text.trimEnd Text.isBlank ((Text.trimEnd Text.isBlank shown).dropWhile Text.isBlank) =
    Text.trimEnd Text.isBlank shown
  rw [first]
  exact List.rdropWhile_idempotent _ _

theorem version_of_declared {scan : Scan} {value : String}
    (read : declaredVersion scan = .ok value) :
    ∃ raw ∈ scan.attributes, value.toList = raw.value := by
  unfold declaredVersion at read
  split at read
  · rename_i raw later same
    split at read
    · cases read
      exact ⟨raw, by rw [same]; exact .head _, by rw [String.toList_ofList]⟩
    · cases read
  · split at read <;> cases read

theorem value_of_declared {scan : Scan} {key value : String}
    (read : declaredValue scan key = .ok (some value)) :
    ∃ raw ∈ scan.attributes, value.toList = raw.value := by
  unfold declaredValue at read
  split at read
  · rename_i raw found
    cases read
    exact ⟨raw, List.mem_of_find?_eq_some found, by rw [String.toList_ofList]⟩
  · split at read <;> cases read

theorem values_of_declaration {content : List Char} {declaration : Declaration}
    (read : readDeclaration content = .ok declaration) :
    ∀ value ∈ declaration.values, value.toList <:+: content := by
  unfold readDeclaration at read
  simp only [bind_eq_ok_iff] at read
  obtain ⟨version, first, encoding, second, standalone, third, same⟩ := read
  cases same
  have inside : ∀ value : String, (∃ raw ∈ (Tag.scan (Text.size content)
      (content.drop 3)).attributes, value.toList = raw.value) → value.toList <:+: content := by
    rintro value ⟨raw, member, same⟩
    rw [same]
    exact (scan_keys_stand _ _ raw member).2.trans (List.drop_suffix 3 content).isInfix
  intro value member
  apply inside
  rcases List.mem_cons.1 member with rfl | later
  · exact version_of_declared first
  · rcases List.mem_append.1 later with among | among
    · rw [Option.mem_toList] at among
      subst among
      exact value_of_declared second
    · rw [Option.mem_toList] at among
      subst among
      exact value_of_declared third

theorem keeps_tag_open_closing_name {content : List Char} (keeps : KeepsTagOpen content) :
    KeepsTagOpen (closingName content) := by
  unfold closingName
  split
  · exact keeps
  · have split : content.rdropWhile Text.isMarkupBlank ++ content.rtakeWhile Text.isMarkupBlank =
        content := List.rdropWhile_append_rtakeWhile
    have blank : ∀ c ∈ content.rtakeWhile Text.isMarkupBlank, Text.isMarkupBlank c = true :=
      fun c member => List.mem_rtakeWhile_imp member
    rw [← split] at keeps
    refine (keeps_tag_open_append_iff ?_ ?_ ?_).1 keeps
    · exact fun member => absurd (blank _ member) (by decide)
    · exact fun member => absurd (blank _ member) (by decide)
    · exact fun member => absurd (blank _ member) (by decide)

section
variable {construct : Construct} {node : Node}

theorem is_text_of_stands (stands : construct.StandsFor node) : node.isText = construct.isText := by
  cases stands <;> rfl

/-- A leaf that was cut out of a text ends nowhere inside itself. -/
theorem well_read_of_stands {around : Surroundings} (stands : construct.StandsFor node)
    (cut : construct.WellCut) : node.WellRead around := by
  have same (raw : List Char) : (String.ofList raw).toList = raw := String.toList_ofList
  cases stands with
  | text resolved => exact fun empty => cut.1 ((Reference.resolved_empty_iff
      (read_references_iff.1 resolved)).1 empty)
  | comment content | cdata content | instruction content =>
      unfold Node.WellRead
      rw [same content]
      exact cut
  | declaration read =>
      exact fun value member inside => cut (inside.trans (values_of_declaration read value member))
  | doctype content =>
      rw [Node.WellRead, same, trim_blanks_idem, balanced_trim]
      exact ⟨rfl, cut⟩

end

def WellOpened : List OpenElement → Prop
  | [] => True
  | inner :: outer =>
      let around := inner.element.attributes :: outer.map (·.element.attributes)
      inner.written = inner.element.name.written.toList ∧
        WellReadTag around inner.element.name inner.element.attributes ∧
        inner.scope.Tracks around ∧ Forest.Apart inner.before ∧
        Forest.WellRead around inner.before ∧ WellOpened outer

namespace Growth

def around (growth : Growth) : Surroundings := growth.opened.map (·.element.attributes)

/-- The nodes at the current place, last first. -/
def siblings (growth : Growth) : Forest :=
  match growth.opened with
  | [] => growth.finished
  | inner :: _ => inner.before

structure WellGrown (growth : Growth) : Prop where
  opened : WellOpened growth.opened
  finished : Forest.WellRead [] growth.finished
  apart : Forest.Apart growth.finished

variable {growth grown : Growth} {node : Node}

theorem scope_tracks (well : growth.WellGrown) : growth.scope.Tracks growth.around := by
  obtain ⟨opened, -, -⟩ := well
  obtain ⟨_ | ⟨inner, outer⟩, finished, roots⟩ := growth
  · exact outermost_answers
  · exact opened.2.2.1

/-- A node that was read goes well with those before it, unless there is text on both sides. -/
theorem attach_well_grown (well : growth.WellGrown) (read : node.WellRead growth.around)
    (apart : ∀ before ∈ growth.siblings.head?, ¬ (before.isText = true ∧ node.isText = true)) :
    (growth.attach node).WellGrown := by
  obtain ⟨opened, finished, separate⟩ := well
  obtain ⟨_ | ⟨inner, outer⟩, nodes, roots⟩ := growth
  · refine ⟨trivial, ⟨read, finished⟩, List.isChain_cons.2 ⟨?_, separate⟩⟩
    rintro before first ⟨texts, text⟩
    exact apart before first ⟨text, texts⟩
  · obtain ⟨written, tag, tracks, chain, before, outside⟩ := opened
    refine ⟨⟨written, tag, tracks, List.isChain_cons.2 ⟨?_, chain⟩, ⟨read, before⟩, outside⟩,
      finished, separate⟩
    rintro other first ⟨texts, text⟩
    exact apart other first ⟨text, texts⟩

theorem siblings_attach (growth : Growth) (node : Node) :
    (growth.attach node).siblings = node :: growth.siblings := by
  obtain ⟨_ | ⟨inner, outer⟩, nodes, roots⟩ := growth <;> rfl

theorem with_roots_well_grown (roots : List Nat) (well : growth.WellGrown) :
    (growth.withRoots roots).WellGrown := ⟨well.opened, well.finished, well.apart⟩

/-- Whether the next construct may be text is decided by the last node at the current place. -/
def Awaits (growth : Growth) (construct : Construct) : Prop :=
  ∀ before ∈ growth.siblings.head?, ¬ (before.isText = true ∧ construct.isText = true)

theorem attach_step {construct : Construct} (well : growth.WellGrown)
    (awaits : growth.Awaits construct) (read : node.WellRead growth.around)
    (kind : node.isText = construct.isText) : (growth.attach node).WellGrown ∧
      ∀ before ∈ (growth.attach node).siblings.head?, before.isText = construct.isText := by
  refine
    ⟨attach_well_grown well read fun before first => by rw [kind]; exact awaits before first, ?_⟩
  rw [siblings_attach]
  rintro before ⟨⟩
  exact kind

theorem open_step {inner : OpenElement} {content : List Char} {start : Nat}
    (well : growth.WellGrown) (opens : MayOpen content)
    (read : readTag growth.scope content = .ok inner) :
    WellGrown { growth.noteRoot start with opened := inner :: (growth.noteRoot start).opened } := by
  obtain ⟨roots, same⟩ := growth.note_root_with_roots start
  rw [same]
  obtain ⟨written, childless, first, tracks, tag⟩ := well_read_tag (scope_tracks well) opens read
  refine ⟨⟨written, tag, tracks, ?_, ?_, well.opened⟩, well.finished, well.apart⟩
  · rw [first]
    exact .nil
  · rw [first]
    trivial

theorem close_step {content : List Char} {inner : OpenElement} {outer : List OpenElement}
    (well : growth.WellGrown) (keeps : KeepsTagOpen content)
    (opened : growth.opened = inner :: outer) (named : inner.written = closingName content) :
    WellGrown ({ growth with opened := outer }.attach
      { inner.element with children := inner.before.reverse }.toNode) := by
  obtain ⟨_, finished, roots⟩ := growth
  cases opened
  obtain ⟨⟨written, tag, tracks, apart, before, outside⟩, done, separate⟩ := well
  have keeps_name : KeepsTagOpen inner.element.name.written.toList := by
    rw [← written, named]
    exact keeps_tag_open_closing_name keeps
  refine attach_well_grown ⟨outside, done, separate⟩
    ⟨tag, fun _ => keeps_name, apart_reverse apart, well_read_reverse before⟩ ?_
  rintro node first ⟨-, text⟩
  cases text

/-- One construct leaves the tree well read. -/
theorem step_well_grown {lexeme : Lexeme} (well : growth.WellGrown)
    (cut : lexeme.construct.WellCut) (awaits : growth.Awaits lexeme.construct)
    (stepped : growth.step lexeme = .ok grown) :
    grown.WellGrown ∧
      ∀ before ∈ grown.siblings.head?, before.isText = true → lexeme.construct.isText = true := by
  obtain ⟨start, stop, construct⟩ := lexeme
  cases takes_of_step stepped with
  | leaf stands =>
      obtain ⟨still, last⟩ := attach_step well awaits (well_read_of_stands stands cut)
        (is_text_of_stands stands)
      exact ⟨still, fun before first text => last before first ▸ text⟩
  | opening read =>
      refine ⟨open_step well cut.1 read, ?_⟩
      intro before last
      obtain ⟨-, -, first, -, -⟩ := well_read_tag (scope_tracks well) cut.1 read
      simp only [siblings, first] at last
      cases last
  | @selfClosing content inner read =>
      obtain ⟨roots, noted⟩ := growth.note_root_with_roots start
      have opens : MayOpen content := may_open_of_append cut.1
      obtain ⟨-, childless, -, -, tag⟩ := well_read_tag (scope_tracks well) opens read
      have node : inner.element.toNode.WellRead growth.around := by
        rw [Element.toNode, childless]
        exact ⟨tag, fun some_child => absurd rfl some_child, .nil, trivial⟩
      obtain ⟨still, last⟩ := attach_step well awaits node rfl
      rw [noted, attach_with_roots]
      exact ⟨with_roots_well_grown roots still, fun before first text => last before first ▸ text⟩
  | closing opened named =>
      refine ⟨close_step well cut opened named, ?_⟩
      rw [siblings_attach]
      rintro before ⟨⟩ text
      cases text

theorem empty_well_grown : Growth.empty.WellGrown := ⟨trivial, trivial, .nil⟩

theorem run_well_grown {lexemes : List Lexeme} (well : growth.WellGrown)
    (cut : ∀ lexeme ∈ lexemes, lexeme.construct.WellCut)
    (apart : lexemes.IsChain fun first second =>
      ¬ (first.construct.isText = true ∧ second.construct.isText = true))
    (awaits : ∀ lexeme ∈ lexemes.head?, growth.Awaits lexeme.construct)
    (ran : growth.run lexemes = .ok grown) : grown.WellGrown := by
  induction lexemes generalizing growth with
  | nil =>
      cases ran
      exact well
  | cons lexeme lexemes ih =>
      rw [run] at ran
      split at ran
      · cases ran
      · rename_i next stepped
        obtain ⟨later, rest⟩ := List.isChain_cons.1 apart
        obtain ⟨still, last⟩ :=
          step_well_grown well (cut lexeme (.head _)) (awaits lexeme rfl) stepped
        apply ih still (fun other member => cut other (.tail _ member)) rest _ ran
        rintro other first before final ⟨text, again⟩
        exact later other first ⟨last before final text, again⟩

end Growth

theorem well_grown_of_grow {text : List Char} {grown : Growth} (read : grow text = .ok grown) :
    grown.WellGrown := by
  obtain ⟨ran, -, -⟩ := grow_iff.1 read
  obtain ⟨cut, apart⟩ := well_cut_lexemes (Text.size (withoutMark text)) (withoutMark text)
  exact Growth.run_well_grown Growth.empty_well_grown cut apart
    (fun lexeme _ before first => by cases first) ran

/-- Whatever was read is well read. -/
theorem well_read_of_read {text : String} {nodes : Forest} (read : Forest.read text = .ok nodes) :
    Forest.Apart nodes ∧ Forest.WellRead [] nodes := by
  obtain ⟨grown, grew, rfl⟩ := forest_read_iff.1 read
  have well := well_grown_of_grow grew
  exact ⟨apart_reverse well.apart, well_read_reverse well.finished⟩

end XmlTemplate.Markup
