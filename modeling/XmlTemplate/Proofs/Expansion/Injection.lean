import XmlTemplate.Proofs.Expansion.Untemplated
import XmlTemplate.Proofs.Markup.Documents
import XmlTemplate.Proofs.Markup.Rewording

/-!
Plain values cannot bring in markup. What an expansion makes from sources with plain names is a
page: the values of variables end up in texts and in attributes, and text is escaped where it is
written. So the page is read back as it is, unless an attribute was given a name that does not stand
where it is written, or a prefix was declared for what it may not stand for.
-/

namespace XmlTemplate.Template

open Markup

/-- A tag in which prefixes are used for directives alone. -/
structure PlainTag (name : Name) (attributes : Attributes) : Prop where
  words : name.OfWords
  directive : name.nsPrefix ≠ none → isDirective name = true
  items : ∀ item ∈ attributes, item.name.OfWords
  declares : ∀ item ∈ attributes, item.name.nsPrefix ≠ none →
    item.declaresPrefix = true ∧ item.value = templateUri

mutual
/-- A node of a source with plain names and without declarations and document types. -/
def PlainNode : Node → Prop
  | .element name attributes children => PlainTag name attributes ∧ PlainForest children
  | .declaration _ => False
  | .doctype _ => False
  | _ => True

def PlainForest : Forest → Prop
  | [] => True
  | node :: rest => PlainNode node ∧ PlainForest rest
end

instance (name : Name) (attributes : Attributes) : Decidable (PlainTag name attributes) :=
  decidable_of_iff (_ ∧ _ ∧ _ ∧ _)
    ⟨fun ⟨words, directive, items, declares⟩ => ⟨words, directive, items, declares⟩,
      fun ⟨words, directive, items, declares⟩ => ⟨words, directive, items, declares⟩⟩

mutual
def decidePlainNode : (node : Node) → Decidable (PlainNode node)
  | .element _ _ children =>
      have := decidePlainForest children
      inferInstanceAs (Decidable (_ ∧ PlainForest children))
  | .declaration _ | .doctype _ => .isFalse id
  | .text _ | .cdata _ | .comment _ | .instruction _ => .isTrue trivial

def decidePlainForest : (nodes : Forest) → Decidable (PlainForest nodes)
  | [] => .isTrue trivial
  | node :: rest =>
      have := decidePlainNode node
      have := decidePlainForest rest
      inferInstanceAs (Decidable (_ ∧ _))
end

instance (nodes : Forest) : Decidable (PlainForest nodes) := decidePlainForest nodes

def Value.IsPlain : Value → Prop
  | .node _ => False
  | .nodes _ => False
  | _ => True

theorem settled_page_attributes {around : Markup.Surroundings} {name : Name}
    {attributes : Attributes} (read : WellReadTag around name attributes)
    (plain : PlainTag name attributes) :
    SettledNames ((pageAttributes attributes).map (·.name)) := by
  constructor
  · intro other member
    obtain ⟨item, inside, rfl⟩ := List.mem_map.1 member
    obtain ⟨among, page⟩ := List.mem_filter.1 inside
    have unprefixed : item.name.nsPrefix = none := by
      cases front : item.name.nsPrefix with
      | none => rfl
      | some lead =>
          have declares := plain.declares item among (by rw [front]; exact Option.some_ne_none lead)
          simp [isTemplating, declares] at page
    exact canonical_of_word (plain.items item among).base unprefixed
  · rw [List.pairwise_map]
    exact read.distinct.sublist List.filter_sublist

theorem settled_edit {attributes : Attributes} (edit : Edit)
    (settled : SettledNames (attributes.map (·.name))) :
    SettledNames ((edit.apply attributes).map (·.name)) := by
  unfold Edit.apply
  split
  · exact settled_set settled _ _
  · exact settled_erase settled _

theorem settled_edits {attributes : Attributes} (edits : List Edit)
    (settled : SettledNames (attributes.map (·.name))) :
    SettledNames ((edits.foldl Edit.apply attributes).map (·.name)) := by
  induction edits generalizing attributes with
  | nil => exact settled
  | cons edit rest ih => exact ih (settled_edit edit settled)

theorem of_page_children {node : Node} (page : node.OfPage) :
    ∀ child ∈ node.children, child.OfPage := by
  cases page with
  | element word unprefixed settled inside => exact inside
  | leaf childless readable =>
      cases node with
      | element name attributes children => cases childless
      | _ => exact nofun

theorem page_leaf {node : Node} (childless : node.element? = none) (readable : node.Readable []) :
    Forest.OfPage [node] := by
  intro other member
  rw [List.mem_singleton.1 member]
  exact .leaf childless readable

def KeepsPages (progress : Progress) : Prop :=
  ∀ entry ∈ progress.kept, Forest.OfPage entry.2.nodes

/-- Where only pages are kept before, what a part gives is as described, and only pages are kept
afterwards. -/
def Gives {Result : Type} (part : Expand Result) (Described : Result → Prop) : Prop :=
  ∀ progress, KeepsPages progress → ∀ value later, part progress = (.ok value, later) →
    Described value ∧ KeepsPages later

section
variable {Result Other : Type} {Described : Result → Prop} {Further : Other → Prop}

theorem gives_pure {value : Result} (described : Described value) :
    Gives (pure value) Described := by
  intro progress pages given later ran
  cases ran
  exact ⟨described, pages⟩

theorem gives_throw (failure : Failure) : Gives (throw failure) Described := by
  intro progress _ given later ran
  cases ran

theorem gives_note (event : Event) : Gives (note event) fun _ => True := by
  intro progress pages given later ran
  cases ran
  exact ⟨trivial, pages⟩

theorem gives_bind {first : Expand Result} {next : Result → Expand Other}
    (before : Gives first Described)
    (after : ∀ value, Described value → Gives (next value) Further) :
    Gives (first >>= next) Further := by
  intro progress pages given last ran
  obtain ⟨value, later, start, rest⟩ := ok_of_bind ran
  obtain ⟨described, still⟩ := before progress pages value later start
  exact after value described later still given last rest

theorem gives_lift (outcome : Except Failure Result) :
    Gives (liftM outcome : Expand Result) fun _ => True := by
  cases outcome with
  | error failure => exact gives_throw failure
  | ok value => exact gives_pure trivial

theorem gives_select {document : Document} (page : Forest.OfPage document.nodes)
    (selector : String) : Gives (Surroundings.select selector document) Forest.OfPage := by
  unfold Surroundings.select
  split
  · exact gives_throw _
  · rename_i nodes selected
    exact gives_bind (gives_note _) fun _ _ =>
      gives_pure (holds_select (fun _ => of_page_children) page selected)

end

structure Surroundings.BringPages (surroundings : Surroundings) : Prop where
  bound : ∀ name value, surroundings.bindings.get? name = some value → value.IsPlain
  fetched : ∀ written target,
    Gives (surroundings.fetch written target) fun document => Forest.OfPage document.nodes

section
variable {surroundings : Surroundings}

theorem gives_inclusion (bring : surroundings.BringPages) (src elements : Setting) :
    Gives (surroundings.runInclusion src elements) fun yield => Forest.OfPage yield.nodes := by
  unfold Surroundings.runInclusion
  apply gives_bind (gives_lift _)
  intro (form, written) _
  apply gives_bind (bring.fetched _ _)
  intro document page
  exact gives_bind (gives_select page _) fun _ selected => gives_pure selected

theorem gives_attr (enclosed : Bool) (name value : Setting) :
    Gives (surroundings.runAttr enclosed name value) fun yield => Forest.OfPage yield.nodes := by
  unfold Surroundings.runAttr
  apply gives_bind (gives_lift _)
  intro (form, attr) _
  cases enclosed with
  | true => exact gives_pure nofun
  | false => exact gives_throw _

theorem gives_dynamic (bring : surroundings.BringPages) (var : Option String) :
    Gives (surroundings.runDynamic var) fun yield => Forest.OfPage yield.nodes := by
  unfold Surroundings.runDynamic
  split
  · rename_i value found
    obtain ⟨name, -, known⟩ := Option.bind_eq_some_iff.1 found
    have plain := bring.bound name value known
    apply gives_pure
    cases value with
    | node content => exact plain.elim
    | nodes content => exact plain.elim
    | string | bool | integer | float => exact page_leaf rfl trivial
  · exact gives_bind (gives_note _) fun _ _ => gives_pure nofun

mutual
/-- A node of a plain source contributes nodes of a page. -/
theorem gives_node (bring : surroundings.BringPages) (enclosed : Bool)
    (around : Markup.Surroundings) : (node : Node) → node.WellRead around → PlainNode node →
      Gives (surroundings.expandNode enclosed node) fun yield => Forest.OfPage yield.nodes
  | .element name attributes children, ⟨read, _, _, below⟩, ⟨plain, inside⟩ => by
      simp only [Surroundings.expandNode]
      split
      · apply gives_bind (gives_lift _)
        intro directive _
        apply gives_bind (gives_note _)
        intro _ _
        cases directive with
        | condition var value =>
            dsimp only
            split
            · exact gives_forest bring enclosed _ children below inside
            · exact gives_pure nofun
        | inclusion src elements => exact gives_inclusion bring src elements
        | text var =>
            exact gives_pure (page_leaf rfl trivial)
        | attr name value => exact gives_attr enclosed name value
        | dynamic var => exact gives_dynamic bring var
      · rename_i ordinary
        apply gives_bind (gives_forest bring true _ children below inside)
        intro inner page
        apply gives_pure
        intro node member
        rw [List.mem_singleton.1 member]
        refine .element plain.words.base ?_
          (settled_edits _ (settled_page_attributes read plain)) page
        cases front : name.nsPrefix with
        | none => rfl
        | some lead =>
            exact absurd (plain.directive (by rw [front]; exact Option.some_ne_none lead)) ordinary
  | .text content, _, _ => gives_pure (page_leaf rfl trivial)
  | .cdata content, read, _ | .comment content, read, _ | .instruction content, read, _ =>
      gives_pure (page_leaf rfl read)
  | .doctype content, _, plain => plain.elim
  | .declaration content, _, plain => plain.elim

theorem gives_forest (bring : surroundings.BringPages) (enclosed : Bool)
    (around : Markup.Surroundings) : (nodes : Forest) → Forest.WellRead around nodes →
      PlainForest nodes →
      Gives (surroundings.expandForest enclosed nodes) fun yield => Forest.OfPage yield.nodes
  | [], _, _ => gives_pure nofun
  | node :: rest, ⟨read, later⟩, ⟨plain, others⟩ => by
      rw [Surroundings.expandForest]
      apply gives_bind (gives_node bring enclosed around node read plain)
      intro first page
      apply gives_bind (gives_forest bring enclosed around rest later others)
      intro second further
      exact gives_pure (List.forall_mem_append.2 ⟨page, further⟩)
end

end

section
variable {library : Library} {bindings : Bindings}

theorem plain_of_in_memory {entries : List (SourceId × String)}
    (each : ∀ entry ∈ entries, ∀ loaded, Document.read entry.2 = .ok loaded →
      PlainForest loaded.nodes) :
    ∀ source loaded, (Library.inMemory entries).load source = .ok loaded →
      PlainForest loaded.nodes := by
  intro source loaded found
  obtain ⟨text, kept, read⟩ := Library.read_of_in_memory found
  exact each (source, text) kept loaded read

theorem well_read_of_load {source : SourceId} {loaded : Document}
    (found : library.load source = .ok loaded) : Forest.WellRead [] loaded.nodes := by
  unfold Library.load at found
  split at found
  · cases found
  · exact (well_read_of_document (map_error_eq_ok_iff.1 found)).2

/-- The target of an include is a page if every source is expanded to one. -/
theorem gives_fetch {stack : List SourceId} (source : SourceId)
    (nested : ∀ target loaded, target ∉ stack → library.load target = .ok loaded →
      Gives (expandSource library bindings (stack ++ [target]) target loaded)
        fun document => Forest.OfPage document.nodes)
    (written : String) (target : SourceId) :
    Gives (fetchKept library bindings stack source written target)
      fun document => Forest.OfPage document.nodes := by
  intro progress pages given later ran
  obtain ⟨fresh, ⟨kept, rfl⟩ | ⟨-, loaded, middle, found, inner, rfl⟩⟩ := fetch_ok_cases ran
  · exact ⟨pages _ (mem_of_lookup kept), pages⟩
  · obtain ⟨page, still⟩ :=
      nested target loaded fresh found (progress.request target) pages given middle inner
    exact ⟨page, List.forall_mem_cons.2 ⟨page, still⟩⟩

theorem gives_source (bound : ∀ entry ∈ bindings.entries, entry.2.IsPlain)
    (sources : ∀ source loaded, library.load source = .ok loaded → PlainForest loaded.nodes)
    (stack : List SourceId) (source : SourceId) {document : Document}
    (read : Forest.WellRead [] document.nodes) (plain : PlainForest document.nodes) :
    Gives (expandSource library bindings stack source document)
      fun expanded => Forest.OfPage expanded.nodes := by
  have fetched := gives_fetch source fun target loaded fresh found =>
    gives_source bound sources (stack ++ [target]) target (well_read_of_load found)
      (sources target loaded found)
  have bring : (Surroundings.mk bindings source
      (fetchKept library bindings stack source)).BringPages :=
    ⟨fun name value found => bound _ (mem_of_get found), fetched⟩
  rw [expand_source_eq]
  apply gives_bind (gives_forest bring false [] document.nodes read plain)
  intro contribution page
  exact gives_pure page
termination_by unvisited library stack
decreasing_by exact unvisited_lt fresh found

/-- An expansion of plain sources with plain values is a page. -/
theorem page_of_expand {text : String} {template : Template} {document : Document}
    (read : Document.read text = .ok template.document)
    (plain : PlainForest template.document.nodes)
    (sources : ∀ source loaded, library.load source = .ok loaded → PlainForest loaded.nodes)
    (bound : ∀ entry ∈ bindings.entries, entry.2.IsPlain)
    (expanded : (template.expand library bindings).1 = .ok document) :
    Forest.OfPage document.nodes := by
  unfold Template.expand at expanded
  rw [fst_run_expand_all] at expanded
  have well := (well_read_of_document read).2
  have gives := gives_source bound sources [template.source] template.source well plain
  refine (gives _ ?_ document _ (Prod.ext expanded rfl)).1
  intro entry member
  cases member

/-- What plain sources are expanded to with plain values is read back from its markup, tidied and in
whatever namespaces, if and only if its attributes fit where they stand and no byte order mark comes
first. Texts and the values of attributes have no part in whether they fit, declarations of prefixes
apart: whatever else they say, the page is read back on the same condition. -/
theorem expanded_read_back_iff {text : String} {template : Template} {document : Document}
    (read : Document.read text = .ok template.document)
    (plain : PlainForest template.document.nodes)
    (sources : ∀ source loaded, library.load source = .ok loaded → PlainForest loaded.nodes)
    (bound : ∀ entry ∈ bindings.entries, entry.2.IsPlain)
    (expanded : (template.expand library bindings).1 = .ok document) :
    ((∃ parsed, Forest.read document.write = .ok parsed ∧
      parsed.unresolved = document.nodes.tidy.unresolved) ↔
        Forest.Fits [] document.nodes ∧ document.write.toList.head? ≠ some '\ufeff') ∧
    ∀ nodes, document.nodes.Reworded nodes → (Forest.write nodes).toList.head? ≠ some '\ufeff' →
      ((∃ parsed, Forest.read (Forest.write nodes) = .ok parsed ∧
        parsed.unresolved = nodes.tidy.unresolved) ↔ Forest.Fits [] document.nodes) := by
  have page := page_of_expand read plain sources bound expanded
  refine ⟨page_read_write_iff page, ?_⟩
  intro nodes reworded unmarked
  rw [reworded_page_read_write_iff page reworded, and_iff_left unmarked]

end

namespace Quoting

open Greeting (directive)

def text : String :=
  declaringDirectives "p" <|
    "<t:attr name='title' valuevar='v'/><t:when var='v'><t:text var='v'/></t:when>" ++
      "<t:include src='part.xml'/>"

def page : Template where
  source := .ofPath "page.xml"
  document := ⟨[.element (.plain "p") [⟨⟨some "xmlns", "t", none⟩, templateUri⟩]
    [directive "attr" [("name", "title"), ("valuevar", "v")],
      .element ⟨some "t", "when", some templateUri⟩ [⟨.plain "var", "v"⟩]
        [directive "text" [("var", "v")]],
      directive "include" [("src", "part.xml")]]]⟩

def part : Document :=
  ⟨[.element (.plain "r") [⟨⟨some "xmlns", "t", none⟩, templateUri⟩]
    [.element (.plain "i") [] [directive "dynamic" [("var", "v")]]]]⟩

def sources : Library :=
  .inMemory [(.ofPath "part.xml", declaringDirectives "r" "<i><t:dynamic var='v'/></i>")]

def bindings : Bindings := .ofList [("v", .string "<b a=\"&amp;'/>")]

def output : Document :=
  ⟨[.element (.plain "p") [⟨.plain "title", "<b a=\"&amp;'/>"⟩]
    [.text "<b a=\"&amp;'/>", .element (.plain "i") [] [.text "<b a=\"&amp;'/>"]]]⟩

theorem sources_plain : ∀ source loaded, sources.load source = .ok loaded →
    PlainForest loaded.nodes := by
  apply plain_of_in_memory
  intro entry member loaded found
  rw [List.mem_singleton.1 member] at found
  have read : Document.read (declaringDirectives "r" "<i><t:dynamic var='v'/></i>") = .ok part := by
    decide +kernel
  rw [read] at found
  cases found
  decide +kernel

def reworded : Document :=
  ⟨[.element (.plain "p") [⟨.plain "title", "' x=\""⟩]
    [.text "]]>", .element (.plain "i") [] [.text ""]]]⟩

theorem output_reworded : output.nodes.Reworded reworded.nodes :=
  .cons (.element (.cons ⟨rfl, nofun⟩ .nil)
    (.cons (.text _ _) (.cons (.element .nil (.cons (.text _ _) .nil)) .nil))) .nil

theorem output_read_back :
    Document.read text = .ok page.document ∧ PlainForest page.document.nodes ∧
      (∀ entry ∈ bindings.entries, entry.2.IsPlain) ∧
      (page.expand sources bindings).1 = .ok output ∧
      (∃ parsed, Forest.read output.write = .ok parsed ∧
        parsed.unresolved = output.nodes.tidy.unresolved) ∧
      ∃ parsed, Forest.read reworded.write = .ok parsed ∧
        parsed.unresolved = reworded.nodes.tidy.unresolved := by
  have read : Document.read text = .ok page.document := by decide +kernel
  have plain : PlainForest page.document.nodes := by decide +kernel
  have bound : ∀ entry ∈ bindings.entries, entry.2.IsPlain := by
    intro entry member
    rw [List.mem_singleton.1 member]
    trivial
  have expanded : (page.expand sources bindings).1 = .ok output := by decide +kernel
  have fits : Forest.Fits [] output.nodes := by decide +kernel
  obtain ⟨whole, other⟩ := expanded_read_back_iff read plain sources_plain bound expanded
  exact ⟨read, plain, bound, expanded, whole.2 ⟨fits, by decide +kernel⟩,
    (other reworded.nodes output_reworded (by decide +kernel)).2 fits⟩

/-- A name with a blank in it is written as two, whatever else is done. -/
theorem not_always_read_back :
    ¬ ∀ (text : String) (template : Template) (entries : List (SourceId × String))
      (bindings : Bindings) (document : Document),
      Document.read text = .ok template.document → PlainForest template.document.nodes →
      (∀ source loaded, (Library.inMemory entries).load source = .ok loaded →
        PlainForest loaded.nodes) →
      (∀ entry ∈ bindings.entries, ∃ content, entry.2 = .string content) →
      (template.expand (.inMemory entries) bindings).1 = .ok document →
      document.write.toList.head? ≠ some '\ufeff' →
        ∃ parsed, Forest.read document.write = .ok parsed ∧
          parsed.unresolved = document.nodes.tidy.unresolved := by
  intro all
  let template : Template := ⟨.ofPath "page.xml",
    ⟨[.element (.plain "p") [⟨⟨some "xmlns", "t", none⟩, templateUri⟩]
      [directive "attr" [("namevar", "n"), ("value", "v")]]]⟩⟩
  let named : Bindings := .ofList [("n", .string "x=\"1\" y")]
  let document : Document := ⟨[.element (.plain "p") [⟨.plain "x=\"1\" y", "v"⟩] []]⟩
  have read : Document.read (declaringDirectives "p" "<t:attr namevar='n' value='v'/>") =
      .ok template.document := by decide +kernel
  have plain : PlainForest template.document.nodes := by decide +kernel
  have strings : ∀ entry ∈ named.entries, ∃ content, entry.2 = .string content := by
    intro entry member
    rw [List.mem_singleton.1 member]
    exact ⟨_, rfl⟩
  have expanded : (template.expand (.inMemory []) named).1 = .ok document := by decide +kernel
  obtain ⟨parsed, reread, same⟩ := all _ template [] named document read plain
    (plain_of_in_memory nofun) strings expanded (by decide +kernel)
  have two : Forest.read document.write =
      .ok [.element (.plain "p") [⟨.plain "x", "1"⟩, ⟨.plain "y", "v"⟩] []] := by decide +kernel
  rw [two] at reread
  cases reread
  exact absurd same (by decide +kernel)

end Quoting

end XmlTemplate.Template
