import XmlTemplate.Proofs.Markup.Documents
import XmlTemplate.Template.Walk

/-!
The namespaces of elements in a document that was read. An element has the namespace of the nearest
declaration around it as that was written, references and all, while the tree keeps the declared
value with its references resolved. Only where nothing was referred to are the two the same. So a
directive needs its namespace in plain letters, although any spelling of it is taken out of the
page.
-/

namespace XmlTemplate.Markup

/-- An element of this name stands among the nodes or below them. The attributes around it are
innermost first and begin with its own. -/
inductive Stands (name : Name) (around : Surroundings) : Surroundings → Forest → Prop
  | among {outer : Surroundings} {nodes children : Forest} {attributes : Attributes}
      (member : .element name attributes children ∈ nodes) (own : around = attributes :: outer) :
      Stands name around outer nodes
  | deeper {outer : Surroundings} {nodes children : Forest} {other : Name} {attributes : Attributes}
      (member : .element other attributes children ∈ nodes)
      (inside : Stands name around (attributes :: outer) children) :
      Stands name around outer nodes

variable {text : String} {document : Document} {name : Name} {around outer : Surroundings}
  {nodes : Forest}

theorem tag_of_stands {attributes : Attributes} {further : Surroundings}
    (read : Forest.WellRead outer nodes)
    (stands : Stands name (attributes :: further) outer nodes) :
    WellReadTag (attributes :: further) name attributes := by
  induction stands with
  | among member own =>
      cases own
      exact (forest_well_read_iff.1 read _ member).1
  | deeper member _ ih => exact ih (forest_well_read_iff.1 read _ member).2.2.2

theorem declared_of_stands (read : Forest.WellRead outer nodes) (distinct : outer.Distinct)
    (stands : Stands name around outer nodes) : name.DeclaredIn around ∧ around.Distinct := by
  induction stands with
  | among member own =>
      have tag := (forest_well_read_iff.1 read _ member).1
      rw [own]
      exact ⟨tag.declared, List.forall_mem_cons.2 ⟨tag.distinct, distinct⟩⟩
  | deeper member _ ih =>
      have node := forest_well_read_iff.1 read _ member
      exact ih node.2.2.2 (List.forall_mem_cons.2 ⟨node.1.distinct, distinct⟩)

/-- The value of the declaration that counts for a name: the nearest one of its prefix, or of the
default namespace where it has none. An empty value takes the namespace away. -/
def Surroundings.declared? (around : Surroundings) (name : Name) : Option String :=
  (match name.nsPrefix with
    | none => around.bound? ""
    | some lead => around.nearest? lead).filter (· ≠ "")

theorem declared_related (declared : name.DeclaredIn around) (distinct : around.Distinct)
    (xml : name.nsPrefix ≠ some "xml") (xmlns : name.nsPrefix ≠ some "xmlns") :
    Option.Rel (fun uri value => Reference.resolve uri.toList = .ok value) name.uri
      (around.declared? name) := by
  unfold Name.DeclaredIn at declared
  unfold Surroundings.declared?
  have means_bound : ∀ lead uri : String, lead ≠ "xml" → lead ≠ "xmlns" → around.Means lead uri →
      Option.Rel (fun uri value => Reference.resolve uri.toList = .ok value) (some uri)
        ((around.bound? lead).filter (· ≠ "")) := by
    intro lead uri not_xml not_xmlns means
    rw [Surroundings.Means, if_neg not_xml, if_neg not_xmlns] at means
    obtain ⟨value, bound, some_value, resolved⟩ := means
    rw [Option.mem_def] at bound
    rw [bound, Option.filter_some, if_pos (by simpa using some_value)]
    exact .some resolved
  obtain ⟨_ | lead, base, _ | uri⟩ := name
  · have absent : (around.bound? "").filter (· ≠ "") = none := by
      cases bound : around.bound? "" with
      | none => rfl
      | some value => simp [declared.2 value bound]
    rw [absent]
    exact .none
  · exact means_bound "" uri (by decide) (by decide) declared.2
  · cases declared.1
  · have some_lead : lead ≠ "" := fun empty => declared.1 (congrArg some empty)
    dsimp only
    rw [← bound_eq_nearest (.inl some_lead) distinct]
    exact means_bound lead uri (fun same => xml (congrArg some same))
      (fun same => xmlns (congrArg some same)) declared.2

/-- A declaration was written in plain letters if and only if what was written is what was meant. -/
theorem same_iff_plain {written declared : Option String}
    (related : Option.Rel (fun uri value => Reference.resolve uri.toList = .ok value) written
      declared) : written = declared ↔ ∀ uri ∈ written, '&' ∉ uri.toList := by
  cases related with
  | none => simp
  | @some uri value resolved =>
      rw [Option.some.injEq]
      constructor
      · rintro rfl other ⟨⟩
        exact Reference.resolve_self_iff.1 resolved
      · intro plain
        have same := Reference.resolve_self_iff.2 (plain uri rfl)
        rw [resolved] at same
        exact (Except.ok.inj same).symm

/-- The namespace of an element is what the nearest declaration says as it was written. It is the
declared value as it is stored if and only if it holds no reference, and just then an element whose
declared namespace is that of the directives is a directive. -/
theorem namespace_of_read (read : Document.read text = .ok document)
    (stands : Stands name around [] document.nodes) (xml : name.nsPrefix ≠ some "xml")
    (xmlns : name.nsPrefix ≠ some "xmlns") :
    Option.Rel (fun uri value => Reference.resolve uri.toList = .ok value) name.uri
        (around.declared? name) ∧
      (name.uri = around.declared? name ↔ ∀ uri ∈ name.uri, '&' ∉ uri.toList) ∧
      (Template.isDirective name = true ↔
        around.declared? name = some Template.templateUri ∧
          ∀ uri ∈ name.uri, '&' ∉ uri.toList) := by
  have well := (well_read_of_document read).2
  obtain ⟨declared, distinct⟩ :=
    declared_of_stands well (fun attributes member => absurd member List.not_mem_nil) stands
  have related := declared_related declared distinct xml xmlns
  have same := same_iff_plain related
  refine ⟨related, same, ?_⟩
  unfold Template.isDirective
  rw [beq_iff_eq]
  constructor
  · intro directive
    have plain : ∀ uri ∈ name.uri, '&' ∉ uri.toList := by
      rw [directive]
      rintro uri ⟨⟩
      decide
    rw [← same.2 plain]
    exact ⟨directive, plain⟩
  · rintro ⟨own, plain⟩
    rw [same.2 plain, own]

def directivePage (written : String) : String :=
  "<a xmlns:t=\"" ++ written ++ "\"><t:b/></a>"

def directiveTree (uri : String) : Document :=
  ⟨[.element (.plain "a") [⟨⟨some "xmlns", "t", none⟩, Template.templateUri⟩]
    [.element ⟨some "t", "b", some uri⟩ [] []]]⟩

theorem directive_stands (uri : String) : Stands ⟨some "t", "b", some uri⟩
    [[], [⟨⟨some "xmlns", "t", none⟩, Template.templateUri⟩]] [] (directiveTree uri).nodes :=
  .deeper (.head _) (.among (.head _) rfl)

theorem namespace_of_directive :
    Document.read (directivePage Template.templateUri) =
        .ok (directiveTree Template.templateUri) ∧
      Template.isDirective ⟨some "t", "b", some Template.templateUri⟩ = true := by
  have read : Document.read (directivePage Template.templateUri) =
      .ok (directiveTree Template.templateUri) := by decide +kernel
  refine ⟨read, ?_⟩
  apply (namespace_of_read read (directive_stands _) (by decide) (by decide)).2.2.2
  exact ⟨by decide, by decide⟩

def referringUri : String := "http://www.b13media.com/xemplate/1&#46;0"

/-- What the tree stores is not always the namespace of the element. -/
theorem namespace_not_always_stored :
    ¬ ∀ (text : String) (document : Document) (name : Name) (around : Surroundings),
      Document.read text = .ok document → Stands name around [] document.nodes →
        name.nsPrefix ≠ some "xml" → name.nsPrefix ≠ some "xmlns" →
          name.uri = (around.nearest? (name.nsPrefix.getD "")).filter (· ≠ "") := by
  intro all
  have read : Document.read (directivePage referringUri) = .ok (directiveTree referringUri) := by
    decide +kernel
  have same := all _ _ _ _ read (directive_stands _) (by decide) (by decide)
  exact absurd same (by decide)

end XmlTemplate.Markup
