import XmlTemplate.Proofs.Markup.StartTags

/-!
Scopes and the declarations that the tree keeps. Inside a tag the scope answers every question about
a prefix with the text of the declaration that counts. In markup that was read this text resolves to
the value that the tree keeps; in markup that was written from a tree it is that value, escaped.
-/

namespace XmlTemplate.Markup

/-- A scope has for each prefix what the tags around bind it to, as far as the text of a declaration
goes with its value. The reserved prefixes are bound for good. -/
structure Scope.Answers (goes : List Char → String → Prop) (scope : Scope)
    (around : Surroundings) : Prop where
  xml : scope.find? "xml".toList = some xmlUri.toList
  xmlns : scope.find? "xmlns".toList = some xmlnsUri.toList
  others : ∀ lead, lead ≠ "xml" → lead ≠ "xmlns" →
    Option.Rel goes (scope.find? lead.toList) (around.bound? lead)

abbrev Scope.Tracks (scope : Scope) (around : Surroundings) : Prop :=
  scope.Answers (fun raw value => Reference.resolve raw = .ok value) around

abbrev Scope.Reflects (scope : Scope) (around : Surroundings) : Prop :=
  scope.Answers (fun raw value => raw = (Reference.escapeValue value).toList) around

section
variable {goes : List Char → String → Prop} {scope next inner : Scope} {raw : RawAttribute}
  {item : Attribute} {attributes seen : Attributes} {around : Surroundings}

theorem outermost_answers : Scope.outermost.Answers goes [] where
  xml := by decide
  xmlns := by decide
  others := by
    intro lead not_xml not_xmlns
    have absent : Scope.outermost.find? lead.toList = none := by
      rw [Scope.outermost, find_of_bound,
        if_neg fun same => not_xmlns (String.toList_injective same), find_of_bound,
        if_neg fun same => not_xml (String.toList_injective same)]
      rfl
    rw [absent]
    exact .none

def RawAttribute.GoesWith (goes : List Char → String → Prop) (raw : RawAttribute)
    (item : Attribute) : Prop :=
  splitWritten raw.key = (item.name.nsPrefix.map String.toList, item.name.localName) ∧
    goes raw.value item.value

theorem declare_answers (answers : scope.Answers goes (seen :: around))
    (declared : scope.declare raw = .ok next) (with_item : raw.GoesWith goes item) :
    next.Answers goes ((seen ++ [item]) :: around) := by
  have bound : ∀ lead, Surroundings.bound? ((seen ++ [item]) :: around) lead =
      if item.binds lead then some item.value else Surroundings.bound? (seen :: around) lead := by
    intro lead
    rw [bound_cons, bound_concat, bound_cons]
    split <;> rfl
  have binds := fun lead => binds_iff lead with_item.1
  rw [declare_iff] at declared
  cases declares : Scope.declared? raw.key with
  | none =>
      rw [declares] at declared
      subst declared
      refine ⟨answers.xml, answers.xmlns, ?_⟩
      intro lead not_xml not_xmlns
      rw [bound, if_neg]
      · exact answers.others lead not_xml not_xmlns
      · rw [binds, declares]
        exact Option.some_ne_none _ ∘ Eq.symm
  | some own =>
      rw [declares] at declared
      have own_lead : ∀ lead : String, item.binds lead = true ↔ lead.toList = own := by
        intro lead
        rw [binds, declares, Option.some.injEq, eq_comm]
      rcases declared with ⟨xml, -, rfl⟩ | ⟨not_xml, not_xmlns, -, rfl⟩
      · refine ⟨answers.xml, answers.xmlns, ?_⟩
        intro lead other_xml other_xmlns
        rw [bound, if_neg]
        · exact answers.others lead other_xml other_xmlns
        · rw [own_lead, xml]
          exact fun same => other_xml (String.toList_injective same)
      · refine ⟨?_, ?_, ?_⟩
        · rw [find_of_bound, if_neg (Ne.symm not_xml), answers.xml]
        · rw [find_of_bound, if_neg (Ne.symm not_xmlns), answers.xmlns]
        · intro lead other_xml other_xmlns
          rw [find_of_bound, bound]
          by_cases same : lead.toList = own
          · rw [if_pos same, if_pos ((own_lead lead).2 same)]
            exact .some with_item.2
          · rw [if_neg same, if_neg fun found => same ((own_lead lead).1 found)]
            exact answers.others lead other_xml other_xmlns

theorem enter_answers_from {raws : List RawAttribute}
    (answers : scope.Answers goes (seen :: around)) (entered : scope.enter raws = .ok inner)
    (each : List.Forall₂ (RawAttribute.GoesWith goes) raws attributes) :
    inner.Answers goes ((seen ++ attributes) :: around) := by
  induction each generalizing scope seen with
  | nil =>
      cases entered
      rw [List.append_nil]
      exact answers
  | cons first _ ih =>
      rw [Scope.enter, List.foldlM_cons, bind_eq_ok_iff] at entered
      obtain ⟨middle, declared, later⟩ := entered
      have stepped := ih (declare_answers answers declared first) later
      rw [List.append_assoc, List.singleton_append] at stepped
      exact stepped

/-- The scope inside a tag answers as the tag and those around it say. -/
theorem enter_answers {raws : List RawAttribute} (answers : scope.Answers goes around)
    (entered : scope.enter raws = .ok inner)
    (each : List.Forall₂ (RawAttribute.GoesWith goes) raws attributes) :
    inner.Answers goes (attributes :: around) := by
  have start : scope.Answers goes ([] :: around) :=
    ⟨answers.xml, answers.xmlns, answers.others⟩
  exact enter_answers_from start entered each

end

variable {scope inner : Scope} {raw : RawAttribute} {item : Attribute} {attributes : Attributes}
  {around : Surroundings}

theorem enter_tracks {raws : List RawAttribute} (tracks : scope.Tracks around)
    (entered : scope.enter raws = .ok inner)
    (becomes : List.Forall₂ (RawAttribute.Becomes inner) raws attributes) :
    inner.Tracks (attributes :: around) := by
  apply enter_answers tracks entered
  exact becomes.imp fun raw item read => ⟨(read_attribute_name_iff.1 read.1).1, read.2⟩

def Surroundings.Means (around : Surroundings) (lead uri : String) : Prop :=
  if lead = "xml" then uri = xmlUri
  else if lead = "xmlns" then uri = xmlnsUri
  else ∃ value ∈ around.bound? lead, value ≠ "" ∧ Reference.resolve uri.toList = .ok value

/-- The namespace of an element is that of its prefix, or else the default one if there is any. -/
def Name.DeclaredIn (around : Surroundings) (name : Name) : Prop :=
  match name.uri with
  | some uri => name.nsPrefix ≠ some "" ∧ around.Means (name.nsPrefix.getD "") uri
  | none => name.nsPrefix = none ∧ ∀ value ∈ around.bound? "", value = ""

/-- The namespace of an attribute is that of its prefix. Declarations have none. -/
def Attribute.DeclaredIn (around : Surroundings) (item : Attribute) : Prop :=
  match item.name.uri with
  | some uri => ∃ lead ∈ item.name.nsPrefix, lead ≠ "" ∧ lead ≠ "xmlns" ∧ around.Means lead uri
  | none => item.name.nsPrefix = none ∨ item.declaresPrefix = true

theorem means_of_find {lead uri : String} (tracks : scope.Tracks around) (some_uri : uri ≠ "")
    (found : scope.find? lead.toList = some uri.toList) : around.Means lead uri := by
  unfold Surroundings.Means
  split
  · rename_i xml
    rw [xml, tracks.xml] at found
    exact (String.toList_injective (Option.some.inj found)).symm
  · split
    · rename_i xmlns
      rw [xmlns, tracks.xmlns] at found
      exact (String.toList_injective (Option.some.inj found)).symm
    · rename_i not_xml not_xmlns
      have related := tracks.others lead not_xml not_xmlns
      rw [found] at related
      generalize around.bound? lead = bound at related
      cases related with
      | some resolved =>
          refine ⟨_, rfl, ?_, resolved⟩
          intro empty
          exact some_uri
            (String.toList_eq_nil_iff.1 ((Reference.resolved_empty_iff resolved).1 empty))

theorem element_declared {written : List Char} {name : Name} (tracks : scope.Tracks around)
    (read : readElementName scope written = .ok name) : name.DeclaredIn around := by
  obtain ⟨-, given⟩ := read_element_name_iff.1 read
  unfold Name.DeclaredIn
  rcases name with ⟨_ | lead, base, _ | uri⟩
  · refine ⟨rfl, ?_⟩
    intro value bound
    have empty := default_uri_iff.1 given
    have related := tracks.others "" (by decide) (by decide)
    change Option.Rel _ (scope.find? []) _ at related
    rw [bound] at related
    generalize scope.find? [] = found at related empty
    cases related with
    | some resolved => exact (Reference.resolved_empty_iff resolved).2 (empty _ rfl)
  · obtain ⟨some_uri, found⟩ := default_uri_iff.1 given
    exact ⟨by simp, means_of_find tracks some_uri found⟩
  · obtain ⟨uri, absent, -⟩ := given
    cases absent
  · obtain ⟨_, same, found⟩ := given
    cases same
    obtain ⟨some_lead, some_uri, found⟩ := prefix_uri_iff.1 found
    refine ⟨?_, means_of_find tracks some_uri found⟩
    rintro ⟨⟩
    exact some_lead rfl

theorem attribute_declared (tracks : scope.Tracks around)
    (read : readAttributeName scope raw.key = .ok item.name) : item.DeclaredIn around := by
  obtain ⟨-, given⟩ := read_attribute_name_iff.1 read
  unfold Attribute.DeclaredIn Attribute.declaresPrefix
  rcases item with ⟨⟨_ | lead, base, _ | uri⟩, value⟩
  · exact .inl rfl
  · cases given
  · by_cases reserved : lead = "xmlns"
    · exact .inr (by simp [reserved])
    · dsimp only at given
      rw [if_neg reserved] at given
      obtain ⟨uri, absent, -⟩ := given
      cases absent
  · dsimp only at given
    by_cases reserved : lead = "xmlns"
    · rw [if_pos reserved] at given
      cases given
    · rw [if_neg reserved] at given
      obtain ⟨_, same, found⟩ := given
      cases same
      obtain ⟨some_lead, some_uri, found⟩ := prefix_uri_iff.1 found
      refine ⟨lead, rfl, ?_, reserved, means_of_find tracks some_uri found⟩
      rintro rfl
      exact some_lead rfl

end XmlTemplate.Markup
