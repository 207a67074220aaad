import XmlTemplate.Proofs.Markup.Tags

/-!
Names and the declarations in force. A written name splits at its first colon, and from the two
sides it can be told whether it declares a prefix. Of the tags around a place the innermost one that
declares a prefix decides; within a tag it is the last attribute that does, which matters only to
`xmlns:`, for that is another way to declare the default namespace.
-/

namespace XmlTemplate.Markup

def joinWritten : Option (List Char) × String → List Char
  | (none, base) => base.toList
  | (some front, base) => front ++ ':' :: base.toList

theorem join_split_written (written : List Char) :
    joinWritten (splitWritten written) = written := by
  unfold splitWritten
  cases cut : Text.cutAt? ':' written with
  | none => simp [joinWritten]
  | some found => simpa [joinWritten] using (Text.eq_of_cut_at cut).symm

/-- Whether a key declares a prefix can be told from the two sides it is split into. -/
theorem declared_eq_of_split (key : List Char) :
    Scope.declared? key =
      match splitWritten key with
      | (none, base) => if base = "xmlns" then some [] else none
      | (some front, base) => if front = "xmlns".toList then some base.toList else none := by
  have whole := join_split_written key
  unfold Scope.declared?
  split
  · rfl
  · rename_i found
    have pieces : splitWritten ("xmlns".toList ++ ':' :: found) =
        (some "xmlns".toList, String.ofList found) := by
      rw [splitWritten, Text.cut_at_append found (by decide)]
    have same : 'x' :: 'm' :: 'l' :: 'n' :: 's' :: ':' :: found =
        "xmlns".toList ++ ':' :: found := rfl
    rw [same, pieces]
    simp
  · rename_i other_default other_prefix
    rcases pieces : splitWritten key with ⟨_ | front, base⟩
    · have apart : base ≠ "xmlns" := by
        rintro rfl
        rw [pieces] at whole
        exact other_default whole.symm
      simp only [if_neg apart]
    · have apart : front ≠ "xmlns".toList := by
        rintro rfl
        rw [pieces] at whole
        exact other_prefix base.toList whole.symm
      simp only [if_neg apart]

def Name.Splits (name : Name) : Prop :=
  splitWritten name.written.toList = (name.nsPrefix.map String.toList, name.localName)

theorem join_name (name : Name) :
    joinWritten (name.nsPrefix.map String.toList, name.localName) = name.written.toList := by
  rcases name with ⟨_ | lead, base, uri⟩
  · rfl
  · simp [joinWritten, Name.written]

theorem written_of_split {written : List Char} {name : Name}
    (split : splitWritten written = (name.nsPrefix.map String.toList, name.localName)) :
    name.written.toList = written := by
  rw [← join_name, ← split, join_split_written]

theorem splits_of_words {name : Name} (words : name.OfWords) : name.Splits := by
  unfold Name.Splits
  rcases name with ⟨_ | front, back, uri⟩
  · simp [splitWritten, Name.written, cut_colon_of_word words.base]
  · have cut := Text.cut_at_append back.toList (colon_not_mem_word (words.lead front rfl))
    simp [splitWritten, Name.written, cut]

theorem split_eq_iff {pieces : Option (List Char) × String} {name : Name} :
    pieces = (name.nsPrefix.map String.toList, name.localName) ↔
      pieces.1.map String.ofList = name.nsPrefix ∧ pieces.2 = name.localName := by
  rcases pieces with ⟨_ | lead, base⟩
  · cases name.nsPrefix <;> simp
  · cases name.nsPrefix with
    | none => simp
    | some front =>
        have same : lead = front.toList ↔ String.ofList lead = front :=
          ⟨fun chars => by rw [chars, String.ofList_toList],
            fun text => by rw [← text, String.toList_ofList]⟩
        simp [same]

theorem spelled_like_declaring_iff {name : Name} {lead : String} :
    name.spelledLike (declaring lead) = true ↔
      name.nsPrefix = none ∧ name.localName = "xmlns" ∧ lead = "" ∨
        name.nsPrefix = some "xmlns" ∧ name.localName = lead ∧ lead ≠ "" := by
  by_cases default : lead = ""
  · simp [Name.spelled_like_iff, declaring, default, Name.plain]
  · simp [Name.spelled_like_iff, declaring, default]

/-- An attribute that binds a prefix. The empty prefix is that of the default namespace, which
`xmlns:` binds as well. -/
def Attribute.binds (item : Attribute) (lead : String) : Bool :=
  item.name.spelledLike (declaring lead) || item.name.spelledLike ⟨some "xmlns", lead, none⟩

def Attributes.bound? (attributes : Attributes) (lead : String) : Option String :=
  (attributes.reverse.find? (·.binds lead)).map (·.value)

def Surroundings.bound? (around : Surroundings) (lead : String) : Option String :=
  around.findSome? (Attributes.bound? · lead)

theorem bound_concat (attributes : Attributes) (item : Attribute) (lead : String) :
    Attributes.bound? (attributes ++ [item]) lead =
      if item.binds lead then some item.value else attributes.bound? lead := by
  unfold Attributes.bound?
  rw [List.reverse_concat]
  by_cases binds : item.binds lead = true
  · simp [binds]
  · simp [binds]

theorem bound_cons (attributes : Attributes) (around : Surroundings) (lead : String) :
    Surroundings.bound? (attributes :: around) lead =
      (attributes.bound? lead).or (around.bound? lead) := by
  rw [Surroundings.bound?, List.findSome?_cons, Surroundings.bound?]
  cases attributes.bound? lead <;> rfl

theorem binds_iff {item : Attribute} {key : List Char} (lead : String)
    (split : splitWritten key = (item.name.nsPrefix.map String.toList, item.name.localName)) :
    item.binds lead = true ↔ Scope.declared? key = some lead.toList := by
  rw [declared_eq_of_split, split, Attribute.binds, Bool.or_eq_true, spelled_like_declaring_iff,
    Name.spelled_like_iff]
  rcases item with ⟨⟨_ | front, base, uri⟩, value⟩
  · have empty : [] = lead.toList ↔ lead = "" := by
      rw [eq_comm, String.toList_eq_nil_iff]
    by_cases named : base = "xmlns"
    · simp [named, empty]
    · simp [named]
  · by_cases named : front = "xmlns"
    · subst named
      simp only [Option.map_some, if_true, Option.some.injEq, String.toList_inj]
      tauto
    · have apart : front.toList ≠ "xmlns".toList := fun same =>
        named (String.toList_injective same)
      simp only [Option.map_some, apart, if_false]
      simp [named]

/-- A declaration of `xml` has to repeat what holds anyway; another one has to leave alone what is
reserved, and is added in front. -/
theorem declare_iff {scope next : Scope} {raw : RawAttribute} :
    scope.declare raw = .ok next ↔
      match Scope.declared? raw.key with
      | none => scope = next
      | some lead =>
          lead = "xml".toList ∧ raw.value = xmlUri.toList ∧ scope = next ∨
            lead ≠ "xml".toList ∧ lead ≠ "xmlns".toList ∧
              (raw.key = "xmlns".toList ∨
                raw.value ≠ xmlUri.toList ∧ raw.value ≠ xmlnsUri.toList) ∧
              ⟨lead, raw.value⟩ :: scope = next := by
  unfold Scope.declare
  cases declares : Scope.declared? raw.key with
  | none => exact ⟨Except.ok.inj, congrArg Except.ok⟩
  | some lead =>
      dsimp only
      by_cases default : raw.key = "xmlns".toList
      · have empty : lead = [] := by
          rw [default] at declares
          exact (Option.some.inj declares).symm
        simp [default, empty]
      · rw [if_neg default]
        by_cases xml : lead = "xml".toList
        · rw [if_pos xml]
          by_cases own : raw.value = xmlUri.toList
          · simp [xml, own]
          · simp [xml, own]
        · rw [if_neg xml]
          by_cases xmlns : lead = "xmlns".toList
          · simp [xmlns]
          · rw [if_neg xmlns]
            by_cases reserved : raw.value = xmlUri.toList ∨ raw.value = xmlnsUri.toList
            · rw [if_pos reserved]
              have taken : ¬ (raw.key = "xmlns".toList ∨
                  raw.value ≠ xmlUri.toList ∧ raw.value ≠ xmlnsUri.toList) := by tauto
              constructor
              · intro refused
                cases refused
              · rintro (⟨same, -⟩ | ⟨-, -, free, -⟩)
                · exact absurd same xml
                · exact absurd free taken
            · rw [if_neg reserved]
              rw [not_or] at reserved
              constructor
              · intro same
                exact .inr ⟨xml, xmlns, .inr reserved, Except.ok.inj same⟩
              · rintro (⟨same, -⟩ | ⟨-, -, -, same⟩)
                · exact absurd same xml
                · exact congrArg Except.ok same

theorem find_of_bound (scope : Scope) (lead other uri : List Char) :
    Scope.find? (⟨lead, uri⟩ :: scope) other =
      if other = lead then some uri else scope.find? other := by
  by_cases same : other = lead
  · simp [Scope.find?, same]
  · have apart : (lead == other) = false := by
      rw [beq_eq_false_iff_ne]
      exact Ne.symm same
    rw [if_neg same, Scope.find?, List.find?_cons_of_neg (by simp [apart])]
    rfl

theorem prefix_uri_iff {scope : Scope} {lead : List Char} {uri : String} :
    scope.prefixUri lead = .ok uri ↔
      lead ≠ [] ∧ uri ≠ "" ∧ scope.find? lead = some uri.toList := by
  unfold Scope.prefixUri
  split
  · rename_i c rest some_lead found
    rw [found]
    constructor
    · intro same
      cases same
      refine ⟨by simpa using some_lead, ?_, by rw [String.toList_ofList]⟩
      exact fun empty => absurd (congrArg String.toList empty) (by simp)
    · rintro ⟨-, -, same⟩
      rw [Option.some.inj same, String.ofList_toList]
  · rename_i other
    constructor
    · intro same
      cases same
    · rintro ⟨some_lead, some_uri, found⟩
      cases chars : uri.toList with
      | nil => exact absurd (String.toList_eq_nil_iff.1 chars) some_uri
      | cons c rest =>
          rw [chars] at found
          exact absurd found (other c rest (by simpa using some_lead))

theorem default_uri_iff {scope : Scope} {uri : Option String} :
    scope.defaultUri? = uri ↔
      match uri with
      | none => ∀ raw ∈ scope.find? [], raw = []
      | some text => text ≠ "" ∧ scope.find? [] = some text.toList := by
  unfold Scope.defaultUri?
  rcases scope.find? [] with _ | _ | ⟨c, raw⟩
  · cases uri <;> simp
  · cases uri with
    | none => simp
    | some text =>
        have empty : [] = text.toList ↔ text = "" :=
          ⟨fun none_left => String.toList_eq_nil_iff.1 none_left.symm,
            fun same => by rw [same]; rfl⟩
        simp [empty]
  · cases uri with
    | none => simp
    | some text =>
        simp only [Option.filter_some, List.isEmpty_cons, Bool.not_false, if_true, Option.map_some,
          Option.some.injEq]
        constructor
        · rintro rfl
          simp
        · rintro ⟨-, same⟩
          rw [same, String.ofList_toList]

theorem spelled_of_other_written {attributes : Attributes} {name : Name}
    (other : ∀ item ∈ attributes, name.written ≠ item.name.written) :
    attributes.spelled? name = none := by
  rw [Attributes.spelled?, Option.map_eq_none_iff, List.find?_eq_none]
  intro item member same
  exact other item member (Name.written_eq_of_spelled_like same).symm

/-- Where no two attributes are written alike, only `xmlns:` can be a second declaration of what
another attribute declares. -/
theorem bound_eq_spelled {attributes : Attributes} {lead : String}
    (plain : lead ≠ "" ∨ ∀ item ∈ attributes, item.name.localName ≠ "")
    (distinct : attributes.Pairwise (·.name.written ≠ ·.name.written)) :
    attributes.bound? lead = attributes.spelled? (declaring lead) := by
  unfold Attributes.bound? Attributes.spelled?
  induction attributes with
  | nil => rfl
  | cons item later ih =>
      obtain ⟨apart, others⟩ := List.pairwise_cons.1 distinct
      have further :=
        ih (plain.imp_right fun each other member => each other (.tail _ member)) others
      have binds : item.binds lead = item.name.spelledLike (declaring lead) := by
        rw [Attribute.binds, Bool.or_eq_left_iff_imp, Name.spelled_like_iff,
          spelled_like_declaring_iff]
        rintro ⟨front, base⟩
        refine .inr ⟨front, base, ?_⟩
        rcases plain with some_lead | each
        · exact some_lead
        · have some_base := each item (.head _)
          rw [base] at some_base
          exact some_base
      rw [List.reverse_cons, List.find?_append, Option.map_or, further]
      by_cases same : item.name.spelledLike (declaring lead) = true
      · have none_later : Attributes.spelled? later (declaring lead) = none := by
          apply spelled_of_other_written
          rw [← Name.written_eq_of_spelled_like same]
          exact apart
        rw [Attributes.spelled?] at none_later
        rw [none_later]
        simp [binds, same]
      · simp [binds, same]

def Surroundings.Distinct (around : Surroundings) : Prop :=
  ∀ attributes ∈ around, attributes.Pairwise (·.name.written ≠ ·.name.written)

theorem bound_eq_nearest {around : Surroundings} {lead : String}
    (plain : lead ≠ "" ∨ ∀ attributes ∈ around, ∀ item ∈ attributes, item.name.localName ≠ "")
    (distinct : around.Distinct) : around.bound? lead = around.nearest? lead := by
  induction around with
  | nil => rfl
  | cons attributes around ih =>
      obtain ⟨first, others⟩ := List.forall_mem_cons.1 distinct
      have here := bound_eq_spelled (plain.imp_right fun each => each attributes (.head _)) first
      rw [bound_cons, Surroundings.nearest_cons, here,
        ih (plain.imp_right fun each other member => each other (.tail _ member)) others]

end XmlTemplate.Markup
