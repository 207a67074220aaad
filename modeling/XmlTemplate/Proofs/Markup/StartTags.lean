import Mathlib.Data.List.Forall2
import XmlTemplate.Proofs.Markup.Cuts
import XmlTemplate.Proofs.Markup.Scopes

/-!
What a start tag says that was read. Reading succeeds exactly if the pairs of the tag can be told
apart, its declarations are allowed, and every prefix in it is declared. A declaration counts in the
elements below with its value as it was written; the tree keeps what that value resolves to.
-/

namespace XmlTemplate.Markup

theorem value_inv {size : Nat} {text content after : List Char}
    (read : Tag.value size text = .ok (content, after)) :
    ∃ quote, text = quote :: (content ++ quote :: after) ∧ (quote = '"' ∨ quote = '\'') ∧
      quote ∉ content := by
  unfold Tag.value at read
  split at read
  · cases read
  · rename_i c rest
    split at read
    · rename_i marks
      split at read
      · rename_i found cut
        cases read
        exact ⟨c, congrArg (c :: ·) (Text.eq_of_cut_at cut), marks, Text.not_mem_of_cut_at cut⟩
      · cases read
    · cases read

theorem scan_keys_stand (size : Nat) (text : List Char) :
    ∀ raw ∈ (Tag.scan size text).attributes, StandsAsKey raw.key ∧ raw.value <:+: text := by
  fun_induction Tag.scan size text with
  | case3 text c rest blanks start key afterEquals equals content after quoted later ih =>
      have inside : c :: rest <:+ text := blanks ▸ List.dropWhile_suffix _
      have further : afterEquals <:+ rest :=
        (List.suffix_cons '=' afterEquals).trans
          ((equals ▸ List.dropWhile_suffix _).trans (List.dropWhile_suffix _))
      obtain ⟨quote, split, -, -⟩ := value_inv quoted
      have valued : quote :: (content ++ quote :: after) <:+ text :=
        ((split ▸ List.dropWhile_suffix _).trans further).trans
          ((List.suffix_cons c rest).trans inside)
      intro raw member
      rcases List.mem_cons.1 member with rfl | later
      · have shown := List.head?_dropWhile_not Text.isMarkupBlank text
        rw [blanks] at shown
        refine ⟨⟨by simpa using shown, fun d inside => List.mem_takeWhile_imp inside⟩, ?_⟩
        have part : content <:+: quote :: (content ++ quote :: after) :=
          ⟨[quote], quote :: after, by simp⟩
        exact part.trans valued.isInfix
      · obtain ⟨stands, part⟩ := ih raw later
        refine ⟨stands, part.trans (List.IsSuffix.isInfix ?_)⟩
        exact ((List.suffix_cons quote after).trans (List.suffix_append _ _)).trans
          ((List.suffix_cons quote _).trans valued)
  | _ => intro raw member; cases member

def RawAttribute.Becomes (scope : Scope) (raw : RawAttribute) (item : Attribute) : Prop :=
  readAttributeName scope raw.key = .ok item.name ∧ Reference.resolve raw.value = .ok item.value

theorem check_fresh_of_other {seen : List RawAttribute} {key : List Char} (start : Nat)
    (fresh : ∀ raw ∈ seen, raw.key ≠ key) : checkFresh seen key start = .ok () := by
  have none_found : seen.find? (·.key == key) = none := by
    rw [List.find?_eq_none]
    intro raw member
    simpa using fresh raw member
  rw [checkFresh, none_found]

theorem check_fresh_iff {seen : List RawAttribute} {key : List Char} {start : Nat} :
    checkFresh seen key start = .ok () ↔ ∀ raw ∈ seen, raw.key ≠ key := by
  constructor
  · intro checked raw member same
    unfold checkFresh at checked
    split at checked
    · cases checked
    · rename_i absent
      rw [List.find?_eq_none] at absent
      exact absurd (beq_iff_eq.2 same) (absent raw member)
  · intro fresh
    exact check_fresh_of_other start fresh

theorem read_references_iff {raw : List Char} {value : String} :
    readReferences raw = .ok value ↔ Reference.resolve raw = .ok value := by
  unfold readReferences
  exact map_error_eq_ok_iff

theorem read_attributes_nil_iff {scope : Scope} {fault? : Option ScanFault}
    {seen : List RawAttribute} {attributes : Attributes} :
    readAttributes scope fault? seen [] = .ok attributes ↔ fault? = none ∧ attributes = [] := by
  rcases fault? with _ | fault | ⟨key, start, fault⟩
  · simp [readAttributes, eq_comm]
  · simp [readAttributes]
  · rw [readAttributes, bind_eq_ok_iff]
    simp

/-- The pairs of a tag are read one by one, and no key occurs twice. -/
theorem read_attributes_iff {scope : Scope} {fault? : Option ScanFault}
    {seen raws : List RawAttribute} {attributes : Attributes} :
    readAttributes scope fault? seen raws = .ok attributes ↔
      fault? = none ∧ List.Forall₂ (RawAttribute.Becomes scope) raws attributes ∧
        raws.Pairwise (·.key ≠ ·.key) ∧ ∀ before ∈ seen, ∀ raw ∈ raws, before.key ≠ raw.key := by
  induction raws generalizing seen attributes with
  | nil => simp [read_attributes_nil_iff]
  | cons raw raws ih =>
      have split : (∀ before ∈ seen ++ [raw], ∀ other ∈ raws, before.key ≠ other.key) ↔
          (∀ other ∈ raws, raw.key ≠ other.key) ∧
            ∀ before ∈ seen, ∀ other ∈ raws, before.key ≠ other.key := by
        simp [or_imp, forall_and, and_comm]
      rw [readAttributes]
      simp only [bind_eq_ok_iff, read_references_iff, ih, split, List.pairwise_cons]
      constructor
      · rintro ⟨_, fresh, name, named, value, resolved, later, ⟨done, each, distinct, apart,
          others⟩, same⟩
        cases same
        refine ⟨done, .cons ⟨named, resolved⟩ each, ⟨apart, distinct⟩, ?_⟩
        intro before member other inside
        rcases List.mem_cons.1 inside with rfl | further
        · exact check_fresh_iff.1 fresh before member
        · exact others before member other further
      · rintro ⟨done, each, ⟨apart, distinct⟩, others⟩
        cases each with
        | cons first later =>
            exact ⟨(), check_fresh_iff.2 fun before member => others before member raw (.head _), _,
              first.1, _, first.2, _, ⟨done, later, distinct, apart,
                fun before member other inside => others before member other (.tail _ inside)⟩, rfl⟩

structure OpenElement.ReadFrom (outer : Scope) (content : List Char) (opened : OpenElement)
    (raws : List RawAttribute) : Prop where
  scanned : Tag.attributes content = ⟨raws, none⟩
  entered : outer.enter raws = .ok opened.scope
  written : opened.written = Tag.name content
  named : readElementName opened.scope opened.written = .ok opened.element.name
  becomes : List.Forall₂ (RawAttribute.Becomes opened.scope) raws opened.element.attributes
  distinct : raws.Pairwise (·.key ≠ ·.key)
  childless : opened.element.children = []
  first : opened.before = []

theorem read_tag_iff {outer : Scope} {content : List Char} {opened : OpenElement} :
    readTag outer content = .ok opened ↔ ∃ raws, opened.ReadFrom outer content raws := by
  unfold readTag
  simp only [bind_eq_ok_iff, read_attributes_iff]
  constructor
  · rintro ⟨scope, entered, name, named, attributes, ⟨done, each, distinct, -⟩, same⟩
    cases same
    refine ⟨(Tag.attributes content).attributes, ?_, entered, rfl, named, each, distinct, rfl, rfl⟩
    rw [← done]
  · rintro ⟨raws, read⟩
    obtain ⟨written, ⟨name, attributes, children⟩, scope, before⟩ := opened
    obtain ⟨scanned, entered, rfl, named, each, distinct, rfl, rfl⟩ := read
    rw [scanned]
    exact ⟨scope, entered, name, named, attributes, ⟨rfl, each, distinct, by simp⟩, rfl⟩

/-- The namespace of a prefix is the only thing that can be wrong with a name. -/
theorem prefixed_name_iff {scope : Scope} {lead : List Char} {base : String} {name : Name} :
    (scope.prefixUri lead).map (fun uri => (⟨some (String.ofList lead), base, some uri⟩ : Name)) =
        .ok name ↔
      (some (String.ofList lead) = name.nsPrefix ∧ base = name.localName) ∧
        ∃ uri, name.uri = some uri ∧ scope.prefixUri lead = .ok uri := by
  rcases name with ⟨front, back, uri⟩
  cases scope.prefixUri lead <;> simp [Except.map, eq_comm, and_assoc]

theorem read_element_name_iff {scope : Scope} {written : List Char} {name : Name} :
    readElementName scope written = .ok name ↔
      splitWritten written = (name.nsPrefix.map String.toList, name.localName) ∧
        match name.nsPrefix with
        | none => scope.defaultUri? = name.uri
        | some lead => ∃ uri, name.uri = some uri ∧ scope.prefixUri lead.toList = .ok uri := by
  unfold readElementName
  rw [split_eq_iff]
  rcases splitWritten written with ⟨_ | lead, base⟩
  · rcases name with ⟨_ | front, back, uri⟩ <;> simp
  · dsimp only
    rw [prefixed_name_iff]
    rcases name with ⟨_ | front, back, uri⟩
    · simp
    · simp only [Option.map_some, Option.some.injEq]
      apply and_congr_right
      rintro ⟨rfl, -⟩
      rw [String.toList_ofList]

theorem read_attribute_name_iff {scope : Scope} {key : List Char} {name : Name} :
    readAttributeName scope key = .ok name ↔
      splitWritten key = (name.nsPrefix.map String.toList, name.localName) ∧
        match name.nsPrefix with
        | none => name.uri = none
        | some lead =>
            if lead = "xmlns" then name.uri = none
            else ∃ uri, name.uri = some uri ∧ scope.prefixUri lead.toList = .ok uri := by
  unfold readAttributeName
  rw [split_eq_iff, declared_eq_of_split]
  rcases splitWritten key with ⟨_ | lead, base⟩
  · rcases name with ⟨_ | front, back, uri⟩ <;> simp [eq_comm]
  · dsimp only
    by_cases reserved : lead = "xmlns".toList
    · subst reserved
      rcases name with ⟨_ | front, back, uri⟩
      · simp
      · simp only [if_true, Option.isSome_some, Option.map_some, String.ofList_toList,
          Except.ok.injEq, Name.mk.injEq, Option.some.injEq]
        constructor
        · rintro ⟨rfl, rfl, rfl⟩
          simp
        · rintro ⟨⟨rfl, rfl⟩, given⟩
          simpa using given.symm
    · simp only [reserved, if_false, Option.isSome_none, Bool.false_eq_true]
      rw [prefixed_name_iff]
      rcases name with ⟨_ | front, back, uri⟩
      · simp
      · simp only [Option.map_some, Option.some.injEq]
        apply and_congr_right
        rintro ⟨rfl, -⟩
        have apart : String.ofList lead ≠ "xmlns" := fun same =>
          reserved (by rw [← same, String.toList_ofList])
        rw [if_neg apart, String.toList_ofList]

section
variable {scope : Scope} {raws : List RawAttribute} {attributes : Attributes}

theorem keys_of_becomes (becomes : List.Forall₂ (RawAttribute.Becomes scope) raws attributes) :
    attributes.map (·.name.written.toList) = raws.map (·.key) := by
  induction becomes with
  | nil => rfl
  | cons first _ ih =>
      have split := (read_attribute_name_iff.1 first.1).1
      rw [List.map_cons, List.map_cons, written_of_split split, ih]

theorem becomes_of_mem (becomes : List.Forall₂ (RawAttribute.Becomes scope) raws attributes)
    {item : Attribute} (member : item ∈ attributes) : ∃ raw ∈ raws, raw.Becomes scope item := by
  induction becomes with
  | nil => cases member
  | cons first _ ih =>
      rcases List.mem_cons.1 member with rfl | further
      · exact ⟨_, .head _, first⟩
      · obtain ⟨raw, inside, found⟩ := ih further
        exact ⟨raw, .tail _ inside, found⟩

end

/-- The names in a start tag, whatever their namespaces, as they are after any reading. -/
structure SpelledTag (name : Name) (attributes : Attributes) : Prop where
  splits : name.Splits
  unblank : ∀ c ∈ name.written.toList, Text.isMarkupBlank c = false
  keys : ∀ item ∈ attributes, item.name.Splits ∧ StandsAsKey item.name.written.toList
  distinct : attributes.Pairwise (·.name.written ≠ ·.name.written)

/-- An element was opened with this name and these attributes, in whatever namespaces. -/
structure OpenElement.Spells (opened : OpenElement) (name : Name) (attributes : Attributes) :
    Prop where
  named : opened.element.name.unresolved = name.unresolved
  same : opened.element.attributes.map Attribute.unresolved = attributes.map Attribute.unresolved

section
variable {outer : Scope} {content : List Char} {opened : OpenElement} {name : Name}
  {attributes : Attributes}

theorem spelled_of_read (read : readTag outer content = .ok opened) :
    SpelledTag opened.element.name opened.element.attributes := by
  obtain ⟨raws, scanned, entered, written, named, becomes, distinct, -, -⟩ := read_tag_iff.1 read
  have split := (read_element_name_iff.1 named).1
  have same := written_of_split split
  have stand : ∀ raw ∈ raws, StandsAsKey raw.key := by
    intro raw member
    have scan := scan_keys_stand (Text.size content) (Tag.afterName content) raw
    rw [Tag.attributes] at scanned
    rw [scanned] at scan
    exact (scan member).1
  refine ⟨?_, ?_, ?_, ?_⟩
  · rw [Name.Splits, same, split]
  · rw [same, written]
    intro c member
    simpa using List.mem_takeWhile_imp member
  · intro item member
    obtain ⟨raw, among, found⟩ := becomes_of_mem becomes member
    have pieces := (read_attribute_name_iff.1 found.1).1
    have key := written_of_split pieces
    rw [Name.Splits, key]
    exact ⟨pieces, stand raw among⟩
  · have apart : (raws.map (·.key)).Pairwise (· ≠ ·) := List.pairwise_map.2 distinct
    rw [← keys_of_becomes becomes, List.pairwise_map] at apart
    exact apart.imp fun different same => different (congrArg String.toList same)

theorem spelled_tag_iff :
    SpelledTag name.unresolved (attributes.map Attribute.unresolved) ↔
      SpelledTag name attributes := by
  constructor
  · rintro ⟨splits, unblank, keys, distinct⟩
    rw [List.pairwise_map] at distinct
    exact ⟨splits, unblank, List.forall_mem_map.1 keys, distinct⟩
  · rintro ⟨splits, unblank, keys, distinct⟩
    refine ⟨splits, unblank, List.forall_mem_map.2 keys, ?_⟩
    rw [List.pairwise_map]
    exact distinct

theorem spelled_of_spells (read : readTag outer content = .ok opened)
    (spells : opened.Spells name attributes) : SpelledTag name attributes := by
  rw [← spelled_tag_iff, ← spells.named, ← spells.same, spelled_tag_iff]
  exact spelled_of_read read

end

end XmlTemplate.Markup
