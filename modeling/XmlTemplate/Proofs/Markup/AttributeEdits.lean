import Mathlib.Data.List.Nodup
import XmlTemplate.Proofs.Markup.Namespaces

/-!
Edits of attributes by the names they are written with. A name in markup may end with the colon
after its prefix, while the same text given on its own is a name without a prefix, so an attribute
of the first kind is not found. All others are, and where no edit asks for one that is not, each
edit does what it says.
-/

namespace XmlTemplate.Markup

namespace Name

def isBare (name : Name) : Bool := name.nsPrefix.isSome && name.localName == ""

variable {name : Name} {written : String}

/-- A name is found by the text it is written as, or not at all. -/
theorem spelled_like_of_written_iff :
    name.spelledLike (ofWritten written) = true ↔
      name.written = written ∧ name.spelledLike (ofWritten name.written) = true := by
  constructor
  · intro like
    have same : name.written = written := by
      rw [written_eq_of_spelled_like like, written_of_written]
    exact ⟨same, same ▸ like⟩
  · rintro ⟨rfl, like⟩
    exact like

theorem not_bare_of_written (written : String) : (ofWritten written).isBare = false := by
  unfold ofWritten
  split
  · rename_i front back cut
    split
    · rfl
    · rename_i parts
      have some_back : back ≠ [] := by
        rintro rfl
        simp at parts
      simp [isBare, some_back]
  · rfl

theorem bare_not_spelled (bare : name.isBare = true) (written : String) :
    name.spelledLike (ofWritten written) = false := by
  rw [Bool.eq_false_iff]
  intro like
  obtain ⟨lead, base⟩ := spelled_like_iff.1 like
  have same : name.isBare = (ofWritten written).isBare := by rw [isBare, isBare, lead, base]
  rw [bare, not_bare_of_written] at same
  cases same

/-- A name that splits at its first colon is found if there is text on both sides of that. -/
theorem spelled_like_self (splits : name.Splits) (lead : name.nsPrefix ≠ some "")
    (based : name.isBare = false) : name.spelledLike (ofWritten name.written) = true := by
  unfold Splits splitWritten at splits
  unfold ofWritten
  rw [spelled_like_iff]
  cases cut : Text.cutAt? ':' name.written.toList with
  | some parts =>
    obtain ⟨front, back⟩ := parts
    rw [cut] at splits
    obtain ⟨leads, base⟩ := Prod.mk.inj splits
    obtain ⟨given, prefixed, rfl⟩ := Option.map_eq_some_iff.1 leads.symm
    have some_front : given.toList.isEmpty = false := by
      simpa [prefixed] using lead
    have some_back : back.isEmpty = false := by
      simpa [isBare, prefixed, ← base] using based
    simp [prefixed, some_front, some_back, base]
  | none =>
    rw [cut] at splits
    obtain ⟨leads, base⟩ := Prod.mk.inj splits
    exact ⟨Option.map_eq_none_iff.1 leads.symm, by rw [← base, String.ofList_toList]; rfl⟩

end Name

namespace Attributes

def writtenNames (attributes : Attributes) : List String := attributes.map (·.name.written)

/-- Attributes that are written differently and found by that, but for those with bare names. -/
structure Told (attributes : Attributes) : Prop where
  found : ∀ item ∈ attributes, item.name.isBare = false →
    item.name.spelledLike (.ofWritten item.name.written) = true
  distinct : attributes.writtenNames.Nodup

section
variable {keeps : Name → Bool} {written : String}
  (apart : ∀ name : Name, name.spelledLike (.ofWritten written) = true → keeps name = false)
include apart

/-- Setting an attribute leaves alone whatever is not found by its name. -/
theorem set_filter (attributes : Attributes) (value : String) :
    (attributes.set written value).filter (fun item => keeps item.name) =
      attributes.filter (fun item => keeps item.name) := by
  unfold set
  induction attributes with
  | nil => simp [setSpelled, apart _ (Name.spelled_like_iff.2 ⟨rfl, rfl⟩)]
  | cons item rest ih =>
    unfold setSpelled
    split
    · rename_i like
      rw [List.filter_cons_of_neg (by simp [apart _ like]),
        List.filter_cons_of_neg (by simp [apart _ like])]
    · rw [List.filter_cons, List.filter_cons, ih]

theorem erase_filter (attributes : Attributes) :
    (attributes.erase written).filter (fun item => keeps item.name) =
      attributes.filter (fun item => keeps item.name) := by
  unfold erase
  induction attributes with
  | nil => rfl
  | cons item rest ih =>
    rw [List.eraseP_cons]
    cases like : item.name.spelledLike (.ofWritten written) with
    | true => rw [List.filter_cons_of_neg (by simp [apart _ like])]; rfl
    | false => exact (List.filter_cons.trans (by rw [ih])).trans List.filter_cons.symm

end

theorem written_set (attributes : Attributes) (written value : String) :
    (attributes.set written value).written? written = some value := by
  unfold set written? spelled?
  induction attributes with
  | nil => simp [setSpelled, Name.spelled_like_iff.2 ⟨rfl, rfl⟩]
  | cons item rest ih =>
    unfold setSpelled
    split
    · rename_i like
      simp [like]
    · rename_i other
      simpa [other] using ih

/-- An attribute that is found is one that is written so, and its name is not bare. -/
theorem written_found {attributes : Attributes} {written value : String}
    (found : attributes.written? written = some value) :
    ∃ item ∈ attributes, item.name.written = written ∧ item.name.isBare = false := by
  obtain ⟨item, first, -⟩ := Option.map_eq_some_iff.1 found
  have like := List.find?_some first
  refine ⟨item, List.mem_of_find?_eq_some first, (Name.spelled_like_of_written_iff.1 like).1, ?_⟩
  rw [Bool.eq_false_iff]
  intro bare
  rw [Name.bare_not_spelled bare] at like
  cases like

section
variable {attributes : Attributes} {written : String} (told : attributes.Told)
  (free : ∀ item ∈ attributes, item.name.isBare = true → item.name.written ≠ written)
include told free

/-- Without a bare name that is written in the same way, an attribute is found if and only if it is
written so. -/
theorem spelled_iff_written {item : Attribute} (member : item ∈ attributes) :
    item.name.spelledLike (.ofWritten written) = true ↔ item.name.written = written := by
  rw [Name.spelled_like_of_written_iff, and_iff_left_iff_imp]
  intro same
  apply told.found item member
  rw [Bool.eq_false_iff]
  exact fun bare => free item member bare same

theorem names_set (value : String) : (attributes.set written value).writtenNames =
    if written ∈ attributes.writtenNames then attributes.writtenNames
    else attributes.writtenNames ++ [written] := by
  rcases set_spelled_cases (.ofWritten written) value attributes with same | ⟨others, added⟩
  · have names : (attributes.set written value).writtenNames = attributes.writtenNames := by
      simpa [writtenNames, set, Function.comp_def] using congrArg (List.map Name.written) same
    obtain ⟨item, member, written_so, -⟩ := written_found (written_set attributes written value)
    have present : written ∈ (attributes.set written value).writtenNames :=
      List.mem_map.2 ⟨item, member, written_so⟩
    rw [names] at present
    rw [if_pos present, names]
  · have absent : written ∉ attributes.writtenNames := by
      intro present
      obtain ⟨item, member, written_so⟩ := List.mem_map.1 present
      have like := (spelled_iff_written told free member).2 written_so
      rw [others item member] at like
      cases like
    rw [if_neg absent, writtenNames, set, added, List.map_append]
    simp [writtenNames]

theorem names_erase :
    (attributes.erase written).writtenNames = attributes.writtenNames.erase written := by
  have agree : ∀ item ∈ attributes, item.name.spelledLike (.ofWritten written) = true ↔
      item.name.written = written := fun _ member => spelled_iff_written told free member
  clear told free
  unfold writtenNames erase
  induction attributes with
  | nil => rfl
  | cons item rest ih =>
    rw [List.eraseP_cons, List.map_cons, List.erase_cons]
    by_cases same : item.name.written = written
    · rw [(agree item (.head _)).2 same, if_pos (beq_iff_eq.2 same)]
      rfl
    · have other : item.name.spelledLike (.ofWritten written) = false := by
        rw [Bool.eq_false_iff]
        exact mt (agree item (.head _)).1 same
      rw [other, if_neg (by simpa using same), ← ih fun item member => agree item (.tail _ member)]
      rfl

end

end Attributes

end XmlTemplate.Markup

namespace XmlTemplate.Template

open Markup

/-- What an edit says: no two attributes are written alike, those written differently are as they
were and in the same order, a value that is set is found at the one attribute of its name, in the
place where that was or else at the end, and an attribute that is removed is gone. -/
structure Edit.Done (edit : Edit) (before after : Attributes) : Prop where
  distinct : after.writtenNames.Nodup
  others : after.filter (·.name.written ≠ edit.name) = before.filter (·.name.written ≠ edit.name)
  set : ∀ value ∈ edit.value, after.written? edit.name = some value ∧
    after.writtenNames.count edit.name = 1 ∧
    after.writtenNames = if edit.name ∈ before.writtenNames then before.writtenNames
      else before.writtenNames ++ [edit.name]
  erased : edit.value = none → edit.name ∉ after.writtenNames

def AllDone : Attributes → List Edit → Prop
  | _, [] => True
  | before, edit :: later =>
      edit.Done before (edit.apply before) ∧ AllDone (edit.apply before) later

section
variable {edit : Edit} {before : Attributes}

theorem filter_apply (keeps : Name → Bool) (edit : Edit) (before : Attributes)
    (apart : ∀ name : Name, name.spelledLike (.ofWritten edit.name) = true → keeps name = false) :
    (edit.apply before).filter (fun item => keeps item.name) =
      before.filter (fun item => keeps item.name) := by
  unfold Edit.apply
  split
  · exact Attributes.set_filter apart before _
  · exact Attributes.erase_filter apart before

/-- No edit reaches a bare name. -/
theorem bare_mem_apply_iff {item : Attribute} (bare : item.name.isBare = true) :
    item ∈ edit.apply before ↔ item ∈ before := by
  have same := filter_apply Name.isBare edit before fun name like => by
    rw [Bool.eq_false_iff]
    intro bare
    rw [Name.bare_not_spelled bare] at like
    cases like
  have members := congrArg (item ∈ ·) same
  simpa [bare] using members

theorem names_apply {item : Attribute} (member : item ∈ edit.apply before) :
    item.name ∈ before.map (·.name) ∨ item.name = .ofWritten edit.name := by
  unfold Edit.apply at member
  split at member
  · rename_i value _
    rcases Attributes.set_spelled_cases (.ofWritten edit.name) value before with same | ⟨-, added⟩
    · left
      rw [← same]
      exact List.mem_map_of_mem member
    · rw [Attributes.set, added] at member
      rcases List.mem_append.1 member with old | new
      · exact .inl (List.mem_map_of_mem old)
      · exact .inr (congrArg Attribute.name (List.mem_singleton.1 new))
  · exact .inl (List.mem_map_of_mem (List.mem_of_mem_eraseP member))

theorem told_apply (told : before.Told) (distinct : (edit.apply before).writtenNames.Nodup) :
    (edit.apply before).Told := by
  refine ⟨?_, distinct⟩
  intro item member based
  rcases names_apply member with old | new
  · obtain ⟨other, among, same⟩ := List.mem_map.1 old
    rw [← same] at based ⊢
    exact told.found other among based
  · rw [new, Name.written_of_written]
    exact Name.spelled_like_iff.2 ⟨rfl, rfl⟩

/-- An edit does what it says unless it names an attribute with a bare name. -/
theorem done_of_free (told : before.Told)
    (free : ∀ item ∈ before, item.name.isBare = true → item.name.written ≠ edit.name) :
    edit.Done before (edit.apply before) := by
  have others : (edit.apply before).filter (·.name.written ≠ edit.name) =
      before.filter (·.name.written ≠ edit.name) :=
    filter_apply (fun name => name.written ≠ edit.name) edit before fun name like => by
      simp [(Name.spelled_like_of_written_iff.1 like).1]
  obtain ⟨written, _ | value⟩ := edit
  · have names := Attributes.names_erase told free
    refine ⟨?_, others, nofun, fun _ => ?_⟩
    · exact names ▸ told.distinct.erase written
    · exact names ▸ told.distinct.not_mem_erase
  · have names := Attributes.names_set told free value
    have distinct : (before.set written value).writtenNames.Nodup := by
      rw [names]
      split
      · exact told.distinct
      · rename_i absent
        rw [← List.concat_eq_append]
        exact told.distinct.concat absent
    refine ⟨distinct, others, ?_, nofun⟩
    rintro _ ⟨⟩
    have found := Attributes.written_set before written value
    obtain ⟨item, member, written_so, -⟩ := Attributes.written_found found
    exact ⟨found, List.count_eq_one_of_mem distinct (List.mem_map.2 ⟨item, member, written_so⟩),
      names⟩

/-- An edit that names an attribute with a bare name misses it. -/
theorem free_of_done (done : edit.Done before (edit.apply before)) :
    ∀ item ∈ before, item.name.isBare = true → item.name.written ≠ edit.name := by
  intro item member bare same
  have still : item ∈ edit.apply before := (bare_mem_apply_iff bare).2 member
  cases given : edit.value with
  | none => exact done.erased given (List.mem_map.2 ⟨item, still, same⟩)
  | some value =>
    obtain ⟨found, -, -⟩ := done.set value given
    obtain ⟨other, among, written_so, based⟩ := Attributes.written_found found
    have one := List.inj_on_of_nodup_map done.distinct still among (same.trans written_so.symm)
    rw [← one, bare] at based
    cases based

theorem all_done_iff (told : before.Told) (edits : List Edit) :
    AllDone before edits ↔ ∀ edit ∈ edits, ∀ item ∈ before,
      item.name.isBare = true → item.name.written ≠ edit.name := by
  induction edits generalizing before with
  | nil => exact ⟨fun _ => nofun, fun _ => trivial⟩
  | cons edit later ih =>
    rw [AllDone, List.forall_mem_cons]
    have rest (distinct : (edit.apply before).writtenNames.Nodup) :
        AllDone (edit.apply before) later ↔ ∀ other ∈ later, ∀ item ∈ before,
          item.name.isBare = true → item.name.written ≠ other.name := by
      rw [ih (told_apply told distinct)]
      refine forall₂_congr fun other _ => forall_congr' fun item => ?_
      constructor
      · exact fun free member bare => free ((bare_mem_apply_iff bare).2 member) bare
      · exact fun free member bare => free ((bare_mem_apply_iff bare).1 member) bare
    constructor
    · rintro ⟨done, others⟩
      exact ⟨free_of_done done, (rest done.distinct).1 others⟩
    · rintro ⟨free, others⟩
      have done := done_of_free told free
      exact ⟨done, (rest done.distinct).2 others⟩

end

theorem told_of_read {around : Markup.Surroundings} {name : Name} {attributes : Attributes}
    (tag : WellReadTag around name attributes) : attributes.Told := by
  constructor
  · intro item member based
    refine Name.spelled_like_self (tag.keys item member).1 ?_ based
    intro empty
    have declared := tag.items item member
    unfold Attribute.DeclaredIn at declared
    split at declared
    · obtain ⟨lead, given, some_lead, -⟩ := declared
      rw [empty] at given
      exact some_lead (Option.some.inj given).symm
    · rcases declared with none | declares
      · rw [empty] at none
        cases none
      · simp [Attribute.declaresPrefix, empty] at declares
  · exact List.pairwise_map.2 tag.distinct

/-- Edits of an element of a document that was read. Its attributes are written differently, and
each edit in turn does what it says if and only if no edit names an attribute that was written with
a prefix and nothing behind its colon. -/
theorem edits_done_iff {text : String} {document : Document} {name : Name}
    {attributes : Attributes} {further : Markup.Surroundings}
    (read : Document.read text = .ok document)
    (stands : Stands name (attributes :: further) [] document.nodes) (edits : List Edit) :
    attributes.writtenNames.Nodup ∧
      (AllDone attributes edits ↔ ∀ edit ∈ edits, ∀ item ∈ attributes,
        item.name.isBare = true → item.name.written ≠ edit.name) := by
  have told := told_of_read (tag_of_stands (well_read_of_document read).2 stands)
  exact ⟨told.distinct, all_done_iff told edits⟩

def namesPage : String := "<r><b xmlns:p='u' id='1' p:='2' p:id='3'/></r>"

def namesAttributes : Attributes :=
  [⟨⟨some "xmlns", "p", none⟩, "u"⟩, ⟨.plain "id", "1"⟩, ⟨⟨some "p", "", some "u"⟩, "2"⟩,
    ⟨⟨some "p", "id", some "u"⟩, "3"⟩]

def namesTree : Document := ⟨[.element (.plain "r") [] [.element (.plain "b") namesAttributes []]]⟩

theorem names_page_read : Document.read namesPage = .ok namesTree := by decide +kernel

theorem names_stand : Stands (.plain "b") [namesAttributes, []] [] namesTree.nodes :=
  .deeper (.head _) (.among (.head _) rfl)

def namesEdits : List Edit :=
  [⟨"p:id", some "4"⟩, ⟨"id", none⟩, ⟨":", some "5"⟩, ⟨"id", some "6"⟩, ⟨"q:", none⟩]

theorem names_edits_done : Document.read namesPage = .ok namesTree ∧
    Stands (.plain "b") [namesAttributes, []] [] namesTree.nodes ∧
    AllDone namesAttributes namesEdits ∧ namesEdits.foldl Edit.apply namesAttributes =
      [⟨⟨some "xmlns", "p", none⟩, "u"⟩, ⟨⟨some "p", "", some "u"⟩, "2"⟩,
        ⟨⟨some "p", "id", some "u"⟩, "4"⟩, ⟨.plain ":", "5"⟩, ⟨.plain "id", "6"⟩] := by
  have free : ∀ edit ∈ namesEdits, ∀ item ∈ namesAttributes,
      item.name.isBare = true → item.name.written ≠ edit.name := by decide
  exact ⟨names_page_read, names_stand,
    (edits_done_iff names_page_read names_stand namesEdits).2.2 free, by decide⟩

/-- An attribute with a bare name is not found by it: setting it adds another one. -/
theorem edits_not_always_done :
    ¬ ∀ (text : String) (document : Document) (name : Name) (attributes : Attributes)
      (further : Markup.Surroundings), Document.read text = .ok document →
        Stands name (attributes :: further) [] document.nodes →
          ∀ edits : List Edit, AllDone attributes edits := by
  intro all
  obtain ⟨done, -⟩ := all _ _ _ _ _ names_page_read names_stand [⟨"p:", some "3"⟩]
  exact absurd done.distinct (by decide)

end XmlTemplate.Template
