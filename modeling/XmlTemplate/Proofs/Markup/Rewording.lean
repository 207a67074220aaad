import Mathlib.Data.List.Forall2
import XmlTemplate.Proofs.Markup.Pages

/-!
Pages that differ in what they say. Texts and the values of attributes are written without anything
that could end a tag or a quote, so whether a page comes back from its markup does not depend on
them. Declarations of prefixes are apart: their values decide which names may stand below them.
-/

namespace XmlTemplate.Markup

/-- The same attribute with another value, unless it declares a prefix. -/
structure Attribute.Reworded (item other : Attribute) : Prop where
  name : other.name = item.name
  declared : item.declaresPrefix = true → other.value = item.value

mutual
/-- The same node with other texts and other values of attributes. -/
inductive Node.Reworded : Node → Node → Prop
  | element {name : Name} {attributes items : Attributes} {children others : Forest}
      (same : List.Forall₂ Attribute.Reworded attributes items)
      (inside : Forest.Reworded children others) :
      Node.Reworded (.element name attributes children) (.element name items others)
  | text (content other : String) : Node.Reworded (.text content) (.text other)
  | leaf {node : Node} (childless : node.element? = none) : Node.Reworded node node

inductive Forest.Reworded : Forest → Forest → Prop
  | nil : Forest.Reworded [] []
  | cons {node other : Node} {nodes others : Forest} (first : Node.Reworded node other)
      (rest : Forest.Reworded nodes others) : Forest.Reworded (node :: nodes) (other :: others)
end

section
variable {attributes items : Attributes}

theorem names_of_reworded (same : List.Forall₂ Attribute.Reworded attributes items) :
    items.map (·.name) = attributes.map (·.name) := by
  induction same with
  | nil => rfl
  | cons first _ ih => rw [List.map_cons, List.map_cons, first.name, ih]

/-- A value in which nothing ends a tag, and no quote is opened or closed. -/
def Unmarked (value : List Char) : Prop := '>' ∉ value ∧ '"' ∉ value ∧ '\'' ∉ value

instance (value : List Char) : Decidable (Unmarked value) :=
  inferInstanceAs (Decidable (_ ∧ _ ∧ _))

theorem unmarked_append {front back : List Char} (first : Unmarked front) (second : Unmarked back) :
    Unmarked (front ++ back) := by
  simp only [Unmarked, List.mem_append, not_or] at first second ⊢
  exact ⟨⟨first.1, second.1⟩, ⟨first.2.1, second.2.1⟩, first.2.2, second.2.2⟩

theorem unmarked_escaped (c : Char) : Unmarked (Reference.escapedInValue c) := by
  unfold Reference.escapedInValue Reference.escapedInText
  split_ifs with single double less greater
  · decide
  · decide
  · decide
  · decide
  · decide
  · simp only [Unmarked, List.mem_singleton]
    exact ⟨Ne.symm greater, Ne.symm double, Ne.symm single⟩

theorem unmarked_escape_value (value : String) :
    Unmarked (Reference.escapeValue value).toList := by
  rw [Reference.escapeValue, String.toList_ofList]
  induction value.toList with
  | nil => decide
  | cons c rest ih => exact unmarked_append (unmarked_escaped c) ih

theorem quote_after_unmarked {front value : List Char} {quote : Option Char}
    (reached : quoteAfter none front = some quote) (unmarked : Unmarked value) :
    quoteAfter quote value = some quote := by
  obtain ⟨unended, no_double, no_single⟩ := unmarked
  cases quote with
  | none => exact keeps_tag_open_iff.1 (keeps_tag_open_of_plain unended no_double no_single)
  | some quote =>
      rcases quote_of_quote_after reached with same | rfl | rfl
      · cases same
      · exact quote_after_other no_double
      · exact quote_after_other no_single

theorem quote_after_append_unmarked {front value : List Char} (unmarked : Unmarked value) :
    quoteAfter none (front ++ value) = quoteAfter none front := by
  rw [quote_after_append]
  cases reached : quoteAfter none front with
  | none => rfl
  | some quote => exact quote_after_unmarked reached unmarked

theorem quote_after_congr {front other : List Char} (back : List Char)
    (same : quoteAfter none front = quoteAfter none other) :
    quoteAfter none (front ++ back) = quoteAfter none (other ++ back) := by
  rw [quote_after_append, quote_after_append, same]

theorem quote_after_reworded_pair {front other : List Char} {item changed : Attribute}
    (before : quoteAfter none front = quoteAfter none other) (same : item.Reworded changed) :
    quoteAfter none (front ++ writePair item.pair) =
      quoteAfter none (other ++ writePair changed.pair) := by
  have split : ∀ (front : List Char) (item : Attribute), front ++ writePair item.pair =
      front ++ (' ' :: item.name.written.toList ++ ['=', '"']) ++
        (Reference.escapeValue item.value).toList ++ ['"'] := by
    intro front item
    simp [writePair, Attribute.pair]
  rw [split, split, same.name]
  apply quote_after_congr
  rw [quote_after_append_unmarked (unmarked_escape_value _),
    quote_after_append_unmarked (unmarked_escape_value _)]
  exact quote_after_congr _ before

theorem keeps_tag_open_reworded (same : List.Forall₂ Attribute.Reworded attributes items)
    (name : Name) :
    KeepsTagOpen (tagContent name attributes) ↔ KeepsTagOpen (tagContent name items) := by
  have pairs : ∀ front other, quoteAfter none front = quoteAfter none other →
      quoteAfter none (front ++ (attributes.map Attribute.pair).flatMap writePair) =
        quoteAfter none (other ++ (items.map Attribute.pair).flatMap writePair) := by
    induction same with
    | nil => exact fun front other before => quote_after_congr [] before
    | cons first _ ih =>
        intro front other before
        simp only [List.map_cons, List.flatMap_cons, ← List.append_assoc]
        exact ih _ _ (quote_after_reworded_pair before first)
  rw [keeps_tag_open_iff, keeps_tag_open_iff, tagContent, tagContent, writeTagContent,
    writeTagContent, pairs _ _ rfl]

theorem binds_reworded {item other : Attribute} (same : item.Reworded other) (lead : String) :
    other.binds lead = item.binds lead := by
  rw [Attribute.binds, Attribute.binds, same.name]

/-- Only what the empty prefix is bound to may change. -/
theorem value_of_binds {item other : Attribute} {lead : String} (same : item.Reworded other)
    (prefixed : lead ≠ "") (binds : item.binds lead = true) : other.value = item.value := by
  apply same.declared
  rw [Attribute.binds, Bool.or_eq_true, spelled_like_declaring_iff, Name.spelled_like_iff] at binds
  rcases binds with (⟨-, -, empty⟩ | ⟨front, -⟩) | ⟨front, -⟩
  · exact absurd empty prefixed
  · exact beq_iff_eq.2 front
  · exact beq_iff_eq.2 front

theorem found_reworded (same : List.Forall₂ Attribute.Reworded attributes items) {lead : String}
    (prefixed : lead ≠ "") : (items.find? (·.binds lead)).map (·.value) =
      (attributes.find? (·.binds lead)).map (·.value) := by
  induction same with
  | nil => rfl
  | cons first _ ih =>
      rw [List.find?_cons, List.find?_cons, binds_reworded first]
      split
      · rename_i binds
        rw [Option.map_some, Option.map_some, value_of_binds first prefixed binds]
      · exact ih

theorem bound_reworded (same : List.Forall₂ Attribute.Reworded attributes items) {lead : String}
    (prefixed : lead ≠ "") : items.bound? lead = attributes.bound? lead :=
  found_reworded (List.rel_reverse same) prefixed

variable {around outside : Surroundings}

theorem knows_reworded (same : List.Forall₂ (List.Forall₂ Attribute.Reworded) around outside)
    (lead : String) : around.Knows lead ↔ outside.Knows lead := by
  unfold Surroundings.Knows
  refine and_congr_right fun prefixed => ?_
  have bound : outside.bound? lead = around.bound? lead := by
    unfold Surroundings.bound?
    induction same with
    | nil => rfl
    | cons first _ ih =>
        rw [List.findSome?_cons, List.findSome?_cons, bound_reworded first prefixed, ih]
  rw [Surroundings.namespace?, Surroundings.namespace?, bound]

theorem readable_reworded {item other : Attribute}
    (known : ∀ lead, around.Knows lead ↔ outside.Knows lead) (same : item.Reworded other) :
    item.Readable around ↔ other.Readable outside := by
  have declares : other.declaresPrefix = item.declaresPrefix := by
    rw [Attribute.declaresPrefix, same.name, Attribute.declaresPrefix]
  have allowed : (item.declaresPrefix = true → item.MayDeclare) ↔
      (other.declaresPrefix = true → other.MayDeclare) := by
    rw [declares]
    refine forall_congr' fun declared => ?_
    rw [Attribute.MayDeclare, Attribute.MayDeclare, same.name, same.declared declared]
  have knows : (item.declaresPrefix = false → ∀ lead ∈ item.name.nsPrefix, around.Knows lead) ↔
      (other.declaresPrefix = false → ∀ lead ∈ other.name.nsPrefix, outside.Knows lead) := by
    rw [declares, same.name]
    exact forall_congr' fun _ => forall₂_congr fun lead _ => known lead
  constructor
  · rintro ⟨splits, stands, own, may⟩
    exact ⟨same.name ▸ splits, same.name ▸ stands, knows.1 own, allowed.1 may⟩
  · rintro ⟨splits, stands, own, may⟩
    exact ⟨same.name ▸ splits, same.name ▸ stands, knows.2 own, allowed.2 may⟩

theorem items_readable_reworded (known : ∀ lead, around.Knows lead ↔ outside.Knows lead)
    (same : List.Forall₂ Attribute.Reworded attributes items) :
    (∀ item ∈ attributes, item.Readable around) ↔ ∀ other ∈ items, other.Readable outside := by
  induction same with
  | nil => exact iff_of_true nofun nofun
  | cons first _ ih =>
      rw [List.forall_mem_cons, List.forall_mem_cons, readable_reworded known first, ih]

theorem tag_fits_reworded (outer : List.Forall₂ (List.Forall₂ Attribute.Reworded) around outside)
    (same : List.Forall₂ Attribute.Reworded attributes items) (name : Name) :
    TagFits around name attributes ↔ TagFits outside name items := by
  have keeps := keeps_tag_open_reworded same name
  have each := items_readable_reworded (knows_reworded (.cons same outer)) same
  constructor
  · rintro ⟨open_tag, readable⟩
    exact ⟨keeps.1 open_tag, each.1 readable⟩
  · rintro ⟨open_tag, readable⟩
    exact ⟨keeps.2 open_tag, each.2 readable⟩

end

mutual
theorem Node.Reworded.fits_iff {node other : Node} {around outside : Surroundings}
    (outer : List.Forall₂ (List.Forall₂ Attribute.Reworded) around outside) :
    node.Reworded other → (node.Fits around ↔ other.Fits outside)
  | .element same inside => by
      rw [Node.Fits, Node.Fits, tag_fits_reworded outer same, inside.fits_iff (.cons same outer)]
  | .text _ _ => Iff.rfl
  | .leaf childless => by
      cases other with
      | element => cases childless
      | _ => exact Iff.rfl

theorem Forest.Reworded.fits_iff {nodes others : Forest} {around outside : Surroundings}
    (outer : List.Forall₂ (List.Forall₂ Attribute.Reworded) around outside) :
    Forest.Reworded nodes others → (Forest.Fits around nodes ↔ Forest.Fits outside others)
  | .nil => Iff.rfl
  | .cons first rest => by
      rw [Forest.Fits, Forest.Fits, first.fits_iff outer, rest.fits_iff outer]
end

mutual
theorem Node.Reworded.of_page {node other : Node} : node.Reworded other → node.OfPage → other.OfPage
  | .element same inside, page => by
      cases page with
      | leaf childless _ => cases childless
      | element word unprefixed settled children =>
          rw [← names_of_reworded same] at settled
          exact .element word unprefixed settled (inside.of_page children)
  | .text _ _, _ => .leaf rfl trivial
  | .leaf _, page => page

theorem Forest.Reworded.of_page {nodes others : Forest} :
    Forest.Reworded nodes others → nodes.OfPage → others.OfPage
  | .nil, page => page
  | .cons first rest, page => by
      obtain ⟨here, later⟩ := List.forall_mem_cons.1 page
      exact List.forall_mem_cons.2 ⟨first.of_page here, rest.of_page later⟩
end

/-- A reworded page comes back from its markup if and only if the attributes of the page that it was
made from fit. -/
theorem reworded_page_read_write_iff {nodes others : Forest} (page : nodes.OfPage)
    (reworded : nodes.Reworded others) :
    (∃ parsed, Forest.read (Forest.write others) = .ok parsed ∧
      parsed.unresolved = others.tidy.unresolved) ↔
        Forest.Fits [] nodes ∧ (Forest.write others).toList.head? ≠ some '\ufeff' := by
  rw [page_read_write_iff (reworded.of_page page), ← reworded.fits_iff .nil]

/-- Declarations are left out for a reason: a prefix may not be bound to each value. -/
example : Forest.Fits [] [.element (.plain "p") [⟨⟨some "xmlns", "q", none⟩, "u"⟩] []] ∧
    ¬ Forest.Fits [] [.element (.plain "p") [⟨⟨some "xmlns", "q", none⟩, xmlnsUri⟩] []] := by
  decide +kernel

end XmlTemplate.Markup
