import XmlTemplate.Proofs.Markup.WellRead

/-!
The normal form of a tree. Reading never leaves an empty text, two texts side by side or two
attributes written alike, and no leaf holds the mark that would have ended it, so a tree that was
read is in the one form in which its text can be written again. The normal form is stated for the
tree alone, without the text it came from.
-/

namespace XmlTemplate

namespace Text

structure Trimmed (chars : List Char) : Prop where
  first : ∀ c ∈ chars.head?, isBlank c = false
  last : ∀ c ∈ chars.getLast?, isBlank c = false

/-- Trimming leaves alone what begins and ends without a blank, and nothing else. -/
theorem trim_blanks_eq_self_iff {chars : List Char} :
    trimBlanks chars = chars ↔ Trimmed chars := by
  have ends : trimEnd isBlank chars = chars ↔ ∀ c ∈ chars.getLast?, isBlank c = false := by
    refine List.rdropWhile_eq_self_iff.trans ⟨fun last c final => ?_, fun last some_char => ?_⟩
    · have some_char : chars ≠ [] := by
        rintro rfl
        cases final
      rw [List.getLast?_eq_some_getLast some_char] at final
      cases final
      exact Bool.eq_false_iff.2 (last some_char)
    · exact Bool.eq_false_iff.1 (last _ (List.getLast?_eq_some_getLast some_char))
  constructor
  · intro same
    have shorter : (chars.dropWhile isBlank).length = chars.length := by
      refine Nat.le_antisymm (List.dropWhile_suffix _).length_le ?_
      calc chars.length = (trimBlanks chars).length := by rw [same]
        _ ≤ (chars.dropWhile isBlank).length := (List.rdropWhile_prefix _ _).length_le
    have begins := (List.dropWhile_suffix isBlank).eq_of_length shorter
    refine ⟨fun c first => ?_, ends.1 (by rwa [trimBlanks, begins] at same)⟩
    have starts := List.head?_dropWhile_not isBlank chars
    rw [begins, first] at starts
    simpa using starts
  · rintro ⟨first, last⟩
    have begins : chars.dropWhile isBlank = chars := by
      cases chars with
      | nil => rfl
      | cons c rest => exact List.dropWhile_cons_of_neg (by simp [first c rfl])
    rw [trimBlanks, begins]
    exact ends.2 last

end Text

namespace Markup

/-- Content that names a declaration: `xml`, alone or before a markup blank. -/
def NamesDeclaration (content : List Char) : Prop :=
  ∃ rest, content = "xml".toList ++ rest ∧ ∀ c ∈ rest.head?, Text.isMarkupBlank c = true

theorem is_declaration_iff {content : List Char} :
    isDeclaration content = true ↔ NamesDeclaration content := by
  unfold isDeclaration
  split
  · exact ⟨fun _ => ⟨[], rfl, nofun⟩, fun _ => rfl⟩
  · rename_i c rest
    constructor
    · intro blank
      refine ⟨c :: rest, rfl, ?_⟩
      rintro _ ⟨⟩
      exact blank
    · rintro ⟨others, same, starts⟩
      cases same
      exact starts c rfl
  · rename_i alone further
    refine ⟨nofun, ?_⟩
    rintro ⟨_ | ⟨c, others⟩, same, -⟩
    · exact absurd same alone
    · exact absurd same (further c others)

mutual
def Node.Normal : Node → Prop
  | .element _ attributes children =>
      attributes.Pairwise (·.name.written ≠ ·.name.written) ∧ Forest.Normal children
  | .text content => content ≠ ""
  | .cdata content => ¬ "]]>".toList <:+: content.toList
  | .comment content => ¬ "-->".toList <:+: content.toList
  | .instruction content =>
      ¬ "?>".toList <:+: content.toList ∧ ¬ NamesDeclaration content.toList
  | .doctype content => Text.Trimmed content.toList ∧ isBalanced 0 content.toList = true
  | .declaration _ => True

def Forest.Normal : Forest → Prop
  | [] => True
  | node :: rest =>
      Node.Normal node ∧ (∀ next ∈ rest.head?, ¬ (node.isText = true ∧ next.isText = true)) ∧
        Forest.Normal rest
end

mutual
theorem Node.normal_of_well_read {around : Surroundings} :
    (node : Node) → node.WellRead around → node.Normal
  | .element _ _ children, ⟨tag, _, apart, below⟩ =>
      ⟨tag.distinct, Forest.normal_of_well_read children apart below⟩
  | .text _, some_text => some_text
  | .cdata _, unended => unended
  | .comment _, unended => unended
  | .instruction _, content =>
      ⟨content.unended, fun named => by
        have plain := content.plain
        rw [is_declaration_iff.2 named] at plain
        cases plain⟩
  | .doctype _, ⟨trimmed, balanced⟩ => ⟨Text.trim_blanks_eq_self_iff.1 trimmed, balanced⟩
  | .declaration _, _ => trivial

theorem Forest.normal_of_well_read {around : Surroundings} :
    (nodes : Forest) → Forest.Apart nodes → Forest.WellRead around nodes → Forest.Normal nodes
  | [], _, _ => trivial
  | node :: rest, apart, ⟨first, later⟩ => by
      obtain ⟨next, others⟩ := List.isChain_cons.1 apart
      exact ⟨Node.normal_of_well_read node first, next,
        Forest.normal_of_well_read rest others later⟩
end

/-- Whatever was read is in normal form. -/
theorem read_normal {text : String} {nodes : Forest} (read : Forest.read text = .ok nodes) :
    Forest.Normal nodes := by
  obtain ⟨apart, well⟩ := well_read_of_read read
  exact Forest.normal_of_well_read nodes apart well

/-- A fragment whose marks overlap with each other and with what they enclose. -/
def overlappingMarks : String :=
  "one&amp;<!-->--->two<??><![CDATA[]]]]><p b:='' xmlns:b='u' b='3'>&lt;<?xmlx?>three</p>" ++
    "<!doctype  <<a>b>\u00a0><!---->"

def overlappingNodes : Forest :=
  [.text "one&", .comment ">-", .text "two", .instruction "", .cdata "]]",
    .element (.plain "p")
      [⟨⟨some "b", "", some "u"⟩, ""⟩, ⟨⟨some "xmlns", "b", none⟩, "u"⟩, ⟨.plain "b", "3"⟩]
      [.text "<", .instruction "xmlx", .text "three"],
    .doctype "<<a>b>", .comment ""]

theorem overlapping_marks_normal :
    Forest.read overlappingMarks = .ok overlappingNodes ∧ Forest.Normal overlappingNodes := by
  have read : Forest.read overlappingMarks = .ok overlappingNodes := by decide +kernel
  exact ⟨read, read_normal read⟩

end Markup
end XmlTemplate
