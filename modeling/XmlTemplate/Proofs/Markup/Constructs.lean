import Mathlib.Tactic.SplitIfs
import XmlTemplate.Proofs.Markup.Serializable

/-!
Where constructs end. Each kind of construct is cut off exactly at the end that was written for it,
whatever follows, as long as its content does not hold that end itself. Content of a tag may hold
anything between quotes, so there the argument goes from segment to segment.
-/

namespace XmlTemplate

namespace Text

/-- A mark cannot reach over a character that it does not hold. -/
theorem infix_append_cons {mark front back : List Char} {c : Char} (absent : c ∉ mark)
    (inside : mark <:+: front ++ c :: back) : mark <:+: front ∨ mark <:+: back := by
  have starts : ∀ {start : List Char}, start ⊆ mark → start <+: c :: back → start = [] := by
    intro start part leads
    cases start with
    | nil => rfl
    | cons d rest =>
        have same := (List.cons_prefix_cons.1 leads).1
        exact absurd (part (List.mem_cons_self ..)) (same ▸ absent)
  rcases List.infix_append_iff_ne_nil.1 inside with left | right | ⟨l, r, _, more, rfl, _, leads⟩
  · exact .inl left
  · rcases List.infix_cons_iff.1 right with leads | later
    · have empty := starts (List.Subset.refl mark) leads
      rw [empty]
      exact .inl (List.nil_infix)
    · exact .inr later
  · exact absurd (starts (List.subset_append_right l r) leads) more

theorem cut_at_text_mark {mark : List Char} (rest : List Char) (some_mark : mark ≠ []) :
    cutAtText? mark (mark ++ rest) = some ([], rest) := by
  cases mark with
  | nil => exact absurd rfl some_mark
  | cons c later =>
      have leads : (c :: later).isPrefixOf (c :: (later ++ rest)) = true :=
        List.isPrefixOf_iff_prefix.2 (List.prefix_append (c :: later) rest)
      rw [List.cons_append, cutAtText?, if_pos leads]
      simp

/-- A mark whose last character occurs in it once cannot begin in a text and end in the mark that is
written after it. -/
theorem not_prefix_append_mark {front : List Char} {last : Char} {content : List Char}
    (rest : List Char) (once : last ∉ front) (some_content : content ≠ [])
    (free : ¬ front ++ [last] <:+: content) :
    ¬ front ++ [last] <+: content ++ (front ++ [last] ++ rest) := by
  intro leads
  rcases List.prefix_or_prefix_of_prefix leads (List.prefix_append _ _) with inside | ⟨left, split⟩
  · exact free inside.isInfix
  · have again : left <+: front ++ [last] ++ rest := by
      apply (List.prefix_append_right_inj content).1
      rw [split]
      exact leads
    have shorter : left.length < (front ++ [last]).length := by
      have more := List.length_pos_iff.2 some_content
      rw [← split, List.length_append]
      omega
    have part := List.prefix_of_prefix_length_le again (List.prefix_append _ _)
      (Nat.le_of_lt shorter)
    rcases List.prefix_concat_iff.1 part with same | early
    · rw [same] at shorter
      exact absurd shorter (Nat.lt_irrefl _)
    · have ends : left <:+ front ++ [last] := ⟨content, split⟩
      rcases List.suffix_concat_iff.1 ends with empty | ⟨more, same, _⟩
      · rw [empty, List.append_nil] at split
        exact free (split ▸ List.infix_refl content)
      · apply once
        apply early.subset
        rw [same]
        exact List.mem_concat_self

theorem cut_at_text_append {mark front : List Char} {last : Char} (content rest : List Char)
    (split : mark = front ++ [last]) (once : last ∉ front) (free : ¬ mark <:+: content) :
    cutAtText? mark (content ++ (mark ++ rest)) = some (content, rest) := by
  subst split
  induction content with
  | nil => exact cut_at_text_mark rest (List.concat_ne_nil last front)
  | cons c content ih =>
      have later := ih fun inside => free (inside.trans (List.suffix_cons c content).isInfix)
      have apart := not_prefix_append_mark rest once (List.cons_ne_nil c content) free
      rw [← List.isPrefixOf_iff_prefix] at apart
      rw [List.cons_append] at apart ⊢
      rw [cutAtText?, if_neg apart, later]
      rfl

end Text

namespace Markup

def Begins (text : List Char) (construct : Construct) (rest : List Char) : Prop :=
  ∃ c later, text = c :: later ∧ cutFirst c later = .ok (construct, rest)

theorem lexemes_eq_of_begins {text rest : List Char} {construct : Construct} (size : Nat)
    (begins : Begins text construct rest) : lexemes size text =
      (⟨size - Text.size text, size - Text.size rest, construct⟩ :: (lexemes size rest).1,
        (lexemes size rest).2) := by
  rcases begins with ⟨c, later, rfl, cut⟩
  rw [lexemes]
  split
  · rename_i broken
    rw [cut] at broken
    cases broken
  · rename_i found
    rw [cut] at found
    cases found
    rfl

theorem lexemes_of_begins {text rest : List Char} {construct : Construct} (size : Nat)
    (begins : Begins text construct rest) : ∃ start stop, lexemes size text =
      (⟨start, stop, construct⟩ :: (lexemes size rest).1, (lexemes size rest).2) :=
  ⟨_, _, lexemes_eq_of_begins size begins⟩

theorem begins_of_cut_markup {text rest : List Char} {construct : Construct}
    (cut : cutMarkup text = .ok (construct, rest)) : Begins ('<' :: text) construct rest :=
  ⟨'<', text, rfl, by rw [cutFirst, if_pos rfl, cut]⟩

theorem begins_text {raw rest : List Char} (some_raw : raw ≠ []) (plain : '<' ∉ raw)
    (ends : ∀ c ∈ rest.head?, c = '<') : Begins (raw ++ rest) (.text raw) rest := by
  cases raw with
  | nil => exact absurd rfl some_raw
  | cons c raw =>
      simp only [List.mem_cons, not_or] at plain
      have keeps : ∀ d ∈ raw, (d ≠ '<' : Bool) = true := by
        intro d member
        apply decide_eq_true
        intro same
        exact plain.2 (same ▸ member)
      refine ⟨c, raw ++ rest, rfl, ?_⟩
      rw [cutFirst, if_neg (Ne.symm plain.1), List.takeWhile_append_of_pos keeps,
        List.dropWhile_append_of_pos keeps]
      cases rest with
      | nil => simp
      | cons d rest => simp [ends d rfl]

theorem cut_cdata_append {content : List Char} (rest : List Char)
    (free : ¬ "]]>".toList <:+: "CDATA[".toList ++ content) :
    cutCdata ("CDATA[".toList ++ content ++ ("]]>".toList ++ rest)) =
      .ok (.cdata content, rest) := by
  have split : [']', ']', '>'] = [']', ']'] ++ ['>'] := rfl
  have cut := Text.cut_at_text_append _ rest split (by decide) free
  change cutCdata ("CDATA[".toList ++ content ++ ([']', ']', '>'] ++ rest)) = _
  rw [cutCdata, cut]
  rfl

theorem begins_cdata {content : List Char} (rest : List Char)
    (free : ¬ "]]>".toList <:+: content) :
    Begins ("<![CDATA[".toList ++ (content ++ ("]]>".toList ++ rest))) (.cdata content) rest := by
  apply begins_of_cut_markup
  apply cut_cdata_append rest
  intro inside
  change _ <:+: "CDATA".toList ++ '[' :: content at inside
  rcases Text.infix_append_cons (by decide) inside with keyword | later
  · exact absurd keyword (by decide)
  · exact free later

theorem cut_comment_append {content : List Char} (rest : List Char)
    (free : ¬ "-->".toList <:+: content) :
    cutComment ('-' :: (content ++ ("-->".toList ++ rest))) = .ok (.comment content, rest) := by
  have split : ['-', '-', '>'] = ['-', '-'] ++ ['>'] := rfl
  have cut := Text.cut_at_text_append content rest split (by decide) free
  change cutComment ('-' :: (content ++ (['-', '-', '>'] ++ rest))) = _
  rw [cutComment, cut]
  rfl

theorem begins_comment {content : List Char} (rest : List Char)
    (free : ¬ "-->".toList <:+: content) :
    Begins ("<!--".toList ++ (content ++ ("-->".toList ++ rest))) (.comment content) rest :=
  begins_of_cut_markup (cut_comment_append rest free)

theorem cut_instruction_append {content : List Char} (rest : List Char)
    (free : ¬ "?>".toList <:+: content) (closed : content.head? ≠ some '>') :
    cutInstruction (content ++ ("?>".toList ++ rest)) =
      .ok (if isDeclaration content then .declaration content else .instruction content, rest) := by
  have split : ['?', '>'] = ['?'] ++ ['>'] := rfl
  have cut := Text.cut_at_text_append content rest split (by decide) free
  change cutInstruction (content ++ (['?', '>'] ++ rest)) = _
  unfold cutInstruction
  split
  · rename_i after same
    cases content with
    | nil => cases same
    | cons c content =>
        cases same
        exact absurd rfl closed
  · rw [cut]

theorem begins_instruction {content : List Char} (rest : List Char)
    (holds : InstructionContent content) :
    Begins ("<?".toList ++ (content ++ ("?>".toList ++ rest))) (.instruction content) rest := by
  apply begins_of_cut_markup
  have cut := cut_instruction_append rest holds.unended holds.closed
  rw [holds.plain] at cut
  exact cut

theorem begins_declaration {content : List Char} (rest : List Char)
    (free : ¬ "?>".toList <:+: content) (declares : isDeclaration content = true) :
    Begins ("<?".toList ++ (content ++ ("?>".toList ++ rest))) (.declaration content) rest := by
  apply begins_of_cut_markup
  have closed : content.head? ≠ some '>' := by
    intro first
    cases content with
    | nil => cases first
    | cons c content =>
        cases first
        cases declares
  have cut := cut_instruction_append rest free closed
  rw [declares] at cut
  exact cut

theorem balanced_append {depth : Nat} {content : List Char} (rest : List Char)
    (balanced : isBalanced depth content = true) :
    balanced? depth (content ++ '>' :: rest) = some (content, rest) := by
  induction content generalizing depth with
  | nil =>
      have closed : depth = 0 := by simpa [isBalanced] using balanced
      subst closed
      rfl
  | cons c content ih =>
      by_cases left : c = '<'
      · subst left
        have later : balanced? (depth + 1) (content ++ '>' :: rest) = _ := ih balanced
        rw [List.cons_append, balanced?, if_pos rfl, later]
        · rfl
        · intro _ same
          cases same
      · by_cases right : c = '>'
        · subst right
          cases depth with
          | zero => cases balanced
          | succ depth =>
              have later : balanced? depth (content ++ '>' :: rest) = _ := ih balanced
              rw [List.cons_append, balanced?, if_neg left, if_pos rfl, Nat.add_sub_cancel, later]
              · rfl
              · exact fun none_open => absurd none_open (Nat.succ_ne_zero depth)
        · rw [isBalanced, if_neg left, if_neg right] at balanced
          rw [List.cons_append, balanced?, if_neg left, if_neg right, ih balanced]
          · rfl
          · exact fun _ => right

theorem not_blank_of_trimmed {c : Char} {content : List Char}
    (trimmed : Text.trimBlanks (c :: content) = c :: content) : Text.isBlank c = false := by
  rw [Bool.eq_false_iff]
  intro blank
  have shorter : (Text.trimBlanks (c :: content)).length ≤ content.length := by
    have front := (List.dropWhile_suffix Text.isBlank (l := content)).length_le
    have back := (List.dropWhile_suffix Text.isBlank
      (l := (content.dropWhile Text.isBlank).reverse)).length_le
    rw [List.length_reverse] at back
    simp only [Text.trimBlanks, Text.trimEnd, List.dropWhile_cons_of_pos blank,
      List.length_reverse]
    omega
  rw [trimmed] at shorter
  exact Nat.not_succ_le_self _ shorter

/-- What follows the keyword of a document type is taken without the blanks before it. -/
theorem cut_doctype_append {content : List Char} (rest : List Char)
    (balanced : isBalanced 0 content = true)
    (keyword : (content.take 7).map Char.toUpper = "DOCTYPE".toList)
    (named : (content.drop 7).dropWhile Text.isMarkupBlank ≠ []) :
    cutDoctype (content ++ '>' :: rest) =
      .ok (.doctype ((content.drop 7).dropWhile Text.isMarkupBlank), rest) := by
  rw [cutDoctype, balanced_append rest balanced]
  simp only [keyword, if_true]

theorem begins_doctype {content : List Char} (rest : List Char) (holds : DoctypeContent content) :
    Begins ("<!DOCTYPE ".toList ++ (content ++ '>' :: rest)) (.doctype content) rest := by
  apply begins_of_cut_markup
  cases content with
  | nil => exact absurd rfl holds.named
  | cons c content =>
      have shown := not_blank_of_trimmed holds.trimmed
      have kept : Text.isMarkupBlank c = false := by
        rw [Bool.eq_false_iff] at shown ⊢
        exact fun blank => shown (Text.is_blank_of_is_markup_blank blank)
      have body : (("DOCTYPE ".toList ++ c :: content).drop 7).dropWhile Text.isMarkupBlank =
          c :: content := by
        change (' ' :: c :: content).dropWhile Text.isMarkupBlank = c :: content
        rw [List.dropWhile_cons_of_pos rfl, List.dropWhile_cons_of_neg (by simp [kept])]
      have named := body ▸ List.cons_ne_nil c content
      have balanced : isBalanced 0 ("DOCTYPE ".toList ++ c :: content) = true := holds.balanced
      have cut := cut_doctype_append rest balanced rfl named
      rw [body] at cut
      exact cut

/-- Nothing in a segment ends the tag in whose content it stands outside quotes. -/
def KeepsTagOpen (segment : List Char) : Prop :=
  ∀ rest, tagContent? none (segment ++ rest) =
    (tagContent? none rest).map fun (content, after) => (segment ++ content, after)

theorem keeps_tag_open_nil : KeepsTagOpen [] := by
  intro rest
  rw [List.nil_append]
  cases tagContent? none rest <;> rfl

theorem keeps_tag_open_append {front back : List Char} (first : KeepsTagOpen front)
    (second : KeepsTagOpen back) : KeepsTagOpen (front ++ back) := by
  intro rest
  rw [List.append_assoc, first, second]
  cases tagContent? none rest with
  | none => rfl
  | some found => simp only [Option.map_some, List.append_assoc]

theorem keeps_tag_open_of_plain {segment : List Char} (unended : '>' ∉ segment)
    (no_double : '"' ∉ segment) (no_single : '\'' ∉ segment) : KeepsTagOpen segment := by
  induction segment with
  | nil => exact keeps_tag_open_nil
  | cons c segment ih =>
      simp only [List.mem_cons, not_or] at unended no_double no_single
      have later := ih unended.2 no_double.2 no_single.2
      have unquoted : ¬ (c = '"' ∨ c = '\'') := by
        rw [not_or]
        exact ⟨Ne.symm no_double.1, Ne.symm no_single.1⟩
      intro rest
      rw [List.cons_append, tagContent?, if_neg (Ne.symm unended.1), if_neg unquoted, later]
      cases tagContent? none rest <;> rfl

theorem keeps_tag_open_quoted {value : List Char} (unquoted : '"' ∉ value) :
    KeepsTagOpen ('"' :: value ++ ['"']) := by
  have inside : ∀ rest, tagContent? (some '"') (value ++ '"' :: rest) =
      (tagContent? none rest).map fun (content, after) => (value ++ '"' :: content, after) := by
    intro rest
    induction value with
    | nil => rfl
    | cons c value ih =>
        simp only [List.mem_cons, not_or] at unquoted
        rw [List.cons_append, tagContent?, if_neg (Ne.symm unquoted.1), ih unquoted.2]
        cases tagContent? none rest <;> rfl
  intro rest
  rw [List.append_assoc, List.cons_append, List.singleton_append, tagContent?,
    if_neg (by decide), if_pos (.inl rfl), inside]
  cases tagContent? none rest with
  | none => rfl
  | some found => simp

theorem tag_content_append {content : List Char} (rest : List Char) (keeps : KeepsTagOpen content) :
    tagContent? none (content ++ '>' :: rest) = some (content, rest) := by
  rw [keeps, tagContent?, if_pos rfl]
  simp only [Option.map_some, List.append_nil]

/-- What may stand after `<` without beginning another construct than a start tag. -/
def MayOpen (content : List Char) : Prop := ∀ c ∈ content.head?, c ≠ '/' ∧ c ≠ '?' ∧ c ≠ '!'

instance (content : List Char) : Decidable (MayOpen content) :=
  Option.decidableForallMem content.head?

theorem cut_markup_of_may_open {content : List Char} (rest : List Char) (opens : MayOpen content) :
    cutMarkup (content ++ '>' :: rest) = cutTag openingOf (content ++ '>' :: rest) := by
  cases content with
  | nil => rfl
  | cons c later =>
      have other := opens c rfl
      rw [List.cons_append]
      unfold cutMarkup
      split <;> simp_all

theorem begins_tag {content : List Char} (rest : List Char) (opens : MayOpen content)
    (keeps : KeepsTagOpen content) :
    Begins ('<' :: (content ++ '>' :: rest)) (openingOf content) rest := by
  apply begins_of_cut_markup
  rw [cut_markup_of_may_open rest opens, cutTag, tag_content_append rest keeps]

theorem begins_closing {content : List Char} (rest : List Char) (keeps : KeepsTagOpen content) :
    Begins ("</".toList ++ (content ++ '>' :: rest)) (.closing content) rest := by
  apply begins_of_cut_markup
  change cutTag .closing (content ++ '>' :: rest) = _
  rw [cutTag, tag_content_append rest keeps]

end Markup
end XmlTemplate
