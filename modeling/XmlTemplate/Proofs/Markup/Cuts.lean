import Mathlib.Data.List.Chain
import Mathlib.Data.List.TakeWhile
import XmlTemplate.Proofs.Markup.Constructs

/-!
What is cut out of a text. A construct never holds what would have ended it earlier, a tag has its
quotes closed, and a run of text goes as far as it can, so that no two runs are neighbours. These
are the facts about markup that hold whatever was read, tidy or not.
-/

namespace XmlTemplate

namespace Text

theorem not_infix_of_cut_at_text {mark chars front back : List Char} (some_mark : mark ≠ [])
    (cut : cutAtText? mark chars = some (front, back)) : ¬ mark <:+: front := by
  induction chars generalizing front with
  | nil =>
      rw [cutAtText?, if_neg (by simpa using some_mark)] at cut
      cases cut
  | cons c rest ih =>
      rw [cutAtText?] at cut
      by_cases leads : mark.isPrefixOf (c :: rest) = true
      · rw [if_pos leads] at cut
        cases cut
        simpa using some_mark
      · rw [if_neg leads, Option.map_eq_some_iff] at cut
        obtain ⟨⟨later, after⟩, found, same⟩ := cut
        cases same
        intro inside
        rcases List.infix_cons_iff.1 inside with starts | further
        · apply leads
          rw [List.isPrefixOf_iff_prefix, eq_of_cut_at_text found, List.append_assoc,
            ← List.cons_append]
          exact starts.trans (List.prefix_append _ _)
        · exact ih found further

end Text

namespace Markup

/-- The quote that is open after a segment of a tag, if nothing in the segment ends the tag. -/
def quoteAfter : Option Char → List Char → Option (Option Char)
  | quote, [] => some quote
  | none, c :: rest =>
      if c = '>' then none
      else quoteAfter (if c = '"' ∨ c = '\'' then some c else none) rest
  | some quote, c :: rest => quoteAfter (if c = quote then none else some quote) rest

theorem quote_after_append (quote : Option Char) (front back : List Char) :
    quoteAfter quote (front ++ back) = (quoteAfter quote front).bind (quoteAfter · back) := by
  induction front generalizing quote with
  | nil => rfl
  | cons c front ih =>
      cases quote with
      | some quote => exact ih _
      | none =>
          rw [List.cons_append, quoteAfter, quoteAfter]
          split
          · rfl
          · exact ih _

theorem tag_content_of_quote_after {quote after : Option Char} {segment : List Char}
    (open_after : quoteAfter quote segment = some after) (rest : List Char) :
    tagContent? quote (segment ++ rest) =
      (tagContent? after rest).map fun (content, more) => (segment ++ content, more) := by
  induction segment generalizing quote with
  | nil =>
      cases open_after
      cases found : tagContent? after rest <;> simp [found]
  | cons c segment ih =>
      cases quote with
      | some quote =>
          rw [quoteAfter] at open_after
          rw [List.cons_append, tagContent?, ih open_after]
          cases tagContent? after rest <;> rfl
      | none =>
          rw [quoteAfter] at open_after
          split at open_after
          · cases open_after
          · rename_i unended
            rw [List.cons_append, tagContent?, if_neg unended, ih open_after]
            cases tagContent? after rest <;> rfl

theorem quote_after_of_tag_content {quote : Option Char} {text content after : List Char}
    (found : tagContent? quote text = some (content, after)) :
    text = content ++ '>' :: after ∧ quoteAfter quote content = some none := by
  induction text generalizing quote content with
  | nil => cases quote <;> cases found
  | cons c rest ih =>
      cases quote with
      | some quote =>
          rw [tagContent?, Option.map_eq_some_iff] at found
          obtain ⟨⟨later, more⟩, inside, same⟩ := found
          cases same
          obtain ⟨split, closed⟩ := ih inside
          exact ⟨congrArg (c :: ·) split, closed⟩
      | none =>
          rw [tagContent?] at found
          by_cases ends : c = '>'
          · rw [if_pos ends] at found
            cases found
            exact ⟨congrArg (· :: after) ends, rfl⟩
          · rw [if_neg ends, Option.map_eq_some_iff] at found
            obtain ⟨⟨later, more⟩, inside, same⟩ := found
            cases same
            obtain ⟨split, closed⟩ := ih inside
            refine ⟨congrArg (c :: ·) split, ?_⟩
            rw [quoteAfter, if_neg ends, closed]

theorem keeps_tag_open_iff {segment : List Char} :
    KeepsTagOpen segment ↔ quoteAfter none segment = some none := by
  constructor
  · intro keeps
    exact (quote_after_of_tag_content (tag_content_append [] keeps)).2
  · intro closed rest
    exact tag_content_of_quote_after closed rest

instance (segment : List Char) : Decidable (KeepsTagOpen segment) :=
  decidable_of_iff _ keeps_tag_open_iff.symm

theorem quote_of_quote_after {quote : Option Char} {segment : List Char} {other : Char}
    (opened : quoteAfter quote segment = some (some other)) :
    quote = some other ∨ other = '"' ∨ other = '\'' := by
  induction segment generalizing quote with
  | nil => exact .inl (Option.some.inj opened)
  | cons c segment ih =>
      cases quote with
      | some quote =>
          rw [quoteAfter] at opened
          rcases ih opened with same | marks
          · left
            split at same
            · cases same
            · exact same
          · exact .inr marks
      | none =>
          rw [quoteAfter] at opened
          split at opened
          · cases opened
          · rcases ih opened with same | marks
            · right
              split at same
              · rename_i marks
                cases same
                exact marks
              · cases same
            · exact .inr marks

theorem quote_after_other {quote : Char} {segment : List Char} (absent : quote ∉ segment) :
    quoteAfter (some quote) segment = some (some quote) := by
  induction segment with
  | nil => rfl
  | cons c segment ih =>
      simp only [List.mem_cons, not_or] at absent
      rw [quoteAfter, if_neg (Ne.symm absent.1), ih absent.2]

/-- What stands at the end of a tag without quotes or `>` has no effect on its quotes. -/
theorem keeps_tag_open_append_iff {front back : List Char} (unended : '>' ∉ back)
    (no_double : '"' ∉ back) (no_single : '\'' ∉ back) :
    KeepsTagOpen (front ++ back) ↔ KeepsTagOpen front := by
  constructor
  · intro keeps
    rw [keeps_tag_open_iff, quote_after_append, Option.bind_eq_some_iff] at keeps
    obtain ⟨quote, reached, closed⟩ := keeps
    cases quote with
    | none => exact keeps_tag_open_iff.2 reached
    | some quote =>
        have absent : quote ∉ back := by
          rcases quote_of_quote_after reached with same | rfl | rfl
          · cases same
          · exact no_double
          · exact no_single
        rw [quote_after_other absent] at closed
        cases closed
  · intro keeps
    exact keeps_tag_open_append keeps (keeps_tag_open_of_plain unended no_double no_single)

def isAngle (c : Char) : Bool := c == '<' || c == '>'

theorem balanced_filter (depth : Nat) (text : List Char) :
    isBalanced depth (text.filter isAngle) = isBalanced depth text := by
  induction text generalizing depth with
  | nil => rfl
  | cons c text ih =>
      by_cases left : c = '<'
      · subst left
        exact ih (depth + 1)
      · by_cases right : c = '>'
        · subst right
          change (depth != 0 && isBalanced (depth - 1) _) = (depth != 0 && _)
          rw [ih]
        · have other : isAngle c = false := by simp [isAngle, left, right]
          rw [List.filter_cons_of_neg (by simp [other]), ih, isBalanced, if_neg left, if_neg right]

theorem filter_drop_while {keeps drops : Char → Bool}
    (apart : ∀ c, drops c = true → keeps c = false) (text : List Char) :
    (text.dropWhile drops).filter keeps = text.filter keeps := by
  induction text with
  | nil => rfl
  | cons c text ih =>
      by_cases dropped : drops c = true
      · rw [List.dropWhile_cons_of_pos dropped, ih,
          List.filter_cons_of_neg (by simp [apart c dropped])]
      · rw [List.dropWhile_cons_of_neg dropped]

theorem blank_not_angle {c : Char} (blank : Text.isBlank c = true) : isAngle c = false := by
  unfold isAngle
  by_contra angle
  simp only [Bool.not_eq_false, Bool.or_eq_true, beq_iff_eq] at angle
  rcases angle with rfl | rfl
  · cases blank
  · cases blank

theorem balanced_drop_blanks (depth : Nat) (text : List Char) :
    isBalanced depth (text.dropWhile Text.isMarkupBlank) = isBalanced depth text := by
  rw [← balanced_filter, filter_drop_while, balanced_filter]
  intro c blank
  exact blank_not_angle (Text.is_blank_of_is_markup_blank blank)

theorem balanced_trim (depth : Nat) (text : List Char) :
    isBalanced depth (Text.trimBlanks text) = isBalanced depth text := by
  have apart := fun c => @blank_not_angle c
  rw [← balanced_filter, Text.trimBlanks, Text.trimEnd, List.filter_reverse,
    filter_drop_while apart, List.filter_reverse, List.reverse_reverse, filter_drop_while apart,
    balanced_filter]

theorem balanced_of_found {depth : Nat} {text content after : List Char}
    (found : balanced? depth text = some (content, after)) :
    text = content ++ '>' :: after ∧ isBalanced depth content = true := by
  induction text generalizing depth content with
  | nil => cases found
  | cons c rest ih =>
      by_cases ends : depth = 0 ∧ c = '>'
      · obtain ⟨rfl, rfl⟩ := ends
        cases found
        exact ⟨rfl, rfl⟩
      · rw [balanced?, Option.map_eq_some_iff] at found
        · obtain ⟨⟨later, more⟩, inside, same⟩ := found
          cases same
          obtain ⟨split, below⟩ := ih inside
          refine ⟨congrArg (c :: ·) split, ?_⟩
          rw [isBalanced]
          by_cases left : c = '<'
          · rw [if_pos left] at below ⊢
            exact below
          · by_cases right : c = '>'
            · rw [if_neg left, if_pos right] at below ⊢
              have some_open : depth ≠ 0 := fun none_open => ends ⟨none_open, right⟩
              simpa [some_open] using below
            · rw [if_neg left, if_neg right] at below ⊢
              exact below
        · intro none_open right
          exact ends ⟨none_open, right⟩

/-- The keyword of a document type holds no angle, in whichever case it is written. -/
theorem keyword_no_angle {keyword : List Char}
    (reads : keyword.map Char.toUpper = "DOCTYPE".toList) : keyword.filter isAngle = [] := by
  rw [List.filter_eq_nil_iff]
  intro c member angle
  have upper : Char.toUpper c ∈ "DOCTYPE".toList := reads ▸ List.mem_map_of_mem member
  simp only [isAngle, Bool.or_eq_true, beq_iff_eq] at angle
  rcases angle with rfl | rfl
  · exact absurd upper (by decide)
  · exact absurd upper (by decide)

theorem balanced_body {content : List Char}
    (keyword : (content.take 7).map Char.toUpper = "DOCTYPE".toList)
    (balanced : isBalanced 0 content = true) : isBalanced 0 (content.drop 7) = true := by
  rw [← balanced_filter, ← List.take_append_drop 7 content, List.filter_append,
    keyword_no_angle keyword, List.nil_append, balanced_filter] at balanced
  exact balanced

namespace Construct

def WellCut : Construct → Prop
  | .text raw => raw ≠ [] ∧ '<' ∉ raw
  | .opening content => MayOpen content ∧ KeepsTagOpen content ∧ content.getLast? ≠ some '/'
  | .selfClosing content => MayOpen (content ++ ['/']) ∧ KeepsTagOpen content
  | .closing content => KeepsTagOpen content
  | .comment content => ¬ "-->".toList <:+: content
  | .cdata content => ¬ "]]>".toList <:+: content
  | .instruction content => InstructionContent content
  | .declaration content => ¬ "?>".toList <:+: content
  | .doctype content => isBalanced 0 content = true

def isText : Construct → Bool
  | .text _ => true
  | _ => false

def isStart : Construct → Bool
  | .opening _ | .selfClosing _ => true
  | _ => false

def WellCutOther (construct : Construct) : Prop :=
  construct.WellCut ∧ construct.isText = false ∧ construct.isStart = false

end Construct

section
variable {text after : List Char} {construct : Construct}

theorem cut_tag_inv {build : List Char → Construct}
    (cut : cutTag build text = .ok (construct, after)) :
    ∃ content, text = content ++ '>' :: after ∧ KeepsTagOpen content ∧
      construct = build content := by
  unfold cutTag at cut
  split at cut
  · cases cut
  · rename_i content rest found
    cases cut
    obtain ⟨split, closed⟩ := quote_after_of_tag_content found
    exact ⟨content, split, keeps_tag_open_iff.2 closed, rfl⟩

theorem may_open_of_append {content more : List Char} (opens : MayOpen (content ++ more)) :
    MayOpen content := by
  intro c first
  cases content with
  | nil => cases first
  | cons d later => exact opens c first

theorem well_cut_opening {content : List Char} (opens : MayOpen content)
    (keeps : KeepsTagOpen content) : (openingOf content).WellCut := by
  unfold openingOf
  split
  · rename_i slash
    obtain ⟨front, rfl⟩ := List.getLast?_eq_some_iff.1 slash
    rw [List.dropLast_concat]
    exact ⟨opens, (keeps_tag_open_append_iff (by decide) (by decide) (by decide)).1 keeps⟩
  · rename_i slash
    exact ⟨opens, keeps, slash⟩

theorem cut_comment_inv (cut : cutComment text = .ok (construct, after)) :
    ∃ content, text = '-' :: (content ++ ("-->".toList ++ after)) ∧
      ¬ "-->".toList <:+: content ∧ construct = .comment content := by
  unfold cutComment at cut
  split at cut
  · cases cut
  · split at cut
    · cases cut
    · rename_i content rest found
      split at cut
      · rename_i dash
        cases cut
        refine ⟨content, ?_, Text.not_infix_of_cut_at_text (by decide) found, rfl⟩
        rw [dash, Text.eq_of_cut_at_text found, List.append_assoc]
        rfl
      · cases cut

theorem cut_cdata_inv (cut : cutCdata text = .ok (construct, after)) :
    ∃ content, text = "CDATA[".toList ++ content ++ ("]]>".toList ++ after) ∧
      ¬ "]]>".toList <:+: "CDATA[".toList ++ content ∧ construct = .cdata content := by
  unfold cutCdata at cut
  split at cut
  · cases cut
  · rename_i found
    split at cut
    · rename_i data
      cases cut
      refine ⟨data, ?_, Text.not_infix_of_cut_at_text (by decide) found, rfl⟩
      rw [Text.eq_of_cut_at_text found, List.append_assoc]
      rfl
    · cases cut

theorem cut_instruction_inv (cut : cutInstruction text = .ok (construct, after)) :
    ∃ content, text = content ++ ("?>".toList ++ after) ∧ ¬ "?>".toList <:+: content ∧
      content.head? ≠ some '>' ∧
      construct = if isDeclaration content then .declaration content else .instruction content := by
  unfold cutInstruction at cut
  split at cut
  · cases cut
  · rename_i other
    split at cut
    · cases cut
    · rename_i content rest found
      cases cut
      have split := Text.eq_of_cut_at_text found
      refine ⟨content, by rw [split, List.append_assoc]; rfl,
        Text.not_infix_of_cut_at_text (by decide) found, ?_, rfl⟩
      intro first
      obtain ⟨later, rfl⟩ := List.head?_eq_some_iff.1 first
      exact other _ split

theorem cut_doctype_inv (cut : cutDoctype text = .ok (construct, after)) :
    ∃ content, text = content ++ '>' :: after ∧ isBalanced 0 content = true ∧
      (content.take 7).map Char.toUpper = "DOCTYPE".toList ∧
      (content.drop 7).dropWhile Text.isMarkupBlank ≠ [] ∧
      construct = .doctype ((content.drop 7).dropWhile Text.isMarkupBlank) := by
  unfold cutDoctype at cut
  split at cut
  · cases cut
  · rename_i content rest found
    obtain ⟨split, balanced⟩ := balanced_of_found found
    split at cut
    · rename_i keyword
      split at cut
      · cases cut
      · rename_i named
        cases cut
        exact ⟨content, split, balanced, keyword, named, rfl⟩
    · cases cut

theorem well_cut_comment (cut : cutComment text = .ok (construct, after)) :
    construct.WellCutOther := by
  obtain ⟨content, -, free, rfl⟩ := cut_comment_inv cut
  exact ⟨free, rfl, rfl⟩

theorem well_cut_cdata (cut : cutCdata text = .ok (construct, after)) :
    construct.WellCutOther := by
  obtain ⟨content, -, free, rfl⟩ := cut_cdata_inv cut
  refine ⟨fun inside => free (inside.trans ?_), rfl, rfl⟩
  exact (List.suffix_append "CDATA[".toList content).isInfix

theorem well_cut_instruction (cut : cutInstruction text = .ok (construct, after)) :
    construct.WellCutOther := by
  obtain ⟨content, -, free, closed, rfl⟩ := cut_instruction_inv cut
  by_cases declares : isDeclaration content = true
  · rw [if_pos declares]
    exact ⟨free, rfl, rfl⟩
  · rw [if_neg declares]
    exact ⟨⟨free, closed, by simpa using declares⟩, rfl, rfl⟩

theorem well_cut_doctype (cut : cutDoctype text = .ok (construct, after)) :
    construct.WellCutOther := by
  obtain ⟨content, -, balanced, keyword, -, rfl⟩ := cut_doctype_inv cut
  have body := balanced_body keyword balanced
  rw [← balanced_drop_blanks] at body
  exact ⟨body, rfl, rfl⟩

theorem may_open_of_other (slash : ∀ rest, text = '/' :: rest → False)
    (question : ∀ rest, text = '?' :: rest → False)
    (mark : ∀ c rest, text = '!' :: c :: rest → False) (alone : text = ['!'] → False) :
    MayOpen text := by
  intro c first
  obtain ⟨later, rfl⟩ := List.head?_eq_some_iff.1 first
  refine ⟨?_, ?_, ?_⟩
  · rintro rfl
    exact slash _ rfl
  · rintro rfl
    exact question _ rfl
  · rintro rfl
    cases later with
    | nil => exact alone rfl
    | cons d later => exact mark _ _ rfl

/-- What begins with `<` is either told by the next character or cut as a start tag. -/
theorem cut_markup_cases (cut : cutMarkup text = .ok (construct, after)) :
    construct.WellCutOther ∨ MayOpen text ∧ cutTag openingOf text = .ok (construct, after) := by
  unfold cutMarkup at cut
  split at cut
  · obtain ⟨content, -, keeps, rfl⟩ := cut_tag_inv cut
    exact .inl ⟨keeps, rfl, rfl⟩
  · exact .inl (well_cut_instruction cut)
  · exact .inl (well_cut_comment cut)
  · exact .inl (well_cut_cdata cut)
  · split at cut
    · exact .inl (well_cut_doctype cut)
    · cases cut
  · cases cut
  · rename_i slash question _ _ mark alone
    exact .inr ⟨may_open_of_other slash question mark alone, cut⟩

theorem well_cut_markup (cut : cutMarkup text = .ok (construct, after)) :
    construct.WellCut ∧ construct.isText = false := by
  rcases cut_markup_cases cut with ⟨well, other, -⟩ | ⟨opens, start⟩
  · exact ⟨well, other⟩
  · obtain ⟨content, rfl, keeps, rfl⟩ := cut_tag_inv start
    refine ⟨well_cut_opening (may_open_of_append opens) keeps, ?_⟩
    unfold openingOf
    split <;> rfl

theorem well_cut_first {c : Char} {rest : List Char}
    (cut : cutFirst c rest = .ok (construct, after)) :
    construct.WellCut ∧ (construct.isText = true → ∀ d ∈ after.head?, d = '<') := by
  unfold cutFirst at cut
  split at cut
  · obtain ⟨well, other⟩ := well_cut_markup cut
    exact ⟨well, fun text => by rw [other] at text; cases text⟩
  · rename_i plain
    cases cut
    refine ⟨⟨List.cons_ne_nil _ _, ?_⟩, ?_⟩
    · intro member
      rcases List.mem_cons.1 member with same | inside
      · exact plain same.symm
      · have other := List.mem_takeWhile_imp inside
        simp at other
    · intro _ d first
      have ends := List.head?_dropWhile_not (fun e : Char => decide (e ≠ '<')) rest
      rw [first] at ends
      simpa using ends

theorem first_not_text {size : Nat} {lexeme : Lexeme} (markup : ∀ c ∈ text.head?, c = '<')
    (first : lexeme ∈ (lexemes size text).1.head?) : lexeme.construct.isText = false := by
  cases text with
  | nil =>
      rw [lexemes] at first
      cases first
  | cons c rest =>
      cases markup c rfl
      rw [lexemes] at first
      split at first
      · cases first
      · rename_i found
        cases first
        rw [cutFirst, if_pos rfl] at found
        exact (well_cut_markup found).2

/-- Everything that is cut out of a text is well cut, and no two runs of text are neighbours. -/
theorem well_cut_lexemes (size : Nat) (text : List Char) :
    (∀ lexeme ∈ (lexemes size text).1, lexeme.construct.WellCut) ∧
      (lexemes size text).1.IsChain fun first second =>
        ¬ (first.construct.isText = true ∧ second.construct.isText = true) := by
  fun_induction lexemes size text with
  | case1 => exact ⟨fun _ member => absurd member List.not_mem_nil, .nil⟩
  | case2 => exact ⟨fun _ member => absurd member List.not_mem_nil, .nil⟩
  | case3 c rest construct after found later ending same ih =>
      obtain ⟨well, ends⟩ := well_cut_first found
      rw [same] at ih
      constructor
      · intro lexeme member
        rcases List.mem_cons.1 member with rfl | inside
        · exact well
        · exact ih.1 lexeme inside
      · rw [List.isChain_cons]
        refine ⟨?_, ih.2⟩
        rintro second next ⟨text, again⟩
        have other := first_not_text (ends text) (by rw [same]; exact next)
        rw [other] at again
        cases again

end

end Markup
end XmlTemplate
