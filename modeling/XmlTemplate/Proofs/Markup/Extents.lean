import XmlTemplate.Proofs.Markup.Cuts

/-!
How far a construct extends. What is cut off a text ends where it is recognised to end, whatever
stands behind it; only a run of text asks what comes next. So a text that was cut to its end can be
followed by more markup, and a text can be taken apart wherever markup begins in it.
-/

namespace XmlTemplate.Markup

/-- What is cut off ends where it does whatever follows it. -/
def Bounded (cutter : List Char → Cut) : Prop :=
  ∀ {text after : List Char} {construct : Construct}, cutter text = .ok (construct, after) →
    ∃ taken, text = taken ++ after ∧ ∀ other, cutter (taken ++ other) = .ok (construct, other)

theorem tag_bounded (build : List Char → Construct) : Bounded (cutTag build) := by
  intro text after construct cut
  obtain ⟨content, rfl, keeps, rfl⟩ := cut_tag_inv cut
  refine ⟨content ++ ['>'], by simp, ?_⟩
  intro other
  rw [List.append_assoc, List.singleton_append, cutTag, tag_content_append other keeps]

theorem comment_bounded : Bounded cutComment := by
  intro text after construct cut
  obtain ⟨content, rfl, free, rfl⟩ := cut_comment_inv cut
  refine ⟨'-' :: (content ++ "-->".toList), by simp, ?_⟩
  intro other
  rw [List.cons_append, List.append_assoc]
  exact cut_comment_append other free

theorem cdata_bounded : Bounded cutCdata := by
  intro text after construct cut
  obtain ⟨content, rfl, free, rfl⟩ := cut_cdata_inv cut
  refine ⟨"CDATA[".toList ++ content ++ "]]>".toList, (List.append_assoc _ _ _).symm, ?_⟩
  intro other
  rw [List.append_assoc]
  exact cut_cdata_append other free

theorem instruction_bounded : Bounded cutInstruction := by
  intro text after construct cut
  obtain ⟨content, rfl, free, closed, rfl⟩ := cut_instruction_inv cut
  refine ⟨content ++ "?>".toList, (List.append_assoc _ _ _).symm, ?_⟩
  intro other
  rw [List.append_assoc]
  exact cut_instruction_append other free closed

theorem doctype_bounded : Bounded cutDoctype := by
  intro text after construct cut
  obtain ⟨content, rfl, balanced, keyword, named, rfl⟩ := cut_doctype_inv cut
  refine ⟨content ++ ['>'], by simp, ?_⟩
  intro other
  rw [List.append_assoc, List.singleton_append]
  exact cut_doctype_append other balanced keyword named

theorem markup_bounded : Bounded cutMarkup := by
  intro text after construct cut
  unfold cutMarkup at cut
  split at cut
  · obtain ⟨taken, rfl, again⟩ := tag_bounded _ cut
    exact ⟨'/' :: taken, rfl, again⟩
  · obtain ⟨taken, rfl, again⟩ := instruction_bounded cut
    exact ⟨'?' :: taken, rfl, again⟩
  · obtain ⟨taken, rfl, again⟩ := comment_bounded cut
    exact ⟨'!' :: '-' :: taken, rfl, again⟩
  · obtain ⟨taken, rfl, again⟩ := cdata_bounded cut
    exact ⟨'!' :: '[' :: taken, rfl, again⟩
  · rename_i c rest _ _
    split at cut
    · rename_i keyword
      obtain ⟨taken, split, again⟩ := doctype_bounded cut
      cases taken with
      | nil => cases again []
      | cons d taken =>
          cases split
          refine ⟨'!' :: c :: taken, rfl, ?_⟩
          intro other
          rw [← again other]
          rcases keyword with rfl | rfl <;> rfl
    · cases cut
  · cases cut
  · rename_i slash question _ _ mark alone
    have opens := may_open_of_other slash question mark alone
    obtain ⟨content, rfl, keeps, rfl⟩ := cut_tag_inv cut
    refine ⟨content ++ ['>'], by simp, ?_⟩
    intro other
    rw [List.append_assoc, List.singleton_append,
      cut_markup_of_may_open other (may_open_of_append opens), cutTag,
      tag_content_append other keeps]

/-- Only a run of text has to be followed by markup. -/
theorem begins_bounded {text after : List Char} {construct : Construct}
    (begins : Begins text construct after) : ∃ taken, text = taken ++ after ∧
      ∀ other, (construct.isText = true → ∀ c ∈ other.head?, c = '<') →
        Begins (taken ++ other) construct other := by
  obtain ⟨c, rest, rfl, cut⟩ := begins
  obtain ⟨well, -⟩ := well_cut_first cut
  rw [cutFirst] at cut
  split at cut
  · rename_i mark
    subst mark
    obtain ⟨taken, rfl, again⟩ := markup_bounded cut
    refine ⟨'<' :: taken, rfl, ?_⟩
    intro other _
    exact begins_of_cut_markup (again other)
  · cases cut
    refine ⟨c :: rest.takeWhile (· ≠ '<'), ?_, ?_⟩
    · rw [List.cons_append, List.takeWhile_append_dropWhile]
    · intro other ends
      exact begins_text well.1 well.2 (ends rfl)

theorem markup_after_text {text after : List Char} {construct : Construct}
    (begins : Begins text construct after) (run : construct.isText = true) :
    ∀ c ∈ after.head?, c = '<' := by
  obtain ⟨c, rest, rfl, cut⟩ := begins
  exact (well_cut_first cut).2 run

theorem size_of_begins {text after : List Char} {construct : Construct}
    (begins : Begins text construct after) : Text.size after ≤ Text.size text := by
  obtain ⟨taken, rfl, -⟩ := begins_bounded begins
  rw [Text.size_append]
  exact Nat.le_add_left _ _

/-- A text that can be cut to its end is cut alike where markup follows it. -/
theorem lexemes_append {size : Nat} {front back : List Char}
    (finished : (lexemes size front).2 = .finished) (markup : ∀ c ∈ back.head?, c = '<') :
    lexemes (size + Text.size back) (front ++ back) =
      ((lexemes size front).1 ++ (lexemes (size + Text.size back) back).1,
        (lexemes (size + Text.size back) back).2) := by
  fun_induction lexemes size front with
  | case1 => rfl
  | case2 => cases finished
  | case3 c rest construct after found later ending same ih =>
      have begins : Begins (c :: rest) construct after := ⟨c, rest, rfl, found⟩
      obtain ⟨taken, split, again⟩ := begins_bounded begins
      have follows : construct.isText = true → ∀ d ∈ (after ++ back).head?, d = '<' := by
        intro run d first
        cases after with
        | nil => exact markup d first
        | cons e after => exact markup_after_text begins run d first
      have more : Begins (c :: rest ++ back) construct (after ++ back) := by
        rw [split, List.append_assoc]
        exact again (after ++ back) (follows)
      rw [same] at ih
      rw [lexemes_eq_of_begins _ more, ih finished, Text.size_append, Text.size_append,
        Nat.add_sub_add_right, Nat.add_sub_add_right]
      rfl

theorem begins_of_lexemes {size : Nat} {text : List Char} {lexeme : Lexeme} {later : List Lexeme}
    {ending : Ending} (cut : lexemes size text = (lexeme :: later, ending)) :
    ∃ after, Begins text lexeme.construct after ∧ lexeme.start = size - Text.size text ∧
      lexeme.stop = size - Text.size after ∧ lexemes size after = (later, ending) := by
  cases text with
  | nil =>
      rw [lexemes] at cut
      cases cut
  | cons c rest =>
      rw [lexemes] at cut
      split at cut
      · cases cut
      · rename_i construct after found
        cases cut
        exact ⟨after, ⟨c, rest, rfl, found⟩, rfl, rfl, rfl⟩

theorem markup_of_begins {text after : List Char} {construct : Construct}
    (begins : Begins text construct after) (markup : construct.isText = false) :
    text.head? = some '<' := by
  obtain ⟨c, rest, rfl, cut⟩ := begins
  rw [cutFirst] at cut
  split at cut
  · rename_i mark
    exact congrArg some mark
  · cases cut
    cases markup

/-- A text can be taken apart before each construct but a run of text. -/
theorem lexemes_split {size : Nat} {text : List Char} {first later : List Lexeme} {lexeme : Lexeme}
    {ending : Ending} (cut : lexemes size text = (first ++ lexeme :: later, ending))
    (markup : lexeme.construct.isText = false) :
    ∃ front back, text = front ++ back ∧ back.head? = some '<' ∧
      lexemes (size - Text.size back) front = (first, .finished) ∧
      lexemes size back = (lexeme :: later, ending) := by
  induction first generalizing text with
  | nil =>
      obtain ⟨after, begins, -⟩ := begins_of_lexemes cut
      exact ⟨[], text, rfl, markup_of_begins begins markup, by rw [lexemes], cut⟩
  | cons earlier first ih =>
      obtain ⟨after, begins, start, stop, rest⟩ := begins_of_lexemes cut
      obtain ⟨front, back, rfl, mark, cut_front, cut_back⟩ := ih rest
      obtain ⟨taken, rfl, again⟩ := begins_bounded begins
      refine ⟨taken ++ front, back, (List.append_assoc _ _ _).symm, mark, ?_, cut_back⟩
      have follows : earlier.construct.isText = true → ∀ c ∈ front.head?, c = '<' := by
        intro run c among
        apply markup_after_text begins run
        cases front with
        | nil => cases among
        | cons d front => exact among
      rw [lexemes_eq_of_begins _ (again front follows), cut_front]
      have same_start : size - Text.size back - Text.size (taken ++ front) = earlier.start := by
        rw [start, Text.size_append, Text.size_append, Text.size_append]
        omega
      have same_stop : size - Text.size back - Text.size front = earlier.stop := by
        rw [stop, Text.size_append]
        omega
      rw [same_start, same_stop]

end XmlTemplate.Markup
