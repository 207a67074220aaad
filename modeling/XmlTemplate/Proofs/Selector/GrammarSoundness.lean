import Mathlib.Data.List.DropRight
import Mathlib.Data.List.TakeWhile
import XmlTemplate.Proofs.Selector.Grammar

/-!
Soundness of the reader of selectors. Each reader takes a front of the text that has the form of
what it returns. The readers differ in whether they skip the blanks that follow, so what is left
over is told up to blanks where that matters.
-/

namespace XmlTemplate.Selector.Grammar

def Begins {Value : Type} (Form : Value → List Char → Prop) (value : Value)
    (text rest : List Char) : Prop :=
  ∃ front, text = front ++ rest ∧ Form value front

theorem gap_nil : Gap [] := nofun

theorem gap_append {front back : List Char} (first : Gap front) (second : Gap back) :
    Gap (front ++ back) :=
  List.forall_mem_append.2 ⟨first, second⟩

theorem gap_skipped (text : List Char) : ∃ gap, Gap gap ∧ text = gap ++ skipBlanks text :=
  ⟨text.takeWhile Text.isBlank, fun _ => List.mem_takeWhile_imp,
    List.takeWhile_append_dropWhile.symm⟩

theorem begins_spaced {Value : Type} {Form : Value → List Char → Prop} {value : Value}
    {text rest : List Char} (begins : Begins Form value (skipBlanks text) rest) :
    Begins (Spaced Form) value text (skipBlanks rest) := by
  rcases begins with ⟨front, begun, form⟩
  rcases gap_skipped text with ⟨before, blanks, splits⟩
  rcases gap_skipped rest with ⟨after, others, splitsRest⟩
  refine ⟨before ++ front ++ after, ?_, .around blanks form others⟩
  rw [splits, begun, List.append_assoc, List.append_assoc, ← splitsRest]

theorem expected {token : Char} {text rest : List Char} {found : Unit}
    (read : expect token text = .ok (found, rest)) : text = token :: rest := by
  unfold expect at read
  split at read
  · split at read
    · rename_i same
      cases read
      rw [same]
    · cases read
  · cases read

theorem begins_name_iff {c : Char} :
    beginsName c = true ↔ Text.isAlphabetic c = true ∨ c = '_' := by
  rw [beginsName, Bool.or_eq_true, beq_iff_eq]

theorem continues_name_iff {c : Char} :
    continuesName c = true ↔ Text.isAlphanumeric c = true ∨ c ∈ ['_', '-', '.'] := by
  simp [continuesName, or_assoc]

/-- The names of the grammar, told by the characters that the reader takes for a name. -/
theorem name_form_iff {name : String} {text : List Char} :
    NameForm name text ↔ ∃ first rest, text = first :: rest ∧ name = String.ofList text ∧
      beginsName first = true ∧ ∀ c ∈ rest, continuesName c = true := by
  constructor
  · intro form
    cases form with
    | name begins continues =>
        exact ⟨_, _, rfl, rfl, begins_name_iff.2 begins,
          fun c member => continues_name_iff.2 (continues c member)⟩
  · rintro ⟨first, rest, rfl, rfl, begins, continues⟩
    exact .name (begins_name_iff.1 begins)
      fun c member => continues_name_iff.1 (continues c member)

theorem name_sound {text rest : List Char} {name : String}
    (read : readName text = .ok (name, rest)) : Begins NameForm name text rest := by
  unfold readName at read
  split at read
  · split at read
    · rename_i c tail begins
      cases read
      refine ⟨c :: tail.takeWhile continuesName, ?_, name_form_iff.2 ?_⟩
      · rw [List.cons_append, List.takeWhile_append_dropWhile]
      · exact ⟨_, _, rfl, rfl, begins, fun _ => List.mem_takeWhile_imp⟩
    · cases read
  · cases read

theorem qualified_sound {text rest : List Char} {name : String}
    (read : readQualifiedName text = .ok (name, rest)) : Begins QualifiedForm name text rest := by
  rcases eq_ok_of_bind read with ⟨⟨lead, after⟩, leading, following⟩
  rcases name_sound leading with ⟨front, rfl, leads⟩
  dsimp only at following
  split at following
  · rename_i inside
    rcases eq_ok_of_bind following with ⟨⟨base, left⟩, named, same⟩
    rcases name_sound named with ⟨back, rfl, form⟩
    cases same
    refine ⟨front ++ ':' :: back, ?_, .qualified leads form⟩
    rw [List.append_assoc, List.cons_append]
  · cases following
    exact ⟨front, rfl, .plain leads⟩

theorem mem_type_names {name : String} {test : NodeTest} :
    typeTest? name = some test ↔ (name, test) ∈ typeNames := by
  unfold typeTest?
  grind [typeNames]

theorem kind_sound {name : String} {front text rest : List Char} {test : NodeTest}
    (leads : NameForm name front) (read : readTypeTest name text = .ok (test, rest)) :
    Begins TestForm test (front ++ '(' :: text) rest := by
  rcases eq_ok_of_bind read with ⟨⟨_, left⟩, closing, known⟩
  rcases gap_skipped text with ⟨gap, blanks, splits⟩
  dsimp only at known
  split at known
  · rename_i named
    cases known
    rw [expected closing] at splits
    have written : name.toList = front := by
      cases leads
      exact String.toList_ofList
    refine ⟨name.toList ++ '(' :: gap ++ [')'], ?_, .kind (mem_type_names.1 named) blanks⟩
    rw [splits, written]
    simp only [List.append_assoc, List.cons_append, List.nil_append]
  · cases known

theorem test_sound {text rest : List Char} {test : NodeTest}
    (read : readTest text = .ok (test, rest)) : Begins TestForm test text rest := by
  unfold readTest at read
  split at read
  · cases read
    exact ⟨['*'], rfl, .star⟩
  · rcases eq_ok_of_bind read with ⟨⟨lead, after⟩, leading, following⟩
    rcases name_sound leading with ⟨front, rfl, leads⟩
    dsimp only at following
    split at following
    · exact kind_sound leads following
    · cases following
      exact ⟨front ++ [':', '*'], List.append_assoc _ _ _ ▸ rfl, .prefixed leads⟩
    · rcases eq_ok_of_bind following with ⟨⟨base, left⟩, named, same⟩
      rcases name_sound named with ⟨back, rfl, form⟩
      cases same
      refine ⟨front ++ ':' :: back, ?_, .qualified leads form⟩
      rw [List.append_assoc, List.cons_append]
    · cases following
      exact ⟨front, rfl, .named leads⟩

theorem literal_sound {text rest : List Char} {value : String}
    (read : readLiteral text = .ok (value, rest)) : Begins LiteralForm value text rest := by
  unfold readLiteral at read
  split at read
  · split at read
    · rename_i quote tail mark
      split at read
      · rename_i content after cut
        cases read
        refine ⟨quote :: content ++ [quote], ?_, .quoted mark (Text.not_mem_of_cut_at cut)⟩
        rw [Text.eq_of_cut_at cut, List.append_assoc]
        rfl
      · cases read
    · cases read
  · cases read

theorem compared_sound {negated : Bool} {text rest : List Char} {value : String}
    (read : readLiteral (skipBlanks text) = .ok (value, rest)) :
    Begins (ComparisonForm negated) value (operator negated ++ text) rest := by
  rcases literal_sound read with ⟨front, begun, form⟩
  rcases gap_skipped text with ⟨gap, blanks, splits⟩
  refine ⟨[] ++ operator negated ++ gap ++ front, ?_, .compared gap_nil blanks form⟩
  rw [splits, begun]
  simp only [List.nil_append, List.append_assoc]

theorem comparison_sound {text rest : List Char} {negated : Bool} {value : String}
    (read : readComparison text = .ok (some (negated, value), rest)) :
    Begins (ComparisonForm negated) value text rest := by
  unfold readComparison at read
  split at read
  · rcases eq_ok_of_bind read with ⟨⟨content, left⟩, literal, same⟩
    cases same
    exact compared_sound literal
  · rcases eq_ok_of_bind read with ⟨⟨content, left⟩, literal, same⟩
    cases same
    exact compared_sound literal
  · cases read

theorem comparison_absent {text rest : List Char}
    (read : readComparison text = .ok (none, rest)) : rest = text := by
  unfold readComparison at read
  split at read
  · rcases eq_ok_of_bind read with ⟨⟨content, left⟩, literal, same⟩
    cases same
  · rcases eq_ok_of_bind read with ⟨⟨content, left⟩, literal, same⟩
    cases same
  · cases read
    rfl

theorem skip_skipped (text : List Char) : skipBlanks (skipBlanks text) = skipBlanks text :=
  List.dropWhile_idempotent _ text

def Leaves {Value : Type} (Form : Value → List Char → Prop) (value : Value)
    (text rest : List Char) : Prop :=
  ∃ after, Begins Form value text after ∧ skipBlanks rest = skipBlanks after

theorem compared_after_gap {negated : Bool} {value : String} {gap text : List Char}
    (blanks : Gap gap) (compared : ComparisonForm negated value text) :
    ComparisonForm negated value (gap ++ text) := by
  cases compared with
  | compared before after literal =>
      simp only [← List.append_assoc]
      exact .compared (gap_append blanks before) after literal

theorem attribute_sound {text rest : List Char} {predicate : Predicate}
    (read : readAttributePredicate text = .ok (predicate, rest)) :
    Leaves PredicateForm predicate ('@' :: text) rest := by
  rcases eq_ok_of_bind read with ⟨⟨name, after⟩, naming, following⟩
  rcases qualified_sound naming with ⟨front, rfl, named⟩
  rcases eq_ok_of_bind following with ⟨⟨comparison, left⟩, comparing, same⟩
  dsimp only at same
  split at same
  · rename_i negated value
    cases same
    rcases gap_skipped after with ⟨gap, blanks, splits⟩
    rcases comparison_sound comparing with ⟨back, begun, compared⟩
    refine ⟨rest, ⟨'@' :: front ++ (gap ++ back), ?_, ?_⟩, rfl⟩
    · rw [splits, begun]
      simp only [List.append_assoc, List.cons_append]
    · exact .attributeIs named (compared_after_gap blanks compared)
  · cases same
    rw [comparison_absent comparing]
    exact ⟨after, ⟨'@' :: front, rfl, .hasAttribute named⟩, skip_skipped after⟩

theorem child_sound {text rest : List Char} {predicate : Predicate}
    (read : readChildPredicate text = .ok (predicate, rest)) :
    Leaves PredicateForm predicate text rest := by
  rcases eq_ok_of_bind read with ⟨⟨name, after⟩, naming, following⟩
  rcases qualified_sound naming with ⟨front, rfl, named⟩
  rcases eq_ok_of_bind following with ⟨⟨comparison, left⟩, comparing, same⟩
  dsimp only at same
  split at same
  · rename_i value
    cases same
    rcases gap_skipped after with ⟨gap, blanks, splits⟩
    rcases comparison_sound comparing with ⟨back, begun, compared⟩
    refine ⟨rest, ⟨front ++ (gap ++ back), ?_, ?_⟩, rfl⟩
    · rw [splits, begun]
      simp only [List.append_assoc]
    · exact .childIs named (compared_after_gap blanks compared)
  · cases same
  · cases same
    rw [comparison_absent comparing]
    exact ⟨after, ⟨front, rfl, .hasChild named⟩, skip_skipped after⟩

/-- What holds of each character with one of some code points holds of a character whose code point
is one of them. -/
theorem of_points {Holds : Char → Prop} {points : List Nat}
    (all : ∀ point ∈ points, Holds (Char.ofNat point)) {c : Char} (listed : c.toNat ∈ points) :
    Holds c := by
  have holds := all _ listed
  rwa [Char.ofNat_toNat] at holds

theorem point_of_digit {c : Char} (digit : c.isDigit = true) : c.toNat ∈ List.range' 48 10 := by
  simp only [Char.isDigit, Bool.and_eq_true, decide_eq_true_eq] at digit
  rw [List.mem_range'_1]
  exact ⟨digit.1, Nat.lt_succ_of_le digit.2⟩

theorem decimal_digit_iff {mark : Char} {digit : Nat} :
    (mark, digit) ∈ decimalDigits ↔ mark.isDigit = true ∧ mark.toNat - '0'.toNat = digit := by
  constructor
  · have all : ∀ entry ∈ decimalDigits,
        entry.1.isDigit = true ∧ entry.1.toNat - '0'.toNat = entry.2 := by decide
    exact all (mark, digit)
  · rintro ⟨isDigit, rfl⟩
    exact @of_points (fun c => (c, c.toNat - '0'.toNat) ∈ decimalDigits) _ (by decide) _
      (point_of_digit isDigit)

theorem digits_value_append (text : List Char) (mark : Char) :
    Number.digitsValue (text ++ [mark]) =
      10 * Number.digitsValue text + (mark.toNat - '0'.toNat) := by
  rw [Number.digitsValue, List.foldl_append]
  rfl

/-- The decimal numbers of the grammar are the runs of digits, with the value that is computed. -/
theorem decimal_form_iff {value : Nat} {text : List Char} :
    DecimalForm value text ↔
      text ≠ [] ∧ (∀ c ∈ text, c.isDigit = true) ∧ Number.digitsValue text = value := by
  constructor
  · intro form
    induction form with
    | digit known =>
        rcases decimal_digit_iff.1 known with ⟨isDigit, rfl⟩
        refine ⟨List.cons_ne_nil _ _, List.forall_mem_singleton.2 isDigit, ?_⟩
        exact Nat.zero_add _
    | more front known ih =>
        rcases decimal_digit_iff.1 known with ⟨isDigit, rfl⟩
        rcases ih with ⟨-, digits, rfl⟩
        refine ⟨List.concat_ne_nil _ _, ?_, digits_value_append _ _⟩
        exact List.forall_mem_append.2 ⟨digits, List.forall_mem_singleton.2 isDigit⟩
  · rintro ⟨some, digits, rfl⟩
    induction text using List.reverseRecOn with
    | nil => exact absurd rfl some
    | append_singleton front mark ih =>
        have known := decimal_digit_iff.2 ⟨digits mark List.mem_concat_self, rfl⟩
        rw [digits_value_append]
        by_cases empty : front = []
        · rw [empty]
          have form := DecimalForm.digit known
          rwa [← Nat.zero_add (mark.toNat - '0'.toNat)] at form
        · exact .more (ih empty fun c inside => digits c (List.mem_append_left _ inside)) known

theorem position_sound {c : Char} {text rest : List Char} {predicate : Predicate}
    (digit : c.isDigit = true) (read : readPosition (c :: text) = .ok (predicate, rest)) :
    Begins PredicateForm predicate (c :: text) rest := by
  unfold readPosition at read
  dsimp only at read
  split at read
  · cases read
  · rename_i bounded
    split at read
    · cases read
    · rename_i positive
      cases read
      have decimal : DecimalForm (Number.digitsValue ((c :: text).takeWhile Char.isDigit))
          ((c :: text).takeWhile Char.isDigit) := by
        refine decimal_form_iff.2 ⟨?_, fun _ => List.mem_takeWhile_imp, rfl⟩
        rw [List.takeWhile_cons, if_pos digit]
        exact List.cons_ne_nil _ _
      refine ⟨_, List.takeWhile_append_dropWhile.symm, .position decimal ?_ ?_⟩
      · exact Nat.one_le_iff_ne_zero.2 positive
      · exact Nat.lt_of_not_le bounded

theorem predicate_sound {text rest : List Char} {predicate : Predicate}
    (read : readPredicate text = .ok (predicate, rest)) :
    Leaves PredicateForm predicate text rest := by
  unfold readPredicate at read
  split at read
  · rename_i inside
    rcases eq_ok_of_bind read with ⟨⟨_, left⟩, closing, same⟩
    cases same
    rcases gap_skipped inside with ⟨gap, blanks, splits⟩
    refine ⟨rest, ⟨_, ?_, .last blanks⟩, rfl⟩
    rw [splits, expected closing]
    simp only [List.append_assoc, List.cons_append, List.nil_append]
  · exact attribute_sound read
  · split at read
    · rename_i digit
      exact ⟨rest, position_sound digit read, rfl⟩
    · exact child_sound read
  · exact child_sound read

theorem bracketed_sound {text rest : List Char} {predicate : Predicate}
    (read : readBracketed text = .ok (predicate, rest)) :
    Begins (Spaced PredicateForm) predicate text (']' :: rest) := by
  rcases eq_ok_of_bind read with ⟨⟨found, left⟩, inside, following⟩
  rcases eq_ok_of_bind following with ⟨⟨_, last⟩, closing, same⟩
  cases same
  rcases predicate_sound inside with ⟨after, begins, skipped⟩
  have spaced := begins_spaced begins
  rw [← skipped, expected closing] at spaced
  exact spaced

theorem predicates_sound {text rest : List Char} {predicates : List Predicate}
    (read : readPredicates text = .ok (predicates, rest)) :
    Leaves PredicatesForm predicates text rest := by
  fun_induction readPredicates text generalizing predicates with
  | case1 => cases read
  | case2 text inside skipped predicate after bracketed ih =>
      rcases eq_ok_of_bind read with ⟨⟨later, left⟩, rests, same⟩
      cases same
      rcases ih rests with ⟨last, ⟨back, begun, conditions⟩, ends⟩
      rcases bracketed_sound bracketed with ⟨front, first, spaced⟩
      rcases gap_skipped text with ⟨gap, blanks, splits⟩
      refine ⟨last, ⟨gap ++ '[' :: front ++ ']' :: back, ?_, .more blanks spaced conditions⟩, ends⟩
      rw [splits, skipped, first, begun]
      simp only [List.append_assoc, List.cons_append]
  | case3 text =>
      cases read
      exact ⟨text, ⟨[], rfl, .none⟩, skip_skipped text⟩

theorem step_sound {text rest : List Char} {step : Step}
    (read : readStep text = .ok (step, rest)) :
    Leaves StepForm step (skipBlanks text) rest := by
  unfold readStep at read
  split at read
  · rename_i begun
    cases read
    rw [begun]
    exact ⟨rest, ⟨['.', '.'], rfl, .parent⟩, rfl⟩
  · rename_i begun
    cases read
    rw [begun]
    exact ⟨rest, ⟨['.'], rfl, .self⟩, rfl⟩
  · rcases eq_ok_of_bind read with ⟨⟨test, after⟩, testing, following⟩
    rcases eq_ok_of_bind following with ⟨⟨predicates, left⟩, conditions, same⟩
    cases same
    rcases test_sound testing with ⟨front, begun, tested⟩
    rcases predicates_sound conditions with ⟨last, ⟨back, continued, conditional⟩, ends⟩
    refine ⟨last, ⟨front ++ back, ?_, .child tested conditional⟩, ends⟩
    rw [begun, continued, List.append_assoc]

theorem spaced_step_sound {text rest : List Char} {step : Step}
    (read : readStep text = .ok (step, rest)) :
    Begins (Spaced StepForm) step text (skipBlanks rest) := by
  rcases step_sound read with ⟨after, begins, skipped⟩
  rw [skipped]
  exact begins_spaced begins

theorem later_sound {text rest : List Char} {steps : List Step}
    (read : readLaterSteps text = .ok (steps, rest)) :
    Begins LaterForm steps (skipBlanks text) rest := by
  fun_induction readLaterSteps text generalizing steps with
  | case1 => cases read
  | case2 text start skipped step after stepped ih =>
      rcases eq_ok_of_bind read with ⟨⟨later, left⟩, rests, same⟩
      cases same
      rcases spaced_step_sound stepped with ⟨front, first, spaced⟩
      rcases ih rests with ⟨back, begun, form⟩
      refine ⟨['/', '/'] ++ front ++ back, ?_, .more .double spaced form⟩
      rw [skipped, first, begun]
      simp only [List.append_assoc, List.cons_append, List.nil_append]
  | case3 => cases read
  | case4 text start _ skipped step after stepped ih =>
      rcases eq_ok_of_bind read with ⟨⟨later, left⟩, rests, same⟩
      cases same
      rcases spaced_step_sound stepped with ⟨front, first, spaced⟩
      rcases ih rests with ⟨back, begun, form⟩
      refine ⟨['/'] ++ front ++ back, ?_, .more .single spaced form⟩
      rw [skipped, first, begun]
      simp only [List.append_assoc, List.cons_append, List.nil_append]
  | case5 text =>
      cases read
      exact ⟨[], rfl, .none⟩

theorem steps_sound {text rest : List Char} {steps : List Step}
    (read : readSteps text = .ok (steps, rest)) :
    ∃ step later front back, steps = step :: later ∧ text = front ++ back ++ rest ∧
      Spaced StepForm step front ∧ LaterForm later back := by
  rcases eq_ok_of_bind read with ⟨⟨step, after⟩, first, following⟩
  rcases eq_ok_of_bind following with ⟨⟨later, left⟩, rests, same⟩
  cases same
  rcases spaced_step_sound first with ⟨front, begun, spaced⟩
  rcases later_sound rests with ⟨back, continued, form⟩
  refine ⟨step, later, front, back, rfl, ?_, spaced, form⟩
  rw [begun, continued, List.append_assoc]

theorem gap_append_spaced {Value : Type} {Form : Value → List Char → Prop} {value : Value}
    {gap text : List Char} (more : Gap gap) (spaced : Spaced Form value text) :
    Spaced Form value (gap ++ text) := by
  cases spaced with
  | around before form after =>
      simp only [← List.append_assoc]
      exact .around (gap_append more before) form after

theorem path_sound {text rest : List Char} {path : Path}
    (read : readPath text = .ok (path, rest)) :
    Leaves PathForm path (skipBlanks text) rest := by
  unfold readPath at read
  split at read
  · rename_i start begun
    rcases eq_ok_of_bind read with ⟨⟨steps, left⟩, stepping, same⟩
    cases same
    rcases steps_sound stepping with ⟨step, later, front, back, rfl, rfl, first, form⟩
    refine ⟨rest, ⟨['/', '/'] ++ front ++ back, ?_, .absolute .double first form⟩, rfl⟩
    rw [begun]
    rfl
  · rename_i start _ begun
    split at read
    · rename_i ended
      cases read
      rw [begun]
      exact ⟨start, ⟨['/'], rfl, .root⟩, ended.symm⟩
    · rename_i next bar
      cases read
      rw [begun, ← bar]
      exact ⟨start, ⟨['/'], rfl, .root⟩, skip_skipped start⟩
    · rcases eq_ok_of_bind read with ⟨⟨steps, left⟩, stepping, same⟩
      cases same
      rcases steps_sound stepping with ⟨step, later, front, back, rfl, split, first, form⟩
      rcases gap_skipped start with ⟨gap, blanks, splits⟩
      have spaced := gap_append_spaced blanks first
      refine ⟨rest, ⟨['/'] ++ (gap ++ front) ++ back, ?_, .absolute .single spaced form⟩, rfl⟩
      rw [begun, splits, split]
      simp only [List.append_assoc, List.cons_append, List.nil_append]
  · rcases eq_ok_of_bind read with ⟨⟨steps, left⟩, stepping, same⟩
    cases same
    rcases steps_sound stepping with ⟨step, later, front, back, rfl, split, first, form⟩
    exact ⟨rest, ⟨front ++ back, split, .relative first form⟩, rfl⟩

theorem spaced_path_sound {text rest : List Char} {path : Path}
    (read : readPath text = .ok (path, rest)) :
    Begins (Spaced PathForm) path text (skipBlanks rest) := by
  rcases path_sound read with ⟨after, begins, skipped⟩
  rw [skipped]
  exact begins_spaced begins

theorem union_sound {text rest : List Char} {paths : List Path}
    (read : readPaths text = .ok (paths, rest)) : Begins UnionForm paths text rest := by
  fun_induction readPaths text generalizing paths with
  | case1 => cases read
  | case2 text path after first next skipped ih =>
      rcases eq_ok_of_bind read with ⟨⟨later, left⟩, rests, same⟩
      cases same
      rcases spaced_path_sound first with ⟨front, begun, spaced⟩
      rcases ih rests with ⟨back, continued, form⟩
      refine ⟨front ++ '|' :: back, ?_, .more spaced form⟩
      rw [begun, skipped, continued, List.append_assoc, List.cons_append]
  | case3 text path after first =>
      cases read
      rcases spaced_path_sound first with ⟨front, begun, spaced⟩
      exact ⟨front, begun, .one spaced⟩

end XmlTemplate.Selector.Grammar
