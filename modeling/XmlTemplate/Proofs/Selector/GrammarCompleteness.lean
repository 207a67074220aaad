import XmlTemplate.Proofs.Selector.GrammarSoundness

/-!
Completeness of the reader of selectors. A form is read back as what it stands for if what follows
cannot be taken for a part of it. Apart from blanks, one of a few marks or the end of the text
follows each form, and none of these marks continues a name.
-/

namespace XmlTemplate.Selector

namespace Grammar

def blankPoints : List Nat :=
  List.range' 9 5 ++ [0x20, 0x85, 0xa0, 0x1680] ++ List.range' 0x2000 11 ++
    [0x2028, 0x2029, 0x202f, 0x205f, 0x3000]

theorem listed_of_blank {c : Char} (blank : Text.isBlank c = true) : c.toNat ∈ blankPoints := by
  simp only [Text.isBlank, Bool.or_eq_true, Bool.and_eq_true, decide_eq_true_eq,
    beq_iff_eq] at blank
  simp only [blankPoints, List.mem_append, List.mem_range'_1, List.mem_cons, List.not_mem_nil,
    or_false]
  omega

theorem blank_stops {c : Char} (blank : Text.isBlank c = true) : continuesName c = false := by
  have all : ∀ point ∈ blankPoints, continuesName (Char.ofNat point) = false := by decide +kernel
  exact @of_points (continuesName · = false) _ all _ (listed_of_blank blank)

theorem digit_in_name {c : Char} (digit : c.isDigit = true) :
    continuesName c = true ∧ beginsName c = false := by
  have all : ∀ point ∈ List.range' 48 10,
      continuesName (Char.ofNat point) = true ∧ beginsName (Char.ofNat point) = false := by
    decide
  exact @of_points (fun c => continuesName c = true ∧ beginsName c = false) _ all _
    (point_of_digit digit)

theorem begins_solid {c : Char} (begins : beginsName c = true) : Text.isBlank c = false := by
  refine Bool.eq_false_iff.2 ?_
  intro blank
  have stops := blank_stops blank
  simp only [beginsName, Bool.or_eq_true] at begins
  simp only [continuesName, Text.isAlphanumeric, Bool.or_eq_false_iff] at stops
  rcases begins with letter | score
  · rw [stops.1.1.1.1] at letter
    cases letter
  · rw [stops.1.1.2] at score
    cases score

/-- The marks that can follow a name, apart from a colon and a parenthesis. -/
def marks : List Char := ['[', ']', '/', '|', '=', '!']

theorem marks_stop {c : Char} (mark : c ∈ marks) :
    Text.isBlank c = false ∧ continuesName c = false ∧ c ≠ ':' ∧ c ≠ '(' := by
  have all : marks.all (fun c => !Text.isBlank c && !continuesName c && c != ':' && c != '(') := by
    decide
  have facts := List.all_eq_true.1 all c mark
  simp only [Bool.and_eq_true, Bool.not_eq_true', bne_iff_ne] at facts
  exact ⟨facts.1.1.1, facts.1.1.2, facts.1.2, facts.2⟩

/-- Nothing but blanks, or blanks and then one of some marks. -/
def Ends (some : List Char) (rest : List Char) : Prop := ∀ c ∈ (skipBlanks rest).head?, c ∈ some

def Stops (rest : List Char) : Prop := ∀ c ∈ rest.head?, continuesName c = false

theorem skip_gap {gap : List Char} (blanks : Gap gap) (rest : List Char) :
    skipBlanks (gap ++ rest) = skipBlanks rest :=
  List.dropWhile_append_of_pos blanks

theorem skip_solid {c : Char} (solid : Text.isBlank c = false) (rest : List Char) :
    skipBlanks (c :: rest) = c :: rest := by
  simp [skipBlanks, solid]

theorem ends_nil (some : List Char) : Ends some [] := nofun

theorem ends_gap {some gap rest : List Char} (blanks : Gap gap) (ends : Ends some rest) :
    Ends some (gap ++ rest) := by
  rw [Ends, skip_gap blanks]
  exact ends

theorem ends_mark {some rest : List Char} {c : Char} (mark : c ∈ some) (listed : some ⊆ marks) :
    Ends some (c :: rest) := by
  rw [Ends, skip_solid (marks_stop (listed mark)).1]
  intro first same
  cases same
  exact mark

theorem ends_mono {some more rest : List Char} (fewer : some ⊆ more) (ends : Ends some rest) :
    Ends more rest := fun c first => fewer (ends c first)

theorem head_of_ends {some rest : List Char} {c : Char} (ends : Ends some (c :: rest)) :
    Text.isBlank c = true ∨ c ∈ some := by
  by_cases blank : Text.isBlank c = true
  · exact .inl blank
  · rw [Ends, skip_solid (Bool.eq_false_iff.2 blank)] at ends
    exact .inr (ends c rfl)

theorem skip_of_ends {some rest left : List Char} {c : Char} (ends : Ends some rest)
    (skipped : skipBlanks rest = c :: left) : c ∈ some := by
  rw [Ends, skipped] at ends
  exact ends c rfl

theorem stops_of_ends {some rest : List Char} (listed : some ⊆ marks) (ends : Ends some rest) :
    Stops rest := by
  intro c first
  cases rest with
  | nil => cases first
  | cons head tail =>
      cases first
      rcases head_of_ends ends with blank | mark
      · exact blank_stops blank
      · exact (marks_stop (listed mark)).2.1

theorem no_punctuation {some rest : List Char} {c : Char} (listed : some ⊆ marks)
    (ends : Ends some (c :: rest)) : c ≠ ':' ∧ c ≠ '(' := by
  rcases head_of_ends ends with blank | mark
  · constructor
    · rintro rfl
      exact absurd blank (by decide)
    · rintro rfl
      exact absurd blank (by decide)
  · exact (marks_stop (listed mark)).2.2

theorem span_complete {accepts : Char → Bool} {front rest : List Char}
    (accepted : ∀ c ∈ front, accepts c = true) (stops : ∀ c ∈ rest.head?, accepts c = false) :
    (front ++ rest).takeWhile accepts = front ∧ (front ++ rest).dropWhile accepts = rest := by
  rw [List.takeWhile_append_of_pos accepted, List.dropWhile_append_of_pos accepted]
  cases rest with
  | nil => exact ⟨List.append_nil _, rfl⟩
  | cons c tail =>
      have stop := stops c rfl
      simp [stop]

theorem name_complete {name : String} {front rest : List Char} (form : NameForm name front)
    (stops : Stops rest) : readName (front ++ rest) = .ok (name, rest) := by
  obtain ⟨first, more, rfl, rfl, begins, continues⟩ := name_form_iff.1 form
  have span := span_complete continues stops
  simp only [readName, List.cons_append, if_pos begins, span]

theorem stops_colon (rest : List Char) : Stops (':' :: rest) := by
  intro c same
  cases same
  decide

theorem stops_open (rest : List Char) : Stops ('(' :: rest) := by
  intro c same
  cases same
  decide

theorem read_bind {Value Result : Type} (value : Value) (next : Value → Outcome Result) :
    (Except.ok value : Outcome Value) >>= next = next value := rfl

theorem qualified_complete {name : String} {front rest some : List Char}
    (form : QualifiedForm name front) (listed : some ⊆ marks) (ends : Ends some rest) :
    readQualifiedName (front ++ rest) = .ok (name, rest) := by
  have stops := stops_of_ends listed ends
  cases form with
  | plain named =>
      rw [readQualifiedName, name_complete named stops, read_bind]
      dsimp only
      split
      · exact absurd rfl (no_punctuation listed ends).1
      · rfl
  | qualified leads named =>
      rw [readQualifiedName, List.append_assoc, List.cons_append,
        name_complete leads (stops_colon _), read_bind]
      simp only [name_complete named stops]
      rfl

/-- A test that begins with a name is decided by what follows the name. -/
theorem test_after_name {name : String} {front rest : List Char} (form : NameForm name front) :
    Stops rest → readTest (front ++ rest) = match rest with
      | '(' :: inside => readTypeTest name inside
      | ':' :: '*' :: after => .ok (.prefixed name, after)
      | ':' :: after => do
          let (localName, left) ← readName after
          return (.qualified name localName, left)
      | _ => .ok (.named name, rest) := by
  intro stops
  unfold readTest
  split
  · rename_i star
    obtain ⟨first, more, same, -, begins, -⟩ := name_form_iff.1 form
    rw [same] at star
    cases star
    exact absurd begins (by decide)
  · exact congrArg (fun read : Outcome (String × List Char) => read >>= _)
      (name_complete form stops)

theorem name_of_chars {first : Char} {rest : List Char} (begins : beginsName first = true)
    (continues : rest.all continuesName = true) :
    NameForm (String.ofList (first :: rest)) (first :: rest) :=
  name_form_iff.2 ⟨first, rest, rfl, rfl, begins, List.all_eq_true.1 continues⟩

theorem type_name_form {name : String} {test : NodeTest} (known : (name, test) ∈ typeNames) :
    NameForm name name.toList := by
  simp only [typeNames, List.mem_cons, Prod.mk.injEq, List.not_mem_nil, or_false] at known
  rcases known with ⟨rfl, _⟩ | ⟨rfl, _⟩ | ⟨rfl, _⟩
  · exact name_of_chars (by decide) (by decide +kernel)
  · exact name_of_chars (by decide) (by decide +kernel)
  · exact name_of_chars (by decide) (by decide +kernel)

theorem expect_complete (token : Char) {gap rest : List Char} (blanks : Gap gap)
    (solid : Text.isBlank token = false) :
    expect token (skipBlanks (gap ++ token :: rest)) = .ok ((), rest) := by
  rw [skip_gap blanks, skip_solid solid]
  simp only [expect, if_true]

theorem test_complete {test : NodeTest} {front rest some : List Char} (form : TestForm test front)
    (listed : some ⊆ marks) (ends : Ends some rest) :
    readTest (front ++ rest) = .ok (test, rest) := by
  have stops := stops_of_ends listed ends
  cases form with
  | star => rfl
  | named named =>
      rw [test_after_name named stops]
      split
      · exact absurd rfl (no_punctuation listed ends).2
      · exact absurd rfl (no_punctuation listed ends).1
      · exact absurd rfl (no_punctuation listed ends).1
      · rfl
  | qualified leads named =>
      rw [List.append_assoc, List.cons_append, test_after_name leads (stops_colon _)]
      have reads := name_complete named stops
      obtain ⟨first, more, rfl, rfl, begins, -⟩ := name_form_iff.1 named
      have solid : first ≠ '*' := by
        rintro rfl
        exact absurd begins (by decide)
      simp only [List.cons_append] at reads ⊢
      split
      · rename_i same
        cases same
      · rename_i same
        cases same
        exact absurd rfl solid
      · rename_i same
        cases same
        rw [reads]
        rfl
      · rename_i other
        exact absurd rfl (other _)
  | prefixed leads =>
      rw [List.append_assoc, List.cons_append, test_after_name leads (stops_colon _)]
      rfl
  | @kind name _ gap known inside =>
      simp only [List.append_assoc, List.cons_append, List.nil_append]
      rw [test_after_name (type_name_form known) (stops_open _)]
      change readTypeTest name (gap ++ ')' :: rest) = .ok (test, rest)
      rw [readTypeTest, expect_complete ')' inside (by decide), read_bind]
      simp only [mem_type_names.2 known]

def Solid (text : List Char) : Prop := ∃ c more, text = c :: more ∧ Text.isBlank c = false

theorem skip_before_solid {text : List Char} (solid : Solid text) (rest : List Char) :
    skipBlanks (text ++ rest) = text ++ rest := by
  rcases solid with ⟨c, more, rfl, visible⟩
  exact skip_solid visible _

theorem solid_literal {value : String} {text : List Char} (form : LiteralForm value text) :
    Solid text := by
  cases form with
  | quoted mark inside =>
      refine ⟨_, _, rfl, ?_⟩
      rcases mark with rfl | rfl <;> decide

theorem literal_complete {value : String} {text rest : List Char} (form : LiteralForm value text) :
    readLiteral (text ++ rest) = .ok (value, rest) := by
  cases form with
  | quoted mark inside =>
      simp only [readLiteral, List.append_assoc, List.cons_append, List.nil_append, if_pos mark,
        Text.cut_at_append rest inside]

theorem comparison_complete {negated : Bool} {value : String} {text rest : List Char}
    (form : ComparisonForm negated value text) :
    readComparison (skipBlanks (text ++ rest)) = .ok (some (negated, value), rest) := by
  cases form with
  | @compared front back literal before after form =>
      have content : readLiteral (skipBlanks (back ++ (literal ++ rest))) = .ok (value, rest) := by
        rw [skip_gap after, skip_before_solid (solid_literal form), literal_complete form]
      simp only [List.append_assoc]
      rw [skip_gap before]
      cases negated with
      | true =>
          rw [operator, if_pos rfl, List.cons_append, skip_solid (by decide)]
          simp only [readComparison, List.cons_append, List.nil_append, content]
          rfl
      | false =>
          rw [operator, if_neg Bool.false_ne_true, List.cons_append, skip_solid (by decide)]
          simp only [readComparison, List.nil_append, content]
          rfl

theorem no_comparison {rest : List Char} (ends : Ends [']'] rest) :
    readComparison (skipBlanks rest) = .ok (none, skipBlanks rest) := by
  unfold readComparison
  split
  · rename_i begun
    exact absurd (skip_of_ends ends begun) (by decide)
  · rename_i begun
    exact absurd (skip_of_ends ends begun) (by decide)
  · rfl

theorem ends_compared {negated : Bool} {value : String} {text rest : List Char}
    (form : ComparisonForm negated value text) : Ends ['!', '='] (text ++ rest) := by
  cases form with
  | compared before after literal =>
      simp only [List.append_assoc]
      apply ends_gap before
      cases negated with
      | true => exact ends_mark (.head _) (by decide)
      | false => exact ends_mark (.tail _ (.head _)) (by decide)

/-- A predicate that begins with a name is about child elements. -/
theorem predicate_of_name {name : String} {front rest : List Char} (form : NameForm name front)
    (stops : Stops rest) (plain : ∀ inside, rest ≠ '(' :: inside) :
    readPredicate (front ++ rest) = readChildPredicate (front ++ rest) := by
  have reads := name_complete form stops
  obtain ⟨first, more, rfl, rfl, begins, -⟩ := name_form_iff.1 form
  unfold readPredicate
  split
  · rename_i inside begun
    -- The name would be `last` here, with a parenthesis after it.
    rw [begun] at reads
    have last := @name_complete "last" "last".toList ('(' :: inside)
      (@name_of_chars 'l' ['a', 's', 't'] (by decide) (by decide +kernel))
      (stops_open inside)
    have same := Except.ok.inj (reads.symm.trans last)
    exact absurd (Prod.mk.inj same).2 (plain inside)
  · rename_i begun
    cases begun
    exact absurd begins (by decide)
  · rename_i begun
    cases begun
    split
    · rename_i digit
      rw [(digit_in_name digit).2] at begins
      cases begins
    · rfl
  · rfl

theorem predicate_of_qualified {name : String} {front rest some : List Char}
    (form : QualifiedForm name front) (listed : some ⊆ marks) (ends : Ends some rest) :
    readPredicate (front ++ rest) = readChildPredicate (front ++ rest) := by
  cases form with
  | plain named =>
      apply predicate_of_name named (stops_of_ends listed ends)
      rintro inside rfl
      exact (no_punctuation listed ends).2 rfl
  | qualified leads named =>
      rw [List.append_assoc, List.cons_append]
      exact predicate_of_name leads (stops_colon _) nofun

theorem attribute_complete {name value : String} {negated : Bool} {front back rest : List Char}
    (named : QualifiedForm name front) (compared : ComparisonForm negated value back) :
    readAttributePredicate (front ++ (back ++ rest)) =
      .ok (.attribute name value negated, rest) := by
  rw [readAttributePredicate, qualified_complete named (by decide) (ends_compared compared),
    read_bind]
  dsimp only
  rw [comparison_complete compared, read_bind]

theorem child_complete {name value : String} {front back rest : List Char}
    (named : QualifiedForm name front) (compared : ComparisonForm false value back) :
    readChildPredicate (front ++ (back ++ rest)) = .ok (.child name value, rest) := by
  rw [readChildPredicate, qualified_complete named (by decide) (ends_compared compared),
    read_bind]
  dsimp only
  rw [comparison_complete compared, read_bind]

theorem has_attribute_complete {name : String} {front rest : List Char}
    (named : QualifiedForm name front) (ends : Ends [']'] rest) :
    readAttributePredicate (front ++ rest) = .ok (.hasAttribute name, skipBlanks rest) := by
  rw [readAttributePredicate, qualified_complete named (by decide) ends, read_bind]
  dsimp only
  rw [no_comparison ends, read_bind]

theorem has_child_complete {name : String} {front rest : List Char}
    (named : QualifiedForm name front) (ends : Ends [']'] rest) :
    readChildPredicate (front ++ rest) = .ok (.hasChild name, skipBlanks rest) := by
  rw [readChildPredicate, qualified_complete named (by decide) ends, read_bind]
  dsimp only
  rw [no_comparison ends, read_bind]

theorem position_complete {value : Nat} {digits rest : List Char}
    (form : DecimalForm value digits) (positive : 1 ≤ value) (bounded : value < 2 ^ 64)
    (stops : Stops rest) : readPredicate (digits ++ rest) = .ok (.position value, rest) := by
  rcases decimal_form_iff.1 form with ⟨some, decimal, rfl⟩
  have ended : ∀ c ∈ rest.head?, c.isDigit = false := by
    intro c first
    refine Bool.eq_false_iff.2 ?_
    intro digit
    have stop := stops c first
    rw [(digit_in_name digit).1] at stop
    cases stop
  have span := span_complete decimal ended
  have position : readPosition (digits ++ rest) =
      .ok (.position (Number.digitsValue digits), rest) := by
    have small : ¬positionLimit ≤ Number.digitsValue digits := Nat.not_le_of_lt bounded
    simp only [readPosition, span]
    rw [if_neg small, if_neg (Nat.one_le_iff_ne_zero.1 positive)]
  cases digits with
  | nil => exact absurd rfl some
  | cons c more =>
      have digit := decimal c (.head _)
      unfold readPredicate
      split
      · rename_i begun
        rw [(List.cons.inj begun).1] at digit
        exact absurd digit (by decide)
      · rename_i begun
        rw [(List.cons.inj begun).1] at digit
        exact absurd digit (by decide)
      · rename_i begun
        cases begun
        rw [if_pos digit]
        exact position
      · rename_i begun
        cases begun

/-- What is left after a form is what follows it, up to blanks. -/
def ReadsUpToBlanks {Value : Type} (read : List Char → Outcome (Value × List Char)) (value : Value)
    (text rest : List Char) : Prop :=
  ∃ left, read text = .ok (value, left) ∧ skipBlanks left = skipBlanks rest

theorem predicate_complete {predicate : Predicate} {text rest : List Char}
    (form : PredicateForm predicate text) (ends : Ends [']'] rest) :
    ReadsUpToBlanks readPredicate predicate (text ++ rest) rest := by
  cases form with
  | position decimal positive bounded =>
      have stops := stops_of_ends (by decide) ends
      exact ⟨rest, position_complete decimal positive bounded stops, rfl⟩
  | last inside =>
      refine ⟨rest, ?_, rfl⟩
      simp only [readPredicate, List.cons_append, List.append_assoc, List.nil_append]
      rw [expect_complete ')' inside (by decide)]
      rfl
  | hasAttribute named =>
      exact ⟨skipBlanks rest, has_attribute_complete named ends, skip_skipped rest⟩
  | attributeIs named compared =>
      refine ⟨rest, ?_, rfl⟩
      simp only [readPredicate, List.cons_append, List.append_assoc]
      exact attribute_complete named compared
  | hasChild named =>
      refine ⟨skipBlanks rest, ?_, skip_skipped rest⟩
      rw [predicate_of_qualified named (by decide) ends]
      exact has_child_complete named ends
  | childIs named compared =>
      refine ⟨rest, ?_, rfl⟩
      rw [List.append_assoc, predicate_of_qualified named (by decide) (ends_compared compared)]
      exact child_complete named compared

theorem solid_name {name : String} {text : List Char} (form : NameForm name text) :
    Solid text := by
  obtain ⟨first, more, rfl, -, begins, -⟩ := name_form_iff.1 form
  exact ⟨first, more, rfl, begins_solid begins⟩

theorem solid_append {front : List Char} (solid : Solid front) (back : List Char) :
    Solid (front ++ back) := by
  rcases solid with ⟨c, more, rfl, visible⟩
  exact ⟨c, more ++ back, rfl, visible⟩

theorem solid_qualified {name : String} {text : List Char} (form : QualifiedForm name text) :
    Solid text := by
  cases form with
  | plain named => exact solid_name named
  | qualified leads named => exact solid_append (solid_name leads) _

theorem solid_predicate {predicate : Predicate} {text : List Char}
    (form : PredicateForm predicate text) : Solid text := by
  cases form with
  | position form positive bounded =>
      rcases decimal_form_iff.1 form with ⟨some, decimal, -⟩
      cases text with
      | nil => exact absurd rfl some
      | cons c more =>
          refine ⟨c, more, rfl, Bool.eq_false_iff.2 ?_⟩
          intro blank
          have stop := blank_stops blank
          rw [(digit_in_name (decimal c (.head _))).1] at stop
          cases stop
  | hasChild named => exact solid_qualified named
  | childIs named compared => exact solid_append (solid_qualified named) _
  | last inside => exact ⟨_, _, rfl, by decide⟩
  | hasAttribute named => exact ⟨_, _, rfl, by decide⟩
  | attributeIs named compared => exact ⟨_, _, rfl, by decide⟩

theorem bracketed_complete {predicate : Predicate} {text rest : List Char}
    (form : Spaced PredicateForm predicate text) :
    readBracketed (text ++ ']' :: rest) = .ok (predicate, rest) := by
  cases form with
  | @around front core back before form after =>
      have ends : Ends [']'] (back ++ ']' :: rest) :=
        ends_gap after (ends_mark (.head _) (by decide))
      rcases predicate_complete form ends with ⟨left, read, skipped⟩
      simp only [List.append_assoc]
      rw [readBracketed, skip_gap before, skip_before_solid (solid_predicate form), read, read_bind]
      dsimp only
      rw [skipped, expect_complete ']' after (by decide), read_bind]
      rfl

theorem ends_predicates {predicates : List Predicate} {text rest : List Char}
    (form : PredicatesForm predicates text) (ends : Ends ['/', '|'] rest) :
    Ends ['[', '/', '|'] (text ++ rest) := by
  cases form with
  | none => exact ends_mono (List.subset_cons_self _ _) ends
  | more before first later =>
      simp only [List.append_assoc]
      exact ends_gap before (ends_mark (.head _) (by decide))

theorem predicates_after_bracket {predicate : Predicate} {text inside left : List Char}
    (begun : skipBlanks text = '[' :: inside)
    (read : readBracketed inside = .ok (predicate, left)) :
    readPredicates text = (do
      let (later, last) ← readPredicates left
      return (predicate :: later, last)) := by
  rw [readPredicates]
  split
  · rename_i bracket
    rw [begun] at bracket
    cases bracket
    split
    · rename_i failed
      rw [read] at failed
      cases failed
    · rename_i succeeded
      rw [read] at succeeded
      cases succeeded
      rfl
  · rename_i other
    exact absurd begun (other _)

theorem predicates_complete {predicates : List Predicate} {text rest : List Char}
    (form : PredicatesForm predicates text) (ends : Ends ['/', '|'] rest) :
    readPredicates (text ++ rest) = .ok (predicates, skipBlanks rest) := by
  induction form with
  | none =>
      rw [List.nil_append, readPredicates]
      split
      · rename_i begun
        exact absurd (skip_of_ends ends begun) (by decide)
      · rfl
  | @more predicate predicates gap inner back before first later ih =>
      have begun : skipBlanks (gap ++ '[' :: inner ++ ']' :: back ++ rest) =
          '[' :: (inner ++ ']' :: (back ++ rest)) := by
        simp only [List.append_assoc, List.cons_append]
        rw [skip_gap before, skip_solid (by decide)]
      rw [predicates_after_bracket begun (bracketed_complete first), ih]
      rfl

theorem begins_no_mark {c : Char} (begins : beginsName c = true) : c ∉ ['.', '/', '|'] := by
  intro member
  have none : ['.', '/', '|'].any beginsName = false := by decide
  exact absurd begins (List.any_eq_false.1 none c member)

def OpensTest (text : List Char) : Prop :=
  ∃ c more, text = c :: more ∧ Text.isBlank c = false ∧ c ∉ ['.', '/', '|']

theorem opens_append {front : List Char} (opens : OpensTest front) (back : List Char) :
    OpensTest (front ++ back) := by
  rcases opens with ⟨c, more, rfl, visible, unmarked⟩
  exact ⟨c, more ++ back, rfl, visible, unmarked⟩

theorem opens_name {name : String} {text : List Char} (form : NameForm name text) :
    OpensTest text := by
  obtain ⟨first, more, rfl, -, begins, -⟩ := name_form_iff.1 form
  exact ⟨first, more, rfl, begins_solid begins, begins_no_mark begins⟩

theorem opens_test {test : NodeTest} {text : List Char} (form : TestForm test text) :
    OpensTest text := by
  cases form with
  | star => exact ⟨_, _, rfl, by decide, by decide⟩
  | named named => exact opens_name named
  | qualified leads named => exact opens_append (opens_name leads) _
  | prefixed leads => exact opens_append (opens_name leads) _
  | kind known inside =>
      exact opens_append (opens_append (opens_name (type_name_form known)) _) _

theorem step_begins {step : Step} {text : List Char} (form : StepForm step text) :
    ∃ c more, text = c :: more ∧ Text.isBlank c = false ∧ c ∉ ['/', '|'] := by
  cases form with
  | parent => exact ⟨_, _, rfl, by decide, by decide⟩
  | self => exact ⟨_, _, rfl, by decide, by decide⟩
  | child tested conditions =>
      rcases opens_append (opens_test tested) _ with ⟨c, more, begun, visible, unmarked⟩
      exact ⟨c, more, begun, visible, fun member => unmarked (.tail _ member)⟩

theorem solid_step {step : Step} {text : List Char} (form : StepForm step text) : Solid text := by
  rcases step_begins form with ⟨c, more, begun, visible, _⟩
  exact ⟨c, more, begun, visible⟩

theorem test_step_complete {test : NodeTest} {predicates : List Predicate}
    {front back rest : List Char} (tested : TestForm test front)
    (conditions : PredicatesForm predicates back) (ends : Ends ['/', '|'] rest)
    {text : List Char} (begun : skipBlanks text = front ++ (back ++ rest)) :
    readStep text = .ok (⟨.child, test, predicates⟩, skipBlanks rest) := by
  rcases opens_test tested with ⟨c, more, first, _, unmarked⟩
  -- Steps that are written with points come first, and no test begins with one.
  unfold readStep
  split
  · rename_i point
    rw [begun, first] at point
    rw [(List.cons.inj point).1] at unmarked
    exact absurd (.head _) unmarked
  · rename_i point
    rw [begun, first] at point
    rw [(List.cons.inj point).1] at unmarked
    exact absurd (.head _) unmarked
  · rw [begun, test_complete tested (by decide) (ends_predicates conditions ends), read_bind]
    dsimp only
    rw [predicates_complete conditions ends]
    rfl

theorem step_complete {step : Step} {text rest : List Char} (form : Spaced StepForm step text)
    (ends : Ends ['/', '|'] rest) : ReadsUpToBlanks readStep step (text ++ rest) rest := by
  cases form with
  | @around front core back before form after =>
      have begun : skipBlanks (front ++ core ++ back ++ rest) = core ++ (back ++ rest) := by
        simp only [List.append_assoc]
        rw [skip_gap before, skip_before_solid (solid_step form)]
      have later : Ends ['/', '|'] (back ++ rest) := ends_gap after ends
      cases form with
      | parent =>
          refine ⟨back ++ rest, ?_, skip_gap after rest⟩
          unfold readStep
          rw [begun]
          rfl
      | self =>
          refine ⟨back ++ rest, ?_, skip_gap after rest⟩
          unfold readStep
          rw [begun]
          split
          · rename_i points
            -- Two points stand for the parent, but no step is followed by a point.
            have second : back ++ rest = '.' :: _ := (List.cons.inj points).2
            rw [second] at later
            exact absurd (head_of_ends later) (by decide)
          · rename_i point
            cases point
            rfl
          · rename_i other
            exact absurd rfl (other _)
      | child tested conditions =>
          refine ⟨skipBlanks (back ++ rest), ?_, ?_⟩
          · have tests := begun.trans (List.append_assoc _ _ _)
            exact test_step_complete tested conditions later tests
          · rw [skip_skipped, skip_gap after]

/-- No step begins with a slash, so that a single slash before it is not taken for a double one. -/
theorem step_no_slash {step : Step} {text : List Char} (form : Spaced StepForm step text)
    (rest more : List Char) : text ++ rest ≠ '/' :: more := by
  intro slash
  cases form with
  | @around front core back before form after =>
      rcases step_begins form with ⟨c, tail, rfl, _, unmarked⟩
      cases front with
      | nil =>
          cases slash
          exact absurd (.head _) unmarked
      | cons blank others =>
          cases slash
          exact absurd (before _ (.head _)) (by decide)

theorem ends_later {steps : List Step} {text rest : List Char} (form : LaterForm steps text)
    (ends : Ends ['|'] rest) : Ends ['/', '|'] (text ++ rest) := by
  cases form with
  | none => exact ends_mono (List.subset_cons_self _ _) ends
  | more slash first later =>
      cases slash with
      | single => exact ends_mark (.head _) (by decide)
      | double => exact ends_mark (.head _) (by decide)

theorem solid_slash {implied : List Step} {mark : List Char} (slash : SlashForm implied mark) :
    Solid mark := by
  cases slash with
  | single => exact ⟨_, _, rfl, by decide⟩
  | double => exact ⟨_, _, rfl, by decide⟩

theorem later_of_skip {text other : List Char} (same : skipBlanks text = skipBlanks other) :
    readLaterSteps text = readLaterSteps other := by
  rw [readLaterSteps, readLaterSteps, same]

theorem later_after_slash {step : Step} {text start left : List Char}
    (begun : skipBlanks text = '/' :: start) (lone : ∀ more, start ≠ '/' :: more)
    (read : readStep start = .ok (step, left)) :
    readLaterSteps text = (do
      let (later, last) ← readLaterSteps left
      return (step :: later, last)) := by
  rw [readLaterSteps]
  split
  · rename_i double
    rw [begun] at double
    exact absurd (List.cons.inj double).2 (lone _)
  · rename_i single
    rw [begun] at single
    cases single
    split
    · rename_i failed
      rw [read] at failed
      cases failed
    · rename_i succeeded
      rw [read] at succeeded
      cases succeeded
      rfl
  · rename_i other
    exact absurd begun (other _)

theorem later_after_double {step : Step} {text start left : List Char}
    (begun : skipBlanks text = '/' :: '/' :: start) (read : readStep start = .ok (step, left)) :
    readLaterSteps text = (do
      let (later, last) ← readLaterSteps left
      return (.everywhere :: step :: later, last)) := by
  rw [readLaterSteps]
  split
  · rename_i double
    rw [begun] at double
    cases double
    split
    · rename_i failed
      rw [read] at failed
      cases failed
    · rename_i succeeded
      rw [read] at succeeded
      cases succeeded
      rfl
  · rename_i double single
    rw [begun] at single
    exact absurd (List.cons.inj single).2.symm (double _)
  · rename_i double other
    exact absurd begun (double _)

theorem later_complete {steps : List Step} {text rest : List Char} (form : LaterForm steps text)
    (ends : Ends ['|'] rest) : readLaterSteps (text ++ rest) = .ok (steps, skipBlanks rest) := by
  induction form with
  | none =>
      rw [List.nil_append, readLaterSteps]
      split
      · rename_i begun
        exact absurd (skip_of_ends ends begun) (by decide)
      · rename_i begun
        exact absurd (skip_of_ends ends begun) (by decide)
      · rfl
  | @more implied steps step mark inner back slash first later ih =>
      rcases step_complete first (ends_later later ends) with ⟨left, read, skipped⟩
      have rests : readLaterSteps left = .ok (steps, skipBlanks rest) := by
        rw [later_of_skip skipped, ih]
      have begun : skipBlanks (mark ++ inner ++ back ++ rest) =
          mark ++ (inner ++ (back ++ rest)) := by
        rw [List.append_assoc, List.append_assoc]
        exact skip_before_solid (solid_slash slash) _
      cases slash with
      | single =>
          rw [later_after_slash begun (step_no_slash first _) read, rests]
          rfl
      | double =>
          rw [later_after_double begun read, rests]
          rfl

theorem steps_complete {steps : List Step} {step : Step} {front back rest : List Char}
    (first : Spaced StepForm step front) (later : LaterForm steps back) (ends : Ends ['|'] rest) :
    readSteps (front ++ (back ++ rest)) = .ok (step :: steps, skipBlanks rest) := by
  rcases step_complete first (ends_later later ends) with ⟨left, read, skipped⟩
  rw [readSteps, read, read_bind]
  dsimp only
  rw [later_of_skip skipped, later_complete later ends]
  rfl

theorem steps_of_skipped (text : List Char) : readSteps (skipBlanks text) = readSteps text := by
  have stepped : readStep (skipBlanks text) = readStep text := by
    rw [readStep, readStep, skip_skipped]
  rw [readSteps, readSteps, stepped]

theorem skipped_step {step : Step} {text : List Char} (form : Spaced StepForm step text)
    (rest : List Char) : ∃ c more, skipBlanks (text ++ rest) = c :: more ∧ c ∉ ['/', '|'] := by
  cases form with
  | @around front core back before form after =>
      rcases step_begins form with ⟨c, more, rfl, visible, unmarked⟩
      refine ⟨c, more ++ (back ++ rest), ?_, unmarked⟩
      simp only [List.append_assoc]
      rw [skip_gap before]
      exact skip_solid visible _

theorem root_complete {text rest : List Char} (ends : Ends ['|'] rest)
    (begun : skipBlanks text = '/' :: rest) :
    readPath text = .ok (⟨true, []⟩, skipBlanks rest) := by
  unfold readPath
  split
  · rename_i double
    rw [begun] at double
    rw [(List.cons.inj double).2] at ends
    exact absurd (head_of_ends ends) (by decide)
  · rename_i single
    rw [begun] at single
    cases single
    split
    · rename_i ended
      rw [ended]
    · rename_i bar
      rw [bar]
    · rename_i more other
      cases left : skipBlanks rest with
      | nil => exact absurd left more
      | cons c tail =>
          have bar := skip_of_ends ends left
          rw [List.mem_singleton.1 bar] at left
          exact absurd left (other _)
  · rename_i other
    exact absurd begun (other _)

theorem double_complete {steps : List Step} {step : Step} {front back rest text : List Char}
    (first : Spaced StepForm step front) (later : LaterForm steps back) (ends : Ends ['|'] rest)
    (begun : skipBlanks text = '/' :: '/' :: (front ++ (back ++ rest))) :
    readPath text = .ok (⟨true, .everywhere :: step :: steps⟩, skipBlanks rest) := by
  unfold readPath
  rw [begun]
  simp only [steps_complete first later ends]
  rfl

theorem single_complete {steps : List Step} {step : Step} {front back rest text : List Char}
    (first : Spaced StepForm step front) (later : LaterForm steps back) (ends : Ends ['|'] rest)
    (begun : skipBlanks text = '/' :: (front ++ (back ++ rest))) :
    readPath text = .ok (⟨true, step :: steps⟩, skipBlanks rest) := by
  rcases skipped_step first (back ++ rest) with ⟨c, more, skipped, unmarked⟩
  -- The slash is neither one of two nor alone, because a step follows.
  unfold readPath
  split
  · rename_i double
    rw [begun] at double
    exact absurd (List.cons.inj double).2 (step_no_slash first _ _)
  · rename_i single
    rw [begun] at single
    cases single
    split
    · rename_i ended
      rw [skipped] at ended
      cases ended
    · rename_i bar
      rw [skipped] at bar
      rw [(List.cons.inj bar).1] at unmarked
      exact absurd (.tail _ (.head _)) unmarked
    · rw [steps_of_skipped, steps_complete first later ends]
      rfl
  · rename_i other
    exact absurd begun (other _)

theorem relative_complete {steps : List Step} {step : Step} {front back rest text : List Char}
    (first : Spaced StepForm step front) (later : LaterForm steps back) (ends : Ends ['|'] rest)
    (begun : skipBlanks text = skipBlanks (front ++ (back ++ rest))) :
    readPath text = .ok (⟨false, step :: steps⟩, skipBlanks rest) := by
  rcases skipped_step first (back ++ rest) with ⟨c, more, skipped, unmarked⟩
  unfold readPath
  split
  · rename_i double
    rw [begun, skipped] at double
    rw [(List.cons.inj double).1] at unmarked
    exact absurd (.head _) unmarked
  · rename_i single
    rw [begun, skipped] at single
    rw [(List.cons.inj single).1] at unmarked
    exact absurd (.head _) unmarked
  · rw [begun, steps_of_skipped, steps_complete first later ends]
    rfl

theorem path_complete {path : Path} {text rest : List Char} (form : Spaced PathForm path text)
    (ends : Ends ['|'] rest) : readPath (text ++ rest) = .ok (path, skipBlanks rest) := by
  cases form with
  | @around before core after blanks form others =>
      have later : Ends ['|'] (after ++ rest) := ends_gap others ends
      have begun : skipBlanks (before ++ core ++ after ++ rest) =
          skipBlanks (core ++ (after ++ rest)) := by
        simp only [List.append_assoc]
        exact skip_gap blanks _
      rw [← skip_gap others rest]
      cases form with
      | root =>
          rw [root_complete later (begun.trans (skip_solid (by decide) _))]
      | absolute slash first more =>
          cases slash with
          | single =>
              refine single_complete first more later (begun.trans ?_)
              simp only [List.append_assoc, List.cons_append, List.nil_append]
              exact skip_solid (by decide) _
          | double =>
              refine double_complete first more later (begun.trans ?_)
              simp only [List.append_assoc, List.cons_append, List.nil_append]
              exact skip_solid (by decide) _
      | relative first more =>
          refine relative_complete first more later (begun.trans ?_)
          rw [List.append_assoc]

theorem paths_after_bar {path : Path} {text left next : List Char}
    (read : readPath text = .ok (path, left)) (begun : skipBlanks left = '|' :: next) :
    readPaths text = (do
      let (later, last) ← readPaths next
      return (path :: later, last)) := by
  rw [readPaths]
  split
  · rename_i failed
    rw [read] at failed
    cases failed
  · rename_i succeeded
    rw [read] at succeeded
    cases succeeded
    split
    · rename_i bar
      rw [begun] at bar
      cases bar
      rfl
    · rename_i other
      exact absurd begun (other _)

theorem paths_at_end {path : Path} {text left : List Char}
    (read : readPath text = .ok (path, left)) (ended : skipBlanks left = []) :
    readPaths text = .ok ([path], []) := by
  rw [readPaths]
  split
  · rename_i failed
    rw [read] at failed
    cases failed
  · rename_i succeeded
    rw [read] at succeeded
    cases succeeded
    split
    · rename_i bar
      rw [ended] at bar
      cases bar
    · rw [ended]

theorem union_complete {paths : List Path} {text : List Char} (form : UnionForm paths text) :
    readPaths text = .ok (paths, []) := by
  induction form with
  | one only =>
      have read := path_complete only (ends_nil ['|'])
      rw [List.append_nil] at read
      exact paths_at_end read rfl
  | @more path paths front back first later ih =>
      have ends : Ends ['|'] ('|' :: back) := ends_mark (.head _) (by decide)
      have read := path_complete first ends
      have bar : skipBlanks (skipBlanks ('|' :: back)) = '|' :: back := by
        rw [skip_skipped, skip_solid (by decide)]
      rw [paths_after_bar read bar, ih]
      rfl

/-- The form of a union is the one that is read, so that it can be decided. -/
theorem union_iff_read {paths : List Path} {text : List Char} :
    UnionForm paths text ↔ readPaths text = .ok (paths, []) := by
  constructor
  · exact union_complete
  · intro read
    rcases union_sound read with ⟨front, whole, form⟩
    rw [whole, List.append_nil]
    exact form

instance (paths : List Path) (text : List Char) : Decidable (UnionForm paths text) :=
  decidable_of_iff _ union_iff_read.symm

example : UnionForm
    [⟨true, [.everywhere, ⟨.child, .named "a", [.attribute "id" "x" true, .position 12]⟩]⟩,
      ⟨true, []⟩]
    "// a [@id != 'x'] [ 12 ] | /".toList := by
  decide +kernel

/-- What is written stands for one selector at most. -/
theorem union_unambiguous {paths others : List Path} {text : List Char}
    (form : UnionForm paths text) (other : UnionForm others text) : paths = others := by
  have same := (union_complete form).symm.trans (union_complete other)
  exact (Prod.mk.inj (Except.ok.inj same)).1

end Grammar

/-- A text is read as a selector exactly if it is written as the grammar says, and the selector is
then what the grammar says. -/
theorem parse_eq_ok_iff (text : String) (selector : Selector) :
    Selector.parse text = .ok selector ↔ Grammar.UnionForm selector.paths text.toList := by
  have parsed : Selector.parse text = .ok selector ↔ Selector.read text.toList = .ok selector := by
    unfold Selector.parse
    cases Selector.read text.toList <;> simp [Except.mapError]
  rw [parsed, Grammar.union_iff_read]
  constructor
  · intro read
    rcases eq_ok_of_bind read with ⟨⟨paths, left⟩, unions, ended⟩
    dsimp only at ended
    split at ended
    · cases ended
      exact unions
    · cases ended
  · intro unions
    rw [Selector.read, unions]
    rfl

end XmlTemplate.Selector
