import XmlTemplate.Proofs.Selector.GrammarCompleteness

/-!
What may be written after a selector. Unions join at a bar, a path goes on with further steps, and a
last step that is a test takes a further predicate. Blanks at the end of a path then belong to its
last step, because no form has room for them between two others.
-/

namespace XmlTemplate.Selector

namespace Grammar

theorem union_append {paths others : List Path} {front back : List Char}
    (first : UnionForm paths front) (second : UnionForm others back) :
    UnionForm (paths ++ others) (front ++ '|' :: back) := by
  induction first with
  | one only => exact .more only second
  | more only _ ih =>
      rw [List.append_assoc, List.cons_append]
      exact .more only ih

theorem only_path {path : Path} {text : List Char} (form : UnionForm [path] text) :
    Spaced PathForm path text := by
  generalize same : [path] = paths at form
  cases form with
  | one only =>
      cases same
      exact only
  | more only later =>
      cases same
      cases later

theorem spaced_of_form {Value : Type} {Form : Value → List Char → Prop} {value : Value}
    {text : List Char} (form : Form value text) : Spaced Form value text := by
  have spaced := Spaced.around gap_nil form gap_nil
  rwa [List.nil_append, List.append_nil] at spaced

theorem form_of_begins {Value : Type} {Form : Value → List Char → Prop} {value : Value}
    {text : List Char} (begins : Begins Form value text []) : Form value text := by
  obtain ⟨front, rfl, form⟩ := begins
  rwa [List.append_nil]

theorem spaced_append_gap {Value : Type} {Form : Value → List Char → Prop} {value : Value}
    {text gap : List Char} (spaced : Spaced Form value text) (more : Gap gap) :
    Spaced Form value (text ++ gap) := by
  cases spaced with
  | around before form after =>
      rw [List.append_assoc]
      exact .around before form (gap_append after more)

theorem predicates_append {predicates others : List Predicate} {front back : List Char}
    (first : PredicatesForm predicates front) (second : PredicatesForm others back) :
    PredicatesForm (predicates ++ others) (front ++ back) := by
  induction first with
  | none => exact second
  | more before inside _ ih =>
      rw [List.append_assoc, List.cons_append]
      exact .more before inside ih

theorem later_append {steps others : List Step} {front back : List Char}
    (first : LaterForm steps front) (second : LaterForm others back) :
    LaterForm (steps ++ others) (front ++ back) := by
  induction first with
  | none => exact second
  | more slash step _ ih =>
      rw [List.append_assoc, List.append_assoc, List.cons_append]
      exact .more slash step ih

/-- A step that is a test takes a further predicate after the blanks that follow it. -/
theorem step_with_predicate {test : NodeTest} {predicates : List Predicate}
    {predicate : Predicate} {text gap inner : List Char}
    (form : Spaced StepForm ⟨.child, test, predicates⟩ text) (blanks : Gap gap)
    (inside : Spaced PredicateForm predicate inner) :
    Spaced StepForm ⟨.child, test, predicates ++ [predicate]⟩
      (text ++ (gap ++ '[' :: inner ++ [']'])) := by
  cases form with
  | @around front core back before form after =>
      cases form with
      | @child _ _ tested conditions test_form conditions_form =>
          have bracketed : PredicatesForm [predicate] ((back ++ gap) ++ '[' :: inner ++ [']']) :=
            .more (gap_append after blanks) inside .none
          have whole : StepForm ⟨.child, test, predicates ++ [predicate]⟩
              (tested ++ (conditions ++ ((back ++ gap) ++ '[' :: inner ++ [']']))) :=
            .child test_form (predicates_append conditions_form bracketed)
          have spaced := Spaced.around before whole gap_nil
          simpa only [List.append_assoc, List.append_nil] using spaced

/-- The last of some steps is the last of what follows others of them. -/
theorem last_of_append {before front steps : List Step} {step last : Step}
    (ends : before ++ step :: steps = front ++ [last]) :
    ∃ init, front = before ++ init ∧ step :: steps = init ++ [last] := by
  obtain ⟨init, final, same⟩ :=
    (List.eq_nil_or_concat' (step :: steps)).resolve_left (List.cons_ne_nil _ _)
  rw [same, ← List.append_assoc] at ends
  obtain ⟨fronts, lasts⟩ := List.append_inj' ends rfl
  refine ⟨init, fronts.symm, ?_⟩
  rw [same, lasts]

section
variable {last other : Step} {suffix : List Char}
  (grows : ∀ text, Spaced StepForm last text → Spaced StepForm other (text ++ suffix))
include grows

/-- If what is written after the last of some steps makes another step of it, then so it does behind
all of them. -/
theorem steps_last {front steps : List Step} {step : Step} {text back : List Char}
    (first : Spaced StepForm step text) (later : LaterForm steps back)
    (ends : step :: steps = front ++ [last]) :
    ∃ next more head tail, Spaced StepForm next head ∧ LaterForm more tail ∧
      next :: more = front ++ [other] ∧ head ++ tail = text ++ back ++ suffix := by
  induction later generalizing front step text with
  | none =>
      cases front with
      | nil =>
          cases ends
          exact ⟨other, [], text ++ suffix, [], grows text first, .none, rfl, by simp⟩
      | cons => simp at ends
  | @more implied steps following mark inner back slash spaced later ih =>
      have ends : (step :: implied) ++ following :: steps = front ++ [last] := ends
      obtain ⟨init, rfl, inside⟩ := last_of_append ends
      obtain ⟨next, more, head, tail, grown, others, same, whole⟩ := ih spaced inside
      refine ⟨step, implied ++ next :: more, text, mark ++ head ++ tail, first,
        .more slash grown others, ?_, ?_⟩
      · rw [same, List.append_assoc, List.cons_append]
      · simp only [List.append_assoc] at whole ⊢
        rw [whole]

theorem path_last {absolute : Bool} {front : List Step} {text : List Char}
    (form : PathForm ⟨absolute, front ++ [last]⟩ text) :
    PathForm ⟨absolute, front ++ [other]⟩ (text ++ suffix) := by
  generalize ends : front ++ [last] = steps at form
  cases form with
  | root => simp at ends
  | @absolute implied steps step mark inner back slash first later =>
      obtain ⟨init, rfl, inside⟩ := last_of_append ends.symm
      obtain ⟨next, more, head, tail, grown, others, same, whole⟩ :=
        steps_last grows first later inside
      rw [List.append_assoc, ← same, List.append_assoc, List.append_assoc,
        ← List.append_assoc inner, ← whole, ← List.append_assoc]
      exact .absolute slash grown others
  | relative first later =>
      obtain ⟨next, more, head, tail, grown, others, same, whole⟩ :=
        steps_last grows first later ends.symm
      rw [← same, ← whole]
      exact .relative grown others

end

section
variable {absolute : Bool} {text : List Char}

theorem path_append {steps more : List Step} {back : List Char}
    (form : PathForm ⟨absolute, steps⟩ text) (some_step : steps ≠ [])
    (later : LaterForm more back) :
    PathForm ⟨absolute, steps ++ more⟩ (text ++ back) := by
  cases form with
  | root => exact absurd rfl some_step
  | absolute slash first others =>
      rw [List.append_assoc, List.append_assoc, List.cons_append]
      exact .absolute slash first (later_append others later)
  | relative first others =>
      rw [List.append_assoc, List.cons_append]
      exact .relative first (later_append others later)

/-- A path whose last step is a test takes a further predicate. -/
theorem path_with_predicate {front : List Step} {test : NodeTest} {predicates : List Predicate}
    {predicate : Predicate} {inner : List Char}
    (form : Spaced PathForm ⟨absolute, front ++ [⟨.child, test, predicates⟩]⟩ text)
    (inside : Spaced PredicateForm predicate inner) :
    Spaced PathForm ⟨absolute, front ++ [⟨.child, test, predicates ++ [predicate]⟩]⟩
      (text ++ '[' :: inner ++ [']']) := by
  cases form with
  | @around before core after blanks form others =>
      have grown := path_last (fun _ step => step_with_predicate step others inside) form
      have spaced := Spaced.around blanks grown gap_nil
      simpa only [List.append_assoc, List.append_nil] using spaced

/-- A path with steps goes on with more of them. -/
theorem path_with_steps {steps more : List Step} {back : List Char}
    (form : Spaced PathForm ⟨absolute, steps⟩ text) (some_step : steps ≠ [])
    (later : LaterForm more back) :
    Spaced PathForm ⟨absolute, steps ++ more⟩ (text ++ back) := by
  cases form with
  | @around before core after blanks form others =>
      obtain ⟨front, last, rfl⟩ := (List.eq_nil_or_concat' steps).resolve_left some_step
      have closed := path_last (fun _ step => spaced_append_gap step others) form
      have spaced := Spaced.around blanks (path_append closed some_step later) gap_nil
      simpa only [List.append_assoc, List.append_nil] using spaced

end

/-- A selector is parsed exactly if its paths are read and nothing is left. -/
theorem parse_iff_read {written : String} {paths : List Path} :
    Selector.parse written = .ok ⟨paths⟩ ↔ readPaths written.toList = .ok (paths, []) := by
  unfold Selector.parse Selector.read
  cases readPaths written.toList with
  | error stuck => simp [bind, Except.bind, Except.mapError]
  | ok found =>
      obtain ⟨others, left⟩ := found
      cases left <;> simp [bind, Except.bind, Except.mapError]

theorem form_of_parse {written : String} {paths : List Path}
    (parsed : Selector.parse written = .ok ⟨paths⟩) : UnionForm paths written.toList :=
  union_iff_read.2 (parse_iff_read.1 parsed)

theorem parse_of_form {written : String} {paths : List Path}
    (form : UnionForm paths written.toList) : Selector.parse written = .ok ⟨paths⟩ :=
  parse_iff_read.2 (union_complete form)

end Grammar
end XmlTemplate.Selector
