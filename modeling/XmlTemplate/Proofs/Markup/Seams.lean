import XmlTemplate.Proofs.Markup.Documents
import XmlTemplate.Proofs.Markup.Extents
import XmlTemplate.Proofs.Markup.Rereading
import XmlTemplate.Proofs.Markup.Tokens

/-!
Texts put together and taken apart. A text that was read leaves nothing open, so what is written
behind it is read as if it stood alone, only further on. In the other direction a text can be taken
apart before each of its top-level elements. This is what decides which texts are documents, and
where a second root is reported.
-/

namespace XmlTemplate.Markup

def Lexeme.moved (distance : Nat) (lexeme : Lexeme) : Lexeme :=
  ⟨distance + lexeme.start, distance + lexeme.stop, lexeme.construct⟩

theorem lexemes_moved (distance : Nat) {size : Nat} {text : List Char}
    (within : Text.size text ≤ size) :
    (lexemes (distance + size) text).1 = (lexemes size text).1.map (Lexeme.moved distance) ∧
      ((lexemes (distance + size) text).2 = .finished ↔ (lexemes size text).2 = .finished) := by
  fun_induction lexemes size text with
  | case1 =>
      rw [lexemes]
      exact ⟨rfl, Iff.rfl⟩
  | case2 c rest fault left found =>
      rw [lexemes]
      split
      · refine ⟨rfl, ?_⟩
        constructor <;> intro broken <;> cases broken
      · rename_i cut
        rw [found] at cut
        cases cut
  | case3 c rest construct after found later ending same ih =>
      have begins : Begins (c :: rest) construct after := ⟨c, rest, rfl, found⟩
      have smaller := size_of_begins begins
      obtain ⟨parts, ended⟩ := ih (Nat.le_trans smaller within)
      rw [same] at parts ended
      rw [lexemes_eq_of_begins _ begins, parts, Nat.add_sub_assoc within,
        Nat.add_sub_assoc (Nat.le_trans smaller within)]
      exact ⟨rfl, ended⟩

namespace Growth

/-- The tree at some distance behind another one, of which everything is closed. -/
def behind (growth before : Growth) (distance : Nat) : Growth :=
  ⟨growth.opened, growth.finished ++ before.finished,
    growth.roots.map (distance + ·) ++ before.roots⟩

section
variable (growth before : Growth) (distance : Nat)

theorem attach_behind (node : Node) :
    (growth.behind before distance).attach node = (growth.attach node).behind before distance := by
  rcases growth with ⟨_ | ⟨inner, outer⟩, finished, roots⟩ <;> rfl

theorem note_root_behind (start : Nat) :
    (growth.behind before distance).noteRoot (distance + start) =
      (growth.noteRoot start).behind before distance := by
  rcases growth with ⟨_ | ⟨inner, outer⟩, finished, roots⟩ <;> rfl

theorem close_behind (content : List Char) :
    (growth.behind before distance).close content =
      (growth.close content).map (·.behind before distance) := by
  rcases growth with ⟨_ | ⟨inner, outer⟩, finished, roots⟩
  · rfl
  · simp only [close, behind]
    split
    · exact congrArg Except.ok (attach_behind ⟨outer, finished, roots⟩ before distance _)
    · rfl

/-- A construct is taken in behind another tree as it is alone. -/
theorem step_behind (lexeme : Lexeme) :
    (growth.behind before distance).step (lexeme.moved distance) =
      (growth.step lexeme).map (·.behind before distance) := by
  obtain ⟨start, stop, construct⟩ := lexeme
  cases construct with
  | text raw =>
      simp only [step, Lexeme.moved]
      cases readReferences raw with
      | error fault => rfl
      | ok content => exact congrArg Except.ok (attach_behind growth before distance _)
  | opening content =>
      have same : (growth.behind before distance).scope = growth.scope := rfl
      simp only [step, Lexeme.moved, same, note_root_behind]
      cases readTag growth.scope content <;> rfl
  | selfClosing content =>
      have same : (growth.behind before distance).scope = growth.scope := rfl
      simp only [step, Lexeme.moved, same, note_root_behind]
      cases readTag growth.scope content with
      | error fault => rfl
      | ok inner => exact congrArg Except.ok (attach_behind _ before distance _)
  | closing content => exact close_behind growth before distance content
  | comment content => exact congrArg Except.ok (attach_behind growth before distance _)
  | cdata content => exact congrArg Except.ok (attach_behind growth before distance _)
  | instruction content => exact congrArg Except.ok (attach_behind growth before distance _)
  | declaration content =>
      simp only [step, Lexeme.moved]
      cases readDeclaration content with
      | error fault => rfl
      | ok declaration => exact congrArg Except.ok (attach_behind growth before distance _)
  | doctype content => exact congrArg Except.ok (attach_behind growth before distance _)

theorem run_behind (lexemes : List Lexeme) :
    (growth.behind before distance).run (lexemes.map (Lexeme.moved distance)) =
      ((growth.run lexemes).map (·.behind before distance)).mapError
        fun (offset, fault) => (distance + offset, fault) := by
  induction lexemes generalizing growth with
  | nil => rfl
  | cons lexeme later ih =>
      rw [List.map_cons, run, run, step_behind]
      cases growth.step lexeme with
      | error fault => rfl
      | ok next => exact ih next

end

theorem empty_behind {before : Growth} (closed : before.opened = []) (distance : Nat) :
    empty.behind before distance = before := by
  obtain ⟨opened, finished, roots⟩ := before
  cases closed
  rfl

end Growth

theorem without_mark_of_markup {text : List Char} (markup : text.head? = some '<') :
    withoutMark text = text := by
  apply without_mark_of_unmarked
  rw [markup]
  decide

theorem without_mark_append {front back : List Char} (markup : back.head? = some '<') :
    withoutMark (front ++ back) = withoutMark front ++ back := by
  cases front with
  | nil => exact without_mark_of_markup markup
  | cons c front =>
      rw [List.cons_append, withoutMark, withoutMark]
      split <;> rfl

/-- What is behind a text that was read is read as it is alone. -/
theorem run_after {back : List Char} {first grown : Growth} {size : Nat}
    (closed : first.opened = []) (within : Text.size back ≤ size) (distance : Nat) :
    first.run (lexemes (distance + size) back).1 = .ok grown ↔
      ∃ second, Growth.empty.run (lexemes size back).1 = .ok second ∧
        second.behind first distance = grown := by
  rw [(lexemes_moved distance within).1, ← Growth.empty_behind closed distance, Growth.run_behind,
    map_error_eq_ok_iff, map_eq_ok_iff, Growth.empty_behind closed]

/-- A text that was read can be followed by another one that begins with markup. -/
theorem grow_append {front back : List Char} {first second : Growth}
    (grew_front : grow front = .ok first) (grew_back : grow back = .ok second)
    (markup : back.head? = some '<') :
    grow (front ++ back) = .ok (second.behind first (Text.size (withoutMark front))) := by
  obtain ⟨ran_front, finished_front, closed_front⟩ := grow_iff.1 grew_front
  obtain ⟨ran_back, finished_back, closed_back⟩ := grow_iff.1 grew_back
  rw [without_mark_of_markup markup] at ran_back finished_back
  have starts : ∀ c ∈ back.head?, c = '<' := by
    intro c first
    rw [markup] at first
    exact (Option.some.inj first).symm
  apply grow_iff.2
  rw [without_mark_append markup, Text.size_append, lexemes_append finished_front starts]
  refine ⟨?_, ?_, closed_back⟩
  · rw [Growth.run_append _ ran_front]
    exact (run_after closed_front (Nat.le_refl _) _).2 ⟨second, ran_back, rfl⟩
  · exact (lexemes_moved _ (Nat.le_refl _)).2.2 finished_back

theorem tokens_start_iff {nodes : Forest} :
    (∃ name attributes more, Forest.tokens nodes = .start name attributes :: more) ↔
      ∃ (root : Element) (rest : Forest), nodes = root.toNode :: rest := by
  constructor
  · rintro ⟨name, attributes, more, said⟩
    cases nodes with
    | nil => cases said
    | cons node rest =>
        cases node with
        | element name attributes children => exact ⟨⟨name, attributes, children⟩, rest, rfl⟩
        | text | cdata | comment | instruction | doctype | declaration => cases said
  · rintro ⟨root, rest, rfl⟩
    exact ⟨root.name, root.attributes, _, rfl⟩

theorem is_start_iff {scope : Scope} {construct : Construct} {said more : List Token}
    (tells : construct.Says scope said) :
    construct.isStart = true ↔
      ∃ name attributes later, said ++ more = .start name attributes :: later := by
  cases tells with
  | leaf stands =>
      constructor
      · intro starts
        cases stands <;> cases starts
      · rintro ⟨name, attributes, later, same⟩
        cases same
  | opening read => exact ⟨fun _ => ⟨_, _, _, rfl⟩, fun _ => rfl⟩
  | selfClosing read => exact ⟨fun _ => ⟨_, _, _, rfl⟩, fun _ => rfl⟩
  | closing content =>
      constructor
      · intro starts
        cases starts
      · rintro ⟨name, attributes, later, same⟩
        cases same

theorem not_text_of_start {construct : Construct} (starts : construct.isStart = true) :
    construct.isText = false := by
  cases construct with
  | text raw => cases starts
  | _ => rfl

/-- The first node that is read is an element if and only if the first construct starts one. -/
theorem first_element_iff {lexeme : Lexeme} {later : List Lexeme} {grown : Growth}
    (ran : Growth.empty.run (lexeme :: later) = .ok grown) (closed : grown.opened = []) :
    lexeme.construct.isStart = true ↔
      ∃ (root : Element) (rest : Forest), grown.finished.reverse = root.toNode :: rest := by
  rw [Growth.run] at ran
  split at ran
  · cases ran
  · rename_i next stepped
    obtain ⟨said, tells, first⟩ := Growth.tokens_step stepped
    obtain ⟨more, rest⟩ := Growth.tokens_run ran
    rw [first] at rest
    have whole : Forest.tokens grown.finished.reverse = said ++ more := by
      rw [Growth.tokens, closed] at rest
      exact rest
    rw [is_start_iff tells, ← tokens_start_iff, whole]

namespace Growth

variable {growth grown : Growth}

/-- Only a start tag at the top puts a root on record, namely its own start. -/
theorem roots_step {lexeme : Lexeme} (stepped : growth.step lexeme = .ok grown) :
    grown.roots = growth.roots ∧ (growth.opened = [] → lexeme.construct.isStart = false) ∨
      growth.opened = [] ∧ lexeme.construct.isStart = true ∧
        grown.roots = lexeme.start :: growth.roots := by
  obtain ⟨start, stop, construct⟩ := lexeme
  rcases growth with ⟨_ | ⟨inner, outer⟩, finished, roots⟩
  · cases takes_of_step stepped with
    | leaf stands => exact .inl ⟨rfl, fun _ => by cases stands <;> rfl⟩
    | opening read => exact .inr ⟨rfl, rfl, rfl⟩
    | selfClosing read => exact .inr ⟨rfl, rfl, rfl⟩
    | closing opened named => cases opened
  · refine .inl ⟨?_, fun closed => absurd closed (List.cons_ne_nil _ _)⟩
    cases takes_of_step stepped with
    | leaf stands => rfl
    | opening read => rfl
    | selfClosing read => rfl
    | @closing content last others opened named =>
        cases opened
        rcases outer with _ | ⟨next, outer⟩ <;> rfl

theorem roots_run {lexemes : List Lexeme} (ran : growth.run lexemes = .ok grown) :
    growth.roots <:+ grown.roots := by
  have step : ∀ lexeme ∈ lexemes, ∀ before after : Growth, growth.roots <:+ before.roots →
      before.step lexeme = .ok after → growth.roots <:+ after.roots := by
    intro lexeme _ before after kept stepped
    rcases roots_step stepped with ⟨same, -⟩ | ⟨-, -, added⟩
    · rw [same]
      exact kept
    · rw [added]
      exact kept.trans (List.suffix_cons _ _)
  exact run_keeps step (List.suffix_refl _) ran

/-- If there is more than one root, the run meets the second one with everything closed. -/
theorem run_to_second {lexemes : List Lexeme} (ran : growth.run lexemes = .ok grown)
    (few : growth.roots.length ≤ 1) (many : 1 < grown.roots.length) :
    ∃ first lexeme later middle, lexemes = first ++ lexeme :: later ∧
      growth.run first = .ok middle ∧ middle.run (lexeme :: later) = .ok grown ∧
      middle.opened = [] ∧ middle.roots.length = 1 ∧ lexeme.construct.isStart = true := by
  induction lexemes generalizing growth with
  | nil =>
      cases ran
      omega
  | cons lexeme lexemes ih =>
      have whole := ran
      rw [run] at ran
      split at ran
      · cases ran
      · rename_i next stepped
        by_cases still : next.roots.length ≤ 1
        · obtain ⟨first, second, later, middle, rfl, before, after, found⟩ := ih ran still
          exact ⟨lexeme :: first, second, later, middle, rfl, by rw [run, stepped]; exact before,
            after, found⟩
        · rcases roots_step stepped with ⟨same, -⟩ | ⟨closed, starts, added⟩
          · rw [same] at still
            exact absurd few still
          · rw [added, List.length_cons] at still
            refine ⟨[], lexeme, lexemes, growth, rfl, rfl, whole, closed, ?_, starts⟩
            omega

end Growth

/-- A text that begins with an element has its first root where it begins. -/
theorem first_root {text : List Char} {grown : Growth} {root : Element} {rest : Forest}
    (grew : grow text = .ok grown) (element : grown.finished.reverse = root.toNode :: rest) :
    (withoutMark text).head? = some '<' ∧ [0] <:+ grown.roots := by
  obtain ⟨ran, -, closed⟩ := grow_iff.1 grew
  cases cut : lexemes (Text.size (withoutMark text)) (withoutMark text) with
  | mk parts ending =>
      rw [cut] at ran
      cases parts with
      | nil =>
          cases ran
          cases element
      | cons lexeme later =>
          have starts := (first_element_iff ran closed).2 ⟨root, rest, element⟩
          obtain ⟨after, begins, start, -⟩ := begins_of_lexemes cut
          refine ⟨markup_of_begins begins (not_text_of_start starts), ?_⟩
          rw [Growth.run] at ran
          split at ran
          · cases ran
          · rename_i next stepped
            rcases Growth.roots_step stepped with ⟨-, other⟩ | ⟨-, -, added⟩
            · rw [other rfl] at starts
              cases starts
            · have recorded := Growth.roots_run ran
              rw [added, start, Nat.sub_self] at recorded
              exact recorded

/-- What is in front of markup in an unmarked text is in front of it in the marked text too. -/
theorem take_apart_marked {text front back : List Char} (split : withoutMark text = front ++ back)
    (markup : back.head? = some '<') :
    ∃ whole, text = whole ++ back ∧ withoutMark whole = front := by
  cases text with
  | nil =>
      have empty : back = [] := (List.append_eq_nil_iff.1 split.symm).2
      rw [empty] at markup
      cases markup
  | cons c rest =>
      rw [withoutMark] at split
      split at split
      · rename_i mark
        refine ⟨c :: front, congrArg (c :: ·) split, ?_⟩
        rw [withoutMark, if_pos mark]
      · rename_i unmarked
        refine ⟨front, split, ?_⟩
        cases front with
        | nil => rfl
        | cons d front =>
            cases split
            rw [withoutMark, if_neg unmarked]

/-- If what is behind a text that was read begins with an element, it is read by itself too. -/
theorem grow_behind {back : List Char} {first grown : Growth} {distance : Nat} {lexeme : Lexeme}
    {later : List Lexeme} (markup : back.head? = some '<') (closed_first : first.opened = [])
    (cut : lexemes (distance + Text.size back) back = (lexeme :: later, .finished))
    (starts : lexeme.construct.isStart = true) (ran : first.run (lexeme :: later) = .ok grown)
    (closed : grown.opened = []) :
    ∃ second, grow back = .ok second ∧ grown = second.behind first distance ∧
      ∃ (root : Element) (rest : Forest), second.finished.reverse = root.toNode :: rest := by
  have within := Nat.le_refl (Text.size back)
  obtain ⟨moved, finished⟩ := lexemes_moved distance within
  have ran_after : first.run (lexemes (distance + Text.size back) back).1 = .ok grown := by
    rw [cut]
    exact ran
  obtain ⟨second, ran_second, rfl⟩ := (run_after closed_first within distance).1 ran_after
  refine ⟨second, ?_, rfl, ?_⟩
  · apply grow_iff.2
    rw [without_mark_of_markup markup]
    exact ⟨ran_second, finished.1 (by rw [cut]), closed⟩
  · rw [cut] at moved
    cases alone : (lexemes (Text.size back) back).1 with
    | nil =>
        rw [alone] at moved
        cases moved
    | cons same rest =>
        rw [alone, List.map_cons, List.cons.injEq] at moved
        rw [alone] at ran_second
        apply (first_element_iff ran_second closed).1
        rw [moved.1] at starts
        exact starts

/-- A text with more than one root can be taken apart before the second one. -/
theorem grow_split {text : List Char} {grown : Growth} (grew : grow text = .ok grown)
    (many : 1 < grown.roots.length) :
    ∃ front back first second, text = front ++ back ∧ grow front = .ok first ∧
      first.roots.length = 1 ∧ grow back = .ok second ∧ back.head? = some '<' ∧
      (∃ (root : Element) (rest : Forest), second.finished.reverse = root.toNode :: rest) ∧
      grown = second.behind first (Text.size (withoutMark front)) := by
  obtain ⟨ran, finished, closed⟩ := grow_iff.1 grew
  obtain ⟨parts, lexeme, later, first, cut, ran_front, ran_back, closed_front, one, starts⟩ :=
    Growth.run_to_second ran (Nat.zero_le 1) many
  have whole : lexemes (Text.size (withoutMark text)) (withoutMark text) =
      (parts ++ lexeme :: later, .finished) := Prod.ext cut finished
  obtain ⟨unmarked, back, split, mark, cut_front, cut_back⟩ :=
    lexemes_split whole (not_text_of_start starts)
  obtain ⟨front, rfl, same⟩ := take_apart_marked split mark
  rw [split, Text.size_append] at cut_front cut_back
  rw [Nat.add_sub_cancel] at cut_front
  subst same
  obtain ⟨second, grew_back, behind, element⟩ :=
    grow_behind mark closed_front cut_back starts ran_back closed
  refine ⟨front, back, first, second, rfl, ?_, one, grew_back, mark, element, behind⟩
  apply grow_iff.2
  rw [cut_front]
  exact ⟨ran_front, rfl, closed_front⟩

end XmlTemplate.Markup
