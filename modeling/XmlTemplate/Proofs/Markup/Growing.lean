import XmlTemplate.Proofs.Markup.Constructs
import XmlTemplate.Proofs.Markup.References

/-!
What a stretch of text adds to the tree in the making. The constructs of a text are cut without
regard to what is open, and are attached without regard to what was cut before; so stretches can be
read one after another, and an element is read around the stretch of its children.
-/

namespace XmlTemplate.Markup

namespace Growth

def attachAll (growth : Growth) (nodes : Forest) : Growth := nodes.foldl attach growth

def withRoots (growth : Growth) (roots : List Nat) : Growth := { growth with roots }

@[simp] theorem scope_with_roots (growth : Growth) (roots : List Nat) :
    (growth.withRoots roots).scope = growth.scope := rfl

@[simp] theorem scope_attach (growth : Growth) (node : Node) :
    (growth.attach node).scope = growth.scope := by
  rcases growth with ⟨_ | ⟨inner, outer⟩, finished, roots⟩ <;> rfl

@[simp] theorem scope_attach_all (growth : Growth) (nodes : Forest) :
    (growth.attachAll nodes).scope = growth.scope := by
  induction nodes generalizing growth with
  | nil => rfl
  | cons node nodes ih =>
      rw [attachAll, List.foldl_cons]
      exact (ih _).trans (scope_attach growth node)

theorem attach_all_append (growth : Growth) (front back : Forest) :
    growth.attachAll (front ++ back) = (growth.attachAll front).attachAll back :=
  List.foldl_append

theorem attach_with_roots (growth : Growth) (node : Node) (roots : List Nat) :
    (growth.withRoots roots).attach node = (growth.attach node).withRoots roots := by
  rcases growth with ⟨_ | ⟨inner, outer⟩, finished, starts⟩ <;> rfl

theorem attach_all_with_roots (growth : Growth) (nodes : Forest) (roots : List Nat) :
    (growth.withRoots roots).attachAll nodes = (growth.attachAll nodes).withRoots roots := by
  induction nodes generalizing growth with
  | nil => rfl
  | cons node nodes ih =>
      rw [attachAll, List.foldl_cons, attach_with_roots]
      exact ih _

theorem note_root_with_roots (growth : Growth) (start : Nat) :
    ∃ roots, growth.noteRoot start = growth.withRoots roots := by
  unfold noteRoot
  split
  · exact ⟨start :: growth.roots, rfl⟩
  · exact ⟨growth.roots, rfl⟩

theorem attach_all_inside (inner : OpenElement) (outer : List OpenElement) (finished nodes : Forest)
    (roots : List Nat) :
    attachAll ⟨inner :: outer, finished, roots⟩ nodes =
      ⟨{ inner with before := nodes.reverse ++ inner.before } :: outer, finished, roots⟩ := by
  induction nodes generalizing inner with
  | nil => rfl
  | cons node nodes ih =>
      rw [attachAll, List.foldl_cons, List.reverse_cons, List.append_assoc]
      exact ih _

theorem attach_all_outside (finished nodes : Forest) (roots : List Nat) :
    attachAll ⟨[], finished, roots⟩ nodes = ⟨[], nodes.reverse ++ finished, roots⟩ := by
  induction nodes generalizing finished with
  | nil => rfl
  | cons node nodes ih =>
      rw [attachAll, List.foldl_cons, List.reverse_cons, List.append_assoc]
      exact ih _

theorem run_append {growth grown : Growth} {front : List Lexeme} (back : List Lexeme)
    (ran : growth.run front = .ok grown) : growth.run (front ++ back) = grown.run back := by
  induction front generalizing growth with
  | nil =>
      cases ran
      rfl
  | cons lexeme front ih =>
      rw [List.cons_append, run]
      rw [run] at ran
      cases stepped : growth.step lexeme with
      | error fault =>
          rw [stepped] at ran
          cases ran
      | ok next =>
          rw [stepped] at ran
          exact ih ran

theorem run_cons {growth grown : Growth} {lexeme : Lexeme} (later : List Lexeme)
    (stepped : growth.step lexeme = .ok grown) :
    growth.run (lexeme :: later) = grown.run later := by
  rw [run, stepped]

/-- What every construct leaves true is true when all have been taken in. -/
theorem run_keeps {holds : Growth → Prop} {growth grown : Growth} {lexemes : List Lexeme}
    (step : ∀ lexeme ∈ lexemes, ∀ before after : Growth, holds before →
      before.step lexeme = .ok after → holds after)
    (start : holds growth) (ran : growth.run lexemes = .ok grown) : holds grown := by
  induction lexemes generalizing growth with
  | nil =>
      cases ran
      exact start
  | cons lexeme lexemes ih =>
      obtain ⟨first, others⟩ := List.forall_mem_cons.1 step
      rw [run] at ran
      split at ran
      · cases ran
      · rename_i next stepped
        exact ih others (first growth next start stepped) ran

end Growth

def Reads (scope : Scope) (text : List Char) (nodes : Forest) (rest : List Char) : Prop :=
  ∀ (size : Nat) (growth : Growth), growth.scope = scope → ∃ parts roots,
    lexemes size (text ++ rest) = (parts ++ (lexemes size rest).1, (lexemes size rest).2) ∧
      growth.run parts = .ok ((growth.attachAll nodes).withRoots roots)

theorem reads_nil (scope : Scope) (rest : List Char) : Reads scope [] [] rest := by
  intro size growth _
  exact ⟨[], growth.roots, rfl, rfl⟩

theorem reads_append {scope : Scope} {front back rest : List Char} {first second : Forest}
    (reads_front : Reads scope front first (back ++ rest))
    (reads_back : Reads scope back second rest) :
    Reads scope (front ++ back) (first ++ second) rest := by
  intro size growth inside
  rcases reads_front size growth inside with ⟨parts, roots, cut, ran⟩
  have same : ((growth.attachAll first).withRoots roots).scope = scope := by
    rw [Growth.scope_with_roots, Growth.scope_attach_all, inside]
  rcases reads_back size _ same with ⟨later, more, cut_later, ran_later⟩
  refine ⟨parts ++ later, more, ?_, ?_⟩
  · rw [List.append_assoc, cut, cut_later, List.append_assoc]
  · rw [Growth.run_append later ran, ran_later, Growth.attach_all_with_roots,
      Growth.attach_all_append]
    rfl

theorem reads_one {scope : Scope} {text rest : List Char} {construct : Construct} {node : Node}
    (begins : Begins (text ++ rest) construct rest)
    (becomes : ∀ growth start stop, Growth.scope growth = scope → ∃ roots,
      growth.step ⟨start, stop, construct⟩ = .ok ((growth.attach node).withRoots roots)) :
    Reads scope text [node] rest := by
  intro size growth inside
  rcases lexemes_of_begins size begins with ⟨start, stop, cut⟩
  rcases becomes growth start stop inside with ⟨roots, stepped⟩
  refine ⟨[⟨start, stop, construct⟩], roots, cut, ?_⟩
  rw [Growth.run_cons [] stepped]
  rfl

theorem reads_attached {text rest : List Char} {construct : Construct} {node : Node} (scope : Scope)
    (begins : Begins (text ++ rest) construct rest)
    (becomes : ∀ growth start stop,
      Growth.step growth ⟨start, stop, construct⟩ = .ok (growth.attach node)) :
    Reads scope text [node] rest := by
  apply reads_one begins
  intro growth start stop _
  exact ⟨(growth.attach node).roots, becomes growth start stop⟩

theorem reads_element {scope inner : Scope} {front body back rest content : List Char}
    {written : List Char} {element : Element} {children : Forest}
    (opens : Begins (front ++ (body ++ (back ++ rest))) (.opening content)
      (body ++ (back ++ rest)))
    (tag : readTag scope content = .ok ⟨written, element, inner, []⟩)
    (below : Reads inner body children (back ++ rest))
    (closes : Begins (back ++ rest) (.closing written) rest)
    (closing : closingName written = written) :
    Reads scope (front ++ (body ++ back)) [{ element with children }.toNode] rest := by
  intro size growth inside
  rcases lexemes_of_begins size opens with ⟨start, stop, cut_front⟩
  rcases lexemes_of_begins size closes with ⟨start_back, stop_back, cut_back⟩
  rcases growth.note_root_with_roots start with ⟨roots, noted⟩
  let opened : OpenElement := ⟨written, element, inner, []⟩
  have stepped : growth.step ⟨start, stop, .opening content⟩ =
      .ok ⟨opened :: growth.opened, growth.finished, roots⟩ := by
    simp only [Growth.step, inside, tag, noted]
    rfl
  rcases below size ⟨opened :: growth.opened, growth.finished, roots⟩ rfl with
    ⟨parts, more, cut, ran⟩
  rw [Growth.attach_all_inside, List.append_nil] at ran
  have closed : Growth.step (Growth.withRoots
      ⟨{ opened with before := children.reverse } :: growth.opened, growth.finished, roots⟩ more)
        ⟨start_back, stop_back, .closing written⟩ =
      .ok ((growth.attach { element with children }.toNode).withRoots more) := by
    simp only [Growth.step, Growth.close, Growth.withRoots, closing, opened, if_true,
      List.reverse_reverse]
    exact congrArg Except.ok (growth.attach_with_roots _ more)
  refine ⟨⟨start, stop, .opening content⟩ ::
    (parts ++ [⟨start_back, stop_back, .closing written⟩]), more, ?_, ?_⟩
  · have whole : front ++ (body ++ back) ++ rest = front ++ (body ++ (back ++ rest)) := by
      simp only [List.append_assoc]
    rw [whole, cut_front, cut, cut_back, List.cons_append, List.append_assoc]
    rfl
  · rw [Growth.run_cons _ stepped, Growth.run_append _ ran, Growth.run_cons [] closed]
    rfl

inductive Construct.StandsFor : Construct → Node → Prop
  | text {raw : List Char} {content : String} (resolved : readReferences raw = .ok content) :
      StandsFor (.text raw) (.text content)
  | comment (content : List Char) :
      StandsFor (.comment content) (.comment (String.ofList content))
  | cdata (content : List Char) : StandsFor (.cdata content) (.cdata (String.ofList content))
  | instruction (content : List Char) :
      StandsFor (.instruction content) (.instruction (String.ofList content))
  | declaration {content : List Char} {declaration : Declaration}
      (read : readDeclaration content = .ok declaration) :
      StandsFor (.declaration content) (.declaration declaration)
  | doctype (content : List Char) :
      StandsFor (.doctype content) (.doctype (String.ofList (Text.trimBlanks content)))

inductive Growth.Takes (growth : Growth) (start : Nat) : Construct → Growth → Prop
  | leaf {construct : Construct} {node : Node} (stands : construct.StandsFor node) :
      Takes growth start construct (growth.attach node)
  | opening {content : List Char} {inner : OpenElement}
      (read : readTag growth.scope content = .ok inner) :
      Takes growth start (.opening content)
        { growth.noteRoot start with opened := inner :: (growth.noteRoot start).opened }
  | selfClosing {content : List Char} {inner : OpenElement}
      (read : readTag growth.scope content = .ok inner) :
      Takes growth start (.selfClosing content)
        ((growth.noteRoot start).attach inner.element.toNode)
  | closing {content : List Char} {inner : OpenElement} {outer : List OpenElement}
      (opened : growth.opened = inner :: outer) (named : inner.written = closingName content) :
      Takes growth start (.closing content) ({ growth with opened := outer }.attach
        { inner.element with children := inner.before.reverse }.toNode)

theorem takes_of_step {growth grown : Growth} {lexeme : Lexeme}
    (stepped : growth.step lexeme = .ok grown) :
    growth.Takes lexeme.start lexeme.construct grown := by
  obtain ⟨start, stop, construct⟩ := lexeme
  unfold Growth.step at stepped
  cases construct with
  | text raw =>
      simp only [bind_eq_ok_iff] at stepped
      obtain ⟨content, resolved, same⟩ := stepped
      cases same
      exact .leaf (.text resolved)
  | opening content =>
      simp only [bind_eq_ok_iff] at stepped
      obtain ⟨inner, read, same⟩ := stepped
      cases same
      exact .opening read
  | selfClosing content =>
      simp only [bind_eq_ok_iff] at stepped
      obtain ⟨inner, read, same⟩ := stepped
      cases same
      exact .selfClosing read
  | closing content =>
      simp only [Growth.close] at stepped
      split at stepped
      · cases stepped
      · rename_i opened
        split at stepped
        · rename_i named
          cases stepped
          exact .closing opened named
        · cases stepped
  | comment content =>
      cases stepped
      exact .leaf (.comment content)
  | cdata content =>
      cases stepped
      exact .leaf (.cdata content)
  | instruction content =>
      cases stepped
      exact .leaf (.instruction content)
  | declaration content =>
      simp only [bind_eq_ok_iff] at stepped
      obtain ⟨declaration, read, same⟩ := stepped
      cases same
      exact .leaf (.declaration read)
  | doctype content =>
      cases stepped
      exact .leaf (.doctype content)

theorem finish_iff {growth grown : Growth} {size : Nat} {ending : Ending} :
    growth.finish size ending = .ok grown ↔
      ending = .finished ∧ growth.opened = [] ∧ growth = grown := by
  unfold Growth.finish
  cases ending with
  | broken offset fault => simp
  | finished => cases growth.opened <;> simp

/-- A text is read if all of it can be cut, each construct be taken in, and none is left open. -/
theorem grow_iff {text : List Char} {grown : Growth} : grow text = .ok grown ↔
    Growth.empty.run (lexemes (Text.size (withoutMark text)) (withoutMark text)).1 = .ok grown ∧
      (lexemes (Text.size (withoutMark text)) (withoutMark text)).2 = .finished ∧
        grown.opened = [] := by
  unfold grow
  dsimp only
  rw [map_error_eq_ok_iff, bind_eq_ok_iff]
  simp only [finish_iff]
  constructor
  · rintro ⟨last, ran, finished, closed, rfl⟩
    exact ⟨ran, finished, closed⟩
  · rintro ⟨ran, finished, closed⟩
    exact ⟨grown, ran, finished, closed, rfl⟩

theorem forest_read_iff {text : String} {nodes : Forest} : Forest.read text = .ok nodes ↔
    ∃ grown, grow text.toList = .ok grown ∧ grown.finished.reverse = nodes := by
  unfold Forest.read
  exact map_eq_ok_iff

end XmlTemplate.Markup
