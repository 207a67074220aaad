import XmlTemplate.Proofs.Markup.Growing
import XmlTemplate.Proofs.Markup.StartTags

/-!
Trees as sequences of tokens. A tree in the making grows at its end only: each construct adds the
tokens that it stands for. So a tree determines what its constructs said, one after another, even
where it leaves open in which of several ways they were written.
-/

namespace XmlTemplate.Markup

/-- What a tag or a leaf contributes to a tree, apart from namespaces. -/
inductive Token
  | opened (name : Name) (attributes : Attributes)
  | closed
  | leaf (node : Node)

def Token.start (name : Name) (attributes : Attributes) : Token :=
  .opened name.unresolved (attributes.map Attribute.unresolved)

theorem spells_iff {inner : OpenElement} {name : Name} {attributes : Attributes} :
    Token.start inner.element.name inner.element.attributes = .start name attributes ↔
      inner.Spells name attributes := by
  rw [Token.start, Token.start, Token.opened.injEq]
  exact ⟨fun ⟨named, same⟩ => ⟨named, same⟩, fun ⟨named, same⟩ => ⟨named, same⟩⟩

mutual
def Node.tokens : Node → List Token
  | .element name attributes children =>
      .start name attributes :: (Forest.tokens children ++ [.closed])
  | node => [.leaf node]

def Forest.tokens : Forest → List Token
  | [] => []
  | node :: rest => Node.tokens node ++ Forest.tokens rest
end

theorem tokens_append (front back : Forest) :
    Forest.tokens (front ++ back) = Forest.tokens front ++ Forest.tokens back := by
  induction front with
  | nil => rfl
  | cons node front ih => simp only [List.cons_append, Forest.tokens, ih, List.append_assoc]

mutual
theorem Node.tokens_unresolved : (node : Node) → node.unresolved.tokens = node.tokens
  | .element name attributes children => by
      have each : (attributes.map Attribute.unresolved).map Attribute.unresolved =
          attributes.map Attribute.unresolved := by
        rw [List.map_map]
        rfl
      rw [Node.unresolved, Node.tokens, Node.tokens, Forest.tokens_unresolved children, Token.start,
        each]
      rfl
  | .text _ | .cdata _ | .comment _ | .instruction _ | .doctype _ | .declaration _ => rfl

theorem Forest.tokens_unresolved :
    (nodes : Forest) → Forest.tokens nodes.unresolved = Forest.tokens nodes
  | [] => rfl
  | node :: rest => by
      rw [Forest.unresolved, Forest.tokens, Forest.tokens, Node.tokens_unresolved node,
        Forest.tokens_unresolved rest]
end

theorem tokens_concat (nodes : Forest) (node : Node) :
    Forest.tokens (nodes ++ [node]) = Forest.tokens nodes ++ node.tokens := by
  rw [tokens_append, Forest.tokens, Forest.tokens, List.append_nil]

inductive Construct.Says (scope : Scope) : Construct → List Token → Prop
  | leaf {construct : Construct} {node : Node} (stands : construct.StandsFor node) :
      Says scope construct [.leaf node]
  | opening {content : List Char} {inner : OpenElement}
      (read : readTag scope content = .ok inner) :
      Says scope (.opening content) [.start inner.element.name inner.element.attributes]
  | selfClosing {content : List Char} {inner : OpenElement}
      (read : readTag scope content = .ok inner) :
      Says scope (.selfClosing content)
        [.start inner.element.name inner.element.attributes, .closed]
  | closing (content : List Char) : Says scope (.closing content) [.closed]

theorem tokens_of_stands {construct : Construct} {node : Node}
    (stands : construct.StandsFor node) : node.tokens = [.leaf node] := by
  cases stands <;> rfl

namespace Growth

def tokensOf (finished : Forest) : List OpenElement → List Token
  | [] => Forest.tokens finished.reverse
  | inner :: outer =>
      tokensOf finished outer ++
        .start inner.element.name inner.element.attributes :: Forest.tokens inner.before.reverse

def tokens (growth : Growth) : List Token := tokensOf growth.finished growth.opened

theorem tokens_attach (growth : Growth) (node : Node) :
    (growth.attach node).tokens = growth.tokens ++ node.tokens := by
  rcases growth with ⟨_ | ⟨inner, outer⟩, finished, roots⟩
  · simp only [attach, tokens, tokensOf, List.reverse_cons, tokens_concat]
  · simp only [attach, tokens, tokensOf, List.reverse_cons, tokens_concat, List.append_assoc,
      List.cons_append]

theorem tokens_attach_all (growth : Growth) (nodes : Forest) :
    (growth.attachAll nodes).tokens = growth.tokens ++ Forest.tokens nodes := by
  induction nodes generalizing growth with
  | nil => rw [Forest.tokens, List.append_nil]; rfl
  | cons node nodes ih =>
      rw [attachAll, List.foldl_cons]
      change ((growth.attach node).attachAll nodes).tokens = _
      rw [ih, tokens_attach, Forest.tokens, List.append_assoc]

theorem tokens_with_roots (growth : Growth) (roots : List Nat) :
    (growth.withRoots roots).tokens = growth.tokens := rfl

variable {growth grown : Growth}

theorem tokens_open {content : List Char} {inner : OpenElement} (start : Nat)
    (read : readTag growth.scope content = .ok inner) :
    tokens { growth.noteRoot start with opened := inner :: (growth.noteRoot start).opened } =
      growth.tokens ++ [.start inner.element.name inner.element.attributes] := by
  obtain ⟨raws, from_content⟩ := read_tag_iff.1 read
  obtain ⟨roots, noted⟩ := growth.note_root_with_roots start
  rw [noted]
  change tokensOf growth.finished growth.opened ++ _ :: Forest.tokens inner.before.reverse = _
  rw [from_content.first]
  rfl

/-- One construct adds what it says. -/
theorem tokens_step {lexeme : Lexeme} (stepped : growth.step lexeme = .ok grown) :
    ∃ said, lexeme.construct.Says growth.scope said ∧ grown.tokens = growth.tokens ++ said := by
  obtain ⟨start, stop, construct⟩ := lexeme
  cases takes_of_step stepped with
  | leaf stands =>
      refine ⟨_, .leaf stands, ?_⟩
      rw [tokens_attach, tokens_of_stands stands]
  | opening read => exact ⟨_, .opening read, tokens_open start read⟩
  | selfClosing read =>
      obtain ⟨raws, from_content⟩ := read_tag_iff.1 read
      obtain ⟨roots, noted⟩ := growth.note_root_with_roots start
      refine ⟨_, .selfClosing read, ?_⟩
      rw [noted, tokens_attach, tokens_with_roots, Element.toNode, from_content.childless]
      rfl
  | @closing content inner outer opened named =>
      refine ⟨_, .closing content, ?_⟩
      rcases growth with ⟨_, finished, roots⟩
      cases opened
      rw [tokens_attach]
      change tokensOf finished outer ++ (_ :: (Forest.tokens inner.before.reverse ++ [.closed])) =
        (tokensOf finished outer ++ _ :: Forest.tokens inner.before.reverse) ++ [.closed]
      rw [List.append_assoc, List.cons_append]

/-- A run only adds to what has been read. -/
theorem tokens_run {lexemes : List Lexeme} (ran : growth.run lexemes = .ok grown) :
    ∃ said, grown.tokens = growth.tokens ++ said := by
  induction lexemes generalizing growth with
  | nil =>
      cases ran
      exact ⟨[], (List.append_nil _).symm⟩
  | cons lexeme lexemes ih =>
      rw [run] at ran
      split at ran
      · cases ran
      · rename_i next stepped
        obtain ⟨first, -, added⟩ := tokens_step stepped
        obtain ⟨later, rest⟩ := ih ran
        refine ⟨first ++ later, ?_⟩
        rw [rest, added, List.append_assoc]

end Growth

/-- The text is cut to its end, and its constructs say the tokens. -/
def Yields (size : Nat) (growth : Growth) (text : List Char) (said : List Token) : Prop :=
  ∃ grown, growth.run (lexemes size text).1 = .ok grown ∧
    (lexemes size text).2 = .finished ∧ grown.tokens = growth.tokens ++ said

section
variable {size : Nat} {growth : Growth} {text rest : List Char} {said : List Token}

theorem begins_of_finished (some_text : text ≠ []) (finished : (lexemes size text).2 = .finished) :
    ∃ construct after, Begins text construct after := by
  obtain ⟨c, chars, rfl⟩ := List.exists_cons_of_ne_nil some_text
  rw [lexemes] at finished
  split at finished
  · cases finished
  · rename_i construct after cut
    exact ⟨construct, after, c, chars, rfl, cut⟩

/-- What a text says begins with what its first construct says. -/
theorem yields_first (some_text : text ≠ []) (yields : Yields size growth text said) :
    ∃ construct after first later start next, Begins text construct after ∧
      construct.Says growth.scope first ∧ growth.Takes start construct next ∧
        said = first ++ later ∧ Yields size next after later := by
  obtain ⟨grown, ran, finished, whole⟩ := yields
  obtain ⟨construct, after, begins⟩ := begins_of_finished some_text finished
  obtain ⟨start, stop, cut⟩ := lexemes_of_begins size begins
  rw [cut] at ran finished
  rw [Growth.run] at ran
  split at ran
  · cases ran
  · rename_i next stepped
    obtain ⟨first, tells, added⟩ := Growth.tokens_step stepped
    obtain ⟨later, rest⟩ := Growth.tokens_run ran
    refine ⟨construct, after, first, later, start, next, begins, tells, takes_of_step stepped, ?_,
      grown, ran, finished, rest⟩
    rw [rest, added, List.append_assoc, List.append_cancel_left_eq] at whole
    exact whole.symm

/-- A stretch that is read as nodes says their tokens. -/
theorem yields_after {nodes : Forest} (reads : Reads growth.scope text nodes rest)
    (yields : Yields size growth (text ++ rest) said) :
    ∃ roots later, said = Forest.tokens nodes ++ later ∧
      Yields size ((growth.attachAll nodes).withRoots roots) rest later := by
  obtain ⟨grown, ran, finished, whole⟩ := yields
  obtain ⟨parts, roots, cut, attached⟩ := reads size growth rfl
  rw [cut] at ran finished
  rw [Growth.run_append _ attached] at ran
  obtain ⟨later, added⟩ := Growth.tokens_run ran
  refine ⟨roots, later, ?_, grown, ran, finished, added⟩
  · rw [added, Growth.tokens_with_roots, Growth.tokens_attach_all, List.append_assoc,
      List.append_cancel_left_eq] at whole
    exact whole.symm

end

/-- A text begins with one construct only. -/
theorem begins_unique {text after other_after : List Char} {construct other : Construct}
    (begins : Begins text construct after) (begins_other : Begins text other other_after) :
    construct = other ∧ after = other_after := by
  obtain ⟨c, chars, rfl, cut⟩ := begins
  obtain ⟨d, others, same, cut_other⟩ := begins_other
  cases same
  rw [cut] at cut_other
  exact Prod.mk.inj (Except.ok.inj cut_other)

end XmlTemplate.Markup
