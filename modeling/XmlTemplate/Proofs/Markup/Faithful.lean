import XmlTemplate.Proofs.Markup.Rereading
import XmlTemplate.Proofs.Markup.TagContents
import XmlTemplate.Proofs.Markup.Tokens
import XmlTemplate.Proofs.Markup.WellRead

/-!
Nodes come back from their markup only if they are readable. Where the text of a node says the node
again, its constructs were cut off where they were written to end, so that nothing in them ended
early. Nothing is assumed of the nodes; in particular they need not have been read before.
-/

namespace XmlTemplate.Markup

section
variable {text after rest : List Char} {construct : Construct} {scope : Scope} {c : Char}
  {name : Name} {attributes : Attributes} {more first later : List Token}

theorem cut_of_begins (begins : Begins ('<' :: text) construct after) :
    cutMarkup text = .ok (construct, after) := by
  obtain ⟨c, chars, same, cut⟩ := begins
  cases same
  rw [cutFirst, if_pos rfl] at cut
  exact cut

/-- What starts an element is cut as a start tag. -/
theorem cut_of_start (cut : cutMarkup text = .ok (construct, after))
    (tells : construct.Says scope first) (start : .start name attributes :: more = first ++ later) :
    MayOpen text ∧ cutTag openingOf text = .ok (construct, after) := by
  have starts : construct.isStart = true := by
    cases tells with
    | opening read | selfClosing read => rfl
    | leaf stands | closing content => cases start
  rcases cut_markup_cases cut with ⟨-, -, other⟩ | opens
  · rw [other] at starts
    cases starts
  · exact opens

/-- A tag that starts the element was cut off where it was written to end. -/
theorem cut_of_tag (shown : Text.isMarkupBlank c = false)
    (cut : cutTag openingOf (tagContent name attributes ++ c :: rest) = .ok (construct, after))
    (tells : construct.Says scope first) (start : .start name attributes :: more = first ++ later) :
    KeepsTagOpen (tagContent name attributes) ∧ ∃ inner,
      readTag scope (tagContent name attributes) = .ok inner ∧ inner.Spells name attributes ∧
      (c = '>' → (tagContent name attributes).getLast? ≠ some '/' ∧ rest = after ∧ later = more ∧
        construct = .opening (tagContent name attributes)) := by
  obtain ⟨content, split, keeps, rfl⟩ := cut_tag_inv cut
  unfold openingOf at tells ⊢
  by_cases slash : content.getLast? = some '/'
  · obtain ⟨front, rfl⟩ := List.getLast?_eq_some_iff.1 slash
    rw [if_pos slash, List.dropLast_concat] at tells
    cases tells with
    | leaf stands => cases stands
    | @selfClosing _ inner read =>
        obtain ⟨told, -⟩ := List.cons.inj start
        have spells := spells_iff.1 told.symm
        have within : front <+: tagContent name attributes ++ c :: rest := by
          rw [split, List.append_assoc]
          exact List.prefix_append _ _
        have whole := content_of_read_tag read spells shown within
        subst whole
        rw [List.append_assoc, List.append_cancel_left_eq] at split
        refine ⟨(keeps_tag_open_append_iff (by decide) (by decide) (by decide)).1 keeps, inner,
          read, spells, ?_⟩
        rintro rfl
        cases split
  · rw [if_neg slash] at tells ⊢
    cases tells with
    | leaf stands => cases stands
    | @opening _ inner read =>
        obtain ⟨told, others⟩ := List.cons.inj start
        have spells := spells_iff.1 told.symm
        have within : content <+: tagContent name attributes ++ c :: rest := by
          rw [split]
          exact List.prefix_append _ _
        have whole := content_of_read_tag read spells shown within
        subst whole
        rw [List.append_cancel_left_eq] at split
        refine ⟨keeps, inner, read, spells, fun _ => ⟨slash, ?_, others.symm, rfl⟩⟩
        exact (List.cons.inj split).2

end

section
variable {size : Nat} {growth : Growth} {around : Surroundings} {name : Name}
  {attributes : Attributes} {text rest : List Char} {more : List Token}

/-- A start tag that is read with its names and values can be read back. -/
theorem tag_of_yields {c : Char} (reflects : growth.scope.Reflects around)
    (shown : Text.isMarkupBlank c = false)
    (yields : Yields size growth ('<' :: (tagContent name attributes ++ c :: rest))
      (.start name attributes :: more)) :
    ReadableTag (attributes :: around) name attributes ∧
      KeepsTagOpen (tagContent name attributes) ∧
      MayOpen (tagContent name attributes ++ c :: rest) ∧
      (c = '>' → (tagContent name attributes).getLast? ≠ some '/' ∧
        ∃ next : Growth, next.opened.head?.map (·.written) = some name.written.toList ∧
          next.scope.Reflects (attributes :: around) ∧ Yields size next rest more) := by
  obtain ⟨construct, after, first, later, start, next, begins, tells, takes, said, further⟩ :=
    yields_first (List.cons_ne_nil _ _) yields
  obtain ⟨opens, cut⟩ := cut_of_start (cut_of_begins begins) tells said
  obtain ⟨keeps, inner, read, spells, ends⟩ := cut_of_tag shown cut tells said
  obtain ⟨readable, inside⟩ := readable_of_read_tag reflects read spells
  refine ⟨readable, keeps, opens, ?_⟩
  intro closed
  obtain ⟨unslashed, rfl, rfl, rfl⟩ := ends closed
  cases takes with
  | leaf stands => cases stands
  | opening again =>
      rw [read] at again
      cases again
      obtain ⟨raws, -, -, written, named, -⟩ := read_tag_iff.1 read
      have spelled : inner.element.name.written = name.written := congrArg (·.written) spells.named
      have same := written_of_split (read_element_name_iff.1 named).1
      rw [spelled] at same
      refine ⟨unslashed, _, ?_, ?_, further⟩
      · exact congrArg some same.symm
      · exact inside

/-- An end tag that closes the element ends where it was written to end. -/
theorem keeps_of_closed (opened : growth.opened.head?.map (·.written) = some name.written.toList)
    (yields : Yields size growth ((writeTagEnd name).toList ++ rest) (.closed :: more)) :
    KeepsTagOpen name.written.toList := by
  have text : (writeTagEnd name).toList ++ rest =
      '<' :: ('/' :: (name.written.toList ++ '>' :: rest)) := by simp [writeTagEnd]
  rw [text] at yields
  obtain ⟨construct, after, -, -, start, next, begins, -, takes, -⟩ :=
    yields_first (List.cons_ne_nil _ _) yields
  have cut : cutTag .closing (name.written.toList ++ '>' :: rest) = .ok (construct, after) :=
    cut_of_begins begins
  obtain ⟨content, -, keeps, rfl⟩ := cut_tag_inv cut
  cases takes with
  | leaf stands => cases stands
  | closing innermost named =>
      rw [innermost] at opened
      rw [← Option.some.inj opened]
      dsimp only
      rw [named]
      exact keeps_tag_open_closing_name keeps

/-- A leaf comes from one construct, which ended nowhere inside it. -/
theorem leaf_of_yields {node : Node} (yields : Yields size growth text (.leaf node :: more)) :
    ∃ construct after, Begins text construct after ∧ construct.WellCut ∧
      construct.StandsFor node := by
  have some_text : text ≠ [] := by
    rintro rfl
    obtain ⟨grown, ran, -, whole⟩ := yields
    rw [lexemes] at ran
    cases ran
    exact absurd whole (by simp)
  obtain ⟨construct, after, first, later, -, -, begins, tells, -, said, -⟩ :=
    yields_first some_text yields
  obtain ⟨c, chars, same, cut⟩ := begins
  refine ⟨construct, after, ⟨c, chars, same, cut⟩, (well_cut_first cut).1, ?_⟩
  cases tells with
  | leaf stands =>
      cases said
      exact stands
  | opening read | selfClosing read | closing content => cases said

theorem well_read_of_yields {node : Node} (around : Surroundings)
    (yields : Yields size growth text (.leaf node :: more)) : node.WellRead around := by
  obtain ⟨construct, after, -, well, stands⟩ := leaf_of_yields yields
  exact well_read_of_stands stands well

theorem doctype_of_yields {content : String}
    (yields : Yields size growth ((Node.write (.doctype content)).toList ++ rest)
      (.leaf (.doctype content) :: more)) : DoctypeContent content.toList := by
  have text : (Node.write (.doctype content)).toList ++ rest =
      '<' :: ("!DOCTYPE ".toList ++ (content.toList ++ '>' :: rest)) := by simp [Node.write]
  rw [text] at yields
  obtain ⟨construct, after, begins, well, stands⟩ := leaf_of_yields yields
  cases stands with
  | doctype raw =>
      rw [String.toList_ofList]
      refine ⟨?_, trim_blanks_idem raw, ?_⟩
      · intro empty
        have cut := cut_of_begins begins
        rw [String.toList_ofList, empty] at cut
        have refused : cutMarkup ("!DOCTYPE ".toList ++ ([] ++ '>' :: rest)) =
            .error (.namelessDoctype, rest) := rfl
        exact absurd (refused.symm.trans cut) nofun
      · rw [balanced_trim]
        exact well

theorem declaration_of_yields {content : Declaration}
    (yields : Yields size growth (content.write.toList ++ rest)
      (.leaf (.declaration content) :: more)) : content.Serializable := by
  have text : content.write.toList ++ rest = '<' :: ('?' ::
      ("xml".toList ++ content.pairs.flatMap writePair ++ ("?>".toList ++ rest))) := by
    rw [declaration_write_to_list]
    simp
  rw [text] at yields
  obtain ⟨construct, after, begins, well, stands⟩ := leaf_of_yields yields
  cases stands with
  | declaration read =>
      have unended : ∀ value ∈ content.values, ¬ "?>".toList <:+: value.toList :=
        fun value member inside => well (inside.trans (values_of_declaration read value member))
      have begun := declaration_begins rest unended
      rw [text] at begun
      obtain ⟨same, -⟩ := begins_unique begins begun
      cases same
      exact serializable_iff_values.2 fun value member =>
        ⟨unquoted_of_read_declaration read value member, unended value member⟩

end

theorem Growth.written_attach_all (growth : Growth) (nodes : Forest) :
    (growth.attachAll nodes).opened.head?.map (·.written) =
      growth.opened.head?.map (·.written) := by
  rcases growth with ⟨_ | ⟨inner, outer⟩, finished, roots⟩
  · rw [Growth.attach_all_outside]
  · rw [Growth.attach_all_inside]
    rfl

/-- Neither tidying nor what comes back changes what the markup says. -/
theorem Node.tokens_reread_tidy (around : Surroundings) (node : Node) :
    (node.reread around).tidy.tokens = node.tidy.tokens := by
  rw [← Node.tokens_unresolved, Node.unresolved_tidy, Node.unresolved_reread,
    ← Node.unresolved_tidy, Node.tokens_unresolved]

theorem Forest.tokens_reread_tidy (around : Surroundings) (nodes : Forest) :
    Forest.tokens (Forest.reread around nodes).tidy = Forest.tokens nodes.tidy := by
  rw [← Forest.tokens_unresolved, Forest.unresolved_tidy, Forest.unresolved_reread,
    ← Forest.unresolved_tidy, Forest.tokens_unresolved]

theorem readable_of_yields_empty {size : Nat} {growth : Growth} {around : Surroundings}
    {name : Name} {attributes : Attributes} {rest : List Char} {more : List Token}
    (reflects : growth.scope.Reflects around)
    (yields : Yields size growth ((Node.write (.element name attributes [])).toList ++ rest)
      (.start name attributes :: more)) : Node.Readable around (.element name attributes []) := by
  have text : (Node.write (.element name attributes [])).toList ++ rest =
      '<' :: (tagContent name attributes ++ '/' :: '>' :: rest) := by
    simp [Node.write, write_tag_start_to_list]
  rw [text] at yields
  obtain ⟨readable, keeps, opens, -⟩ := tag_of_yields reflects (by decide) yields
  have some_content : tagContent name attributes ≠ [] := by
    -- Without a name and attributes this would be an end tag.
    intro empty
    rw [empty] at opens
    exact (opens '/' rfl).1 rfl
  exact ⟨readable, ⟨keeps, may_open_of_append opens, fun _ => some_content, nofun, nofun⟩, trivial⟩

mutual
/-- Where the text of a node says the node again, it can be read back. -/
theorem Node.readable_of_yields {size : Nat} {growth : Growth} {around : Surroundings} :
    (node : Node) → (∀ content, node ≠ .text content) → growth.scope.Reflects around →
      (rest : List Char) → (more : List Token) →
        Yields size growth (node.write.toList ++ rest) (node.tidy.tokens ++ more) →
          node.Readable around
  | .element name attributes [], _, reflects, rest, more, yields =>
      readable_of_yields_empty reflects yields
  | .element name attributes (child :: later), _, reflects, rest, more, yields => by
      let body := (Forest.write (child :: later)).toList ++ ((writeTagEnd name).toList ++ rest)
      have text : (Node.write (.element name attributes (child :: later))).toList ++ rest =
          '<' :: (tagContent name attributes ++ '>' :: body) := by
        simp [Node.write, Forest.write, write_tag_start_to_list, body]
      have tokens : Node.tokens (Node.tidy (.element name attributes (child :: later))) ++ more =
          .start name attributes ::
            (Forest.tokens (Forest.tidy (child :: later)) ++ (.closed :: more)) := by
        simp [Node.tidy, Node.tokens]
      rw [text, tokens] at yields
      obtain ⟨readable, keeps, opens, inside⟩ := tag_of_yields reflects (by decide) yields
      obtain ⟨unslashed, next, opened, reflected, further⟩ := inside rfl
      have ends : ∀ c ∈ ((writeTagEnd name).toList ++ rest).head?, c = '<' := by
        simp [writeTagEnd]
      have children : Forest.Readable (attributes :: around) (child :: later) := by
        apply Forest.readable_of_yields (child :: later) reflected "" _ ends (.closed :: more)
        rw [Forest.prepend_text_empty]
        exact further
      have closes : KeepsTagOpen name.written.toList := by
        have reads := Forest.reads_write (child :: later) children reflected "" _ ends
        rw [Forest.prepend_text_empty] at reads
        obtain ⟨roots, remaining, said, closing⟩ := yields_after reads further
        rw [Forest.tokens_reread_tidy, List.append_cancel_left_eq] at said
        rw [← said] at closing
        refine keeps_of_closed ?_ closing
        exact (next.written_attach_all _).trans opened
      exact ⟨readable,
        ⟨keeps, may_open_of_append opens, nofun, fun _ => unslashed, fun _ => closes⟩, children⟩
  | .text content, markup, _, _, _, _ => absurd rfl (markup content)
  | .cdata content, _, _, _, _, yields | .comment content, _, _, _, _, yields
  | .instruction content, _, _, _, _, yields => well_read_of_yields around yields
  | .doctype content, _, _, rest, more, yields => doctype_of_yields yields
  | .declaration content, _, _, rest, more, yields => declaration_of_yields yields

theorem Forest.readable_of_yields {size : Nat} {growth : Growth} {around : Surroundings}
    (nodes : Forest) (reflects : growth.scope.Reflects around) (pending : String) (rest : List Char)
    (ends : ∀ c ∈ rest.head?, c = '<') (more : List Token)
    (yields : Yields size growth
      ((Reference.escapeText pending).toList ++ (Forest.write nodes).toList ++ rest)
      (Forest.tokens (nodes.tidy.prependText pending) ++ more)) : Forest.Readable around nodes := by
  match nodes, yields with
  | [], _ => trivial
  | node :: later, yields =>
      by_cases text : ∃ content, node = .text content
      · obtain ⟨content, rfl⟩ := text
        have tidied :
            Forest.tidy (.text content :: later) = (Forest.tidy later).prependText content := rfl
        rw [Forest.write, Node.write, String.toList_append, tidied, ← Forest.prepend_text_append,
          ← List.append_assoc (Reference.escapeText pending).toList, ← String.toList_append,
          ← Reference.escape_text_append] at yields
        exact ⟨trivial, Forest.readable_of_yields later reflects _ rest ends more yields⟩
      · have markup : ∀ content, node ≠ .text content := fun content same => text ⟨content, same⟩
        have other := node.tidy_markup markup
        -- The pending text ends here, so it was read before the node.
        have begins := node.write_begins markup ((Forest.write later).toList ++ rest)
        have before := reads_text growth.scope pending begins
        rw [Forest.write, String.toList_append, List.append_assoc, List.append_assoc, Forest.tidy,
          Forest.prepend_markup _ other, Forest.prepend_text_before pending _ other, tokens_append,
          Forest.tokens, List.append_assoc] at yields
        obtain ⟨roots, remaining, said, here⟩ := yields_after before yields
        rw [List.append_cancel_left_eq] at said
        rw [← said, List.append_assoc] at here
        have still : ((growth.attachAll (Forest.prependText pending [])).withRoots roots).scope =
            growth.scope := by simp
        rw [← still] at reflects
        have readable := Node.readable_of_yields node markup reflects _ _ here
        obtain ⟨roots', onward, told, further⟩ :=
          yields_after (Node.reads_write node markup readable reflects _) here
        rw [Forest.tokens, Forest.tokens, List.append_nil, Node.tokens_reread_tidy,
          List.append_cancel_left_eq] at told
        rw [← told, ← List.nil_append (Forest.write later).toList] at further
        rw [← Forest.prepend_text_empty (Forest.tidy later)] at further
        refine ⟨readable, Forest.readable_of_yields later ?_ "" rest ends more further⟩
        rw [Growth.scope_with_roots, Growth.scope_attach_all]
        exact reflects
end

theorem yields_of_read {text : String} {nodes : Forest} (read : Forest.read text = .ok nodes) :
    Yields (Text.size (withoutMark text.toList)) Growth.empty (withoutMark text.toList)
      (Forest.tokens nodes) := by
  obtain ⟨grown, grew, rfl⟩ := forest_read_iff.1 read
  obtain ⟨ran, finished, closed⟩ := grow_iff.1 grew
  refine ⟨grown, ran, finished, ?_⟩
  rw [Growth.tokens, closed]
  rfl

theorem markup_of_yields {size : Nat} {growth : Growth} {text : List Char} {said : List Token}
    (markup : ∀ c ∈ text.head?, c = '<') (yields : Yields size growth text said) :
    ∀ content, said.head? ≠ some (.leaf (.text content)) := by
  intro content first
  obtain ⟨more, rfl⟩ := List.head?_eq_some_iff.1 first
  obtain ⟨construct, after, ⟨c, chars, rfl, cut⟩, -, stands⟩ := leaf_of_yields yields
  cases markup c rfl
  have other := (well_cut_markup (cut_of_begins ⟨_, _, rfl, cut⟩)).2
  cases stands with
  | text resolved => cases other

/-- The text that is read first ends where it was written to end. -/
theorem text_of_yields {size : Nat} {growth : Growth} {content written : String} {rest : List Char}
    {more : List Token} (begins : ∀ c ∈ rest.head?, c = '<')
    (yields : Yields size growth ((Reference.escapeText written).toList ++ rest)
      (.leaf (.text content) :: more)) : content = written := by
  obtain ⟨roots, remaining, said, further⟩ :=
    yields_after (reads_text growth.scope written begins) yields
  by_cases empty : written = ""
  · rw [empty, Forest.prepend_text_empty] at said
    refine absurd ?_ (markup_of_yields begins further content)
    exact (congrArg List.head? said).symm
  · have alone : Forest.prependText written [] = [.text written] := if_neg empty
    rw [alone] at said
    simpa [Forest.tokens, Node.tokens] using congrArg List.head? said

theorem head_of_escaped {c : Char} {chars : List Char}
    (marked : (Reference.escapedInText c ++ chars).head? = some '\ufeff') :
    Reference.escapedInText c = [c] ∧ c = '\ufeff' := by
  unfold Reference.escapedInText at marked ⊢
  split_ifs at marked ⊢ with ampersand left right
  · exact absurd (Option.some.inj marked) (by decide)
  · exact absurd (Option.some.inj marked) (by decide)
  · exact absurd (Option.some.inj marked) (by decide)
  · exact ⟨rfl, Option.some.inj marked⟩

/-- Texts in front are written as one, and markup or nothing follows. -/
theorem leading_text (nodes : Forest) : ∃ content later,
    Forest.tidy nodes = (Forest.tidy later).prependText content ∧
      (Forest.write nodes).toList =
        (Reference.escapeText content).toList ++ (Forest.write later).toList ∧
      (∀ c ∈ (Forest.write later).toList.head?, c = '<') ∧
      ∀ other rest, Forest.tidy later ≠ .text other :: rest := by
  induction nodes with
  | nil =>
      refine ⟨"", [], (Forest.prepend_text_empty _).symm, rfl, nofun, nofun⟩
  | cons node nodes ih =>
      by_cases text : ∃ content, node = .text content
      · obtain ⟨front, rfl⟩ := text
        obtain ⟨content, later, tidied, written, begins, other⟩ := ih
        refine ⟨front ++ content, later, ?_, ?_, begins, other⟩
        · rw [Forest.prepend_text_append, ← tidied]
          rfl
        · rw [Forest.write, Node.write, String.toList_append, written, Reference.escape_text_append,
            String.toList_append, List.append_assoc]
      · have markup : ∀ content, node ≠ .text content := fun content same => text ⟨content, same⟩
        have tidied := node.tidy_markup markup
        refine ⟨"", node :: nodes, (Forest.prepend_text_empty _).symm, rfl, ?_, ?_⟩
        · rw [Forest.write, String.toList_append]
          exact node.write_begins markup _
        · rw [Forest.tidy, Forest.prepend_markup _ tidied]
          rintro other rest same
          exact tidied other (List.cons.inj same).1

/-- A byte order mark that is written as text is lost. -/
theorem unmarked_of_read {nodes parsed : Forest}
    (read : Forest.read (Forest.write nodes) = .ok parsed)
    (same : parsed.unresolved = nodes.tidy.unresolved) :
    (Forest.write nodes).toList.head? ≠ some '\ufeff' := by
  intro marked
  have yields := yields_of_read read
  rw [← Forest.tokens_unresolved, same, Forest.tokens_unresolved] at yields
  obtain ⟨content, later, tidied, written, begins, other⟩ := leading_text nodes
  rw [written] at marked
  cases split : content.toList with
  | nil =>
      have nothing : (Reference.escapeText content).toList = [] := by
        simp [Reference.escapeText, split]
      rw [nothing, List.nil_append] at marked
      exact absurd (begins _ marked) (by decide)
  | cons c chars =>
      let short := String.ofList chars
      have escaped : (Reference.escapeText content).toList =
          Reference.escapedInText c ++ (Reference.escapeText short).toList := by
        simp [Reference.escapeText, split, short]
      rw [escaped, List.append_assoc] at marked
      obtain ⟨single, rfl⟩ := head_of_escaped marked
      have some_content : content ≠ "" := by
        rintro rfl
        cases split
      have first : Forest.tokens nodes.tidy =
          .leaf (.text content) :: Forest.tokens (Forest.tidy later) := by
        rw [tidied, Forest.prepend_text_alone content other, if_neg some_content]
        rfl
      have unmarked : withoutMark (Forest.write nodes).toList =
          (Reference.escapeText short).toList ++ (Forest.write later).toList := by
        rw [written, escaped, single]
        rfl
      rw [first, unmarked] at yields
      rw [text_of_yields begins yields, String.toList_ofList] at split
      exact absurd (congrArg List.length split) (by simp)

/-- Nodes come back from their markup, tidied and in whatever namespaces, if and only if they are
readable and their markup does not begin with a byte order mark. -/
theorem read_write_iff (nodes : Forest) :
    (∃ parsed, Forest.read (Forest.write nodes) = .ok parsed ∧
      parsed.unresolved = nodes.tidy.unresolved) ↔
        Forest.Readable [] nodes ∧ (Forest.write nodes).toList.head? ≠ some '\ufeff' := by
  constructor
  · rintro ⟨parsed, read, same⟩
    have unmarked := unmarked_of_read read same
    have yields := yields_of_read read
    rw [← Forest.tokens_unresolved, same, Forest.tokens_unresolved,
      without_mark_of_unmarked unmarked] at yields
    refine ⟨?_, unmarked⟩
    have reflects : Growth.empty.scope.Reflects [] := outermost_answers
    apply Forest.readable_of_yields nodes reflects "" [] nofun []
    rw [Forest.prepend_text_empty, List.append_nil, List.append_nil]
    exact yields
  · rintro ⟨readable, unmarked⟩
    refine ⟨_, read_write_of_readable readable unmarked, ?_⟩
    rw [Forest.unresolved_tidy, Forest.unresolved_reread, Forest.unresolved_tidy]

end XmlTemplate.Markup
