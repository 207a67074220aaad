import XmlTemplate.Proofs.Markup.Growing
import XmlTemplate.Proofs.Markup.Readable

/-!
Reading undoes writing. The induction is on nodes and siblings together. Text has no end of its own,
so siblings are read after text that is still pending: more text is added to it, and markup or the
end of the siblings makes it a node.
-/

namespace XmlTemplate.Markup

namespace Forest

variable {nodes : Forest}

theorem prepend_text_alone (content : String) (other : ∀ later rest, nodes ≠ .text later :: rest) :
    nodes.prependText content = if content = "" then nodes else .text content :: nodes := by
  rw [prependText]
  exact fun later rest => other later rest

@[simp] theorem prepend_text_empty (nodes : Forest) : nodes.prependText "" = nodes := by
  by_cases text : ∃ later rest, nodes = .text later :: rest
  · rcases text with ⟨later, rest, rfl⟩
    rw [prependText, String.empty_append]
  · rw [prepend_text_alone "" fun later rest same => text ⟨later, rest, same⟩, if_pos rfl]

theorem prepend_text_append (front back : String) (nodes : Forest) :
    nodes.prependText (front ++ back) = (nodes.prependText back).prependText front := by
  by_cases text : ∃ later rest, nodes = .text later :: rest
  · rcases text with ⟨later, rest, rfl⟩
    simp only [prependText, String.append_assoc]
  · have other : ∀ later rest, nodes ≠ .text later :: rest := fun later rest same =>
      text ⟨later, rest, same⟩
    by_cases empty : back = ""
    · rw [prepend_text_alone back other, if_pos empty, empty, String.append_empty]
    · have more : front ++ back ≠ "" := by
        simp [empty]
      rw [prepend_text_alone back other, if_neg empty, prepend_text_alone _ other, if_neg more]
      rfl

theorem prepend_text_before {node : Node} (content : String) (rest : Forest)
    (markup : ∀ later, node ≠ .text later) :
    prependText content (node :: rest) = prependText content [] ++ node :: rest := by
  rw [prepend_text_alone content (fun later more same => markup later (List.cons.inj same).1)]
  simp only [prependText]
  split <;> rfl

theorem prepend_markup {node : Node} (rest : Forest) (markup : ∀ later, node ≠ .text later) :
    prepend node rest = node :: rest := by
  rw [prepend]
  exact fun later => markup later

/-- Whatever is changed in the nodes that are no text can be changed before as well as after. -/
theorem prepend_text_changed {change : Forest → Forest} (content : String)
    (text : ∀ content rest, change (.text content :: rest) = .text content :: change rest)
    (other : (∀ later rest, nodes ≠ .text later :: rest) →
      ∀ later rest, change nodes ≠ .text later :: rest) :
    change (nodes.prependText content) = (change nodes).prependText content := by
  by_cases begins : ∃ later rest, nodes = .text later :: rest
  · rcases begins with ⟨later, rest, rfl⟩
    rw [text, prependText, prependText, text]
  · have markup : ∀ later rest, nodes ≠ .text later :: rest := fun later rest same =>
      begins ⟨later, rest, same⟩
    rw [prepend_text_alone content markup, prepend_text_alone content (other markup)]
    split
    · rfl
    · exact text content nodes

theorem unresolved_prepend (node : Node) (nodes : Forest) :
    (prepend node nodes).unresolved = prepend node.unresolved nodes.unresolved := by
  cases node with
  | text content =>
      apply prepend_text_changed content fun _ _ => rfl
      intro other later rest same
      rcases nodes with _ | ⟨_ | _ | _ | _ | _ | _ | _, more⟩ <;> cases same
      exact other _ _ rfl
  | element | cdata | comment | instruction | doctype | declaration => rfl

theorem reread_prepend (around : Surroundings) (node : Node) (nodes : Forest) :
    (prepend node nodes).reread around = prepend (node.reread around) (nodes.reread around) := by
  cases node with
  | text content =>
      apply prepend_text_changed content fun _ _ => rfl
      intro other later rest same
      rcases nodes with _ | ⟨_ | _ | _ | _ | _ | _ | _, more⟩ <;> cases same
      exact other _ _ rfl
  | element | cdata | comment | instruction | doctype | declaration => rfl

end Forest

mutual
theorem Node.unresolved_tidy : (node : Node) → node.tidy.unresolved = node.unresolved.tidy
  | .element name attributes children => by
      simp only [Node.tidy, Node.unresolved, Forest.unresolved_tidy children]
  | .text _ | .cdata _ | .comment _ | .instruction _ | .doctype _ | .declaration _ => rfl

theorem Forest.unresolved_tidy : (nodes : Forest) → nodes.tidy.unresolved = nodes.unresolved.tidy
  | [] => rfl
  | node :: rest => by
      simp only [Forest.tidy, Forest.unresolved, Forest.unresolved_prepend,
        Node.unresolved_tidy node, Forest.unresolved_tidy rest]
end

mutual
theorem Node.tidy_reread (around : Surroundings) :
    (node : Node) → (node.reread around).tidy = node.tidy.reread around
  | .element name attributes children => by
      simp only [Node.reread, Node.tidy, Forest.tidy_reread _ children]
  | .text _ | .cdata _ | .comment _ | .instruction _ | .doctype _ | .declaration _ => rfl

theorem Forest.tidy_reread (around : Surroundings) :
    (nodes : Forest) → (Forest.reread around nodes).tidy = Forest.reread around (Forest.tidy nodes)
  | [] => rfl
  | node :: rest => by
      simp only [Forest.reread, Forest.tidy, Forest.reread_prepend, Node.tidy_reread around node,
        Forest.tidy_reread around rest]
end

theorem Node.tidy_markup {node : Node} (markup : ∀ content, node ≠ .text content) :
    ∀ content, node.tidy ≠ .text content := by
  intro content
  cases node with
  | text other => exact absurd rfl (markup other)
  | element | cdata | comment | instruction | doctype | declaration =>
      intro same
      cases same

theorem Node.tidy_reread_markup {node : Node} (around : Surroundings)
    (markup : ∀ content, node ≠ .text content) :
    ∀ content, (node.reread around).tidy ≠ .text content := by
  apply Node.tidy_markup
  intro content
  cases node with
  | text other => exact absurd rfl (markup other)
  | element | cdata | comment | instruction | doctype | declaration =>
      intro same
      cases same

theorem Node.write_begins {node : Node} (markup : ∀ content, node ≠ .text content)
    (rest : List Char) : ∀ c ∈ (node.write.toList ++ rest).head?, c = '<' := by
  cases node with
  | text content => exact absurd rfl (markup content)
  | element name attributes children =>
      cases children <;> simp [Node.write, writeTagStart]
  | declaration content =>
      rw [Node.write, declaration_write_to_list]
      simp
  | cdata | comment | instruction | doctype => simp [Node.write]

variable {scope : Scope} {around : Surroundings}

theorem reads_text (scope : Scope) (content : String) {rest : List Char}
    (ends : ∀ c ∈ rest.head?, c = '<') :
    Reads scope (Reference.escapeText content).toList (Forest.prependText content []) rest := by
  by_cases empty : content = ""
  · subst empty
    exact reads_nil scope rest
  · have node : Forest.prependText content [] = [.text content] := by
      simp [Forest.prependText, empty]
    have some_raw : (Reference.escapeText content).toList ≠ [] := fun none_written =>
      empty ((Reference.escape_text_eq_empty_iff content).1
        (String.toList_eq_nil_iff.1 none_written))
    rw [node]
    apply reads_attached scope (begins_text some_raw (Reference.not_mem_escape_text content) ends)
    intro growth start stop
    simp only [Growth.step, readReferences, Reference.resolve_escape_text]
    rfl

theorem reads_empty_element {name : Name} {attributes : Attributes} (rest : List Char)
    (reflects : scope.Reflects around)
    (readable : ReadableTag (attributes :: around) name attributes)
    (stand : TagsStand name attributes []) :
    Reads scope (Node.write (.element name attributes [])).toList
      [.element (name.reread (attributes :: around))
        (attributes.map (·.reread (attributes :: around))) []] rest := by
  have slash : KeepsTagOpen ['/'] := keeps_tag_open_of_plain (by decide) (by decide) (by decide)
  have keeps := keeps_tag_open_append stand.keeps slash
  have opens : MayOpen (tagContent name attributes ++ ['/']) := by
    unfold MayOpen
    rw [List.head?_append_of_ne_nil _ (stand.shown rfl)]
    exact stand.opens
  have begins := begins_tag rest opens keeps
  rw [opening_of_slash] at begins
  rcases read_tag_of_readable reflects readable with ⟨inner, _, tag⟩
  have text : (Node.write (.element name attributes [])).toList ++ rest =
      '<' :: (tagContent name attributes ++ ['/'] ++ '>' :: rest) := by
    simp [Node.write, write_tag_start_to_list]
  rw [← text] at begins
  apply reads_one begins
  intro growth start stop inside
  rcases growth.note_root_with_roots start with ⟨roots, noted⟩
  refine ⟨roots, ?_⟩
  simp only [Growth.step, inside, tag, noted]
  exact congrArg Except.ok (growth.attach_with_roots _ roots)

theorem reads_open_element {name : Name} {attributes : Attributes} {body : List Char}
    {inside children : Forest} (rest : List Char) (reflects : scope.Reflects around)
    (readable : ReadableTag (attributes :: around) name attributes)
    (stand : TagsStand name attributes inside) (some_child : inside ≠ [])
    (below : ∀ inner : Scope, inner.Reflects (attributes :: around) →
      Reads inner body children ((writeTagEnd name).toList ++ rest)) :
    Reads scope ((writeTagStart name attributes).toList ++ ['>'] ++
        (body ++ (writeTagEnd name).toList))
      [.element (name.reread (attributes :: around))
        (attributes.map (·.reread (attributes :: around))) children] rest := by
  rcases read_tag_of_readable reflects readable with ⟨inner, entered, tag⟩
  have opens := begins_tag (body ++ ((writeTagEnd name).toList ++ rest)) stand.opens stand.keeps
  rw [openingOf, if_neg (stand.unslashed some_child)] at opens
  have closes := begins_closing rest (stand.closes some_child)
  have front : (writeTagStart name attributes).toList ++ ['>'] ++
      (body ++ ((writeTagEnd name).toList ++ rest)) =
        '<' :: (tagContent name attributes ++
          '>' :: (body ++ ((writeTagEnd name).toList ++ rest))) := by
    simp [write_tag_start_to_list]
  have back : (writeTagEnd name).toList ++ rest =
      "</".toList ++ (name.written.toList ++ '>' :: rest) := by
    simp [writeTagEnd]
  rw [← front] at opens
  rw [← back] at closes
  exact reads_element opens tag (below inner entered) closes
    (closing_name_of_unblank readable.unblank)

theorem reads_leaf {opening content closing : String} {construct : Construct} {node : Node}
    {rest : List Char} (scope : Scope)
    (begins : Begins (opening.toList ++ (content.toList ++ (closing.toList ++ rest)))
      construct rest)
    (becomes : ∀ growth start stop,
      Growth.step growth ⟨start, stop, construct⟩ = .ok (growth.attach node)) :
    Reads scope (opening ++ content ++ closing).toList [node] rest := by
  have text : (opening ++ content ++ closing).toList ++ rest =
      opening.toList ++ (content.toList ++ (closing.toList ++ rest)) := by
    simp only [String.toList_append, List.append_assoc]
  rw [← text] at begins
  exact reads_attached scope begins becomes

theorem declaration_begins {content : Declaration} (rest : List Char)
    (unended : ∀ value ∈ content.values, ¬ "?>".toList <:+: value.toList) :
    Begins (content.write.toList ++ rest)
      (.declaration ("xml".toList ++ content.pairs.flatMap writePair)) rest := by
  have whole := unended_pairs "xml".toList (by decide) fun pair member =>
    have ⟨written, value, among, same⟩ := declared_pairs content pair member
    ⟨written, same ▸ unended value among⟩
  have declares : isDeclaration ("xml".toList ++ content.pairs.flatMap writePair) = true := rfl
  have begins := begins_declaration rest whole declares
  have text : content.write.toList ++ rest = "<?".toList ++
      ("xml".toList ++ content.pairs.flatMap writePair ++ ("?>".toList ++ rest)) := by
    rw [declaration_write_to_list]
    simp only [List.append_assoc]
  rw [text]
  exact begins

theorem reads_declaration {content : Declaration} (scope : Scope) (rest : List Char)
    (holds : content.Serializable) :
    Reads scope content.write.toList [.declaration content] rest := by
  have values := serializable_iff_values.1 holds
  apply reads_attached scope
    (declaration_begins rest fun value member => (values value member).unended)
  intro growth start stop
  simp only [Growth.step, read_declaration_of_serializable holds]
  rfl

mutual
theorem Node.reads_write {scope : Scope} {around : Surroundings} :
    (node : Node) → (∀ content, node ≠ .text content) →
      node.Readable around → scope.Reflects around →
        (rest : List Char) → Reads scope node.write.toList [(node.reread around).tidy] rest
  | .element name attributes [], _, holds, reflects, rest =>
      reads_empty_element rest reflects holds.1 holds.2.1
  | .element name attributes (child :: later), _, holds, reflects, rest => by
      have below : ∀ inner : Scope, inner.Reflects (attributes :: around) →
          Reads inner (Forest.write (child :: later)).toList
            (Forest.reread (attributes :: around) (child :: later)).tidy
            ((writeTagEnd name).toList ++ rest) := by
        intro inner inside
        have ends : ∀ c ∈ ((writeTagEnd name).toList ++ rest).head?, c = '<' := by
          simp [writeTagEnd]
        have reads := Forest.reads_write (child :: later) holds.2.2 inside "" _ ends
        rw [Forest.prepend_text_empty] at reads
        exact reads
      have reads := reads_open_element rest reflects holds.1 holds.2.1 (List.cons_ne_nil _ _) below
      have text : (Node.write (.element name attributes (child :: later))).toList =
          (writeTagStart name attributes).toList ++ ['>'] ++
            ((Forest.write (child :: later)).toList ++ (writeTagEnd name).toList) := by
        simp [Node.write, Forest.write]
      rw [text]
      exact reads
  | .text content, markup, _, _, _ => absurd rfl (markup content)
  | .cdata content, _, holds, _, rest => by
      apply reads_leaf scope (begins_cdata rest holds)
      intro growth start stop
      simp only [Growth.step, String.ofList_toList]
      rfl
  | .comment content, _, holds, _, rest => by
      apply reads_leaf scope (begins_comment rest holds)
      intro growth start stop
      simp only [Growth.step, String.ofList_toList]
      rfl
  | .instruction content, _, holds, _, rest => by
      apply reads_leaf scope (begins_instruction rest holds)
      intro growth start stop
      simp only [Growth.step, String.ofList_toList]
      rfl
  | .doctype content, _, holds, _, rest => by
      apply reads_leaf scope (begins_doctype rest holds)
      intro growth start stop
      simp only [Growth.step, holds.trimmed, String.ofList_toList]
      rfl
  | .declaration content, _, holds, _, rest => reads_declaration scope rest holds

theorem Forest.reads_write {scope : Scope} {around : Surroundings} :
    (nodes : Forest) → Forest.Readable around nodes →
      scope.Reflects around → (pending : String) → (rest : List Char) →
        (∀ c ∈ rest.head?, c = '<') →
          Reads scope ((Reference.escapeText pending).toList ++ (Forest.write nodes).toList)
            ((Forest.reread around nodes).tidy.prependText pending) rest
  | [], _, _, pending, rest, ends => by
      have text : (Reference.escapeText pending).toList ++ (Forest.write []).toList =
          (Reference.escapeText pending).toList := by simp [Forest.write]
      rw [text]
      exact reads_text scope pending ends
  | node :: later, holds, reflects, pending, rest, ends => by
      by_cases text : ∃ content, node = .text content
      · -- The run goes on: both texts are escaped as one, and nothing between them is seen.
        rcases text with ⟨content, rfl⟩
        have reads := Forest.reads_write later holds.2 reflects (pending ++ content) rest ends
        rw [Forest.prepend_text_append, Reference.escape_text_append, String.toList_append,
          List.append_assoc] at reads
        rw [Forest.write, Node.write, String.toList_append]
        exact reads
      · -- The node begins with `<`, so the pending text is a node of its own before it.
        have markup : ∀ content, node ≠ .text content := fun content same => text ⟨content, same⟩
        have first := Node.reads_write node markup holds.1 reflects
          ((Forest.write later).toList ++ rest)
        have reads := Forest.reads_write later holds.2 reflects "" rest ends
        rw [Forest.prepend_text_empty] at reads
        have before := reads_text scope pending
          (node.write_begins markup ((Forest.write later).toList ++ rest))
        rw [← List.append_assoc] at before
        have tidied : (Forest.reread around (node :: later)).tidy.prependText pending =
            Forest.prependText pending [] ++
              ([(node.reread around).tidy] ++ (Forest.reread around later).tidy) := by
          have other := node.tidy_reread_markup around markup
          rw [Forest.reread, Forest.tidy, Forest.prepend_markup _ other,
            Forest.prepend_text_before pending _ other]
          rfl
        rw [tidied, Forest.write, String.toList_append]
        exact reads_append before (reads_append first reads)
end

theorem without_mark_of_unmarked {text : List Char} (unmarked : text.head? ≠ some '\ufeff') :
    withoutMark text = text := by
  cases text with
  | nil => rfl
  | cons c rest =>
      rw [List.head?_cons] at unmarked
      rw [withoutMark, if_neg fun same => unmarked (congrArg some same)]

theorem read_of_reads {text : String} {nodes : Forest}
    (reads : Reads Scope.outermost (withoutMark text.toList) nodes []) :
    Forest.read text = .ok nodes := by
  rcases reads (Text.size (withoutMark text.toList)) Growth.empty rfl with ⟨parts, roots, cut, ran⟩
  have finish : lexemes (Text.size (withoutMark text.toList)) [] = ([], .finished) := by
    rw [lexemes]
  rw [finish, List.append_nil, List.append_nil] at cut
  have grown : Growth.empty.attachAll nodes = ⟨[], nodes.reverse, []⟩ := by
    rw [Growth.empty, Growth.attach_all_outside, List.append_nil]
  rw [grown] at ran
  refine forest_read_iff.2 ⟨⟨[], nodes.reverse, roots⟩, grow_iff.2 ?_, List.reverse_reverse nodes⟩
  rw [cut]
  exact ⟨ran, rfl, rfl⟩

theorem reads_of_readable {nodes : Forest} (readable : Forest.Readable [] nodes) :
    Reads Scope.outermost (Forest.write nodes).toList (Forest.reread [] nodes).tidy [] := by
  have reads := Forest.reads_write nodes readable outermost_answers "" [] (by simp)
  rw [Forest.prepend_text_empty] at reads
  exact reads

/-- Readable nodes are read back from their markup, tidied and with the namespaces that their
declarations give. -/
theorem read_write_of_readable {nodes : Forest} (readable : Forest.Readable [] nodes)
    (unmarked : (Forest.write nodes).toList.head? ≠ some '\ufeff') :
    Forest.read (Forest.write nodes) = .ok (Forest.reread [] nodes).tidy := by
  apply read_of_reads
  rw [without_mark_of_unmarked unmarked]
  exact reads_of_readable readable

end XmlTemplate.Markup
