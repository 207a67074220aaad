import XmlTemplate.Proofs.Markup.WellRead

/-!
Documents among texts: those with exactly one element at the top. Elements are on record from their
start tags on, before it is known where they end.
-/

namespace XmlTemplate.Markup

namespace Growth

def Counted (growth : Growth) : Prop :=
  growth.roots.length =
    growth.finished.elements.length + if growth.opened.isEmpty then 0 else 1

variable {growth grown : Growth}

theorem attach_counted {node : Node} (counted : growth.Counted)
    (leaf : growth.opened = [] → node.element? = none) : (growth.attach node).Counted := by
  unfold Counted at counted ⊢
  rcases growth with ⟨_ | ⟨inner, outer⟩, finished, roots⟩
  · simp only [attach, Forest.elements, List.filterMap_cons, leaf rfl]
    exact counted
  · exact counted

theorem step_counted {lexeme : Lexeme} (counted : growth.Counted)
    (stepped : growth.step lexeme = .ok grown) : grown.Counted := by
  obtain ⟨start, stop, construct⟩ := lexeme
  cases takes_of_step stepped with
  | leaf stands => exact attach_counted counted fun _ => by cases stands <;> rfl
  | opening read =>
      unfold Counted at counted ⊢
      rcases growth with ⟨_ | ⟨outer, others⟩, finished, roots⟩
      · simpa [noteRoot] using counted
      · simpa [noteRoot] using counted
  | selfClosing read =>
      unfold Counted at counted ⊢
      rcases growth with ⟨_ | ⟨outer, others⟩, finished, roots⟩
      · simpa [noteRoot, attach, Forest.elements] using counted
      · simpa [noteRoot, attach] using counted
  | closing opened named =>
      rcases growth with ⟨_ | ⟨inner, _ | ⟨next, outer⟩⟩, finished, roots⟩
      · cases opened
      · cases opened
        simpa [Counted, attach, Forest.elements] using counted
      · cases opened
        simpa [Counted, attach] using counted

theorem run_counted {lexemes : List Lexeme} (counted : growth.Counted)
    (ran : growth.run lexemes = .ok grown) : grown.Counted :=
  run_keeps (fun _ _ _ _ counted stepped => step_counted counted stepped) counted ran

end Growth

theorem roots_of_grow {text : List Char} {grown : Growth} (grew : grow text = .ok grown) :
    grown.roots.length = (Forest.elements grown.finished.reverse).length := by
  obtain ⟨ran, -, closed⟩ := grow_iff.1 grew
  have start : Growth.empty.Counted := rfl
  have counted := Growth.run_counted start ran
  unfold Growth.Counted at counted
  rw [closed] at counted
  rw [counted, Forest.elements, Forest.elements, List.filterMap_reverse, List.length_reverse]
  rfl

/-- A document is a text of nodes with one element among them. -/
theorem document_read_iff {text : String} {document : Document} :
    Document.read text = .ok document ↔
      Forest.read text = .ok document.nodes ∧ document.nodes.elements.length = 1 := by
  obtain ⟨nodes⟩ := document
  unfold Document.read
  rw [bind_eq_ok_iff, forest_read_iff]
  constructor
  · rintro ⟨grown, grew, found⟩
    split at found
    · rename_i root one
      cases found
      refine ⟨⟨grown, grew, rfl⟩, ?_⟩
      rw [← roots_of_grow grew, ← List.length_reverse, one]
      rfl
    · cases found
    · cases found
  · rintro ⟨⟨grown, grew, rfl⟩, one⟩
    rw [← roots_of_grow grew, ← List.length_reverse] at one
    obtain ⟨root, only⟩ := List.length_eq_one_iff.1 one
    refine ⟨grown, grew, ?_⟩
    rw [only]

/-- Whatever was read as a document is well read. -/
theorem well_read_of_document {text : String} {document : Document}
    (read : Document.read text = .ok document) :
    Forest.Apart document.nodes ∧ Forest.WellRead [] document.nodes :=
  well_read_of_read (document_read_iff.1 read).1

end XmlTemplate.Markup
