import XmlTemplate.Proofs.Markup.Rereading

/-!
Texts with a byte order mark. The mark is no part of what is read, and no offset counts it; but
lines are counted on the text with the mark, so a fault is taken to lie three bytes earlier than it
does. Hence the mark changes neither a document nor a fault, and the line of a fault if and only if
a line begins within the three bytes before it.
-/

namespace XmlTemplate.Markup

/-- The document that a text without a mark is read as, or a fault with the offset at which it is
noticed. That there is no root is a fault of the text as a whole. -/
def Document.notice (text : List Char) : Except (Option Nat × Fault) Document := do
  let (parts, ending) := lexemes (Text.size text) text
  let grown ← (do (← Growth.empty.run parts).finish (Text.size text) ending).mapError
    fun (offset, fault) => (some offset, fault)
  match grown.roots.reverse with
  | [_] => .ok ⟨grown.finished.reverse⟩
  | [] => .error (none, .noRoot)
  | _ :: second :: _ => .error (some second, .manyRoots)

/-- The line of an offset; a fault of the whole text belongs to the last one. -/
def lineOf (text : List Char) : Option Nat → Nat
  | some offset => Text.lineAt text offset
  | none => Text.lineAt text (Text.size text)

theorem document_read_eq (text : String) : Document.read text =
    (Document.notice (withoutMark text.toList)).mapError fun noticed =>
      ⟨lineOf text.toList noticed.1, noticed.2⟩ := by
  unfold Document.read grow Document.notice
  dsimp only
  cases (do (← Growth.empty.run _).finish _ _ : Except (Nat × Fault) Growth) with
  | error fault => rfl
  | ok grown =>
      rcases recorded : grown.roots.reverse with _ | ⟨root, _ | ⟨second, later⟩⟩
      all_goals simp [Except.mapError, bind, Except.bind, recorded, lineOf]

theorem line_of_marked (text : List Char) (offset : Option Nat) :
    lineOf ('\ufeff' :: text) offset = lineOf text (offset.map (· - 3)) := by
  have inLine : '\ufeff' ≠ '\n' := by decide
  cases offset with
  | some offset => exact Text.line_at_cons inLine text offset
  | none =>
      rw [lineOf, Text.line_at_cons inLine, Text.size_cons, Nat.add_sub_cancel_left]
      rfl

theorem document_read_marked (text : String) : Document.read ("\ufeff" ++ text) =
    (Document.notice text.toList).mapError fun noticed =>
      ⟨lineOf text.toList (noticed.1.map (· - 3)), noticed.2⟩ := by
  have chars : ("\ufeff" ++ text).toList = '\ufeff' :: text.toList := by simp
  have unmarked : withoutMark ("\ufeff" ++ text).toList = text.toList := by
    rw [chars, withoutMark, if_pos rfl]
  rw [document_read_eq, unmarked, chars]
  apply congrArg (Except.mapError · (Document.notice text.toList))
  funext noticed
  exact congrArg (Malformed.mk · noticed.2) (line_of_marked text.toList noticed.1)

/-- A mark in front of a text changes neither the document nor the fault. It changes nothing at all
if and only if no line begins within the three bytes before the place where a fault is noticed. -/
theorem read_marked_iff {text : String} (unmarked : text.toList.head? ≠ some '\ufeff') :
    Document.read text = (Document.notice text.toList).mapError (fun noticed =>
        ⟨lineOf text.toList noticed.1, noticed.2⟩) ∧
      (Document.read ("\ufeff" ++ text)).mapError (·.fault) =
        (Document.read text).mapError (·.fault) ∧
      (Document.read ("\ufeff" ++ text) = Document.read text ↔
        ∀ offset fault, Document.notice text.toList = .error (some offset, fault) →
          Text.lineAt text.toList (offset - 3) = Text.lineAt text.toList offset) := by
  have plain := document_read_eq text
  rw [without_mark_of_unmarked unmarked] at plain
  refine ⟨plain, ?_⟩
  rw [document_read_marked, plain]
  cases Document.notice text.toList with
  | ok document => simp [Except.mapError]
  | error noticed =>
      obtain ⟨place, fault⟩ := noticed
      cases place with
      | none => simp [Except.mapError]
      | some offset => simp [Except.mapError, lineOf]

theorem marked_mismatch :
    Document.read "\ufeff<a>\n  <b></c></a>" = Document.read "<a>\n  <b></c></a>" := by
  have unmarked : "<a>\n  <b></c></a>".toList.head? ≠ some '\ufeff' := by decide
  have noticed : Document.notice "<a>\n  <b></c></a>".toList =
      .error (some 13, .mismatchedEnd "b" "c") := by decide +kernel
  apply (read_marked_iff unmarked).2.2.2
  intro offset fault found
  rw [noticed] at found
  cases found
  decide

/-- The second root of a marked text is reported a line too early. -/
theorem marked_line_not_always_same :
    ¬ ∀ text : String, text.toList.head? ≠ some '\ufeff' →
      Document.read ("\ufeff" ++ text) = Document.read text := by
  intro all
  exact absurd (all "<a/>\n<b/>\n" (by decide)) (by decide +kernel)

end XmlTemplate.Markup
