/-!
Cutting a text at a mark. Everything is stated on lists of characters; the pieces together with the
mark give the text back.
-/

namespace XmlTemplate.Text

/-- The characters before and after the first occurrence of the mark. -/
def cutAt? (mark : Char) : List Char → Option (List Char × List Char)
  | [] => none
  | c :: rest =>
      if c = mark then some ([], rest)
      else (cutAt? mark rest).map fun (front, back) => (c :: front, back)

/-- The characters before and after the first occurrence of a longer mark. -/
def cutAtText? (mark : List Char) : List Char → Option (List Char × List Char)
  | [] => if mark.isEmpty then some ([], []) else none
  | c :: rest =>
      if mark.isPrefixOf (c :: rest) then some ([], (c :: rest).drop mark.length)
      else (cutAtText? mark rest).map fun (front, back) => (c :: front, back)

/-- The pieces between the marks; a text without a mark is one piece. -/
def pieces (mark : Char) : List Char → List (List Char)
  | [] => [[]]
  | c :: rest =>
      match pieces mark rest with
      | [] => [[c]]
      | piece :: more => if c = mark then [] :: piece :: more else (c :: piece) :: more

theorem eq_of_cut_at {mark : Char} {chars front back : List Char}
    (h : cutAt? mark chars = some (front, back)) : chars = front ++ mark :: back := by
  induction chars generalizing front with
  | nil => simp [cutAt?] at h
  | cons c rest ih =>
    by_cases hc : c = mark
    · simp only [cutAt?, hc, if_pos, Option.some.injEq, Prod.mk.injEq] at h
      simp [hc, ← h.1, h.2]
    · simp only [cutAt?, hc, if_false, Option.map_eq_some_iff, Prod.exists, Prod.mk.injEq] at h
      obtain ⟨tail, _, htail, rfl, rfl⟩ := h
      simp [ih htail]

theorem not_mem_of_cut_at {mark : Char} {chars front back : List Char}
    (h : cutAt? mark chars = some (front, back)) : mark ∉ front := by
  induction chars generalizing front with
  | nil => simp [cutAt?] at h
  | cons c rest ih =>
    by_cases hc : c = mark
    · simp only [cutAt?, hc, if_pos, Option.some.injEq, Prod.mk.injEq] at h
      simp [← h.1]
    · simp only [cutAt?, hc, if_false, Option.map_eq_some_iff, Prod.exists, Prod.mk.injEq] at h
      obtain ⟨tail, _, htail, rfl, rfl⟩ := h
      simpa [Ne.symm hc] using ih htail

theorem cut_at_append {mark : Char} {front : List Char} (back : List Char) (h : mark ∉ front) :
    cutAt? mark (front ++ mark :: back) = some (front, back) := by
  induction front with
  | nil => simp [cutAt?]
  | cons c rest ih =>
    simp only [List.mem_cons, not_or] at h
    simp [cutAt?, Ne.symm h.1, ih h.2]

theorem eq_of_cut_at_text {mark chars front back : List Char}
    (h : cutAtText? mark chars = some (front, back)) : chars = front ++ mark ++ back := by
  induction chars generalizing front with
  | nil =>
    simp only [cutAtText?] at h
    split at h
    · rename_i empty
      simp only [Option.some.injEq, Prod.mk.injEq] at h
      simp [← h.1, ← h.2, List.isEmpty_iff.1 empty]
    · simp at h
  | cons c rest ih =>
    simp only [cutAtText?] at h
    split at h
    · rename_i leads
      obtain ⟨tail, htail⟩ := List.isPrefixOf_iff_prefix.1 leads
      simp only [← htail, Option.some.injEq, Prod.mk.injEq] at h
      rw [← htail, ← h.1, ← h.2]
      simp
    · simp only [Option.map_eq_some_iff, Prod.exists, Prod.mk.injEq] at h
      obtain ⟨tail, _, htail, rfl, rfl⟩ := h
      simp [ih htail]

theorem pieces_ne_nil (mark : Char) (chars : List Char) : pieces mark chars ≠ [] := by
  cases chars with
  | nil => simp [pieces]
  | cons c rest =>
    unfold pieces
    split
    · simp
    · split <;> simp

theorem pieces_cons_mark (mark : Char) (rest : List Char) :
    pieces mark (mark :: rest) = [] :: pieces mark rest := by
  cases split : pieces mark rest with
  | nil => exact absurd split (pieces_ne_nil mark rest)
  | cons piece more => simp [pieces, split]

/-- The pieces on both sides of a mark have nothing to do with each other. -/
theorem pieces_append (mark : Char) (front back : List Char) :
    pieces mark (front ++ mark :: back) = pieces mark front ++ pieces mark back := by
  induction front with
  | nil => exact pieces_cons_mark mark back
  | cons c rest ih =>
    rw [List.cons_append, pieces, ih, pieces]
    cases split : pieces mark rest with
    | nil => exact absurd split (pieces_ne_nil mark rest)
    | cons piece more =>
      by_cases marked : c = mark
      · simp [marked]
      · simp [marked]

theorem pieces_of_not_mem {mark : Char} {chars : List Char} (absent : mark ∉ chars) :
    pieces mark chars = [chars] := by
  induction chars with
  | nil => rfl
  | cons c rest ih =>
    simp only [List.mem_cons, not_or] at absent
    simp [pieces, ih absent.2, Ne.symm absent.1]

theorem not_mem_of_mem_pieces {mark : Char} {chars piece : List Char}
    (member : piece ∈ pieces mark chars) : mark ∉ piece := by
  induction chars generalizing piece with
  | nil => simp_all [pieces]
  | cons c rest ih =>
    unfold pieces at member
    cases split : pieces mark rest with
    | nil => exact absurd split (pieces_ne_nil mark rest)
    | cons first more =>
      have head : mark ∉ first := ih (by simp [split])
      have tail : ∀ other ∈ more, mark ∉ other := fun other later => ih (by simp [split, later])
      rw [split] at member
      dsimp only at member
      by_cases marked : c = mark
      · rw [if_pos marked] at member
        rcases List.mem_cons.1 member with rfl | member
        · exact List.not_mem_nil
        · rcases List.mem_cons.1 member with rfl | member
          · exact head
          · exact tail piece member
      · rw [if_neg marked] at member
        rcases List.mem_cons.1 member with rfl | member
        · simpa [Ne.symm marked] using head
        · exact tail piece member

end XmlTemplate.Text
