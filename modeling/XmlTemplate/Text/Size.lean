/-!
Positions and lengths are counted in bytes of UTF-8, so that they agree with offsets in a file. The
functions work on lists of characters, which is the form in which markup and selectors are read.
-/

namespace XmlTemplate.Text

/-- The number of bytes that the characters take in UTF-8. -/
def size : List Char → Nat
  | [] => 0
  | c :: rest => c.utf8Size + size rest

@[simp] theorem size_nil : size [] = 0 := rfl

@[simp] theorem size_cons (c : Char) (chars : List Char) :
    size (c :: chars) = c.utf8Size + size chars := rfl

@[simp] theorem size_append (front back : List Char) :
    size (front ++ back) = size front + size back := by
  induction front with
  | nil => simp
  | cons c rest ih => simp [ih, Nat.add_assoc]

/-- The line of a byte offset, counted from one: a line begins after each line feed before it. -/
def lineAt : List Char → Nat → Nat
  | [], _ => 1
  | c :: rest, offset =>
      if offset = 0 then 1
      else lineAt rest (offset - c.utf8Size) + (if c = '\n' then 1 else 0)

@[simp] theorem line_at_zero (text : List Char) : lineAt text 0 = 1 := by
  cases text <;> rfl

theorem line_at_append (front back : List Char) :
    lineAt (front ++ back) (size front) = 1 + front.count '\n' := by
  induction front with
  | nil => simp
  | cons c front ih =>
      have someBytes := c.utf8Size_pos
      rw [List.cons_append, lineAt, if_neg (by rw [size_cons]; omega), size_cons,
        Nat.add_sub_cancel_left, ih, List.count_cons, Nat.add_assoc]
      simp only [beq_iff_eq]

/-- The last line of a text. -/
theorem line_at_size (text : List Char) : lineAt text (size text) = 1 + text.count '\n' := by
  simpa using line_at_append text []

/-- A character that ends no line takes its bytes off the offset. -/
theorem line_at_cons {c : Char} (inLine : c ≠ '\n') (text : List Char) (offset : Nat) :
    lineAt (c :: text) offset = lineAt text (offset - c.utf8Size) := by
  rw [lineAt, if_neg inLine, Nat.add_zero]
  split
  · rename_i start
    rw [start, Nat.zero_sub, line_at_zero]
  · rfl

end XmlTemplate.Text
