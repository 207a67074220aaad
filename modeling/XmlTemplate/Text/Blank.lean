/-!
Blank characters, of which there are two kinds. A *blank* is any character that Unicode calls white
space: it decides what counts as empty text. A *markup blank* is one of the four characters that
separate the parts of a tag; every other character, a no-break space included, is content there.
-/

namespace XmlTemplate.Text

/-- A character with the Unicode property White_Space. -/
def isBlank (c : Char) : Bool :=
  let point := c.toNat
  (9 ≤ point && point ≤ 13) || point == 0x20 || point == 0x85 || point == 0xa0 || point == 0x1680 ||
    (0x2000 ≤ point && point ≤ 0x200a) || point == 0x2028 || point == 0x2029 || point == 0x202f ||
    point == 0x205f || point == 0x3000

def isMarkupBlank (c : Char) : Bool := c == ' ' || c == '\t' || c == '\r' || c == '\n'

theorem is_blank_of_is_markup_blank {c : Char} (h : isMarkupBlank c = true) : isBlank c = true := by
  simp only [isMarkupBlank, Bool.or_eq_true, beq_iff_eq] at h
  rcases h with ((rfl | rfl) | rfl) | rfl <;> decide

def trimEnd (drop : Char → Bool) (chars : List Char) : List Char :=
  (chars.reverse.dropWhile drop).reverse

def trimBlanks (chars : List Char) : List Char :=
  trimEnd isBlank (chars.dropWhile isBlank)

def trim (text : String) : String := String.ofList (trimBlanks text.toList)

/-- A text of blanks only; the empty text is one. -/
def isAllBlank (text : String) : Bool := text.toList.all isBlank

@[simp] theorem is_all_blank_append (front back : String) :
    isAllBlank (front ++ back) = (isAllBlank front && isAllBlank back) := by
  simp [isAllBlank]

end XmlTemplate.Text
