import XmlTemplate.Markup.Fault
import XmlTemplate.Text.Blank
import XmlTemplate.Text.Split

/-!
The constructs that markup consists of, cut out of a text one after another. A construct is
recognised by how it begins and ends alone: nothing that was opened before has a say in it, so a
text is cut up first and its elements are nested afterwards. The main statement is that a construct
takes at least one character, hence cutting ends.
-/

namespace XmlTemplate.Markup

inductive Construct
  | text (raw : List Char)
  | opening (content : List Char)
  | selfClosing (content : List Char)
  | closing (content : List Char)
  | comment (content : List Char)
  | cdata (content : List Char)
  | instruction (content : List Char)
  | declaration (content : List Char)
  | doctype (content : List Char)
deriving DecidableEq

structure Lexeme where
  start : Nat
  stop : Nat
  construct : Construct
deriving DecidableEq

/-- How cutting ends: at the end of the text, or at an offset where no construct can be
recognised. -/
inductive Ending
  | finished
  | broken (offset : Nat) (fault : Fault)
deriving DecidableEq

/-- A construct and the text after it, or a fault and the text that is left where it was noticed. -/
abbrev Cut := Except (Fault × List Char) (Construct × List Char)

/-- The content of a tag: everything before the first `>` outside quotes. -/
def tagContent? : (quote : Option Char) → List Char → Option (List Char × List Char)
  | _, [] => none
  | none, c :: rest =>
      if c = '>' then some ([], rest)
      else (tagContent? (if c = '"' ∨ c = '\'' then some c else none) rest).map
        fun (content, after) => (c :: content, after)
  | some quote, c :: rest =>
      (tagContent? (if c = quote then none else some quote) rest).map
        fun (content, after) => (c :: content, after)

/-- Everything before the first `>` that closes no inner `<`. -/
def balanced? : (depth : Nat) → List Char → Option (List Char × List Char)
  | _, [] => none
  | 0, '>' :: rest => some ([], rest)
  | depth, c :: rest =>
      let inner := if c = '<' then depth + 1 else if c = '>' then depth - 1 else depth
      (balanced? inner rest).map fun (content, after) => (c :: content, after)

/-- A comment; the text begins after `<!-`. The third character of the opening is looked at only
when the end was found. -/
def cutComment : List Char → Cut
  | [] => .error (.unclosed .comment, [])
  | third :: body =>
      match Text.cutAtText? ['-', '-', '>'] body with
      | none => .error (.unclosed .comment, [])
      | some (content, after) =>
          if third = '-' then .ok (.comment content, after)
          else .error (.unclosed .comment, after)

/-- A character data section; the text begins after `<![`. -/
def cutCdata (text : List Char) : Cut :=
  match Text.cutAtText? [']', ']', '>'] text with
  | none => .error (.unclosed .cdata, [])
  | some (content, after) =>
      match content with
      | 'C' :: 'D' :: 'A' :: 'T' :: 'A' :: '[' :: data => .ok (.cdata data, after)
      | _ => .error (.unclosed .cdata, after)

/-- A document type; the text begins after `<!`. The keyword may be in either case, and leading
blanks of the body are dropped. -/
def cutDoctype (text : List Char) : Cut :=
  match balanced? 0 text with
  | none => .error (.unclosed .doctype, [])
  | some (content, after) =>
      if (content.take 7).map Char.toUpper = "DOCTYPE".toList then
        match (content.drop 7).dropWhile Text.isMarkupBlank with
        | [] => .error (.namelessDoctype, after)
        | body => .ok (.doctype body, after)
      else .error (.unclosed .doctype, after)

/-- Whether the content between `<?` and `?>` is a declaration: `xml`, alone or before a blank. -/
def isDeclaration : List Char → Bool
  | ['x', 'm', 'l'] => true
  | 'x' :: 'm' :: 'l' :: c :: _ => Text.isMarkupBlank c
  | _ => false

/-- An instruction or a declaration; the text begins after `<?`. One question mark cannot both open
and close it. -/
def cutInstruction (text : List Char) : Cut :=
  match text with
  | '>' :: after => .error (.unclosed .instruction, after)
  | _ =>
      match Text.cutAtText? ['?', '>'] text with
      | none => .error (.unclosed .instruction, [])
      | some (content, after) =>
          .ok (if isDeclaration content then .declaration content else .instruction content, after)

/-- A tag; the text begins after `<`, or after `</` for an end tag. -/
def cutTag (build : List Char → Construct) (text : List Char) : Cut :=
  match tagContent? none text with
  | none => .error (.unclosed .tag, [])
  | some (content, after) => .ok (build content, after)

/-- The construct of a tag that is no end tag. A slash right before the end makes it an empty
element. -/
def openingOf (content : List Char) : Construct :=
  if content.getLast? = some '/' then .selfClosing content.dropLast else .opening content

/-- The construct that begins with `<`; the text is what follows. -/
def cutMarkup (text : List Char) : Cut :=
  match text with
  | '/' :: rest => cutTag .closing rest
  | '?' :: rest => cutInstruction rest
  | '!' :: '-' :: rest => cutComment rest
  | '!' :: '[' :: rest => cutCdata rest
  | '!' :: c :: rest =>
      if c = 'D' ∨ c = 'd' then cutDoctype (c :: rest) else .error (.unknownMarkup, text)
  | ['!'] => .error (.unknownMarkup, text)
  | _ => cutTag openingOf text

/-- The first construct of a text that is not empty: a run of text up to the next `<`, or markup. -/
def cutFirst (c : Char) (rest : List Char) : Cut :=
  if c = '<' then cutMarkup rest
  else .ok (.text (c :: rest.takeWhile (· ≠ '<')), rest.dropWhile (· ≠ '<'))

theorem length_of_tag_content {quote : Option Char} {text content after : List Char}
    (h : tagContent? quote text = some (content, after)) : after.length < text.length := by
  induction text generalizing quote content with
  | nil => simp [tagContent?] at h
  | cons c rest ih =>
    cases quote with
    | none =>
      simp only [tagContent?] at h
      split at h
      · simp only [Option.some.injEq, Prod.mk.injEq] at h
        simp [h.2]
      · simp only [Option.map_eq_some_iff, Prod.exists, Prod.mk.injEq] at h
        obtain ⟨_, _, found, _, rfl⟩ := h
        exact Nat.lt_succ_of_lt (ih found)
    | some q =>
      simp only [tagContent?, Option.map_eq_some_iff, Prod.exists, Prod.mk.injEq] at h
      obtain ⟨_, _, found, _, rfl⟩ := h
      exact Nat.lt_succ_of_lt (ih found)

theorem length_of_balanced? {depth : Nat} {text content after : List Char}
    (h : balanced? depth text = some (content, after)) : after.length < text.length := by
  induction text generalizing depth content with
  | nil => simp [balanced?] at h
  | cons c rest ih =>
    unfold balanced? at h
    split at h
    · simp_all
    · rename_i heq
      simp only [Option.some.injEq, Prod.mk.injEq] at h
      cases heq
      simp [h.2]
    · rename_i heq
      cases heq
      simp only [Option.map_eq_some_iff, Prod.exists, Prod.mk.injEq] at h
      obtain ⟨_, _, found, _, rfl⟩ := h
      exact Nat.lt_succ_of_lt (ih found)

theorem length_of_cut_at_text {mark text content after : List Char}
    (h : Text.cutAtText? mark text = some (content, after)) : after.length ≤ text.length := by
  rw [Text.eq_of_cut_at_text h]
  simp
  omega

theorem length_of_cut_tag {build : List Char → Construct} {text after : List Char}
    {construct : Construct} (h : cutTag build text = .ok (construct, after)) :
    after.length < text.length := by
  unfold cutTag at h
  split at h
  · simp at h
  · rename_i found
    simp only [Except.ok.injEq, Prod.mk.injEq] at h
    obtain ⟨_, rfl⟩ := h
    exact length_of_tag_content found

theorem length_of_cut_instruction {text after : List Char} {construct : Construct}
    (h : cutInstruction text = .ok (construct, after)) : after.length ≤ text.length := by
  unfold cutInstruction at h
  split at h
  · simp at h
  · split at h
    · simp at h
    · rename_i found
      simp only [Except.ok.injEq, Prod.mk.injEq] at h
      obtain ⟨_, rfl⟩ := h
      exact length_of_cut_at_text found

theorem length_of_cut_comment {text after : List Char} {construct : Construct}
    (h : cutComment text = .ok (construct, after)) : after.length ≤ text.length := by
  unfold cutComment at h
  split at h
  · simp at h
  · split at h
    · simp at h
    · rename_i found
      split at h
      · simp only [Except.ok.injEq, Prod.mk.injEq] at h
        obtain ⟨_, rfl⟩ := h
        exact Nat.le_succ_of_le (length_of_cut_at_text found)
      · simp at h

theorem length_of_cut_cdata {text after : List Char} {construct : Construct}
    (h : cutCdata text = .ok (construct, after)) : after.length ≤ text.length := by
  unfold cutCdata at h
  split at h
  · simp at h
  · rename_i found
    split at h
    · simp only [Except.ok.injEq, Prod.mk.injEq] at h
      obtain ⟨_, rfl⟩ := h
      exact length_of_cut_at_text found
    · simp at h

theorem length_of_cut_doctype {text after : List Char} {construct : Construct}
    (h : cutDoctype text = .ok (construct, after)) : after.length < text.length := by
  unfold cutDoctype at h
  split at h
  · simp at h
  · rename_i found
    split at h
    · split at h
      · simp at h
      · simp only [Except.ok.injEq, Prod.mk.injEq] at h
        obtain ⟨_, rfl⟩ := h
        exact length_of_balanced? found
    · simp at h

theorem length_of_cut_markup {text after : List Char} {construct : Construct}
    (h : cutMarkup text = .ok (construct, after)) : after.length ≤ text.length := by
  unfold cutMarkup at h
  split at h
  · exact Nat.le_succ_of_le (Nat.le_of_lt (length_of_cut_tag h))
  · exact Nat.le_succ_of_le (length_of_cut_instruction h)
  · exact Nat.le_succ_of_le (Nat.le_succ_of_le (length_of_cut_comment h))
  · exact Nat.le_succ_of_le (Nat.le_succ_of_le (length_of_cut_cdata h))
  · split at h
    · exact Nat.le_succ_of_le (Nat.le_of_lt (length_of_cut_doctype h))
    · simp at h
  · simp at h
  · exact Nat.le_of_lt (length_of_cut_tag h)

theorem length_of_cut_first {c : Char} {rest after : List Char} {construct : Construct}
    (h : cutFirst c rest = .ok (construct, after)) : after.length < (c :: rest).length := by
  unfold cutFirst at h
  split at h
  · exact Nat.lt_succ_of_le (length_of_cut_markup h)
  · simp only [Except.ok.injEq, Prod.mk.injEq] at h
    rw [← h.2]
    exact Nat.lt_succ_of_le (List.dropWhile_suffix _).length_le

/-- Cuts a text that is the end of one of `size` bytes. -/
def lexemes (size : Nat) (text : List Char) : List Lexeme × Ending :=
  match text with
  | [] => ([], .finished)
  | c :: rest =>
      match _found : cutFirst c rest with
      | .error (fault, left) => ([], .broken (size - Text.size left) fault)
      | .ok (construct, after) =>
          let (later, ending) := lexemes size after
          (⟨size - Text.size (c :: rest), size - Text.size after, construct⟩ :: later, ending)
termination_by text.length
decreasing_by exact length_of_cut_first _found

end XmlTemplate.Markup
