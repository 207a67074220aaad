import Mathlib.Data.List.DropRight
import XmlTemplate.Proofs.Markup.Constructs
import XmlTemplate.Proofs.Markup.References

/-!
The inside of tags that were written. A name is found again because it holds no blank, a key because
it holds no `=`, and a value because its quotes are escaped. Declarations have the same pairs, but
their values stand as they are.
-/

namespace XmlTemplate.Markup

def IsNamePart (c : Char) : Prop := isWordPart c = true ∨ c = ':'

def tagMarks : List Char := [' ', '\t', '\r', '\n', '=', '<', '>', '"', '\'', '/', '?', '!']

theorem not_mem_tag_marks {c : Char} (part : IsNamePart c) : c ∉ tagMarks := by
  have outside : tagMarks.all (fun mark => !isWordPart mark && mark != ':') = true := by decide
  intro member
  have other := List.all_eq_true.1 outside c member
  rcases part with word | colon
  · rw [word] at other
    cases other
  · rw [colon] at other
    cases other

theorem name_part_not_blank {c : Char} (part : IsNamePart c) : Text.isMarkupBlank c = false := by
  have apart := not_mem_tag_marks part
  simp only [tagMarks, List.mem_cons, not_or] at apart
  simp [Text.isMarkupBlank, apart]

theorem name_part_continues_key {c : Char} (part : IsNamePart c) : Tag.continuesKey c = true := by
  have apart := not_mem_tag_marks part
  simp only [tagMarks, List.mem_cons, not_or] at apart
  simp [Tag.continuesKey, name_part_not_blank part, apart]

theorem colon_not_mem_word {text : String} (word : IsWord text) : ':' ∉ text.toList := by
  intro member
  have part := List.all_eq_true.1 word.2 ':' member
  exact absurd part (by decide)

theorem cut_colon_of_word {text : String} (word : IsWord text) :
    Text.cutAt? ':' text.toList = none := by
  cases cut : Text.cutAt? ':' text.toList with
  | none => rfl
  | some found =>
      have chars := Text.eq_of_cut_at cut
      have absent := colon_not_mem_word word
      rw [chars] at absent
      exact absurd (List.mem_append_right _ (List.mem_cons_self ..)) absent

structure IsWrittenName (chars : List Char) : Prop where
  some_chars : chars ≠ []
  parts : ∀ c ∈ chars, IsNamePart c

/-- A key as it can stand in a tag. Its first character is not asked. -/
def StandsAsKey : List Char → Prop
  | [] => False
  | c :: rest => Text.isMarkupBlank c = false ∧ ∀ d ∈ rest, Tag.continuesKey d = true

instance : (key : List Char) → Decidable (StandsAsKey key)
  | [] => inferInstanceAs (Decidable False)
  | c :: rest =>
      -- Only the characters of the key are asked, not all that there are.
      have : Decidable (∀ d ∈ rest, Tag.continuesKey d = true) :=
        List.decidableBAll _ rest
      inferInstanceAs
        (Decidable (Text.isMarkupBlank c = false ∧ ∀ d ∈ rest, Tag.continuesKey d = true))

structure Name.OfWords (name : Name) : Prop where
  base : IsWord name.localName
  lead : ∀ lead ∈ name.nsPrefix, IsWord lead

instance (name : Name) : Decidable name.OfWords :=
  decidable_of_iff (_ ∧ _) ⟨fun ⟨base, lead⟩ => ⟨base, lead⟩, fun ⟨base, lead⟩ => ⟨base, lead⟩⟩

theorem is_written_name_of_words {name : Name} (words : name.OfWords) :
    IsWrittenName name.written.toList := by
  rcases name with ⟨_ | front, back, uri⟩
  · constructor
    · exact fun empty => words.base.1 (String.toList_eq_nil_iff.1 empty)
    · exact fun c member => .inl (List.all_eq_true.1 words.base.2 c member)
  · have first := words.lead front rfl
    have chars : (Name.mk (some front) back uri).written.toList =
        front.toList ++ ':' :: back.toList := by
      simp [Name.written]
    rw [chars]
    constructor
    · simp
    · intro c member
      rcases List.mem_append.1 member with inside | after
      · exact .inl (List.all_eq_true.1 first.2 c inside)
      · rcases List.mem_cons.1 after with colon | inside
        · exact .inr colon
        · exact .inl (List.all_eq_true.1 words.base.2 c inside)

namespace IsWrittenName

variable {chars : List Char}

theorem unblank (written : IsWrittenName chars) : ∀ c ∈ chars, Text.isMarkupBlank c = false :=
  fun c member => name_part_not_blank (written.parts c member)

theorem keeps_tag_open (written : IsWrittenName chars) : KeepsTagOpen chars := by
  have absent : ∀ mark ∈ tagMarks, mark ∉ chars := fun mark member inside =>
    not_mem_tag_marks (written.parts mark inside) member
  apply keeps_tag_open_of_plain
  · exact absent '>' (by decide)
  · exact absent '"' (by decide)
  · exact absent '\'' (by decide)

theorem may_open (written : IsWrittenName chars) : MayOpen chars := by
  intro c first
  have apart := not_mem_tag_marks (written.parts c (List.mem_of_mem_head? first))
  simp only [tagMarks, List.mem_cons, not_or] at apart
  simp [apart]

theorem stands_as_key (written : IsWrittenName chars) : StandsAsKey chars := by
  cases chars with
  | nil => exact absurd rfl written.some_chars
  | cons c rest =>
      exact ⟨name_part_not_blank (written.parts c (.head _)), fun d member =>
        name_part_continues_key (written.parts d (.tail _ member))⟩

end IsWrittenName

theorem closing_name_of_unblank {chars : List Char}
    (unblank : ∀ c ∈ chars, Text.isMarkupBlank c = false) : closingName chars = chars := by
  unfold closingName
  split
  · rfl
  · have last : ∀ some_chars : chars ≠ [],
        ¬ Text.isMarkupBlank (chars.getLast some_chars) = true := by
      intro some_chars
      rw [unblank _ (List.getLast_mem some_chars)]
      decide
    exact List.rdropWhile_eq_self_iff.2 last

def writePair (pair : List Char × List Char) : List Char :=
  ' ' :: pair.1 ++ '=' :: '"' :: pair.2 ++ ['"']

def RawAttribute.pair (raw : RawAttribute) : List Char × List Char := (raw.key, raw.value)

structure IsPair (pair : List Char × List Char) : Prop where
  key : StandsAsKey pair.1
  value : '"' ∉ pair.2

theorem keeps_tag_open_pairs {pairs : List (List Char × List Char)}
    (each : ∀ pair ∈ pairs, KeepsTagOpen pair.1 ∧ '"' ∉ pair.2) :
    KeepsTagOpen (pairs.flatMap writePair) := by
  induction pairs with
  | nil => exact keeps_tag_open_nil
  | cons pair pairs ih =>
      obtain ⟨key, unquoted⟩ := each pair (.head _)
      have space : KeepsTagOpen [' '] :=
        keeps_tag_open_of_plain (by decide) (by decide) (by decide)
      have equals : KeepsTagOpen ['='] :=
        keeps_tag_open_of_plain (by decide) (by decide) (by decide)
      have value := keeps_tag_open_quoted unquoted
      have whole := keeps_tag_open_append space
        (keeps_tag_open_append key (keeps_tag_open_append equals value))
      have written : writePair pair = [' '] ++ (pair.1 ++ (['='] ++ ('"' :: pair.2 ++ ['"']))) := by
        simp [writePair]
      rw [List.flatMap_cons, written]
      exact keeps_tag_open_append whole (ih fun other member => each other (.tail _ member))

theorem scan_step {size : Nat} {text rest valued content after : List Char} {c : Char}
    (keyed : text.dropWhile Text.isMarkupBlank = c :: rest)
    (equals : (rest.dropWhile Tag.continuesKey).dropWhile Text.isMarkupBlank = '=' :: valued)
    (quoted : Tag.value size (valued.dropWhile Text.isMarkupBlank) = .ok (content, after)) :
    Tag.scan size text =
      ⟨⟨c :: rest.takeWhile Tag.continuesKey, size - Text.size (c :: rest), content⟩ ::
        (Tag.scan size after).attributes, (Tag.scan size after).fault?⟩ := by
  rw [Tag.scan]
  split
  · rename_i empty
    rw [keyed] at empty
    cases empty
  · rename_i found
    rw [keyed] at found
    cases found
    split
    · rename_i found
      rw [equals] at found
      cases found
      split
      · rename_i found
        rw [quoted] at found
        cases found
      · rename_i found
        rw [quoted] at found
        cases found
        rfl
    · rename_i other
      exact absurd equals (other _)

theorem scan_pair {pair : List Char × List Char} (size : Nat) (after : List Char)
    (holds : IsPair pair) : ∃ start, Tag.scan size (writePair pair ++ after) =
      ⟨⟨pair.1, start, pair.2⟩ :: (Tag.scan size after).attributes,
        (Tag.scan size after).fault?⟩ := by
  rcases pair with ⟨_ | ⟨c, rest⟩, content⟩
  · cases holds.key
  · obtain ⟨shown, follows⟩ := holds.key
    let valued := '"' :: (content ++ '"' :: after)
    have written : writePair (c :: rest, content) ++ after =
        ' ' :: c :: (rest ++ '=' :: valued) := by
      simp [writePair, valued]
    have keyed : (writePair (c :: rest, content) ++ after).dropWhile Text.isMarkupBlank =
        c :: (rest ++ '=' :: valued) := by
      rw [written, List.dropWhile_cons_of_pos rfl, List.dropWhile_cons_of_neg (by simp [shown])]
    have equals : ((rest ++ '=' :: valued).dropWhile Tag.continuesKey).dropWhile
        Text.isMarkupBlank = '=' :: valued := by
      rw [List.dropWhile_append_of_pos follows]
      rfl
    have key : (rest ++ '=' :: valued).takeWhile Tag.continuesKey = rest := by
      rw [List.takeWhile_append_of_pos follows]
      simp [Tag.continuesKey]
    have quoted : Tag.value size (valued.dropWhile Text.isMarkupBlank) = .ok (content, after) := by
      change Tag.value size ('"' :: (content ++ '"' :: after)) = _
      rw [Tag.value, if_pos (.inl rfl), Text.cut_at_append after holds.value]
    have step := scan_step keyed equals quoted
    rw [key] at step
    exact ⟨_, step⟩

/-- Pairs are read one after another, whatever follows them. -/
theorem scan_pairs_append {pairs : List (List Char × List Char)} (size : Nat)
    (each : ∀ pair ∈ pairs, IsPair pair) (more : List Char) : ∃ attributes,
      attributes.map RawAttribute.pair = pairs ∧
        Tag.scan size (pairs.flatMap writePair ++ more) =
          ⟨attributes ++ (Tag.scan size more).attributes, (Tag.scan size more).fault?⟩ := by
  induction pairs with
  | nil => exact ⟨[], rfl, rfl⟩
  | cons pair pairs ih =>
      rcases ih fun other member => each other (.tail _ member) with ⟨later, same, scanned⟩
      rcases scan_pair size (pairs.flatMap writePair ++ more) (each pair (.head _)) with
        ⟨start, first⟩
      rw [scanned] at first
      refine ⟨⟨pair.1, start, pair.2⟩ :: later, ?_, ?_⟩
      · rw [List.map_cons, same]
        rfl
      · rw [List.flatMap_cons, List.append_assoc, first]
        rfl

theorem scan_pairs {pairs : List (List Char × List Char)} (size : Nat)
    (each : ∀ pair ∈ pairs, IsPair pair) : ∃ attributes,
      Tag.scan size (pairs.flatMap writePair) = ⟨attributes, none⟩ ∧
        attributes.map RawAttribute.pair = pairs := by
  obtain ⟨attributes, same, scanned⟩ := scan_pairs_append size each []
  have nothing : Tag.scan size [] = ⟨[], none⟩ := by
    rw [Tag.scan]
    rfl
  rw [nothing, List.append_nil, List.append_nil] at scanned
  exact ⟨attributes, scanned, same⟩

def writeTagContent (name : List Char) (pairs : List (List Char × List Char)) : List Char :=
  name ++ pairs.flatMap writePair

section TagContent
variable {name : List Char} {pairs : List (List Char × List Char)}

theorem tag_content_may_open (opens : MayOpen name) : MayOpen (writeTagContent name pairs) := by
  cases name with
  | cons c chars => exact opens
  | nil =>
      cases pairs with
      | nil => nofun
      | cons pair pairs =>
          rintro c ⟨⟩
          decide

theorem tag_content_keeps_open (written : KeepsTagOpen name)
    (each : ∀ pair ∈ pairs, KeepsTagOpen pair.1 ∧ '"' ∉ pair.2) :
    KeepsTagOpen (writeTagContent name pairs) :=
  keeps_tag_open_append written (keeps_tag_open_pairs each)

/-- A start tag ends with its name or a quote. -/
theorem last_of_tag_content :
    (writeTagContent name pairs).getLast? = if pairs = [] then name.getLast? else some '"' := by
  rcases List.eq_nil_or_concat pairs with rfl | ⟨front, last, rfl⟩
  · simp [writeTagContent]
  · rw [if_neg (by simp), writeTagContent, List.concat_eq_append, List.flatMap_append,
      List.flatMap_singleton, writePair, ← List.append_assoc, ← List.append_assoc,
      List.getLast?_concat]

theorem opening_of_slash (content : List Char) :
    openingOf (content ++ ['/']) = .selfClosing content := by
  rw [openingOf, if_pos List.getLast?_concat, List.dropLast_concat]

theorem tag_name (pairs : List (List Char × List Char))
    (unblank : ∀ c ∈ name, Text.isMarkupBlank c = false) :
    Tag.name (writeTagContent name pairs) = name := by
  have shown : ∀ c ∈ name, (!Text.isMarkupBlank c) = true := fun c member => by
    rw [unblank c member]
    rfl
  rw [Tag.name, writeTagContent, List.takeWhile_append_of_pos shown]
  cases pairs with
  | nil => simp
  | cons pair pairs => simp [writePair, Text.isMarkupBlank]

theorem tag_attributes (unblank : ∀ c ∈ name, Text.isMarkupBlank c = false)
    (each : ∀ pair ∈ pairs, IsPair pair) :
    ∃ attributes, Tag.attributes (writeTagContent name pairs) = ⟨attributes, none⟩ ∧
      attributes.map RawAttribute.pair = pairs := by
  have shown : ∀ c ∈ name, (!Text.isMarkupBlank c) = true := fun c member => by
    rw [unblank c member]
    rfl
  have after : Tag.afterName (writeTagContent name pairs) = pairs.flatMap writePair := by
    rw [Tag.afterName, writeTagContent, List.dropWhile_append_of_pos shown]
    cases pairs <;> rfl
  rw [Tag.attributes, after]
  exact scan_pairs _ each

end TagContent

def declaredPair (keyword : String) (value : Option String) : List (List Char × List Char) :=
  (value.map fun content => (keyword.toList, content.toList)).toList

def Declaration.pairs (content : Declaration) : List (List Char × List Char) :=
  declaredPair "version" (some content.version) ++
    (declaredPair "encoding" content.encoding ++ declaredPair "standalone" content.standalone)

theorem declared_pair_to_list (keyword : String) (value : Option String) :
    (writeDeclared keyword value).toList = (declaredPair keyword value).flatMap writePair := by
  cases value with
  | none => rfl
  | some content => simp [writeDeclared, declaredPair, writePair]

theorem declaration_write_to_list (content : Declaration) :
    content.write.toList =
      "<?".toList ++ ("xml".toList ++ content.pairs.flatMap writePair ++ "?>".toList) := by
  have opening : "<?xml version=\"".toList =
      "<?".toList ++ ("xml".toList ++ " version=\"".toList) := by decide
  have version : (declaredPair "version" (some content.version)).flatMap writePair =
      " version=\"".toList ++ content.version.toList ++ "\"".toList := by
    simp [declaredPair, writePair]
  unfold Declaration.write
  simp only [Declaration.pairs, String.toList_append, declared_pair_to_list, List.flatMap_append]
  rw [opening, version]
  simp only [List.append_assoc]

def Declaration.values (content : Declaration) : List String :=
  content.version :: (content.encoding.toList ++ content.standalone.toList)

theorem serializable_iff_values {content : Declaration} :
    content.Serializable ↔ ∀ value ∈ content.values, DeclaredContent value := by
  unfold Declaration.values
  simp only [List.mem_cons, List.mem_append, Option.mem_toList, or_imp, forall_and, forall_eq]
  constructor
  · rintro ⟨version, encoding, standalone⟩
    exact ⟨version, encoding, standalone⟩
  · rintro ⟨version, encoding, standalone⟩
    exact ⟨version, encoding, standalone⟩

/-- The pairs of a declaration have keywords and its values. -/
theorem declared_pairs (content : Declaration) : ∀ pair ∈ content.pairs,
    IsWrittenName pair.1 ∧ ∃ value ∈ content.values, pair.2 = value.toList := by
  have keyword : ∀ word ∈ ["version", "encoding", "standalone"], IsWrittenName word.toList := by
    have words : ∀ word ∈ ["version", "encoding", "standalone"], IsWord word := by decide
    intro word member
    refine ⟨?_, fun c inside => .inl (List.all_eq_true.1 (words word member).2 c inside)⟩
    exact fun empty => (words word member).1 (String.toList_eq_nil_iff.1 empty)
  have optional : ∀ word ∈ ["version", "encoding", "standalone"], ∀ value : Option String,
      (∀ text ∈ value, text ∈ content.values) → ∀ pair ∈ declaredPair word value,
        IsWrittenName pair.1 ∧ ∃ value ∈ content.values, pair.2 = value.toList := by
    intro word member value each pair inside
    cases value with
    | none => cases inside
    | some text =>
        rw [declaredPair, Option.map_some, Option.toList_some, List.mem_singleton] at inside
        subst inside
        exact ⟨keyword word member, text, each text rfl, rfl⟩
  intro pair member
  rcases List.mem_append.1 member with first | later
  · refine optional "version" (by decide) _ ?_ pair first
    rintro text ⟨⟩
    exact .head _
  · rcases List.mem_append.1 later with second | third
    · refine optional "encoding" (by decide) _ ?_ pair second
      exact fun text given => .tail _ (List.mem_append_left _ (Option.mem_toList.2 given))
    · refine optional "standalone" (by decide) _ ?_ pair third
      exact fun text given => .tail _ (List.mem_append_right _ (Option.mem_toList.2 given))

/-- No end of a declaration stands in its pairs: a quote separates the values from the rest. -/
theorem unended_pairs {pairs : List (List Char × List Char)} (front : List Char)
    (first : '?' ∉ front)
    (each : ∀ pair ∈ pairs, IsWrittenName pair.1 ∧ ¬ "?>".toList <:+: pair.2) :
    ¬ "?>".toList <:+: front ++ pairs.flatMap writePair := by
  induction pairs generalizing front with
  | nil =>
      rw [List.flatMap_nil, List.append_nil]
      intro inside
      exact first (inside.subset (.head _))
  | cons pair pairs ih =>
      obtain ⟨written, unended⟩ := each pair (.head _)
      have later := ih [] (List.not_mem_nil) fun other member => each other (.tail _ member)
      have key : '?' ∉ front ++ ' ' :: pair.1 ++ ['='] := by
        intro member
        simp only [List.mem_append, List.mem_cons, List.not_mem_nil, or_false] at member
        rcases member with (before | space | inside) | equals
        · exact first before
        · cases space
        · have apart := not_mem_tag_marks (written.parts '?' inside)
          exact apart (by decide)
        · cases equals
      have split : front ++ (pair :: pairs).flatMap writePair =
          front ++ ' ' :: pair.1 ++ ['='] ++
            '"' :: (pair.2 ++ '"' :: pairs.flatMap writePair) := by
        simp [writePair]
      rw [split]
      intro inside
      rcases Text.infix_append_cons (by decide) inside with before | after
      · exact key (before.subset (.head _))
      · rcases Text.infix_append_cons (by decide) after with value | rest
        · exact unended value
        · exact later rest

theorem declared_value_of_pairs {raws : List RawAttribute} {pairs : List (List Char × List Char)}
    (key : String) (same : raws.map RawAttribute.pair = pairs) :
    declaredValue ⟨raws, none⟩ key =
      .ok ((pairs.find? (·.1 == key.toList)).map (String.ofList ·.2)) := by
  rw [← same, List.find?_map, declaredValue, Option.map_map]
  simp only [Function.comp_def, RawAttribute.pair]
  cases raws.find? (·.key == key.toList) <;> rfl

theorem find_declared_pair (keyword key : String) (value : Option String) :
    ((declaredPair keyword value).find? (·.1 == key.toList)).map (String.ofList ·.2) =
      if keyword = key then value else none := by
  cases value with
  | none => simp [declaredPair]
  | some content =>
      by_cases same : keyword = key
      · simp [declaredPair, same]
      · have apart : keyword.toList ≠ key.toList := fun chars =>
          same (String.toList_injective chars)
        simp [declaredPair, same, apart]

theorem read_declaration_of_serializable {content : Declaration} (holds : content.Serializable) :
    readDeclaration ("xml".toList ++ content.pairs.flatMap writePair) = .ok content := by
  have pairs : ∀ pair ∈ content.pairs, IsPair pair := by
    intro pair member
    obtain ⟨written, value, among, same⟩ := declared_pairs content pair member
    exact ⟨written.stands_as_key, same ▸ (serializable_iff_values.1 holds value among).unquoted⟩
  rcases scan_pairs (Text.size ("xml".toList ++ content.pairs.flatMap writePair)) pairs with
    ⟨raws, scanned, same⟩
  have version : declaredVersion ⟨raws, none⟩ = .ok content.version := by
    cases raws with
    | nil => cases same
    | cons raw raws =>
        have first := List.head_eq_of_cons_eq same
        have key : raw.key = "version".toList := congrArg Prod.fst first
        have value : raw.value = content.version.toList := congrArg Prod.snd first
        simp only [declaredVersion, key, value, if_true, String.ofList_toList]
  have encoding : declaredValue ⟨raws, none⟩ "encoding" = .ok content.encoding := by
    simp only [declared_value_of_pairs "encoding" same, Declaration.pairs, List.find?_append,
      Option.map_or, find_declared_pair, if_true]
    rw [if_neg (by decide), if_neg (by decide), Option.none_or, Option.or_none]
  have standalone : declaredValue ⟨raws, none⟩ "standalone" = .ok content.standalone := by
    simp only [declared_value_of_pairs "standalone" same, Declaration.pairs, List.find?_append,
      Option.map_or, find_declared_pair, if_true]
    rw [if_neg (by decide), if_neg (by decide), Option.none_or, Option.none_or]
  have front : ("xml".toList ++ content.pairs.flatMap writePair).drop 3 =
      content.pairs.flatMap writePair := rfl
  simp only [readDeclaration, front, scanned, version, encoding, standalone]
  rfl

end XmlTemplate.Markup
