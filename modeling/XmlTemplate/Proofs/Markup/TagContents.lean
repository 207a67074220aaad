import XmlTemplate.Proofs.Markup.Readable

/-!
Where a written tag ends is fixed by what it says. A content cut off earlier lacks a part of the
name or a pair, for a pair is only there with its closing quote; and a content that goes on has a
longer name or something after the last pair, which is another pair or a fault.
-/

namespace XmlTemplate.Markup

theorem prefix_append_cases {Part : Type} {cut front back : List Part}
    (within : cut <+: front ++ back) :
    cut <+: front ∧ cut ≠ front ∨ ∃ more, cut = front ++ more ∧ more <+: back := by
  rcases List.prefix_or_prefix_of_prefix within (List.prefix_append front back) with inside | beyond
  · by_cases whole : cut = front
    · exact .inr ⟨[], by rw [whole, List.append_nil], List.nil_prefix⟩
    · exact .inl ⟨inside, whole⟩
  · obtain ⟨more, rfl⟩ := beyond
    exact .inr ⟨more, rfl, (List.prefix_append_right_inj front).1 within⟩

section
variable {size : Nat} {pair : List Char × List Char} {pairs : List (List Char × List Char)}
  {cut more : List Char}

/-- A key without a value is no pair. -/
theorem scan_stuck {text rest : List Char} {c : Char}
    (keyed : text.dropWhile Text.isMarkupBlank = c :: rest)
    (stuck : ∀ valued, (rest.dropWhile Tag.continuesKey).dropWhile Text.isMarkupBlank =
      '=' :: valued →
        ∃ fault, Tag.value size (valued.dropWhile Text.isMarkupBlank) = .error fault) :
    (Tag.scan size text).attributes = [] := by
  rw [Tag.scan]
  split
  · rfl
  · rename_i found
    rw [keyed] at found
    cases found
    split
    · rename_i valued equals
      obtain ⟨fault, refused⟩ := stuck valued equals
      split
      · rfl
      · rename_i quoted
        rw [refused] at quoted
        cases quoted
    · rfl

theorem value_of_cut_quote {value : List Char} (unquoted : '"' ∉ value)
    (within : cut <+: '"' :: (value ++ ['"'])) (apart : cut ≠ '"' :: (value ++ ['"'])) :
    ∃ fault, Tag.value size (cut.dropWhile Text.isMarkupBlank) = .error fault := by
  cases cut with
  | nil => exact ⟨_, rfl⟩
  | cons c inner =>
      obtain ⟨rfl, inside⟩ := List.cons_prefix_cons.1 within
      have absent : '"' ∉ inner := by
        rcases List.prefix_concat_iff.1 inside with whole | early
        · exact absurd (congrArg ('"' :: ·) whole) apart
        · exact fun member => unquoted (early.subset member)
      have open_quote : Text.cutAt? '"' inner = none := by
        cases found : Text.cutAt? '"' inner with
        | none => rfl
        | some sides =>
            have split := Text.eq_of_cut_at found
            exact absurd (split ▸ List.mem_append_right _ (.head _)) absent
      refine ⟨.missingQuote size '"', ?_⟩
      change Tag.value size ('"' :: inner) = _
      rw [Tag.value, if_pos (.inl rfl), open_quote]

theorem scan_cut_pair (holds : IsPair pair) (within : cut <+: writePair pair)
    (apart : cut ≠ writePair pair) : (Tag.scan size cut).attributes = [] := by
  rcases pair with ⟨_ | ⟨c, rest⟩, value⟩
  · cases holds.key
  · obtain ⟨shown, follows⟩ := holds.key
    have written : writePair (c :: rest, value) =
        ' ' :: c :: (rest ++ '=' :: '"' :: (value ++ ['"'])) := by simp [writePair]
    rw [written] at within apart
    rcases cut with _ | ⟨blank, _ | ⟨d, later⟩⟩
    · rw [Tag.scan]
      rfl
    · obtain ⟨rfl, -⟩ := List.cons_prefix_cons.1 within
      rw [Tag.scan]
      rfl
    · obtain ⟨rfl, beyond⟩ := List.cons_prefix_cons.1 within
      obtain ⟨rfl, inner⟩ := List.cons_prefix_cons.1 beyond
      apply scan_stuck
      · rw [List.dropWhile_cons_of_pos rfl, List.dropWhile_cons_of_neg (by simp [shown])]
      · intro valued equals
        rcases prefix_append_cases inner with ⟨inside, -⟩ | ⟨more, rfl, further⟩
        · have none_left : later.dropWhile Tag.continuesKey = [] :=
            List.dropWhile_eq_nil_iff.2 fun e member => follows e (inside.subset member)
          rw [none_left] at equals
          cases equals
        · rw [List.dropWhile_append_of_pos follows] at equals
          cases more with
          | nil => cases equals
          | cons mark content =>
              obtain ⟨rfl, quoted⟩ := List.cons_prefix_cons.1 further
              cases equals
              exact value_of_cut_quote holds.value quoted fun whole => apart (by rw [whole])

theorem scan_cut_pairs (size : Nat) (each : ∀ pair ∈ pairs, IsPair pair)
    (within : cut <+: pairs.flatMap writePair) (apart : cut ≠ pairs.flatMap writePair) :
    (Tag.scan size cut).attributes.length < pairs.length := by
  induction pairs generalizing cut with
  | nil => exact absurd (List.prefix_nil.1 within) apart
  | cons pair pairs ih =>
      rw [List.flatMap_cons] at within apart
      have first := each pair (.head _)
      rcases prefix_append_cases within with ⟨inside, whole⟩ | ⟨more, rfl, further⟩
      · rw [scan_cut_pair first inside whole]
        exact Nat.succ_pos _
      · have later := ih (fun other member => each other (.tail _ member)) further
          fun whole => apart (by rw [whole])
        obtain ⟨start, scanned⟩ := scan_pair size more first
        rw [scanned]
        exact Nat.succ_lt_succ later

/-- Whatever stands after the pairs is another pair or a fault. -/
theorem scan_shown {c : Char} {rest : List Char} (shown : Text.isMarkupBlank c = false)
    (faultless : (Tag.scan size (c :: rest)).fault? = none) :
    0 < (Tag.scan size (c :: rest)).attributes.length := by
  revert faultless
  rw [Tag.scan]
  split
  · rename_i empty
    rw [List.dropWhile_cons_of_neg (by simp [shown])] at empty
    cases empty
  · split
    · split
      · rintro ⟨⟩
      · exact fun _ => Nat.succ_pos _
    · rintro ⟨⟩

section
variable {name content : List Char} {raws : List RawAttribute}

theorem shown_of_unblank (unblank : ∀ d ∈ name, Text.isMarkupBlank d = false) :
    ∀ d ∈ name, (!Text.isMarkupBlank d) = true := by
  intro d member
  rw [unblank d member]
  rfl

/-- A content that stops early lacks a part of the name or a pair. -/
theorem tag_content_within (unblank : ∀ d ∈ name, Text.isMarkupBlank d = false)
    (each : ∀ pair ∈ pairs, IsPair pair) (inside : content <+: writeTagContent name pairs)
    (named : Tag.name content = name) (scanned : Tag.attributes content = ⟨raws, none⟩)
    (count : raws.length = pairs.length) : content = writeTagContent name pairs := by
  have all_shown := shown_of_unblank unblank
  rcases prefix_append_cases inside with ⟨early, shorter⟩ | ⟨cut, rfl, among⟩
  · have whole : Tag.name content = content :=
      List.takeWhile_eq_self_iff.2 fun d member => all_shown d (early.subset member)
    exact absurd (whole.symm.trans named) shorter
  · have after : Tag.afterName (name ++ cut) = cut := by
      rw [Tag.afterName, List.dropWhile_append_of_pos all_shown]
      cases cut with
      | nil => rfl
      | cons d cut =>
          cases pairs with
          | nil => exact absurd (List.prefix_nil.1 among) (List.cons_ne_nil _ _)
          | cons pair pairs =>
              obtain ⟨rfl, -⟩ := List.cons_prefix_cons.1 among
              rfl
    rw [Tag.attributes, after] at scanned
    by_cases whole : cut = pairs.flatMap writePair
    · rw [whole]
      rfl
    · have fewer := scan_cut_pairs (Text.size (name ++ cut)) each among whole
      rw [scanned, count] at fewer
      exact absurd fewer (Nat.lt_irrefl _)

/-- A content that goes on has a longer name or another pair. -/
theorem tag_content_beyond {c : Char} (more : List Char)
    (unblank : ∀ d ∈ name, Text.isMarkupBlank d = false) (each : ∀ pair ∈ pairs, IsPair pair)
    (shown : Text.isMarkupBlank c = false)
    (named : Tag.name (writeTagContent name pairs ++ c :: more) = name)
    (scanned : Tag.attributes (writeTagContent name pairs ++ c :: more) = ⟨raws, none⟩) :
    raws.length ≠ pairs.length := by
  have all_shown := shown_of_unblank unblank
  cases pairs with
  | nil =>
      rw [Tag.name, writeTagContent, List.flatMap_nil, List.append_nil,
        List.takeWhile_append_of_pos all_shown,
        List.takeWhile_cons_of_pos (by simp [shown])] at named
      exact absurd named (by simp)
  | cons pair pairs =>
      have rest : Tag.afterName (writeTagContent name (pair :: pairs) ++ c :: more) =
          (pair :: pairs).flatMap writePair ++ c :: more := by
        rw [Tag.afterName, writeTagContent, List.append_assoc,
          List.dropWhile_append_of_pos all_shown]
        rfl
      obtain ⟨found, same, whole⟩ := scan_pairs_append _ each (c :: more)
      rw [Tag.attributes, rest, whole, Scan.mk.injEq] at scanned
      have another := scan_shown shown scanned.2
      have longer := congrArg List.length scanned.1
      have among := congrArg List.length same
      rw [List.length_append] at longer
      rw [List.length_map] at among
      omega

/-- A content that a written start tag and what follows it begin with is that of the tag if its name
and the number of its pairs are. -/
theorem tag_content_unique {rest : List Char} {c : Char}
    (unblank : ∀ d ∈ name, Text.isMarkupBlank d = false) (each : ∀ pair ∈ pairs, IsPair pair)
    (shown : Text.isMarkupBlank c = false)
    (within : content <+: writeTagContent name pairs ++ c :: rest)
    (named : Tag.name content = name) (scanned : Tag.attributes content = ⟨raws, none⟩)
    (count : raws.length = pairs.length) : content = writeTagContent name pairs := by
  rcases prefix_append_cases within with ⟨inside, -⟩ | ⟨more, rfl, further⟩
  · exact tag_content_within unblank each inside named scanned count
  · cases more with
    | nil => exact List.append_nil _
    | cons d more =>
        obtain ⟨rfl, -⟩ := List.cons_prefix_cons.1 further
        exact absurd count (tag_content_beyond more unblank each shown named scanned)

end

end

section
variable {scope : Scope} {around : Surroundings} {name : Name} {attributes : Attributes}
  {inner : OpenElement}

theorem content_of_read_tag {content rest : List Char} {c : Char}
    (read : readTag scope content = .ok inner) (spells : inner.Spells name attributes)
    (shown : Text.isMarkupBlank c = false)
    (within : content <+: tagContent name attributes ++ c :: rest) :
    content = tagContent name attributes := by
  have spelled := spelled_of_spells read spells
  have pairs := is_pair_of_stands fun item member => (spelled.keys item member).2
  obtain ⟨raws, scanned, -, written, element, becomes, -, -, -⟩ := read_tag_iff.1 read
  have split := (read_element_name_iff.1 element).1
  have front : Tag.name content = name.written.toList := by
    rw [← written, ← written_of_split split]
    exact congrArg (·.written.toList) spells.named
  have length := congrArg List.length spells.same
  rw [List.length_map, List.length_map] at length
  apply tag_content_unique spelled.unblank pairs shown within front scanned
  rw [becomes.length_eq, length, List.length_map]

theorem knows_of_read {written : List Char} (reflects : scope.Reflects around)
    (read : readElementName scope written = .ok name) :
    ∀ lead ∈ name.nsPrefix, around.Knows lead := by
  obtain ⟨-, given⟩ := read_element_name_iff.1 read
  intro lead named
  rw [Option.mem_def] at named
  rw [named] at given
  obtain ⟨uri, -, found⟩ := given
  obtain ⟨some_lead, known⟩ := (prefix_uri_of_reflects reflects).1 found
  exact ⟨some_lead, by rw [known]; exact Option.some_ne_none _⟩

theorem item_knows_of_read {raw : RawAttribute} {item : Attribute}
    (reflects : scope.Reflects around) (becomes : raw.Becomes scope item)
    (other : item.declaresPrefix = false) : ∀ lead ∈ item.name.nsPrefix, around.Knows lead := by
  obtain ⟨-, given⟩ := read_attribute_name_iff.1 becomes.1
  intro lead named
  rw [Option.mem_def] at named
  have not_xmlns : lead ≠ "xmlns" := by simpa [Attribute.declaresPrefix, named] using other
  rw [named] at given
  dsimp only at given
  rw [if_neg not_xmlns] at given
  obtain ⟨uri, -, found⟩ := given
  obtain ⟨some_lead, known⟩ := (prefix_uri_of_reflects reflects).1 found
  exact ⟨some_lead, by rw [known]; exact Option.some_ne_none _⟩

/-- A written start tag that is read with its names and values can be read back. -/
theorem readable_of_read_tag (reflects : scope.Reflects around)
    (read : readTag scope (tagContent name attributes) = .ok inner)
    (spells : inner.Spells name attributes) :
    ReadableTag (attributes :: around) name attributes ∧
      inner.scope.Reflects (attributes :: around) := by
  have spelled := spelled_of_spells read spells
  obtain ⟨raws, scanned, entered, -, element, becomes, -, -, -⟩ := read_tag_iff.1 read
  have pairs := is_pair_of_stands fun item member => (spelled.keys item member).2
  obtain ⟨raws', scanned', written⟩ := tag_attributes spelled.unblank pairs
  have one : raws' = raws := congrArg Scan.attributes (scanned'.symm.trans scanned)
  subst one
  have writes := writes_of_pairs written fun item member => (spelled.keys item member).1
  have reflected := enter_answers reflects entered writes
  have front : inner.element.name.nsPrefix = name.nsPrefix := congrArg (·.nsPrefix) spells.named
  have known := knows_of_read reflected element
  rw [front] at known
  have items : ∀ item ∈ attributes, item.declaresPrefix = false →
      ∀ lead ∈ item.name.nsPrefix, Surroundings.Knows (attributes :: around) lead := by
    -- The same attribute was read, perhaps with another namespace.
    intro item member
    have among : item.unresolved ∈ inner.element.attributes.map Attribute.unresolved :=
      spells.same ▸ List.mem_map_of_mem member
    obtain ⟨other, inside, same⟩ := List.mem_map.1 among
    obtain ⟨raw, -, found⟩ := becomes_of_mem becomes inside
    have prefixes : other.name.nsPrefix = item.name.nsPrefix :=
      congrArg (·.name.nsPrefix) same
    have knows := item_knows_of_read reflected found
    rw [Attribute.declaresPrefix, prefixes] at knows
    exact knows
  refine ⟨⟨spelled.splits, spelled.unblank, known, ?_, spelled.distinct⟩, reflected⟩
  intro item member
  obtain ⟨split, stands⟩ := spelled.keys item member
  exact ⟨split, stands, items item member, (enter_iff writes).1 ⟨_, entered⟩ item member⟩

end

/-- A value that was not escaped is read up to its first quote. -/
theorem scan_value {key : List Char} (size : Nat) (stands : StandsAsKey key)
    (value more : List Char) : ∃ raw later,
      (Tag.scan size (writePair (key, value) ++ more)).attributes = raw :: later ∧
        raw.key = key ∧ '"' ∉ raw.value := by
  by_cases quoted : '"' ∈ value
  · obtain ⟨front, back, rfl, first⟩ := List.eq_append_cons_of_mem quoted
    have early : writePair (key, front ++ '"' :: back) ++ more =
        writePair (key, front) ++ (back ++ '"' :: more) := by simp [writePair]
    obtain ⟨start, scanned⟩ := scan_pair size (back ++ '"' :: more)
      (⟨stands, first⟩ : IsPair (key, front))
    rw [early, scanned]
    exact ⟨_, _, rfl, rfl, first⟩
  · obtain ⟨start, scanned⟩ := scan_pair size more (⟨stands, quoted⟩ : IsPair (key, value))
    rw [scanned]
    exact ⟨_, _, rfl, rfl, quoted⟩

theorem unquoted_of_declared {front : List (List Char × List Char)} {value : String} {size : Nat}
    {text more : List Char} (key : String) (stands : StandsAsKey key.toList)
    (each : ∀ pair ∈ front, IsPair pair ∧ pair.1 ≠ key.toList)
    (split : text = front.flatMap writePair ++
      ((declaredPair key (some value)).flatMap writePair ++ more))
    (read : declaredValue (Tag.scan size text) key = .ok (some value)) : '"' ∉ value.toList := by
  have written : (declaredPair key (some value)).flatMap writePair =
      writePair (key.toList, value.toList) := by simp [declaredPair]
  obtain ⟨raws, same, scanned⟩ := scan_pairs_append size (fun pair member => (each pair member).1)
    (writePair (key.toList, value.toList) ++ more)
  obtain ⟨raw, later, begins, named, unquoted⟩ := scan_value size stands value.toList more
  have apart : raws.find? (·.key == key.toList) = none := by
    rw [List.find?_eq_none]
    intro before member
    have among : before.pair ∈ front := same ▸ List.mem_map_of_mem member
    have other : before.key ≠ key.toList := (each _ among).2
    simpa using other
  have found : (raws ++ raw :: later).find? (·.key == key.toList) = some raw := by
    rw [List.find?_append, apart, Option.none_or, List.find?_cons_of_pos (by simp [named])]
  rw [split, written, scanned, begins, declaredValue] at read
  dsimp only at read
  rw [found] at read
  cases read
  rw [String.toList_ofList]
  exact unquoted

theorem declared_pair_is_pair {key : String} {value : Option String}
    (stands : StandsAsKey key.toList) (unquoted : ∀ content ∈ value, '"' ∉ content.toList)
    {other : String} (apart : key.toList ≠ other.toList) :
    ∀ pair ∈ declaredPair key value, IsPair pair ∧ pair.1 ≠ other.toList := by
  intro pair member
  cases value with
  | none => cases member
  | some content =>
      rw [declaredPair, Option.map_some, Option.toList_some, List.mem_singleton] at member
      subst member
      exact ⟨⟨stands, unquoted content rfl⟩, apart⟩

theorem unquoted_of_version {version : String} {size : Nat} {more : List Char}
    (stands : StandsAsKey "version".toList)
    (read : declaredVersion (Tag.scan size
      ((declaredPair "version" (some version)).flatMap writePair ++ more)) = .ok version) :
    '"' ∉ version.toList := by
  have written : (declaredPair "version" (some version)).flatMap writePair =
      writePair ("version".toList, version.toList) := by simp [declaredPair]
  obtain ⟨raw, later, begins, named, unquoted⟩ := scan_value size stands version.toList more
  rw [written, declaredVersion, begins] at read
  simp only [named, if_true, Except.ok.injEq] at read
  rw [← read, String.toList_ofList]
  exact unquoted

theorem unquoted_of_read_declaration {content : Declaration}
    (read : readDeclaration ("xml".toList ++ content.pairs.flatMap writePair) = .ok content) :
    ∀ value ∈ content.values, '"' ∉ value.toList := by
  have front : ("xml".toList ++ content.pairs.flatMap writePair).drop 3 =
      content.pairs.flatMap writePair := rfl
  unfold readDeclaration at read
  simp only [bind_eq_ok_iff, front] at read
  obtain ⟨version, first, encoding, second, standalone, third, same⟩ := read
  cases same
  generalize Text.size _ = size at first second third
  have pairs : (Declaration.mk version encoding standalone).pairs.flatMap writePair =
      (declaredPair "version" (some version)).flatMap writePair ++
        ((declaredPair "encoding" encoding).flatMap writePair ++
          (declaredPair "standalone" standalone).flatMap writePair) := by
    rw [Declaration.pairs, List.flatMap_append, List.flatMap_append]
  have version_stands : StandsAsKey "version".toList := by decide +kernel
  have encoding_stands : StandsAsKey "encoding".toList := by decide +kernel
  have start : '"' ∉ version.toList := by
    rw [pairs] at first
    exact unquoted_of_version version_stands first
  have versions : ∀ content ∈ some version, '"' ∉ content.toList := by
    rintro content ⟨⟩
    exact start
  have middle : ∀ value ∈ encoding, '"' ∉ value.toList := by
    rintro value ⟨⟩
    exact unquoted_of_declared "encoding" encoding_stands
      (declared_pair_is_pair version_stands versions (by decide)) pairs second
  have last : ∀ value ∈ standalone, '"' ∉ value.toList := by
    rintro value ⟨⟩
    apply unquoted_of_declared "standalone" (by decide +kernel) _ _ third
    · exact declaredPair "version" (some version) ++ declaredPair "encoding" encoding
    · exact []
    · intro pair member
      rcases List.mem_append.1 member with among | among
      · exact declared_pair_is_pair version_stands versions (by decide) pair among
      · exact declared_pair_is_pair encoding_stands middle (by decide) pair among
    · rw [pairs, List.flatMap_append, List.append_nil, List.append_assoc]
  intro value member
  rcases List.mem_cons.1 member with rfl | later
  · exact start
  · rcases List.mem_append.1 later with among | among
    · exact middle value (Option.mem_toList.1 among)
    · exact last value (Option.mem_toList.1 among)

end XmlTemplate.Markup
