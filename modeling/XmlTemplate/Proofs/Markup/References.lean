import Mathlib.Tactic.SplitIfs
import XmlTemplate.Markup.Reference

/-!
Escaping and resolving. One escaped character is resolved to itself wherever it stands, so a whole
escaped text is. What is escaped holds none of the characters that end a run of text or a quoted
value, which is why neither is cut short.
-/

namespace XmlTemplate.Markup

variable {Reason Result Other : Type}

theorem bind_eq_ok_iff {first : Except Reason Result} {next : Result → Except Reason Other}
    {other : Other} :
    (first >>= next) = .ok other ↔ ∃ result, first = .ok result ∧ next result = .ok other := by
  cases first with
  | error fault =>
      constructor
      · intro failed
        cases failed
      · rintro ⟨result, failed, _⟩
        cases failed
  | ok result =>
      constructor
      · intro ran
        exact ⟨result, rfl, ran⟩
      · rintro ⟨other, same, ran⟩
        cases same
        exact ran

theorem map_eq_ok_iff {first : Except Reason Result} {change : Result → Other} {other : Other} :
    first.map change = .ok other ↔ ∃ result, first = .ok result ∧ change result = other := by
  cases first <;> simp [Except.map]

theorem map_error_eq_ok_iff {first : Except Reason Result} {change : Reason → Other}
    {result : Result} : first.mapError change = .ok result ↔ first = .ok result := by
  cases first <;> simp [Except.mapError]

namespace Reference

/-- Resolving from any offset on yields the characters. Offsets matter to faults alone. -/
def ResolvesTo (raw chars : List Char) : Prop :=
  ∀ size offset, resolveFrom size offset none raw = .ok chars

theorem resolves_to_nil : ResolvesTo [] [] := by
  intro size offset
  rfl

theorem resolves_to_plain {c : Char} {raw chars : List Char} (plain : c ≠ '&')
    (later : ResolvesTo raw chars) : ResolvesTo (c :: raw) (c :: chars) := by
  intro size offset
  rw [resolveFrom, if_neg plain, later]
  rfl

theorem resolves_to_reference {c : Char} (body : List Char) {raw chars : List Char}
    (unopened : '&' ∉ body) (unended : ';' ∉ body) (stands : ∀ start, referent start body = .ok c)
    (later : ResolvesTo raw chars) : ResolvesTo ('&' :: (body ++ ';' :: raw)) (c :: chars) := by
  have collected : ∀ (rest seen : List Char) (size offset start : Nat),
      '&' ∉ rest → ';' ∉ rest → seen.reverse ++ rest = body →
        resolveFrom size offset (some (start, seen)) (rest ++ ';' :: raw) = .ok (c :: chars) := by
    intro rest
    induction rest with
    | nil =>
        intro seen size offset start _ _ whole
        simp only [List.append_nil] at whole
        rw [List.nil_append, resolveFrom, if_pos rfl, whole, stands, later]
        rfl
    | cons d rest ih =>
        intro seen size offset start unopened unended whole
        simp only [List.mem_cons, not_or] at unopened unended
        rw [List.cons_append, resolveFrom, if_neg (Ne.symm unended.1), if_neg (Ne.symm unopened.1)]
        apply ih _ _ _ _ unopened.2 unended.2
        · rw [List.reverse_cons, List.append_assoc, List.singleton_append, whole]
  intro size offset
  rw [resolveFrom, if_pos rfl]
  exact collected body [] size _ _ unopened unended rfl

theorem resolves_to_escaped_in_text (c : Char) {raw chars : List Char}
    (later : ResolvesTo raw chars) : ResolvesTo (escapedInText c ++ raw) (c :: chars) := by
  unfold escapedInText
  split_ifs with left right ampersand
  · subst left
    exact resolves_to_reference "lt".toList (by decide) (by decide) (fun _ => rfl) later
  · subst right
    exact resolves_to_reference "gt".toList (by decide) (by decide) (fun _ => rfl) later
  · subst ampersand
    exact resolves_to_reference "amp".toList (by decide) (by decide) (fun _ => rfl) later
  · exact resolves_to_plain ampersand later

theorem resolves_to_escaped_in_value (c : Char) {raw chars : List Char}
    (later : ResolvesTo raw chars) : ResolvesTo (escapedInValue c ++ raw) (c :: chars) := by
  unfold escapedInValue
  split_ifs with single double
  · subst single
    exact resolves_to_reference "apos".toList (by decide) (by decide) (fun _ => rfl) later
  · subst double
    exact resolves_to_reference "quot".toList (by decide) (by decide) (fun _ => rfl) later
  · exact resolves_to_escaped_in_text c later

theorem resolves_to_escaped {escaped : Char → List Char} (chars : List Char)
    (each : ∀ c raw later, ResolvesTo raw later → ResolvesTo (escaped c ++ raw) (c :: later)) :
    ResolvesTo (chars.flatMap escaped) chars := by
  induction chars with
  | nil => exact resolves_to_nil
  | cons c rest ih =>
      rw [List.flatMap_cons]
      exact each c _ _ ih

theorem resolve_of_resolves_to {raw chars : List Char} (resolves : ResolvesTo raw chars) :
    resolve raw = .ok (String.ofList chars) := by
  rw [resolve, resolves]
  rfl

/-- Reading undoes the escaping of text. -/
theorem resolve_escape_text (text : String) : resolve (escapeText text).toList = .ok text := by
  rw [escapeText, String.toList_ofList]
  have resolves := resolves_to_escaped text.toList fun c _ _ => resolves_to_escaped_in_text c
  rw [resolve_of_resolves_to resolves, String.ofList_toList]

theorem resolve_escape_value (value : String) :
    resolve (escapeValue value).toList = .ok value := by
  rw [escapeValue, String.toList_ofList]
  have resolves := resolves_to_escaped value.toList fun c _ _ => resolves_to_escaped_in_value c
  rw [resolve_of_resolves_to resolves, String.ofList_toList]

theorem escape_value_injective {left right : String} (same : escapeValue left = escapeValue right) :
    left = right := by
  have resolved := resolve_escape_value left
  rw [same, resolve_escape_value right] at resolved
  exact (Except.ok.inj resolved).symm

theorem escape_value_eq_empty_iff (value : String) : escapeValue value = "" ↔ value = "" := by
  constructor
  · exact fun empty => escape_value_injective empty
  · intro empty
    rw [empty]
    rfl

@[simp] theorem escape_text_append (front back : String) :
    escapeText (front ++ back) = escapeText front ++ escapeText back := by
  apply String.toList_injective
  simp [escapeText]

theorem not_mem_escape_text (text : String) : '<' ∉ (escapeText text).toList := by
  simp only [escapeText, String.toList_ofList, List.mem_flatMap, not_exists, not_and]
  intro c _
  unfold escapedInText
  split_ifs with left
  · decide
  · decide
  · decide
  · simpa using Ne.symm left

theorem not_mem_escape_value (value : String) : '"' ∉ (escapeValue value).toList := by
  simp only [escapeValue, String.toList_ofList, List.mem_flatMap, not_exists, not_and]
  intro c _
  unfold escapedInValue escapedInText
  split_ifs with single double
  · decide
  · decide
  · decide
  · decide
  · decide
  · simpa using Ne.symm double

theorem escape_text_eq_empty_iff (text : String) : escapeText text = "" ↔ text = "" := by
  constructor
  · intro empty
    have resolved := resolve_escape_text text
    rw [empty] at resolved
    exact (Except.ok.inj resolved).symm
  · intro empty
    rw [empty]
    rfl

/-- A reference is longer than the one character that it stands for. -/
theorem length_of_resolve_from {size offset : Nat} {opened : Option (Nat × List Char)}
    {raw chars : List Char} (resolved : resolveFrom size offset opened raw = .ok chars) :
    chars.length ≤ raw.length ∧ (opened = none → '&' ∈ raw → chars.length < raw.length) ∧
      (opened ≠ none ∨ raw ≠ [] → chars ≠ []) := by
  fun_induction resolveFrom size offset opened raw generalizing chars with
  | case1 =>
      cases resolved
      simp
  | case2 => cases resolved
  | case3 offset rest ih =>
      obtain ⟨bound, -, more⟩ := ih resolved
      simp only [List.length_cons]
      exact ⟨by omega, fun _ _ => by omega, fun _ => more (.inl (by simp))⟩
  | case4 offset c rest plain ih =>
      obtain ⟨found, later, rfl⟩ := map_eq_ok_iff.1 resolved
      obtain ⟨bound, strict, -⟩ := ih later
      simp only [List.length_cons, List.mem_cons, Ne.symm plain, false_or]
      refine ⟨by omega, fun _ member => ?_, fun _ => by simp⟩
      have shorter := strict rfl member
      omega
  | case5 => cases resolved
  | case6 offset start body rest character found ih =>
      obtain ⟨chars, later, rfl⟩ := map_eq_ok_iff.1 resolved
      have bound := (ih later).1
      simp only [List.length_cons]
      exact ⟨by omega, by simp, by simp⟩
  | case7 => cases resolved
  | case8 offset start body c rest _ _ ih =>
      obtain ⟨bound, -, more⟩ := ih resolved
      simp only [List.length_cons]
      exact ⟨by omega, by simp, fun _ => more (.inl (by simp))⟩

/-- Only the empty text stands for the empty text. -/
theorem resolved_empty_iff {raw : List Char} {value : String} (resolved : resolve raw = .ok value) :
    value = "" ↔ raw = [] := by
  obtain ⟨chars, found, rfl⟩ := map_eq_ok_iff.1 resolved
  constructor
  · intro empty
    by_cases none_read : raw = []
    · exact none_read
    · have more := (length_of_resolve_from found).2.2 (.inr none_read)
      exact absurd (by simpa using congrArg String.toList empty) more
  · rintro rfl
    cases found
    rfl

theorem resolves_to_self {raw : List Char} (plain : '&' ∉ raw) : ResolvesTo raw raw := by
  induction raw with
  | nil => exact resolves_to_nil
  | cons c raw ih =>
      simp only [List.mem_cons, not_or] at plain
      exact resolves_to_plain (Ne.symm plain.1) (ih plain.2)

/-- A text stands for itself if and only if it holds no reference. -/
theorem resolve_self_iff {text : String} : resolve text.toList = .ok text ↔ '&' ∉ text.toList := by
  constructor
  · intro resolved member
    obtain ⟨chars, found, same⟩ := map_eq_ok_iff.1 resolved
    have shorter := (length_of_resolve_from found).2.1 rfl member
    rw [← same, String.toList_ofList] at shorter
    exact Nat.lt_irrefl _ shorter
  · intro plain
    rw [resolve_of_resolves_to (resolves_to_self plain), String.ofList_toList]

end Reference
end XmlTemplate.Markup
