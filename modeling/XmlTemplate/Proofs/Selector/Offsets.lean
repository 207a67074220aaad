import XmlTemplate.Proofs.Selector.GrammarSoundness
import XmlTemplate.Proofs.Selector.OffsetReader

/-!
Offsets of the selector reader are sizes of fronts of the text. The reader by offsets and the reader
of ends of the text go side by side: at every point the offset of the one is that of the end that is
left to the other. So all slices lie between characters, every loop ends, and the position of a
fault is the size of a front.
-/

namespace XmlTemplate.Selector.ByOffset

def place (text rest : List Char) : Nat := Text.size text - Text.size rest

def leftAt {Value : Type} : Outcome (Value × List Char) → List Char
  | .ok (_, left) => left
  | .error stuck => stuck.left

def located {Value : Type} (text : List Char) :
    Outcome (Value × List Char) → Except Halt (Value × Nat)
  | .ok (value, left) => .ok (value, place text left)
  | .error stuck => .error (.stuck (place text stuck.left) stuck.fault)

/-- Started where an end of the text begins, the reader comes to the outcome, which leaves an end of
that end. -/
def Follows {Value : Type} (text rest : List Char) (reader : Reader Value)
    (outcome : Outcome (Value × List Char)) : Prop :=
  rest <:+ text → leftAt outcome <:+ rest ∧ reader (place text rest) = located text outcome

theorem place_append (front back : List Char) : place (front ++ back) back = Text.size front := by
  rw [place, Text.size_append, Nat.add_sub_cancel]

theorem place_self (text : List Char) : place text text = 0 := Nat.sub_self _

/-- Passing a front of what is left moves the offset by its size. -/
theorem place_advance {text front back : List Char} (ends : front ++ back <:+ text) :
    place text (front ++ back) + Text.size front = place text back := by
  obtain ⟨before, rfl⟩ := ends
  rw [place_append, ← List.append_assoc, place_append, Text.size_append]

theorem slice_between {text : List Char} (front back : List Char)
    (ends : front ++ back <:+ text) :
    slice? text (place text (front ++ back)) (place text back) = some front := by
  obtain ⟨before, rfl⟩ := ends
  refine slice?_eq_some_iff.2 ⟨before, back, (List.append_assoc _ _ _).symm, place_append _ _, ?_⟩
  rw [← List.append_assoc, place_append]

theorem at_end_iff {text rest : List Char} (ends : rest <:+ text) :
    Text.size text ≤ place text rest ↔ rest = [] := by
  obtain ⟨before, rfl⟩ := ends
  rw [place_append, Text.size_append]
  cases rest with
  | nil => simp
  | cons c rest =>
      have someBytes := c.utf8Size_pos
      rw [Text.size_cons]
      simp only [reduceCtorEq, iff_false]
      omega

theorem find?_eq (mark : Char) (rest : List Char) :
    find? mark rest = (Text.cutAt? mark rest).map fun (front, _) => Text.size front := by
  induction rest with
  | nil => rfl
  | cons c rest ih =>
      by_cases found : c = mark
      · simp [find?, Text.cutAt?, found]
      · simp [find?, Text.cutAt?, found, ih, Function.comp_def]

namespace Follows

variable {Value Other : Type} {text rest left : List Char}
  {outcome : Outcome (Value × List Char)}

theorem result (value : Value) : Follows text rest (pure value) (.ok (value, rest)) :=
  fun _ => ⟨List.suffix_rfl, rfl⟩

theorem halt (fault : Fault) :
    Follows text rest (fail fault : Reader Value) (.error ⟨rest, fault⟩) :=
  fun _ => ⟨List.suffix_rfl, rfl⟩

/-- A fault of the first reader is the fault of the whole. -/
theorem stops {first : Reader Other} {next : Other → Reader Value} {stuck : Stuck}
    (begun : Follows text rest first (.error stuck)) :
    Follows text rest (first >>= next) (.error stuck) := by
  intro ends
  obtain ⟨shorter, runs⟩ := begun ends
  refine ⟨shorter, ?_⟩
  change (first (place text rest) >>= fun (value, offset) => next value offset) = _
  rw [runs]
  rfl

theorem continues {first : Reader Other} {next : Other → Reader Value} {value : Other}
    (begun : Follows text rest first (.ok (value, left)))
    (goes_on : left <:+ rest → Follows text left (next value) outcome) :
    Follows text rest (first >>= next) outcome := by
  intro ends
  obtain ⟨shorter, runs⟩ := begun ends
  obtain ⟨further, runs_on⟩ := goes_on shorter (shorter.trans ends)
  refine ⟨further.trans shorter, ?_⟩
  change (first (place text rest) >>= fun (value, offset) => next value offset) = _
  rw [runs]
  exact runs_on

/-- Both readers go on from what the first ones leave. -/
theorem bind {first : Reader Other} {next : Other → Reader Value}
    {found : Outcome (Other × List Char)} {follow : Other × List Char → Outcome (Value × List Char)}
    (begun : Follows text rest first found)
    (goes_on : ∀ value left, Follows text left (next value) (follow (value, left))) :
    Follows text rest (first >>= next) (found >>= follow) := by
  cases found with
  | error stuck => exact stops begun
  | ok pair => exact continues begun fun _ => goes_on pair.1 pair.2

/-- An operation that only moves from one end of the text to a shorter one. -/
theorem moved {first : Reader Other} {next : Other → Reader Value} {value : Other}
    (shorter : left <:+ rest)
    (moves : rest <:+ text → first (place text rest) = .ok (value, place text left))
    (goes_on : Follows text left (next value) outcome) :
    Follows text rest (first >>= next) outcome :=
  continues (fun ends => ⟨shorter, moves ends⟩) fun _ => goes_on

theorem here {next : Nat → Reader Value}
    (goes_on : Follows text rest (next (place text rest)) outcome) :
    Follows text rest (get >>= next) outcome :=
  moved List.suffix_rfl (fun _ => rfl) goes_on

/-- A front of what is left is passed by moving on by its size. -/
theorem advance (front : List Char) {bytes : Nat} {next : Unit → Reader Value}
    (size : bytes = Text.size front) (goes_on : Follows text left (next ()) outcome) :
    Follows text (front ++ left) (advance bytes >>= next) outcome := by
  refine moved (List.suffix_append _ _) (fun ends => ?_) goes_on
  change Except.ok ((), place text (front ++ left) + bytes) = _
  rw [size, place_advance ends]

/-- The slice from where the longer end began is what has been passed. -/
theorem slice {front : List Char} {next : List Char → Reader Value} (whole : front ++ left = rest)
    (ends : rest <:+ text) (goes_on : Follows text left (next front) outcome) :
    Follows text left
      (slice text (place text rest) (place text left) >>= next) outcome := by
  subst whole
  refine moved List.suffix_rfl (fun _ => ?_) goes_on
  rw [ByOffset.slice, slice_between front left ends]
  rfl

theorem remaining {next : List Char → Reader Value}
    (goes_on : Follows text rest (next rest) outcome) :
    Follows text rest (remaining text >>= next) outcome := by
  refine moved List.suffix_rfl (fun ends => ?_) goes_on
  have whole : slice? text (place text rest) (Text.size text) = some rest := by
    have all_ends : rest ++ [] <:+ text := by rwa [List.append_nil]
    have between := slice_between rest [] all_ends
    rwa [List.append_nil] at between
  change (ByOffset.slice text (place text rest) (Text.size text)) (place text rest) = _
  rw [ByOffset.slice, whole]
  rfl

theorem peek {next : Option Char → Reader Value}
    (goes_on : Follows text rest (next rest.head?) outcome) :
    Follows text rest (peek text >>= next) outcome := by
  rw [ByOffset.peek, bind_assoc]
  refine remaining ?_
  rwa [pure_bind]

theorem at_end {next : Bool → Reader Value}
    (goes_on : Follows text rest (next (decide (rest = []))) outcome) :
    Follows text rest (atEnd text >>= next) outcome := by
  refine moved List.suffix_rfl (fun ends => ?_) goes_on
  change Except.ok (decide (Text.size text ≤ place text rest), _) = _
  rw [decide_eq_decide.2 (at_end_iff ends)]

/-- A token that comes next is passed. -/
theorem eat_next (token : List Char) {hit miss : Reader Value}
    (goes_on : Follows text left hit outcome) :
    Follows text (token ++ left) (do if ← eat text token then hit else miss) outcome := by
  rw [eat, bind_assoc]
  refine remaining ?_
  rw [if_pos (List.isPrefixOf_iff_prefix.2 (List.prefix_append _ _)), bind_assoc]
  refine advance token rfl ?_
  rwa [pure_bind, if_pos rfl]

theorem eat_none {token : List Char} {hit miss : Reader Value}
    (absent : ∀ left, rest = token ++ left → False) (goes_on : Follows text rest miss outcome) :
    Follows text rest (do if ← eat text token then hit else miss) outcome := by
  have elsewhere : ¬token.isPrefixOf rest = true := fun found =>
    let ⟨left, same⟩ := List.isPrefixOf_iff_prefix.1 found
    absent left same.symm
  rw [eat, bind_assoc]
  refine remaining ?_
  rwa [if_neg elsewhere, pure_bind, if_neg Bool.false_ne_true]

/-- Each character that is passed takes a round; the last round finds the end of the run. -/
theorem pass_rounds {width : Char → Nat} {holds : Char → Bool}
    (widths : ∀ c, holds c = true → width c = c.utf8Size) {rounds : Nat}
    (enough : rest.length < rounds) {next : Unit → Reader Value}
    (goes_on : Follows text (rest.dropWhile holds) (next ()) outcome) :
    Follows text rest (passWhile text width holds rounds >>= next) outcome := by
  induction rounds generalizing rest with
  | zero => exact absurd enough (Nat.not_lt_zero _)
  | succ rounds ih =>
      rw [passWhile, bind_assoc]
      refine peek ?_
      cases rest with
      | nil =>
          simp only [List.head?_nil, pure_bind]
          exact goes_on
      | cons c rest =>
          simp only [List.head?_cons]
          by_cases passes : holds c = true
          · rw [if_pos passes, bind_assoc]
            refine advance [c] (by simp [widths c passes]) (ih ?_ ?_)
            · exact Nat.lt_of_succ_lt_succ enough
            · rwa [List.dropWhile_cons_of_pos passes] at goes_on
          · rw [if_neg passes, pure_bind]
            rwa [List.dropWhile_cons_of_neg passes] at goes_on

/-- There are enough rounds for every end of the text. -/
theorem of_rounds {reader : Reader Value}
    (enough : rest.length < rounds text → Follows text rest reader outcome) :
    Follows text rest reader outcome :=
  fun ends => enough (Nat.lt_succ_of_le ends.length_le) ends

theorem pass_while {width : Char → Nat} {holds : Char → Bool}
    (widths : ∀ c, holds c = true → width c = c.utf8Size) {next : Unit → Reader Value}
    (goes_on : Follows text (rest.dropWhile holds) (next ()) outcome) :
    Follows text rest (passWhile text width holds (rounds text) >>= next) outcome :=
  of_rounds fun enough => pass_rounds widths enough goes_on

theorem pass_blanks {next : Unit → Reader Value}
    (goes_on : Follows text (skipBlanks rest) (next ()) outcome) :
    Follows text rest (passBlanks text >>= next) outcome :=
  pass_while (fun _ _ => rfl) goes_on

end Follows

section
variable (text rest : List Char)

theorem demand_follows (token : Char) :
    Follows text rest (demand text token) (expect token rest) := by
  unfold demand expect
  split
  · split
    · rename_i c rest same
      subst same
      exact .eat_next [c] (.result ())
    · rename_i c rest other
      refine .eat_none (fun left same => ?_) (.halt _)
      exact other (List.cons.inj same).1
  · exact .eat_none (fun left same => List.cons_ne_nil _ _ same.symm) (.halt _)

theorem name_follows : Follows text rest (takeName text) (readName rest) := by
  intro ends
  refine (?_ : Follows text rest _ _) ends
  refine .here (.peek ?_)
  cases rest with
  | nil => exact .halt _
  | cons c rest =>
      simp only [List.head?_cons, readName]
      by_cases begins : beginsName c = true
      · have parts : (c :: rest.takeWhile continuesName) ++ rest.dropWhile continuesName =
            c :: rest := by
          rw [List.cons_append, List.takeWhile_append_dropWhile]
        rw [if_pos begins, if_pos begins]
        refine .advance [c] (by simp) (.pass_while (fun _ _ => rfl) (.here ?_))
        exact .slice parts ends (.result _)
      · rw [if_neg begins, if_neg begins]
        exact .halt _

theorem qualified_name_follows :
    Follows text rest (takeQualifiedName text) (readQualifiedName rest) := by
  refine .bind (name_follows text rest) fun name left => ?_
  dsimp only
  split
  · refine .eat_next [':'] ?_
    exact .bind (name_follows text _) fun localName left => .result _
  · rename_i absent
    exact .eat_none absent (.result _)

theorem type_test_follows (name : String) :
    Follows text rest (takeTypeTest text name) (readTypeTest name rest) := by
  refine .pass_blanks (.bind (demand_follows text _ ')') fun _ left => ?_)
  cases typeTest? name with
  | none => exact .halt _
  | some test => exact .result test

theorem test_follows : Follows text rest (takeTest text) (readTest rest) := by
  unfold takeTest readTest
  split
  · exact .eat_next ['*'] (.result _)
  · rename_i absent
    refine .eat_none absent (.bind (name_follows text _) fun name left => ?_)
    dsimp only
    split
    · exact .eat_next ['('] (type_test_follows text _ name)
    · refine .eat_none (by simp) (.eat_next [':'] ?_)
      exact .eat_next ['*'] (.result _)
    · rename_i absent
      refine .eat_none (by simp) (.eat_next [':'] (.eat_none absent ?_))
      exact .bind (name_follows text _) fun localName left => .result _
    · rename_i unopened _ unmarked
      exact .eat_none unopened (.eat_none unmarked (.result _))

theorem size_of_digit {c : Char} (digit : c.isDigit = true) : 1 = c.utf8Size := by
  refine (Char.utf8Size_eq_one_iff.2 ?_).symm
  simp only [Char.isDigit, Bool.and_eq_true, decide_eq_true_eq] at digit
  exact UInt32.le_trans digit.2 (by decide)

theorem position_follows : Follows text rest (takePosition text) (readPosition rest) := by
  intro ends
  refine (?_ : Follows text rest _ _) ends
  refine .here (.pass_while (fun _ => size_of_digit) (.here ?_))
  refine .slice List.takeWhile_append_dropWhile ends ?_
  unfold readPosition
  dsimp only
  split
  · exact .halt _
  · split
    · exact .halt _
    · exact .result _

theorem quoted_follows {quote : Char} (plain : quote.utf8Size = 1) :
    Follows text rest (takeQuoted text quote) (match Text.cutAt? quote rest with
      | some (content, after) => .ok (String.ofList content, after)
      | none => .error ⟨rest, .unterminatedString⟩) := by
  refine .remaining ?_
  rw [find?_eq]
  cases cut : Text.cutAt? quote rest with
  | none => exact .halt _
  | some parts =>
      obtain ⟨content, after⟩ := parts
      have whole : rest = (content ++ [quote]) ++ after := by
        rw [Text.eq_of_cut_at cut, List.append_assoc, List.singleton_append]
      have inner : slice? rest 0 (Text.size content) = some content :=
        slice?_eq_some_iff.2 ⟨[], [quote] ++ after, by simp [whole], rfl, rfl⟩
      simp only [Option.map_some]
      refine .moved List.suffix_rfl (fun _ => by rw [slice, inner]; rfl) ?_
      rw [whole]
      exact .advance (content ++ [quote]) (by simp [plain]) (.result _)

theorem literal_follows : Follows text rest (takeLiteral text) (readLiteral rest) := by
  refine .peek ?_
  cases rest with
  | nil => exact .halt _
  | cons c rest =>
      simp only [List.head?_cons, readLiteral]
      by_cases quote : c = '\'' ∨ c = '"'
      · have plain : c.utf8Size = 1 := by rcases quote with rfl | rfl <;> rfl
        rw [if_pos quote, if_pos quote]
        exact .advance [c] (by simp [plain]) (quoted_follows text rest plain)
      · rw [if_neg quote, if_neg quote]
        exact .halt _

theorem compared_follows (negated : Bool) : Follows text rest (takeCompared text negated) (do
    let (value, after) ← readLiteral (skipBlanks rest)
    return (some (negated, value), after)) :=
  .pass_blanks (.bind (literal_follows text _) fun _ _ => .result _)

theorem comparison_follows : Follows text rest (takeComparison text) (readComparison rest) := by
  unfold takeComparison readComparison
  split
  · exact .eat_next ['!', '='] (compared_follows text _ true)
  · refine .eat_none (by simp) ?_
    exact .eat_next ['='] (compared_follows text _ false)
  · rename_i unequal equal
    exact .eat_none unequal (.eat_none equal (.result _))

theorem attribute_predicate_follows :
    Follows text rest (takeAttributePredicate text) (readAttributePredicate rest) := by
  refine .bind (qualified_name_follows text rest) fun name left => .pass_blanks ?_
  refine .bind (comparison_follows text _) fun comparison? left => ?_
  cases comparison? with
  | none => exact .result _
  | some => exact .result _

theorem child_predicate_follows :
    Follows text rest (takeChildPredicate text) (readChildPredicate rest) := by
  refine .bind (qualified_name_follows text rest) fun name left => .pass_blanks ?_
  refine .bind (comparison_follows text _) fun comparison? left => ?_
  rcases comparison? with _ | ⟨_ | _, value⟩
  · exact .result _
  · exact .result _
  · exact .halt _

theorem predicate_follows : Follows text rest (takePredicate text) (readPredicate rest) := by
  unfold readPredicate
  split
  · rename_i inside
    refine .peek (.eat_next ['l', 'a', 's', 't', '('] (.pass_blanks ?_))
    exact .bind (demand_follows text _ ')') fun _ left => .result _
  · refine .peek (.eat_none (by simp) ?_)
    exact .eat_next ['@'] (attribute_predicate_follows text _)
  · rename_i c rest unlast unattributed
    refine .peek ?_
    simp only [List.head?_cons]
    split
    · exact position_follows text _
    · refine .eat_none (fun left same => ?_) (.eat_none (fun left same => ?_) ?_)
      · exact unlast left (List.cons.inj same).1 (List.cons.inj same).2
      · exact unattributed (List.cons.inj same).1
      · exact child_predicate_follows text _
  · refine .peek (.eat_none (by simp) ?_)
    exact .eat_none (by simp) (child_predicate_follows text _)

theorem bracketed_follows : Follows text rest (takeBracketed text) (readBracketed rest) := by
  refine .pass_blanks (.bind (predicate_follows text _) fun predicate left => ?_)
  exact .pass_blanks (.bind (demand_follows text _ ']') fun _ left => .result _)

variable {rest}

/-- Every round passes a bracket, and what is read in it never leads back. -/
theorem predicates_follow {rounds : Nat} (enough : rest.length < rounds) :
    Follows text rest (takePredicates text rounds) (readPredicates rest) := by
  induction rounds generalizing rest with
  | zero => exact absurd enough (Nat.not_lt_zero _)
  | succ rounds ih =>
      have shorter := (skip_blanks_suffix rest).length_le
      unfold takePredicates readPredicates
      refine .pass_blanks ?_
      split
      · rename_i inside skipped
        rw [skipped] at shorter ⊢
        refine .eat_next ['['] ?_
        split
        · rename_i stuck read
          exact .stops (read ▸ bracketed_follows text inside)
        · rename_i predicate after read
          refine .continues (read ▸ bracketed_follows text inside) fun within => ?_
          have less := within.length_le
          rw [List.length_cons] at shorter
          exact .bind (ih (by omega)) fun later left => .result _
      · rename_i absent
        exact .eat_none absent (.result _)

theorem step_follows (rest : List Char) : Follows text rest (takeStep text) (readStep rest) := by
  unfold takeStep readStep
  refine .pass_blanks ?_
  split
  · rename_i skipped
    rw [skipped]
    exact .eat_next ['.', '.'] (.result _)
  · rename_i single skipped
    rw [skipped]
    refine .eat_none (fun left same => single left ?_) (.eat_next ['.'] (.result _))
    exact (List.cons.inj same).2
  · rename_i unpaired single
    refine .eat_none unpaired (.eat_none single (.bind (test_follows text _) fun test left => ?_))
    exact .bind (.of_rounds (predicates_follow text)) fun predicates left => .result _

/-- Every round passes a slash, and no step leads back. -/
theorem later_steps_follow {rounds : Nat} (enough : rest.length < rounds) :
    Follows text rest (takeLaterSteps text rounds) (readLaterSteps rest) := by
  induction rounds generalizing rest with
  | zero => exact absurd enough (Nat.not_lt_zero _)
  | succ rounds ih =>
      have shorter := (skip_blanks_suffix rest).length_le
      unfold takeLaterSteps readLaterSteps
      refine .pass_blanks ?_
      split
      · rename_i start skipped
        rw [skipped] at shorter ⊢
        refine .eat_next ['/', '/'] ?_
        split
        · rename_i stuck read
          exact .stops (read ▸ step_follows text start)
        · rename_i step after read
          refine .continues (read ▸ step_follows text start) fun within => ?_
          have less := within.length_le
          rw [List.length_cons, List.length_cons] at shorter
          exact .bind (ih (by omega)) fun later left => .result _
      · rename_i start single skipped
        rw [skipped] at shorter ⊢
        refine .eat_none (fun left same => single left (List.cons.inj same).2) ?_
        refine .eat_next ['/'] ?_
        split
        · rename_i stuck read
          exact .stops (read ▸ step_follows text start)
        · rename_i step after read
          refine .continues (read ▸ step_follows text start) fun within => ?_
          have less := within.length_le
          rw [List.length_cons] at shorter
          exact .bind (ih (by omega)) fun later left => .result _
      · rename_i undoubled absent
        exact .eat_none undoubled (.eat_none absent (.result _))

theorem steps_follow (rest : List Char) : Follows text rest (takeSteps text) (readSteps rest) := by
  refine .bind (step_follows text rest) fun step left => ?_
  exact .bind (.of_rounds (later_steps_follow text)) fun later left => .result _

/-- The path after a single slash. -/
theorem behind_slash_follows (start : List Char) :
    Follows text start (takeBehindSlash text) (match skipBlanks start with
      | [] => .ok (⟨true, []⟩, [])
      | '|' :: rest => .ok (⟨true, []⟩, '|' :: rest)
      | begun => do
          let (steps, left) ← readSteps begun
          return (⟨true, steps⟩, left)) := by
  split
  · rename_i skipped
    refine .pass_blanks (.at_end ?_)
    rw [skipped]
    exact .result _
  · rename_i rest skipped
    refine .pass_blanks (.at_end ?_)
    rw [skipped, if_neg (by simp)]
    exact .peek (.result _)
  · rename_i unfinished unbarred
    refine .pass_blanks (.at_end ?_)
    rw [if_neg (by simpa using unfinished)]
    refine .peek ?_
    rw [if_neg]
    · exact .bind (steps_follow text _) fun steps left => .result _
    · intro bar
      obtain ⟨rest, same⟩ := List.head?_eq_some_iff.1 bar
      exact unbarred rest same

theorem path_follows (rest : List Char) : Follows text rest (takePath text) (readPath rest) := by
  unfold takePath readPath
  refine .pass_blanks ?_
  split
  · rename_i skipped
    rw [skipped]
    refine .eat_next ['/', '/'] ?_
    exact .bind (steps_follow text _) fun steps left => .result _
  · rename_i start single skipped
    rw [skipped]
    refine .eat_none (fun left same => single left (List.cons.inj same).2) ?_
    exact .eat_next ['/'] (behind_slash_follows text start)
  · rename_i undoubled absent
    refine .eat_none undoubled (.eat_none absent ?_)
    exact .bind (steps_follow text _) fun steps left => .result _

/-- Every round but the last passes a bar, and no path leads back. -/
theorem paths_follow {rounds : Nat} (enough : rest.length < rounds) :
    Follows text rest (takePaths text rounds) (readPaths rest) := by
  induction rounds generalizing rest with
  | zero => exact absurd enough (Nat.not_lt_zero _)
  | succ rounds ih =>
      unfold takePaths readPaths
      split
      · rename_i stuck read
        exact .stops (read ▸ path_follows text rest)
      · rename_i path after read
        have shorter := (skip_blanks_suffix after).length_le
        refine .continues (read ▸ path_follows text rest) fun within => .pass_blanks ?_
        have less := within.length_le
        split
        · rename_i next skipped
          rw [skipped] at shorter ⊢
          refine .eat_next ['|'] ?_
          rw [List.length_cons] at shorter
          exact .bind (ih (by omega)) fun later left => .result _
        · rename_i absent
          exact .eat_none absent (.result _)

end

/-- No blank is left behind the last path. -/
theorem paths_skipped {text left : List Char} {paths : List Path}
    (read : readPaths text = .ok (paths, left)) : skipBlanks left = left := by
  fun_induction readPaths text generalizing paths with
  | case1 => cases read
  | case2 text path rest _ next _ ih =>
      obtain ⟨⟨later, last⟩, read, same⟩ := eq_ok_of_bind read
      cases same
      exact ih read
  | case3 text path rest _ _ =>
      cases read
      exact Grammar.skip_skipped rest

theorem selector_follows (text : List Char) : Follows text text (takeSelector text)
    ((Selector.read text).map fun selector => (selector, [])) := by
  have begun : Follows text text (takePaths text (rounds text)) (readPaths text) :=
    .of_rounds (paths_follow text)
  unfold takeSelector Selector.read
  cases read : readPaths text with
  | error stuck =>
      rw [read] at begun
      exact .stops begun
  | ok pair =>
      obtain ⟨paths, left⟩ := pair
      rw [read] at begun
      refine .continues begun fun _ => .pass_blanks ?_
      rw [paths_skipped read]
      refine .at_end ?_
      cases left with
      | nil => exact .result _
      | cons c left => exact .halt _

/-- The reader by offsets reads what the reader of ends reads. No slice lies outside the text or
cuts a character, no loop goes on without end, and the position of a fault is the size of a front of
the text. -/
theorem reads_by_offsets (written : String) :
    ByOffset.read written.toList =
        (Selector.parse written).mapError (fun (offset, fault) => .stuck offset fault) ∧
      ∀ offset fault, Selector.parse written = .error (offset, fault) →
        offset ≤ Text.size written.toList ∧
          ∃ front, front <+: written.toList ∧ Text.size front = offset := by
  obtain ⟨ends, runs⟩ := selector_follows written.toList List.suffix_rfl
  rw [place_self] at runs
  constructor
  · change Prod.fst <$> takeSelector written.toList 0 = _
    rw [runs, Selector.parse]
    cases Selector.read written.toList with
    | error stuck => rfl
    | ok selector => rfl
  · intro offset fault failed
    rw [Selector.parse] at failed
    cases read : Selector.read written.toList with
    | ok selector =>
        rw [read] at failed
        cases failed
    | error stuck =>
        rw [read] at failed ends
        cases failed
        obtain ⟨front, whole⟩ := ends
        refine ⟨Nat.sub_le _ _, front, ⟨_, whole⟩, ?_⟩
        rw [← whole]
        exact (place_append front _).symm

example : ByOffset.read "/é[0]".toList = .error (.stuck 5 .positionZero) := by decide

end XmlTemplate.Selector.ByOffset
