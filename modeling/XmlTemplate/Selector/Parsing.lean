import XmlTemplate.Number.Digits
import XmlTemplate.Selector.Basic
import XmlTemplate.Text.Blank
import XmlTemplate.Text.Letters
import XmlTemplate.Text.Size
import XmlTemplate.Text.Split

/-!
Reading selectors. Every reader takes the characters that are left and returns what it read with the
rest, or the place where it got stuck. Rests are always ends of the text, so the position of a fault
is that of a character boundary; the lemmas beside the readers say so, and the loops end by them.
-/

namespace XmlTemplate.Selector

inductive Fault
  | trailing
  | expected (token : Char)
  | expectedName
  | unsupportedTest (name : String)
  | positionRange
  | positionZero
  | inequalityOfChild
  | expectedString
  | unterminatedString
deriving DecidableEq

def Fault.message : Fault → String
  | .trailing => "unexpected trailing input"
  | .expected token => s!"expected '{token}'"
  | .expectedName => "expected a name"
  | .unsupportedTest name => s!"unsupported node test '{name}()'"
  | .positionRange => "position out of range"
  | .positionZero => "positions start at 1"
  | .inequalityOfChild => "'!=' is only supported on attributes"
  | .expectedString => "expected quoted string"
  | .unterminatedString => "unterminated string"

structure Stuck where
  left : List Char
  fault : Fault
deriving DecidableEq

/-- The outcome of reading: a value with the rest of the text, or the place where reading got
stuck. -/
abbrev Outcome := Except Stuck

def skipBlanks (text : List Char) : List Char := text.dropWhile Text.isBlank

def beginsName (c : Char) : Bool := Text.isAlphabetic c || c == '_'

def continuesName (c : Char) : Bool :=
  Text.isAlphanumeric c || c == '_' || c == '-' || c == '.'

def readName (text : List Char) : Outcome (String × List Char) :=
  match text with
  | c :: rest =>
      if beginsName c then
        .ok (String.ofList (c :: rest.takeWhile continuesName), rest.dropWhile continuesName)
      else .error ⟨text, .expectedName⟩
  | [] => .error ⟨text, .expectedName⟩

def expect (token : Char) (text : List Char) : Outcome (Unit × List Char) :=
  match text with
  | c :: rest => if c = token then .ok ((), rest) else .error ⟨text, .expected token⟩
  | [] => .error ⟨text, .expected token⟩

def typeTest? (name : String) : Option NodeTest :=
  if name = "text" then some .text
  else if name = "comment" then some .comment
  else if name = "node" then some .anyNode
  else none

def readTypeTest (name : String) (text : List Char) : Outcome (NodeTest × List Char) := do
  let (_, rest) ← expect ')' (skipBlanks text)
  match typeTest? name with
  | some test => .ok (test, rest)
  | none => .error ⟨rest, .unsupportedTest name⟩

def readTest (text : List Char) : Outcome (NodeTest × List Char) :=
  match text with
  | '*' :: rest => .ok (.anyElement, rest)
  | _ => do
      let (name, rest) ← readName text
      match rest with
      | '(' :: inside => readTypeTest name inside
      | ':' :: '*' :: after => .ok (.prefixed name, after)
      | ':' :: after => do
          let (localName, left) ← readName after
          return (.qualified name localName, left)
      | _ => .ok (.named name, rest)

def positionLimit : Nat := 0x10000000000000000

/-- A position: digits of a number from one to the largest 64-bit one. -/
def readPosition (text : List Char) : Outcome (Predicate × List Char) :=
  let position := Number.digitsValue (text.takeWhile Char.isDigit)
  let rest := text.dropWhile Char.isDigit
  if positionLimit ≤ position then .error ⟨rest, .positionRange⟩
  else if position = 0 then .error ⟨rest, .positionZero⟩
  else .ok (.position position, rest)

def readLiteral (text : List Char) : Outcome (String × List Char) :=
  match text with
  | c :: rest =>
      if c = '\'' ∨ c = '"' then
        match Text.cutAt? c rest with
        | some (content, after) => .ok (String.ofList content, after)
        | none => .error ⟨rest, .unterminatedString⟩
      else .error ⟨text, .expectedString⟩
  | [] => .error ⟨text, .expectedString⟩

/-- A comparison with a string, if one follows: whether it is negated, and the string. -/
def readComparison (text : List Char) : Outcome (Option (Bool × String) × List Char) :=
  match text with
  | '!' :: '=' :: rest => do
      let (value, after) ← readLiteral (skipBlanks rest)
      return (some (true, value), after)
  | '=' :: rest => do
      let (value, after) ← readLiteral (skipBlanks rest)
      return (some (false, value), after)
  | _ => .ok (none, text)

def readQualifiedName (text : List Char) : Outcome (String × List Char) := do
  let (name, rest) ← readName text
  match rest with
  | ':' :: after => do
      let (localName, left) ← readName after
      return (name ++ ":" ++ localName, left)
  | _ => .ok (name, rest)

def readAttributePredicate (text : List Char) : Outcome (Predicate × List Char) := do
  let (name, rest) ← readQualifiedName text
  let (comparison?, left) ← readComparison (skipBlanks rest)
  match comparison? with
  | some (negated, value) => .ok (.attribute name value negated, left)
  | none => .ok (.hasAttribute name, left)

def readChildPredicate (text : List Char) : Outcome (Predicate × List Char) := do
  let (name, rest) ← readQualifiedName text
  let (comparison?, left) ← readComparison (skipBlanks rest)
  match comparison? with
  | some (false, value) => .ok (.child name value, left)
  | some (true, _) => .error ⟨left, .inequalityOfChild⟩
  | none => .ok (.hasChild name, left)

def readPredicate (text : List Char) : Outcome (Predicate × List Char) :=
  match text with
  | 'l' :: 'a' :: 's' :: 't' :: '(' :: rest => do
      let (_, left) ← expect ')' (skipBlanks rest)
      return (.last, left)
  | '@' :: rest => readAttributePredicate rest
  | c :: _ => if c.isDigit then readPosition text else readChildPredicate text
  | [] => readChildPredicate text

def readBracketed (text : List Char) : Outcome (Predicate × List Char) := do
  let (predicate, rest) ← readPredicate (skipBlanks text)
  let (_, left) ← expect ']' (skipBlanks rest)
  return (predicate, left)

theorem skip_blanks_suffix (text : List Char) : skipBlanks text <:+ text := List.dropWhile_suffix _

theorem read_name_suffix {text rest : List Char} {name : String}
    (h : readName text = .ok (name, rest)) : rest <:+ text := by
  unfold readName at h
  split at h
  · split at h
    · simp only [Except.ok.injEq, Prod.mk.injEq] at h
      rw [← h.2]
      exact (List.dropWhile_suffix _).trans (List.suffix_cons _ _)
    · simp at h
  · simp at h

theorem expect_suffix {token : Char} {text rest : List Char} {found : Unit}
    (h : expect token text = .ok (found, rest)) : rest <:+ text := by
  unfold expect at h
  split at h
  · split at h
    · simp only [Except.ok.injEq, Prod.mk.injEq] at h
      rw [← h.2]
      exact List.suffix_cons _ _
    · simp at h
  · simp at h

theorem eq_ok_of_bind {ε α β : Type} {first : Except ε α} {next : α → Except ε β} {result : β}
    (h : first >>= next = .ok result) : ∃ value, first = .ok value ∧ next value = .ok result := by
  cases first with
  | error fault => simp [bind, Except.bind] at h
  | ok value => exact ⟨value, rfl, h⟩

theorem read_type_test_suffix {name : String} {text rest : List Char} {test : NodeTest}
    (h : readTypeTest name text = .ok (test, rest)) : rest <:+ text := by
  obtain ⟨⟨_, after⟩, closing, h⟩ := eq_ok_of_bind h
  have ends := (expect_suffix closing).trans (skip_blanks_suffix text)
  dsimp only at h
  split at h
  · simp only [Except.ok.injEq, Prod.mk.injEq] at h
    exact h.2 ▸ ends
  · simp at h

theorem read_test_suffix {text rest : List Char} {test : NodeTest}
    (h : readTest text = .ok (test, rest)) : rest <:+ text := by
  unfold readTest at h
  split at h
  · simp only [Except.ok.injEq, Prod.mk.injEq] at h
    exact h.2 ▸ List.suffix_cons _ _
  · obtain ⟨⟨name, after⟩, named, h⟩ := eq_ok_of_bind h
    have ends := read_name_suffix named
    dsimp only at h
    split at h
    · exact ((read_type_test_suffix h).trans (List.suffix_cons _ _)).trans ends
    · simp only [Except.ok.injEq, Prod.mk.injEq] at h
      obtain ⟨-, rfl⟩ := h
      exact ((List.suffix_cons _ _).trans (List.suffix_cons _ _)).trans ends
    · obtain ⟨⟨localName, left⟩, found, h⟩ := eq_ok_of_bind h
      simp only [pure, Except.pure, Except.ok.injEq, Prod.mk.injEq] at h
      exact ((h.2 ▸ read_name_suffix found).trans (List.suffix_cons _ _)).trans ends
    · simp only [Except.ok.injEq, Prod.mk.injEq] at h
      exact h.2 ▸ ends

theorem read_position_suffix {text rest : List Char} {predicate : Predicate}
    (h : readPosition text = .ok (predicate, rest)) : rest <:+ text := by
  unfold readPosition at h
  dsimp only at h
  split at h
  · simp at h
  · split at h
    · simp at h
    · simp only [Except.ok.injEq, Prod.mk.injEq] at h
      exact h.2 ▸ List.dropWhile_suffix _

theorem read_literal_suffix {text rest : List Char} {content : String}
    (h : readLiteral text = .ok (content, rest)) : rest <:+ text := by
  unfold readLiteral at h
  split at h
  · split at h
    · split at h
      · rename_i quote tail _ _ front after cut
        simp only [Except.ok.injEq, Prod.mk.injEq] at h
        rw [Text.eq_of_cut_at cut, ← h.2]
        exact ⟨quote :: front ++ [quote], by simp⟩
      · simp at h
    · simp at h
  · simp at h

theorem read_comparison_suffix {text rest : List Char} {comparison : Option (Bool × String)}
    (h : readComparison text = .ok (comparison, rest)) : rest <:+ text := by
  unfold readComparison at h
  split at h
  · obtain ⟨⟨value, after⟩, read, h⟩ := eq_ok_of_bind h
    simp only [pure, Except.pure, Except.ok.injEq, Prod.mk.injEq] at h
    obtain ⟨-, rfl⟩ := h
    exact (((read_literal_suffix read).trans (skip_blanks_suffix _)).trans
      (List.suffix_cons _ _)).trans (List.suffix_cons _ _)
  · obtain ⟨⟨value, after⟩, read, h⟩ := eq_ok_of_bind h
    simp only [pure, Except.pure, Except.ok.injEq, Prod.mk.injEq] at h
    obtain ⟨-, rfl⟩ := h
    exact ((read_literal_suffix read).trans (skip_blanks_suffix _)).trans (List.suffix_cons _ _)
  · simp only [Except.ok.injEq, Prod.mk.injEq] at h
    exact h.2 ▸ List.suffix_rfl

theorem read_qualified_name_suffix {text rest : List Char} {name : String}
    (h : readQualifiedName text = .ok (name, rest)) : rest <:+ text := by
  obtain ⟨⟨lead, after⟩, named, h⟩ := eq_ok_of_bind h
  have ends := read_name_suffix named
  dsimp only at h
  split at h
  · obtain ⟨⟨localName, left⟩, found, h⟩ := eq_ok_of_bind h
    simp only [pure, Except.pure, Except.ok.injEq, Prod.mk.injEq] at h
    exact ((h.2 ▸ read_name_suffix found).trans (List.suffix_cons _ _)).trans ends
  · simp only [Except.ok.injEq, Prod.mk.injEq] at h
    exact h.2 ▸ ends

theorem read_attribute_predicate_suffix {text rest : List Char} {predicate : Predicate}
    (h : readAttributePredicate text = .ok (predicate, rest)) : rest <:+ text := by
  obtain ⟨⟨name, after⟩, named, h⟩ := eq_ok_of_bind h
  obtain ⟨⟨comparison, left⟩, compared, h⟩ := eq_ok_of_bind h
  have ends := ((read_comparison_suffix compared).trans (skip_blanks_suffix _)).trans
    (read_qualified_name_suffix named)
  dsimp only at h
  split at h <;> simp only [Except.ok.injEq, Prod.mk.injEq] at h <;> exact h.2 ▸ ends

theorem read_child_predicate_suffix {text rest : List Char} {predicate : Predicate}
    (h : readChildPredicate text = .ok (predicate, rest)) : rest <:+ text := by
  obtain ⟨⟨name, after⟩, named, h⟩ := eq_ok_of_bind h
  obtain ⟨⟨comparison, left⟩, compared, h⟩ := eq_ok_of_bind h
  have ends := ((read_comparison_suffix compared).trans (skip_blanks_suffix _)).trans
    (read_qualified_name_suffix named)
  dsimp only at h
  split at h <;> simp only [reduceCtorEq, Except.ok.injEq, Prod.mk.injEq] at h <;>
    exact h.2 ▸ ends

theorem read_predicate_suffix {text rest : List Char} {predicate : Predicate}
    (h : readPredicate text = .ok (predicate, rest)) : rest <:+ text := by
  unfold readPredicate at h
  split at h
  · rename_i inside
    obtain ⟨⟨_, left⟩, closing, h⟩ := eq_ok_of_bind h
    simp only [pure, Except.pure, Except.ok.injEq, Prod.mk.injEq] at h
    exact h.2 ▸ ((expect_suffix closing).trans (skip_blanks_suffix _)).trans ⟨"last(".toList, rfl⟩
  · exact (read_attribute_predicate_suffix h).trans (List.suffix_cons _ _)
  · split at h
    · exact read_position_suffix h
    · exact read_child_predicate_suffix h
  · exact read_child_predicate_suffix h

theorem read_bracketed_suffix {text rest : List Char} {predicate : Predicate}
    (h : readBracketed text = .ok (predicate, rest)) : rest <:+ text := by
  obtain ⟨⟨found, after⟩, inside, h⟩ := eq_ok_of_bind h
  obtain ⟨⟨_, left⟩, closing, h⟩ := eq_ok_of_bind h
  simp only [pure, Except.pure, Except.ok.injEq, Prod.mk.injEq] at h
  have ends := (read_predicate_suffix inside).trans (skip_blanks_suffix text)
  exact h.2 ▸ ((expect_suffix closing).trans (skip_blanks_suffix after)).trans ends

def readPredicates (text : List Char) : Outcome (List Predicate × List Char) :=
  match _skipped : skipBlanks text with
  | '[' :: inside =>
      match _read : readBracketed inside with
      | .error stuck => .error stuck
      | .ok (predicate, rest) => do
          let (later, left) ← readPredicates rest
          return (predicate :: later, left)
  | left => .ok ([], left)
termination_by text.length
decreasing_by
  have h₁ := (skip_blanks_suffix text).length_le
  have h₂ := (read_bracketed_suffix _read).length_le
  simp only [_skipped, List.length_cons] at h₁
  omega

def readStep (text : List Char) : Outcome (Step × List Char) :=
  match skipBlanks text with
  | '.' :: '.' :: rest => .ok (⟨.parent, .anyNode, []⟩, rest)
  | '.' :: rest => .ok (⟨.self, .anyNode, []⟩, rest)
  | start => do
      let (test, rest) ← readTest start
      let (predicates, left) ← readPredicates rest
      return (⟨.child, test, predicates⟩, left)

theorem read_predicates_suffix {text rest : List Char} {predicates : List Predicate}
    (h : readPredicates text = .ok (predicates, rest)) : rest <:+ text := by
  fun_induction readPredicates text generalizing predicates with
  | case1 => simp at h
  | case2 text inside skipped predicate after read ih =>
    obtain ⟨⟨later, left⟩, rests, h⟩ := eq_ok_of_bind h
    simp only [pure, Except.pure, Except.ok.injEq, Prod.mk.injEq] at h
    obtain ⟨-, rfl⟩ := h
    have begins : inside <:+ text :=
      (List.suffix_cons '[' inside).trans (skipped ▸ skip_blanks_suffix text)
    exact ((ih rests).trans (read_bracketed_suffix read)).trans begins
  | case3 text =>
    simp only [Except.ok.injEq, Prod.mk.injEq] at h
    exact h.2 ▸ skip_blanks_suffix text

theorem read_step_suffix {text rest : List Char} {step : Step}
    (h : readStep text = .ok (step, rest)) : rest <:+ text := by
  have skipped := skip_blanks_suffix text
  unfold readStep at h
  split at h
  · rename_i begins
    simp only [Except.ok.injEq, Prod.mk.injEq] at h
    rw [begins] at skipped
    exact h.2 ▸ ((List.suffix_cons _ _).trans (List.suffix_cons _ _)).trans skipped
  · rename_i begins
    simp only [Except.ok.injEq, Prod.mk.injEq] at h
    rw [begins] at skipped
    exact h.2 ▸ (List.suffix_cons _ _).trans skipped
  · obtain ⟨⟨test, after⟩, tested, h⟩ := eq_ok_of_bind h
    obtain ⟨⟨predicates, left⟩, conditions, h⟩ := eq_ok_of_bind h
    simp only [pure, Except.pure, Except.ok.injEq, Prod.mk.injEq] at h
    exact ((h.2 ▸ read_predicates_suffix conditions).trans (read_test_suffix tested)).trans skipped

/-- The steps after the first one. A double slash adds the step it stands for. -/
def readLaterSteps (text : List Char) : Outcome (List Step × List Char) :=
  match _skipped : skipBlanks text with
  | '/' :: '/' :: start =>
      match _read : readStep start with
      | .error stuck => .error stuck
      | .ok (step, rest) => do
          let (later, left) ← readLaterSteps rest
          return (Step.everywhere :: step :: later, left)
  | '/' :: start =>
      match _read : readStep start with
      | .error stuck => .error stuck
      | .ok (step, rest) => do
          let (later, left) ← readLaterSteps rest
          return (step :: later, left)
  | left => .ok ([], left)
termination_by text.length
decreasing_by
  all_goals
    have h₁ := (skip_blanks_suffix text).length_le
    have h₂ := (read_step_suffix _read).length_le
    simp only [_skipped, List.length_cons] at h₁
    omega

def readSteps (text : List Char) : Outcome (List Step × List Char) := do
  let (step, rest) ← readStep text
  let (later, left) ← readLaterSteps rest
  return (step :: later, left)

/-- A path. A single slash may stand alone, at the end or before a bar. -/
def readPath (text : List Char) : Outcome (Path × List Char) :=
  match skipBlanks text with
  | '/' :: '/' :: start => do
      let (steps, left) ← readSteps start
      return (⟨true, Step.everywhere :: steps⟩, left)
  | '/' :: start =>
      match skipBlanks start with
      | [] => .ok (⟨true, []⟩, [])
      | '|' :: rest => .ok (⟨true, []⟩, '|' :: rest)
      | begun => do
          let (steps, left) ← readSteps begun
          return (⟨true, steps⟩, left)
  | start => do
      let (steps, left) ← readSteps start
      return (⟨false, steps⟩, left)

theorem read_later_steps_suffix {text rest : List Char} {steps : List Step}
    (h : readLaterSteps text = .ok (steps, rest)) : rest <:+ text := by
  fun_induction readLaterSteps text generalizing steps with
  | case1 => simp at h
  | case2 text start skipped step after read ih =>
    obtain ⟨⟨later, left⟩, rests, h⟩ := eq_ok_of_bind h
    simp only [pure, Except.pure, Except.ok.injEq, Prod.mk.injEq] at h
    obtain ⟨-, rfl⟩ := h
    have begins : start <:+ text :=
      ((List.suffix_cons '/' start).trans (List.suffix_cons '/' _)).trans
        (skipped ▸ skip_blanks_suffix text)
    exact ((ih rests).trans (read_step_suffix read)).trans begins
  | case3 => simp at h
  | case4 text start _ skipped step after read ih =>
    obtain ⟨⟨later, left⟩, rests, h⟩ := eq_ok_of_bind h
    simp only [pure, Except.pure, Except.ok.injEq, Prod.mk.injEq] at h
    obtain ⟨-, rfl⟩ := h
    have begins : start <:+ text :=
      (List.suffix_cons '/' start).trans (skipped ▸ skip_blanks_suffix text)
    exact ((ih rests).trans (read_step_suffix read)).trans begins
  | case5 text =>
    simp only [Except.ok.injEq, Prod.mk.injEq] at h
    exact h.2 ▸ skip_blanks_suffix text

theorem read_steps_suffix {text rest : List Char} {steps : List Step}
    (h : readSteps text = .ok (steps, rest)) : rest <:+ text := by
  obtain ⟨⟨step, after⟩, first, h⟩ := eq_ok_of_bind h
  obtain ⟨⟨later, left⟩, rests, h⟩ := eq_ok_of_bind h
  simp only [pure, Except.pure, Except.ok.injEq, Prod.mk.injEq] at h
  exact (h.2 ▸ read_later_steps_suffix rests).trans (read_step_suffix first)

theorem read_path_suffix {text rest : List Char} {path : Path}
    (h : readPath text = .ok (path, rest)) : rest <:+ text := by
  have skipped := skip_blanks_suffix text
  unfold readPath at h
  split at h
  · rename_i begins
    obtain ⟨⟨steps, left⟩, read, h⟩ := eq_ok_of_bind h
    simp only [pure, Except.pure, Except.ok.injEq, Prod.mk.injEq] at h
    rw [begins] at skipped
    exact ((h.2 ▸ read_steps_suffix read).trans
      ((List.suffix_cons _ _).trans (List.suffix_cons _ _))).trans skipped
  · rename_i start _ begins
    rw [begins] at skipped
    have inner := ((skip_blanks_suffix start).trans (List.suffix_cons _ _)).trans skipped
    split at h
    · simp only [Except.ok.injEq, Prod.mk.injEq] at h
      exact h.2 ▸ List.nil_suffix
    · rename_i bar
      simp only [Except.ok.injEq, Prod.mk.injEq] at h
      rw [← h.2, ← bar]
      exact inner
    · obtain ⟨⟨steps, left⟩, read, h⟩ := eq_ok_of_bind h
      simp only [pure, Except.pure, Except.ok.injEq, Prod.mk.injEq] at h
      exact (h.2 ▸ read_steps_suffix read).trans inner
  · obtain ⟨⟨steps, left⟩, read, h⟩ := eq_ok_of_bind h
    simp only [pure, Except.pure, Except.ok.injEq, Prod.mk.injEq] at h
    exact (h.2 ▸ read_steps_suffix read).trans skipped

def readPaths (text : List Char) : Outcome (List Path × List Char) :=
  match _read : readPath text with
  | .error stuck => .error stuck
  | .ok (path, rest) =>
      match _skipped : skipBlanks rest with
      | '|' :: next => do
          let (later, left) ← readPaths next
          return (path :: later, left)
      | left => .ok ([path], left)
termination_by text.length
decreasing_by
  have h₁ := (read_path_suffix _read).length_le
  have h₂ := (skip_blanks_suffix rest).length_le
  simp only [_skipped, List.length_cons] at h₂
  omega

end XmlTemplate.Selector

namespace XmlTemplate

def Selector.read (text : List Char) : Selector.Outcome Selector := do
  let (paths, left) ← Selector.readPaths text
  match left with
  | [] => .ok ⟨paths⟩
  | _ => .error ⟨left, .trailing⟩

/-- Reads a selector. The position of a fault counts the bytes before the place where it got
stuck. -/
def Selector.parse (text : String) : Except (Nat × Selector.Fault) Selector :=
  (Selector.read text.toList).mapError fun stuck =>
    (Text.size text.toList - Text.size stuck.left, stuck.fault)

end XmlTemplate
