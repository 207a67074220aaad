import XmlTemplate.Selector.Parsing

/-!
A reader of selectors that knows its place in the text by an offset in bytes only. What it looks at
are slices of the text, whose ends it computes by counting bytes: those of a token, of a character
it has looked at, or one for a digit or a quote. A slice can fall off the ends of the text or into
the middle of a character, and a loop can go on without end. Both are outcomes of their own here, so
that it can be asked whether they arise; a loop is given as many rounds as one per character allows.
-/

namespace XmlTemplate.Selector.ByOffset

/-- The characters before and behind an offset, which has to lie between two characters or at an end
of the text. -/
def splitAt? : List Char → Nat → Option (List Char × List Char)
  | text, 0 => some ([], text)
  | [], _ + 1 => none
  | c :: rest, offset + 1 =>
      if c.utf8Size ≤ offset + 1 then
        (splitAt? rest (offset + 1 - c.utf8Size)).map fun (front, back) => (c :: front, back)
      else none

def slice? (text : List Char) (start stop : Nat) : Option (List Char) := do
  let (front, _) ← splitAt? text stop
  let (_, inner) ← splitAt? front start
  return inner

def find? (mark : Char) : List Char → Option Nat
  | [] => none
  | c :: rest => if c = mark then some 0 else (find? mark rest).map (c.utf8Size + ·)

/-- What ends the reader early: a fault of the selector at an offset, a slice whose ends are no
boundaries of characters, or a loop that has used up its rounds. -/
inductive Halt
  | stuck (offset : Nat) (fault : Fault)
  | outside
  | endless
deriving DecidableEq

/-- A computation that knows and moves its offset. -/
abbrev Reader := StateT Nat (Except Halt)

variable {Value : Type}

def fail (fault : Fault) : Reader Value := do
  throw (.stuck (← get) fault)

def slice (text : List Char) (start stop : Nat) : Reader (List Char) :=
  match slice? text start stop with
  | some inner => return inner
  | none => throw .outside

def advance (bytes : Nat) : Reader Unit := modify (· + bytes)

/-- One round more than there are characters. -/
def rounds (text : List Char) : Nat := text.length + 1

section
variable (text : List Char)

def remaining : Reader (List Char) := do
  slice text (← get) (Text.size text)

def atEnd : Reader Bool := return Text.size text ≤ (← get)

def peek : Reader (Option Char) := return (← remaining text).head?

def eat (token : List Char) : Reader Bool := do
  if token.isPrefixOf (← remaining text) then
    advance (Text.size token)
    return true
  else return false

def demand (token : Char) : Reader Unit := do
  if ← eat text [token] then return ()
  else fail (.expected token)

def passWhile (width : Char → Nat) (holds : Char → Bool) : Nat → Reader Unit
  | 0 => throw .endless
  | rounds + 1 => do
      match ← peek text with
      | some c =>
          if holds c then
            advance (width c)
            passWhile width holds rounds
          else return ()
      | none => return ()

def passBlanks : Reader Unit := passWhile text Char.utf8Size Text.isBlank (rounds text)

def takeName : Reader String := do
  let start ← get
  match ← peek text with
  | some c =>
      if beginsName c then
        advance c.utf8Size
        passWhile text Char.utf8Size continuesName (rounds text)
        return String.ofList (← slice text start (← get))
      else fail .expectedName
  | none => fail .expectedName

def takeQualifiedName : Reader String := do
  let name ← takeName text
  if ← eat text [':'] then
    let localName ← takeName text
    return name ++ ":" ++ localName
  else return name

def takeTypeTest (name : String) : Reader NodeTest := do
  passBlanks text
  demand text ')'
  match typeTest? name with
  | some test => return test
  | none => fail (.unsupportedTest name)

def takeBehindColon (name : String) : Reader NodeTest := do
  if ← eat text ['*'] then return .prefixed name
  else
    let localName ← takeName text
    return .qualified name localName

def takeTest : Reader NodeTest := do
  if ← eat text ['*'] then return .anyElement
  else
    let name ← takeName text
    if ← eat text ['('] then takeTypeTest text name
    else if ← eat text [':'] then takeBehindColon text name
    else return .named name

def takePosition : Reader Predicate := do
  let start ← get
  passWhile text (fun _ => 1) Char.isDigit (rounds text)
  let position := Number.digitsValue (← slice text start (← get))
  if positionLimit ≤ position then fail .positionRange
  else if position = 0 then fail .positionZero
  else return .position position

/-- The content of a string after its opening quote; the closing one is a byte long as well. -/
def takeQuoted (quote : Char) : Reader String := do
  let rest ← remaining text
  match find? quote rest with
  | some stop =>
      let content ← slice rest 0 stop
      advance (stop + 1)
      return String.ofList content
  | none => fail .unterminatedString

def takeLiteral : Reader String := do
  match ← peek text with
  | some c =>
      if c = '\'' ∨ c = '"' then
        advance 1
        takeQuoted text c
      else fail .expectedString
  | none => fail .expectedString

def takeCompared (negated : Bool) : Reader (Option (Bool × String)) := do
  passBlanks text
  let value ← takeLiteral text
  return some (negated, value)

def takeComparison : Reader (Option (Bool × String)) := do
  if ← eat text ['!', '='] then takeCompared text true
  else if ← eat text ['='] then takeCompared text false
  else return none

def takeAttributePredicate : Reader Predicate := do
  let name ← takeQualifiedName text
  passBlanks text
  match ← takeComparison text with
  | some (negated, value) => return .attribute name value negated
  | none => return .hasAttribute name

def takeChildPredicate : Reader Predicate := do
  let name ← takeQualifiedName text
  passBlanks text
  match ← takeComparison text with
  | some (false, value) => return .child name value
  | some (true, _) => fail .inequalityOfChild
  | none => return .hasChild name

def takeCondition : Reader Predicate := do
  if ← eat text ['l', 'a', 's', 't', '('] then
    passBlanks text
    demand text ')'
    return .last
  else if ← eat text ['@'] then takeAttributePredicate text
  else takeChildPredicate text

def takePredicate : Reader Predicate := do
  match ← peek text with
  | some c => if c.isDigit then takePosition text else takeCondition text
  | none => takeCondition text

def takeBracketed : Reader Predicate := do
  passBlanks text
  let predicate ← takePredicate text
  passBlanks text
  demand text ']'
  return predicate

def takePredicates : Nat → Reader (List Predicate)
  | 0 => throw .endless
  | rounds + 1 => do
      passBlanks text
      if ← eat text ['['] then
        let predicate ← takeBracketed text
        let later ← takePredicates rounds
        return predicate :: later
      else return []

def takeStep : Reader Step := do
  passBlanks text
  if ← eat text ['.', '.'] then return ⟨.parent, .anyNode, []⟩
  else if ← eat text ['.'] then return ⟨.self, .anyNode, []⟩
  else
    let test ← takeTest text
    let predicates ← takePredicates text (rounds text)
    return ⟨.child, test, predicates⟩

def takeLaterSteps : Nat → Reader (List Step)
  | 0 => throw .endless
  | rounds + 1 => do
      passBlanks text
      if ← eat text ['/', '/'] then
        let step ← takeStep text
        let later ← takeLaterSteps rounds
        return Step.everywhere :: step :: later
      else if ← eat text ['/'] then
        let step ← takeStep text
        let later ← takeLaterSteps rounds
        return step :: later
      else return []

def takeSteps : Reader (List Step) := do
  let step ← takeStep text
  let later ← takeLaterSteps text (rounds text)
  return step :: later

/-- The path after a single slash, which stands alone at the end and in front of a bar. -/
def takeBehindSlash : Reader Path := do
  passBlanks text
  if ← atEnd text then return ⟨true, []⟩
  else if (← peek text) = some '|' then return ⟨true, []⟩
  else
    let steps ← takeSteps text
    return ⟨true, steps⟩

def takePath : Reader Path := do
  passBlanks text
  if ← eat text ['/', '/'] then
    let steps ← takeSteps text
    return ⟨true, Step.everywhere :: steps⟩
  else if ← eat text ['/'] then takeBehindSlash text
  else
    let steps ← takeSteps text
    return ⟨false, steps⟩

def takePaths : Nat → Reader (List Path)
  | 0 => throw .endless
  | rounds + 1 => do
      let path ← takePath text
      passBlanks text
      if ← eat text ['|'] then
        let later ← takePaths rounds
        return path :: later
      else return [path]

def takeSelector : Reader Selector := do
  let paths ← takePaths text (rounds text)
  passBlanks text
  if ← atEnd text then return ⟨paths⟩
  else fail .trailing

end

def read (text : List Char) : Except Halt Selector := (takeSelector text).run' 0

theorem split_at_size (front back : List Char) :
    splitAt? (front ++ back) (Text.size front) = some (front, back) := by
  induction front with
  | nil => simp [splitAt?]
  | cons c front ih =>
      obtain ⟨offset, same⟩ : ∃ offset, Text.size (c :: front) = offset + 1 :=
        ⟨_, (Nat.succ_pred_eq_of_pos (Nat.add_pos_left c.utf8Size_pos _)).symm⟩
      have behind : offset + 1 - c.utf8Size = Text.size front := by
        rw [← same, Text.size_cons, Nat.add_sub_cancel_left]
      have within : c.utf8Size ≤ offset + 1 := by
        rw [← same, Text.size_cons]
        exact Nat.le_add_right _ _
      rw [same, List.cons_append, splitAt?, if_pos within, behind, ih]
      rfl

/-- A text splits at the sizes of its fronts and nowhere else. -/
theorem split_at_eq_some_iff {text front back : List Char} {offset : Nat} :
    splitAt? text offset = some (front, back) ↔
      text = front ++ back ∧ offset = Text.size front := by
  constructor
  · intro split
    fun_induction splitAt? text offset generalizing front with
    | case1 text =>
        cases split
        exact ⟨rfl, rfl⟩
    | case2 => cases split
    | case3 c rest offset within ih =>
        obtain ⟨⟨inner, _⟩, found, same⟩ := Option.map_eq_some_iff.1 split
        cases same
        obtain ⟨rfl, size⟩ := ih found
        refine ⟨rfl, ?_⟩
        rw [Text.size_cons]
        omega
    | case4 => cases split
  · rintro ⟨rfl, rfl⟩
    exact split_at_size front back

/-- A slice starts at the size of a front and ends at the size of a longer one. -/
theorem slice?_eq_some_iff {text inner : List Char} {start stop : Nat} :
    slice? text start stop = some inner ↔ ∃ front back, text = front ++ inner ++ back ∧
      start = Text.size front ∧ stop = Text.size (front ++ inner) := by
  simp only [slice?, Option.bind_eq_bind, Option.bind_eq_some_iff, Option.pure_def,
    Option.some.injEq, Prod.exists, split_at_eq_some_iff]
  constructor
  · rintro ⟨whole, back, ⟨rfl, rfl⟩, front, _, ⟨rfl, rfl⟩, rfl⟩
    exact ⟨front, back, rfl, rfl, rfl⟩
  · rintro ⟨front, back, rfl, rfl, rfl⟩
    exact ⟨front ++ inner, back, ⟨rfl, rfl⟩, front, inner, ⟨rfl, rfl⟩, rfl⟩

/-- A character of two bytes cannot be cut. -/
example : slice? ['é', 'a'] 1 2 = none := by decide

end XmlTemplate.Selector.ByOffset
