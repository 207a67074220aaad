import Mathlib.Algebra.Group.Nat.Even
import XmlTemplate.Selector.Parsing

/-!
The grammar of selectors, as relations between what is written and what it stands for. Blanks may
stand around paths and steps, and so around bars and slashes, on both sides of brackets and of a
comparison, and between parentheses. Names are taken as long as possible because nothing that may
follow a name could continue it.
-/

namespace XmlTemplate.Selector.Grammar

def Gap (text : List Char) : Prop := ∀ c ∈ text, Text.isBlank c = true

inductive Spaced {Value : Type} (Form : Value → List Char → Prop) : Value → List Char → Prop
  | around {value : Value} {front text back : List Char} (before : Gap front)
      (form : Form value text) (after : Gap back) : Spaced Form value (front ++ text ++ back)

inductive NameForm : String → List Char → Prop
  | name {first : Char} {rest : List Char}
      (begins : Text.isAlphabetic first = true ∨ first = '_')
      (continues : ∀ c ∈ rest, Text.isAlphanumeric c = true ∨ c ∈ ['_', '-', '.']) :
      NameForm (String.ofList (first :: rest)) (first :: rest)

inductive QualifiedForm : String → List Char → Prop
  | plain {name : String} {text : List Char} (named : NameForm name text) :
      QualifiedForm name text
  | qualified {lead name : String} {front back : List Char} (leads : NameForm lead front)
      (named : NameForm name back) : QualifiedForm (lead ++ ":" ++ name) (front ++ ':' :: back)

def typeNames : List (String × NodeTest) :=
  [("text", .text), ("comment", .comment), ("node", .anyNode)]

inductive TestForm : NodeTest → List Char → Prop
  | star : TestForm .anyElement ['*']
  | named {name : String} {text : List Char} (named : NameForm name text) :
      TestForm (.named name) text
  | qualified {lead name : String} {front back : List Char} (leads : NameForm lead front)
      (named : NameForm name back) : TestForm (.qualified lead name) (front ++ ':' :: back)
  | prefixed {lead : String} {front : List Char} (leads : NameForm lead front) :
      TestForm (.prefixed lead) (front ++ [':', '*'])
  | kind {name : String} {test : NodeTest} {gap : List Char} (known : (name, test) ∈ typeNames)
      (inside : Gap gap) : TestForm test (name.toList ++ '(' :: gap ++ [')'])

inductive LiteralForm : String → List Char → Prop
  | quoted {quote : Char} {content : List Char} (mark : quote = '\'' ∨ quote = '"')
      (inside : quote ∉ content) :
      LiteralForm (String.ofList content) (quote :: content ++ [quote])

def operator (negated : Bool) : List Char := if negated then ['!', '='] else ['=']

inductive ComparisonForm : Bool → String → List Char → Prop
  | compared {negated : Bool} {value : String} {front back text : List Char} (before : Gap front)
      (after : Gap back) (literal : LiteralForm value text) :
      ComparisonForm negated value (front ++ operator negated ++ back ++ text)

def decimalDigits : List (Char × Nat) :=
  [('0', 0), ('1', 1), ('2', 2), ('3', 3), ('4', 4), ('5', 5), ('6', 6), ('7', 7), ('8', 8),
    ('9', 9)]

/-- Decimal numbers, zeros in front allowed: one more digit counts what stands before it ten
times. -/
inductive DecimalForm : Nat → List Char → Prop
  | digit {mark : Char} {digit : Nat} (known : (mark, digit) ∈ decimalDigits) :
      DecimalForm digit [mark]
  | more {value digit : Nat} {text : List Char} {mark : Char} (front : DecimalForm value text)
      (known : (mark, digit) ∈ decimalDigits) :
      DecimalForm (10 * value + digit) (text ++ [mark])

inductive PredicateForm : Predicate → List Char → Prop
  | position {value : Nat} {text : List Char} (decimal : DecimalForm value text)
      (positive : 1 ≤ value) (bounded : value < 2 ^ 64) : PredicateForm (.position value) text
  | last {gap : List Char} (inside : Gap gap) :
      PredicateForm .last ('l' :: 'a' :: 's' :: 't' :: '(' :: gap ++ [')'])
  | hasAttribute {name : String} {text : List Char} (named : QualifiedForm name text) :
      PredicateForm (.hasAttribute name) ('@' :: text)
  | attributeIs {name value : String} {negated : Bool} {front back : List Char}
      (named : QualifiedForm name front) (compared : ComparisonForm negated value back) :
      PredicateForm (.attribute name value negated) ('@' :: front ++ back)
  | hasChild {name : String} {text : List Char} (named : QualifiedForm name text) :
      PredicateForm (.hasChild name) text
  | childIs {name value : String} {front back : List Char} (named : QualifiedForm name front)
      (compared : ComparisonForm false value back) :
      PredicateForm (.child name value) (front ++ back)

inductive PredicatesForm : List Predicate → List Char → Prop
  | none : PredicatesForm [] []
  | more {predicate : Predicate} {predicates : List Predicate} {gap text back : List Char}
      (before : Gap gap) (first : Spaced PredicateForm predicate text)
      (later : PredicatesForm predicates back) :
      PredicatesForm (predicate :: predicates) (gap ++ '[' :: text ++ ']' :: back)

inductive StepForm : Step → List Char → Prop
  | parent : StepForm ⟨.parent, .anyNode, []⟩ ['.', '.']
  | self : StepForm ⟨.self, .anyNode, []⟩ ['.']
  | child {test : NodeTest} {predicates : List Predicate} {front back : List Char}
      (tested : TestForm test front) (conditions : PredicatesForm predicates back) :
      StepForm ⟨.child, test, predicates⟩ (front ++ back)

inductive SlashForm : List Step → List Char → Prop
  | single : SlashForm [] ['/']
  | double : SlashForm [⟨.descendantOrSelf, .anyNode, []⟩] ['/', '/']

inductive LaterForm : List Step → List Char → Prop
  | none : LaterForm [] []
  | more {implied steps : List Step} {step : Step} {mark text back : List Char}
      (slash : SlashForm implied mark) (first : Spaced StepForm step text)
      (later : LaterForm steps back) : LaterForm (implied ++ step :: steps) (mark ++ text ++ back)

inductive PathForm : Path → List Char → Prop
  | root : PathForm ⟨true, []⟩ ['/']
  | absolute {implied steps : List Step} {step : Step} {mark text back : List Char}
      (slash : SlashForm implied mark) (first : Spaced StepForm step text)
      (later : LaterForm steps back) :
      PathForm ⟨true, implied ++ step :: steps⟩ (mark ++ text ++ back)
  | relative {steps : List Step} {step : Step} {text back : List Char}
      (first : Spaced StepForm step text) (later : LaterForm steps back) :
      PathForm ⟨false, step :: steps⟩ (text ++ back)

inductive UnionForm : List Path → List Char → Prop
  | one {path : Path} {text : List Char} (only : Spaced PathForm path text) : UnionForm [path] text
  | more {path : Path} {paths : List Path} {front back : List Char}
      (first : Spaced PathForm path front) (later : UnionForm paths back) :
      UnionForm (path :: paths) (front ++ '|' :: back)

end XmlTemplate.Selector.Grammar
