import XmlTemplate.Command.Request
import XmlTemplate.Text.Blank
import XmlTemplate.Text.Split

/-!
The arguments of the command line. Switches and options may stand anywhere among the positional
arguments; `--` makes everything after it positional, and one-letter switches may share a dash. An
argument is taken in from left to right. The value of an option that is an argument of its own is
looked at only when the next switch, option or positional argument is taken in, so that an unknown
argument is told first.
-/

namespace XmlTemplate.Command

inductive Item
  | help
  | version
  | verbose
  | quiet
  | plain
  | indented
  | settings
  | output
  | variable
  | listing
  | template
  | document
  | selector
deriving DecidableEq

def Item.hasValue : Item → Bool
  | .help | .version | .verbose | .quiet | .plain | .indented => false
  | .settings | .output | .variable | .listing | .template | .document | .selector => true

inductive VariableFault
  | notAssigned
  | unnamed
deriving DecidableEq

inductive Stop
  /-- Help is asked for. -/
  | helpAsked
  /-- The version is asked for. -/
  | versionAsked
  /-- There is nothing at all. -/
  | nothingAsked
  /-- There are switches, but no command. -/
  | commandMissing
  /-- The first word is no command. -/
  | unknownCommand
  /-- A switch or an option is unknown, or there is a word too many. -/
  | unknownArgument
  /-- Something is given twice, or against something else. -/
  | conflict
  /-- A switch has a value. -/
  | needlessValue
  /-- An option has no value, or one that it does not allow. -/
  | badValue
  /-- A variable cannot be read. -/
  | badVariable (written : String) (fault : VariableFault)
  /-- A positional argument is missing. -/
  | argumentMissing
deriving DecidableEq

def VariableFault.reason (written : String) : VariableFault → String
  | .notAssigned => "expected NAME=VALUE, got '" ++ written ++ "'"
  | .unnamed => "missing variable name in '" ++ written ++ "'"

def Stop.message? : Stop → Option String
  | .badVariable written fault =>
      some ("error: invalid value '" ++ written ++ "' for '--var <NAME=VALUE>': " ++
        fault.reason written)
  | _ => none

/-- Only an answer that was asked for counts as a success. -/
def Stop.status : Stop → Nat
  | .helpAsked | .versionAsked => 0
  | _ => 2

/-- Reads a variable: a name, which may have blanks around it, and a value after the first `=`. -/
def readVariable (written : String) : Except VariableFault (String × String) :=
  match Text.cutAt? '=' written.toList with
  | none => .error .notAssigned
  | some (name, value) =>
      match Text.trimBlanks name with
      | [] => .error .unnamed
      | trimmed => .ok (String.ofList trimmed, String.ofList value)

def readPath (written : String) : Except Stop String :=
  if written.isEmpty then .error .badValue else .ok written

def readListing : String → Except Stop Listing
  | "text" => .ok .text
  | "json" => .ok .json
  | _ => .error .badValue

structure Given where
  verbose : Bool := false
  quiet : Bool := false
  plain : Bool := false
  indented : Bool := false
  settings : Option String := none
  output : Option String := none
  assignments : List (String × String) := []
  listing : Option Listing := none
  template : Option String := none
  document : Option String := none
  selector : Option String := none
deriving DecidableEq

/-- Turns a switch on, which can be done once. -/
def turnOn (already : Bool) : Except Stop Bool := if already then .error .conflict else .ok true

/-- Fills in a value, which has to be there and can be filled in once. -/
def fillIn {α : Type} (already : Option α) (read : String → Except Stop α) :
    Option String → Except Stop (Option α)
  | none => .error .badValue
  | some written => if already.isSome then .error .conflict else (read written).map some

/-- Takes in an item with its value. Variables add up; everything else can be given once. -/
def Given.take (given : Given) (item : Item) (value : Option String) : Except Stop Given := do
  match item with
  | .help => .error .helpAsked
  | .version => .error .versionAsked
  | .verbose => return { given with verbose := ← turnOn given.verbose }
  | .quiet => return { given with quiet := ← turnOn given.quiet }
  | .plain => return { given with plain := ← turnOn given.plain }
  | .indented => return { given with indented := ← turnOn given.indented }
  | .settings => return { given with settings := ← fillIn given.settings readPath value }
  | .output => return { given with output := ← fillIn given.output readPath value }
  | .listing => return { given with listing := ← fillIn given.listing readListing value }
  | .template => return { given with template := ← fillIn given.template readPath value }
  | .document => return { given with document := ← fillIn given.document readPath value }
  | .selector => return { given with selector := ← fillIn given.selector .ok value }
  | .variable =>
      match value with
      | none => .error .badValue
      | some written =>
          match readVariable written with
          | .ok pair => return { given with assignments := given.assignments ++ [pair] }
          | .error fault => .error (.badVariable written fault)

structure Vocabulary where
  long : List (String × Item)
  short : List (Char × Item)
  positional : List Item := []

def Vocabulary.shared : Vocabulary where
  long := [("help", .help), ("verbose", .verbose), ("quiet", .quiet), ("no-color", .plain)]
  short := [('h', .help), ('v', .verbose), ('q', .quiet)]

def Vocabulary.outer : Vocabulary where
  long := ("version", .version) :: shared.long
  short := ('V', .version) :: shared.short

def Vocabulary.expand : Vocabulary where
  long := [("config", .settings), ("var", .variable), ("output", .output), ("pretty", .indented)] ++
    shared.long
  short := [('c', .settings), ('o', .output)] ++ shared.short
  positional := [.template]

def Vocabulary.select : Vocabulary where
  long := ("format", .listing) :: shared.long
  short := shared.short
  positional := [.document, .selector]

/-- The form of an argument. A single dash is a word. -/
inductive Form
  | separator
  | long (name : List Char) (value : Option (List Char))
  | short (letters : List Char)
  | word
deriving DecidableEq

def formOf : List Char → Form
  | ['-', '-'] => .separator
  | '-' :: '-' :: body =>
      match Text.cutAt? '=' body with
      | some (name, value) => .long name (some value)
      | none => .long body none
  | '-' :: letter :: letters => .short (letter :: letters)
  | _ => .word

/-- How far the arguments are taken in: what is given, an item that is still to be taken in,
possibly without its value yet, and the positional arguments that are still expected. -/
structure Intake where
  given : Given := {}
  pending : Option (Item × Option String) := none
  expected : List Item

namespace Intake

def settle (intake : Intake) : Except Stop Intake :=
  match intake.pending with
  | none => .ok intake
  | some (item, value) => do
      return { intake with given := ← intake.given.take item value, pending := none }

def take (intake : Intake) (item : Item) (value : Option String) : Except Stop Intake := do
  let settled ← intake.settle
  return { settled with given := ← settled.given.take item value }

def putOff (intake : Intake) (item : Item) (value : Option String) : Except Stop Intake := do
  let settled ← intake.settle
  return { settled with pending := some (item, value) }

/-- Takes in a long name, with the value written behind `=` if there is one. -/
def takeLong (vocabulary : Vocabulary) (intake : Intake) (name : List Char)
    (value : Option (List Char)) : Except Stop Intake :=
  match vocabulary.long.lookup (String.ofList name), value with
  | none, _ => .error .unknownArgument
  | some item, none => if item.hasValue then intake.putOff item none else intake.take item none
  | some item, some value =>
      if item.hasValue then intake.take item (some (String.ofList value)) else .error .needlessValue

/-- Takes in letters behind one dash. What follows the letter of an option is its value, without a
leading `=`. -/
def takeShort (vocabulary : Vocabulary) (intake : Intake) : List Char → Except Stop Intake
  | [] => .ok intake
  | letter :: rest =>
      match vocabulary.short.lookup letter with
      | none => .error .unknownArgument
      | some item =>
          if item.hasValue then
            match rest with
            | [] => intake.putOff item none
            | '=' :: value => intake.take item (some (String.ofList value))
            | value => intake.take item (some (String.ofList value))
          else do takeShort vocabulary (← intake.take item none) rest

def takeWord (intake : Intake) (word : String) : Except Stop Intake :=
  match intake.expected with
  | [] => .error .unknownArgument
  | item :: others => do
      return { ← intake.putOff item (some word) with expected := others }

def takeWords (intake : Intake) : List String → Except Stop Intake
  | [] => intake.settle
  | word :: rest => do takeWords (← intake.takeWord word) rest

def takeAll (vocabulary : Vocabulary) (intake : Intake) : List String → Except Stop Intake
  | [] => intake.settle
  | argument :: rest => do
      match formOf argument.toList with
      | .separator => intake.takeWords rest
      | .long name value => takeAll vocabulary (← intake.takeLong vocabulary name value) rest
      | .short letters => takeAll vocabulary (← intake.takeShort vocabulary letters) rest
      | .word =>
          match intake.pending with
          | some (item, none) =>
              takeAll vocabulary { intake with pending := some (item, some argument) } rest
          | _ => takeAll vocabulary (← intake.takeWord argument) rest

end Intake

def Given.checked (given : Given) : Except Stop Given :=
  if given.verbose && given.quiet then .error .conflict else .ok given

def Given.read (vocabulary : Vocabulary) (arguments : List String) : Except Stop Given := do
  let intake ← Intake.takeAll vocabulary { expected := vocabulary.positional } arguments
  intake.given.checked

inductive Verb
  | expand
  | select
  | help
deriving DecidableEq

def Verb.named? : String → Option Verb
  | "expand" => some .expand
  | "select" => some .select
  | "help" => some .help
  | _ => none

def Verb.read (verb : Verb) (arguments : List String) : Except Stop (Request × Given) :=
  match verb with
  | .expand => do
      let given ← Given.read .expand arguments
      return (.expand ⟨given.template, given.settings, given.output, given.assignments,
        given.indented⟩, given)
  | .select => do
      let given ← Given.read .select arguments
      match given.document, given.selector with
      | some document, some selector =>
          return (.select ⟨document, selector, given.listing.getD .text⟩, given)
      | _, _ => .error .argumentMissing
  | .help =>
      match arguments with
      | [] => .error .helpAsked
      | [topic] => .error (if (named? topic).isSome then .helpAsked else .unknownCommand)
      | _ => .error .unknownCommand

/-- The invocation made of a request with the switches given before and after the command. A switch
holds wherever it is given; to be verbose wins over being quiet. -/
def Invocation.make (request : Request) (before after : Given) : Invocation where
  logLevel :=
    if before.verbose || after.verbose then .debug
    else if before.quiet || after.quiet then .error
    else .warn
  plain := before.plain || after.plain
  request := request

def Given.withoutCommand (given : Given) : Stop :=
  if given = {} then .nothingAsked else .commandMissing

def Invocation.readAfter (intake : Intake) : List String → Except Stop Invocation
  | [] => .error intake.given.withoutCommand
  | argument :: rest => do
      match Verb.named? argument with
      | some verb =>
          let (request, after) ← verb.read rest
          return .make request (← intake.given.checked) after
      | none =>
          match formOf argument.toList with
          | .separator =>
              match rest with
              | [] => .error intake.given.withoutCommand
              | word :: _ =>
                  .error (if (Verb.named? word).isSome then .unknownArgument else .unknownCommand)
          | .long name value => readAfter (← intake.takeLong .outer name value) rest
          | .short letters => readAfter (← intake.takeShort .outer letters) rest
          | .word => .error .unknownCommand

def Invocation.read (arguments : List String) : Except Stop Invocation :=
  readAfter { expected := [] } arguments

end XmlTemplate.Command
