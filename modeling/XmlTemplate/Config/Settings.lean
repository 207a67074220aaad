import XmlTemplate.Config.Toml
import XmlTemplate.Files
import XmlTemplate.Report
import XmlTemplate.Template.Bindings

/-!
The settings of a site: which template to expand, where to write the result, and variables. They
come from a file next to which the paths in it are taken. Plain values become plain variables; a
table with `markup` becomes the nodes of that markup.
-/

namespace XmlTemplate.Config

inductive Setting
  | bool (content : Bool)
  | integer (content : Int)
  | float (content : Float)
  | string (content : String)
  | markup (content : String)

/-- Settings, with the variables in the order of their names. -/
structure Settings where
  template : Option String := none
  output : Option String := none
  bindings : List (String × Setting) := []

def defaultFile : String := "xmlskin.toml"

/-- The first whole number that a signed number of 64 bits cannot store. -/
def signedLimit : Nat := 0x8000000000000000

def integerFits (value : Int) : Bool := -signedLimit ≤ value && value < 2 * signedLimit

mutual
def valueFits : Toml.Value → Bool
  | .integer value => integerFits value
  | .array items => itemsFit items
  | .table _ entries => entriesFit entries
  | .series tables => tablesFit tables
  | _ => true

def itemsFit : List Toml.Value → Bool
  | [] => true
  | item :: rest => valueFits item && itemsFit rest

def entriesFit : List (String × Toml.Value) → Bool
  | [] => true
  | (_, value) :: rest => valueFits value && entriesFit rest

def tablesFit : List (List (String × Toml.Value)) → Bool
  | [] => true
  | entries :: rest => entriesFit entries && tablesFit rest
end

/-- The variable that a value stands for. A whole number that is too large for a signed one becomes
a double. Of a table only `markup` counts; whatever else it holds is passed over. -/
def setting? (value : Toml.Value) : Option Setting :=
  if valueFits value then
    match value with
    | .bool content => some (.bool content)
    | .integer content =>
        if content < signedLimit then some (.integer content)
        else some (.float (Number.nearestFloat false content.toNat 0))
    | .float content => some (.float content)
    | .string content => some (.string content)
    | .table _ entries =>
        match entries.lookup "markup" with
        | some (.string content) => some (.markup content)
        | _ => none
    | _ => none
  else none

def settings? (entries : Toml.Entries) : Option (List (String × Setting)) := do
  let pairs ← entries.mapM fun (name, value) => (setting? value).map (name, ·)
  some (pairs.mergeSort fun one other => one.1 ≤ other.1)

/-- Takes in one entry of the file. Nothing but the three known keys may occur. -/
def Settings.takeIn? (settings : Settings) (entry : String × Toml.Value) : Option Settings :=
  match entry with
  | ("template", .string path) => some { settings with template := some path }
  | ("output", .string path) => some { settings with output := some path }
  | ("bindings", .table _ entries) => do
      let bindings ← settings? entries
      some { settings with bindings }
  | _ => none

/-- The settings in the text of a file. A fault is told by a line, where the text itself is at
fault. -/
def Settings.parse (text : String) : Except (Option Nat) Settings := do
  let entries ← (Toml.read text).mapError some
  match entries.foldlM Settings.takeIn? {} with
  | some settings => .ok settings
  | none => .error none

inductive Fault
  | unreadable (path : String) (reason : FileError)
  | malformed (path : String) (line : Option Nat)
deriving DecidableEq

def Fault.problem : Fault → Problem
  | .unreadable path reason =>
      ⟨["Failed to read config file: " ++ path], .io reason.cause⟩
  | .malformed path line =>
      let place := match line with
        | some number => " at line " ++ toString number
        | none => ": unexpected key or value"
      ⟨["Failed to parse config file: " ++ path], .message ("TOML parse error" ++ place)⟩

def Settings.anchored (settings : Settings) (directory : String) : Settings :=
  { settings with
    template := settings.template.map (Path.join directory)
    output := settings.output.map (Path.join directory) }

def load (files : Files) (path : String) : Except Fault Settings := do
  let text ← (files.read path).mapError (.unreadable path)
  let settings ← (Settings.parse text).mapError (.malformed path)
  return settings.anchored ((Path.parent? path).getD "")

/-- Loads the settings of the given file, or of the default one if it is there. -/
def discover (files : Files) : Option String → Except Fault Settings
  | some path => load files path
  | none => if files.isFile defaultFile then load files defaultFile else .ok {}

def markupSource (name : String) : SourceId := .ofPath ("bindings." ++ name)

def Setting.value (name : String) : Setting → Except Problem Template.Value
  | .bool content => .ok (.bool content)
  | .integer content => .ok (.integer content)
  | .float content => .ok (.float content)
  | .string content => .ok (.string content)
  | .markup content =>
      match (markupSource name).readFragment content with
      | .ok nodes => .ok (.nodes nodes)
      | .error failure =>
          .error ((Problem.ofFailure failure).within ("Invalid markup in binding '" ++ name ++ "'"))

/-- The variables of settings. The first one by name whose markup is malformed is reported. -/
def Settings.toBindings (settings : Settings) : Except Problem Template.Bindings := do
  let pairs ← settings.bindings.mapM fun (name, setting) => do
    return (name, ← setting.value name)
  return .ofList pairs

end XmlTemplate.Config
