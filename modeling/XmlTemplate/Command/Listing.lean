import XmlTemplate.Command.Request
import XmlTemplate.Markup.Writing

/-!
The listing of selected nodes.
-/

namespace XmlTemplate.Command

open Markup

def hexDigit (value : Nat) : Char := if value < 10 then .ofNat (48 + value) else .ofNat (87 + value)

def jsonChar (c : Char) : List Char :=
  if c = '"' then ['\\', '"']
  else if c = '\\' then ['\\', '\\']
  else if c = '\x08' then ['\\', 'b']
  else if c = '\t' then ['\\', 't']
  else if c = '\n' then ['\\', 'n']
  else if c = '\x0c' then ['\\', 'f']
  else if c = '\r' then ['\\', 'r']
  else if c.toNat < 32 then
    ['\\', 'u', '0', '0', hexDigit (c.toNat / 16), hexDigit (c.toNat % 16)]
  else [c]

def jsonString (text : String) : String :=
  "\"" ++ String.ofList (text.toList.flatMap jsonChar) ++ "\""

/-- Texts as a JSON array with each on a line of its own; an empty array is on one line. -/
def jsonArray (texts : List String) : String :=
  if texts.isEmpty then "[]"
  else "[\n" ++ ",\n".intercalate (texts.map fun text => "  " ++ jsonString text) ++ "\n]"

/-- The listing of nodes, which ends with a line feed if it is not empty. -/
def Listing.write (listing : Listing) (nodes : Forest) : String :=
  match listing with
  | .text => String.join (nodes.map fun node => node.write ++ "\n")
  | .json => jsonArray (nodes.map Node.write) ++ "\n"

end XmlTemplate.Command
