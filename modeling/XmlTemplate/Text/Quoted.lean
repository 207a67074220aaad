import XmlTemplate.Text.Legible

/-!
Quoted text: a string between double quotes in which quotes, backslashes and everything that cannot
be read where it stands are spelled out.
-/

namespace XmlTemplate.Text

def spelled (c : Char) : List Char :=
  if c = '\x00' then ['\\', '0']
  else if c = '\t' then ['\\', 't']
  else if c = '\r' then ['\\', 'r']
  else if c = '\n' then ['\\', 'n']
  else if c = '\\' then ['\\', '\\']
  else if c = '"' then ['\\', '"']
  else if isLegible c then [c]
  else ['\\', 'u', '\x7b'] ++ Nat.toDigits 16 c.toNat ++ ['\x7d']

/-- The text between double quotes, with every character spelled so that it can be read. -/
def quoted (text : String) : String :=
  String.ofList ('"' :: text.toList.flatMap spelled ++ ['"'])

end XmlTemplate.Text
