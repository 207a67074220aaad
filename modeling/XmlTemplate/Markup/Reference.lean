import XmlTemplate.Text.Size

/-!
References stand for characters that would otherwise be read as markup. Writing replaces such
characters by the five named references; reading resolves those five and numbers, decimal or
hexadecimal, and refuses everything else.
-/

namespace XmlTemplate.Markup

/-- Why a reference cannot be resolved. Ranges count bytes from the start of the text. -/
inductive ReferenceFault
  | unterminated (start size : Nat)
  | unknown (start stop : Nat) (name : String)
  | signed
  | empty
  | badDigit
  | tooLarge
  | zero
  | noCharacter (code : Nat)
deriving DecidableEq

def ReferenceFault.message : ReferenceFault → String
  | .unterminated start size =>
      s!"Error while escaping character at range {start}..{size}: Cannot find ';' after '&'"
  | .unknown start stop name => s!"at {start}..{stop}: unrecognized entity `{name}`"
  | .signed => "invalid character reference: unexpected number sign"
  | .empty => "invalid character reference: cannot parse integer from empty string"
  | .badDigit => "invalid character reference: invalid digit found in string"
  | .tooLarge => "invalid character reference: number too large to fit in target type"
  | .zero => "invalid character reference: 0x0 character is not permitted in XML"
  | .noCharacter code => s!"invalid character reference: `{code}` is not a valid codepoint"

namespace Reference

/-- The value of a digit in a base of at most sixteen, in either case. -/
def digit? (base : Nat) (c : Char) : Option Nat :=
  let value? :=
    if c.isDigit then some (c.toNat - '0'.toNat)
    else if 'a' ≤ c ∧ c ≤ 'f' then some (c.toNat - 'a'.toNat + 10)
    else if 'A' ≤ c ∧ c ≤ 'F' then some (c.toNat - 'A'.toNat + 10)
    else none
  value?.filter (· < base)

/-- Numbers of characters have 32 bits. -/
def codeLimit : Nat := 0x100000000

/-- Reads the remaining digits of a 32-bit number. A wrong digit is noticed before an overflow at
the same place. -/
def readDigits (base : Nat) : (value : Nat) → List Char → Except ReferenceFault Nat
  | value, [] => .ok value
  | value, c :: rest =>
      match digit? base c with
      | none => .error .badDigit
      | some d =>
          if codeLimit ≤ value * base + d then .error .tooLarge
          else readDigits base (value * base + d) rest

/-- The number of a numeric reference; no sign is allowed. -/
def readNumber (base : Nat) : List Char → Except ReferenceFault Nat
  | [] => .error .empty
  | c :: rest => if c = '+' ∨ c = '-' then .error .signed else readDigits base 0 (c :: rest)

def readCharacter (digits : List Char) : Except ReferenceFault Char := do
  let code ← match digits with
    | 'x' :: hex => readNumber 16 hex
    | decimal => readNumber 10 decimal
  if code = 0 then .error .zero
  else if code.isValidChar then .ok (Char.ofNat code)
  else .error (.noCharacter code)

def named? (name : String) : Option Char :=
  if name = "lt" then some '<'
  else if name = "gt" then some '>'
  else if name = "amp" then some '&'
  else if name = "apos" then some '\''
  else if name = "quot" then some '"'
  else none

/-- The character that a reference stands for; its body begins at byte `start`. -/
def referent (start : Nat) (body : List Char) : Except ReferenceFault Char :=
  match body with
  | '#' :: digits => readCharacter digits
  | _ =>
      let name := String.ofList body
      match named? name with
      | some c => .ok c
      | none => .error (.unknown start (start + Text.size body) name)

/-- Resolves references from byte `offset` of a text of `size` bytes on. Inside a reference,
`opened` holds where it began and its body so far, last character first. The next `&` or `;` after
an opening `&` has to be a `;`. -/
def resolveFrom (size : Nat) : (offset : Nat) → (opened : Option (Nat × List Char)) → List Char →
    Except ReferenceFault (List Char)
  | _, none, [] => .ok []
  | _, some (start, _), [] => .error (.unterminated start size)
  | offset, none, c :: rest =>
      if c = '&' then resolveFrom size (offset + 1) (some (offset, [])) rest
      else (resolveFrom size (offset + c.utf8Size) none rest).map (c :: ·)
  | offset, some (start, body), c :: rest =>
      if c = ';' then
        match referent (start + 1) body.reverse with
        | .error fault => .error fault
        | .ok character => (resolveFrom size (offset + 1) none rest).map (character :: ·)
      else if c = '&' then .error (.unterminated start size)
      else resolveFrom size (offset + c.utf8Size) (some (start, c :: body)) rest

def resolve (text : List Char) : Except ReferenceFault String :=
  (resolveFrom (Text.size text) 0 none text).map String.ofList

def escapedInText (c : Char) : List Char :=
  if c = '<' then "&lt;".toList
  else if c = '>' then "&gt;".toList
  else if c = '&' then "&amp;".toList
  else [c]

/-- A character as it is written in an attribute value: both quotes are replaced as well. -/
def escapedInValue (c : Char) : List Char :=
  if c = '\'' then "&apos;".toList
  else if c = '"' then "&quot;".toList
  else escapedInText c

def escapeText (text : String) : String := String.ofList (text.toList.flatMap escapedInText)

def escapeValue (value : String) : String := String.ofList (value.toList.flatMap escapedInValue)

end Reference
end XmlTemplate.Markup
