import XmlTemplate.Markup.Reference

/-!
What can be wrong with markup, and how it is put in words.
-/

namespace XmlTemplate.Markup

/-- What can be wrong with the attributes of a tag. Offsets count bytes from the start of the tag's
content. -/
inductive AttributeFault
  | missingEquals (offset : Nat)
  | missingValue (offset : Nat)
  | unquotedValue (offset : Nat)
  | missingQuote (offset : Nat) (quote : Char)
  | duplicate (offset previous : Nat)
deriving DecidableEq

def AttributeFault.message : AttributeFault → String
  | .missingEquals offset =>
      s!"position {offset}: attribute key must be directly followed by `=` or space"
  | .missingValue offset => s!"position {offset}: `=` must be followed by an attribute value"
  | .unquotedValue offset =>
      s!"position {offset}: attribute value must be enclosed in `\"` or `'`"
  | .missingQuote offset quote =>
      s!"position {offset}: missing closing quote `{quote}` in attribute value"
  | .duplicate offset previous =>
      s!"position {offset}: duplicated attribute, previous declaration at position {previous}"

inductive ConstructKind
  | tag
  | comment
  | cdata
  | doctype
  | instruction
deriving DecidableEq

def ConstructKind.unclosed : ConstructKind → String
  | .tag => "tag not closed: `>` not found before end of input"
  | .comment => "comment not closed: `-->` not found before end of input"
  | .cdata => "CDATA not closed: `]]>` not found before end of input"
  | .doctype => "DOCTYPE not closed: `>` not found before end of input"
  | .instruction =>
      "processing instruction or xml declaration not closed: `?>` not found before end of input"

inductive Fault
  | unknownMarkup
  | unclosed (kind : ConstructKind)
  | namelessDoctype
  | mismatchedEnd (expected found : String)
  | unmatchedEnd (found : String)
  | unclosedElement (name : String)
  | undeclaredPrefix (lead : String)
  | reservedBinding (lead uri : String)
  | attributes (fault : AttributeFault)
  | declarationAttributes (fault : AttributeFault)
  | noVersion (first : Option String)
  | reference (fault : ReferenceFault)
  | noRoot
  | manyRoots
deriving DecidableEq

/-- A byte as it is shown in a namespace message: printable ASCII stands for itself. -/
def shownByte (byte : UInt8) : List Char :=
  if byte = 34 then ['\\', '"']
  else if 32 ≤ byte ∧ byte ≤ 126 then [Char.ofNat byte.toNat]
  else '0' :: 'x' :: (Nat.toDigits 16 byte.toNat).map Char.toUpper

/-- A text in double quotes, byte by byte. -/
def shownBytes (text : String) : String :=
  String.ofList ('"' :: text.toUTF8.toList.flatMap shownByte ++ ['"'])

def Fault.message : Fault → String
  | .unknownMarkup => "syntax error: unknown or missed symbol in markup"
  | .unclosed kind => "syntax error: " ++ kind.unclosed
  | .namelessDoctype =>
      "ill-formed document: `<!DOCTYPE>` declaration does not contain a name of a document type"
  | .mismatchedEnd expected found =>
      s!"ill-formed document: expected `</{expected}>`, but `</{found}>` was found"
  | .unmatchedEnd found =>
      s!"ill-formed document: close tag `</{found}>` does not match any open tag"
  | .unclosedElement name => s!"unclosed element <{name}>"
  | .undeclaredPrefix lead => s!"undeclared namespace prefix '{lead}'"
  | .reservedBinding lead uri =>
      "The namespace prefix '" ++ shownBytes lead ++ "' cannot be bound to '" ++ shownBytes uri ++
        "'"
  | .attributes fault => fault.message
  | .declarationAttributes fault => "error while parsing attribute: " ++ fault.message
  | .noVersion none =>
      "ill-formed document: an XML declaration does not contain `version` attribute"
  | .noVersion (some first) =>
      "ill-formed document: an XML declaration must start with `version` attribute, " ++
        s!"but in starts with `{first}`"
  | .reference fault => fault.message
  | .noRoot => "document has no root element"
  | .manyRoots => "document has more than one root element"

end XmlTemplate.Markup
