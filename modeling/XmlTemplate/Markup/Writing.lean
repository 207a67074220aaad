import XmlTemplate.Markup.Node
import XmlTemplate.Markup.Reference
import XmlTemplate.Text.Blank

/-!
Writing markup. Compact output adds nothing to the nodes. Indented output puts the children of an
element on lines of their own, but only where that adds blank text alone: an element that holds
other text, or character data, is written compactly with everything below it.
-/

namespace XmlTemplate.Markup

def writeDeclared (keyword : String) : Option String → String
  | some value => " " ++ keyword ++ "=\"" ++ value ++ "\""
  | none => ""

/-- A declaration between `<?` and `?>`. Its values are written as they were read. -/
def Declaration.write (declaration : Declaration) : String :=
  "<?xml version=\"" ++ declaration.version ++ "\"" ++
    writeDeclared "encoding" declaration.encoding ++
    writeDeclared "standalone" declaration.standalone ++ "?>"

def Attribute.write (item : Attribute) : String :=
  " " ++ item.name.written ++ "=\"" ++ Reference.escapeValue item.value ++ "\""

def Attributes.write (attributes : Attributes) : String :=
  attributes.foldr (fun item rest => item.write ++ rest) ""

def writeTagStart (name : Name) (attributes : Attributes) : String :=
  "<" ++ name.written ++ Attributes.write attributes

def writeTagEnd (name : Name) : String := "</" ++ name.written ++ ">"

mutual
def Node.write : Node → String
  | .element name attributes [] => writeTagStart name attributes ++ "/>"
  | .element name attributes (child :: rest) =>
      writeTagStart name attributes ++ ">" ++ (child.write ++ Forest.write rest) ++
        writeTagEnd name
  | .text content => Reference.escapeText content
  | .cdata content => "<![CDATA[" ++ content ++ "]]>"
  | .comment content => "<!--" ++ content ++ "-->"
  | .instruction content => "<?" ++ content ++ "?>"
  | .doctype content => "<!DOCTYPE " ++ content ++ ">"
  | .declaration content => content.write

def Forest.write : Forest → String
  | [] => ""
  | node :: rest => node.write ++ Forest.write rest
end

def Document.write (document : Document) : String := Forest.write document.nodes

def Node.isBlank : Node → Bool
  | .text content => Text.isAllBlank content
  | _ => false

/-- Content next to which no blank may be added: text that shows something, and character data. -/
def Node.isSignificantText : Node → Bool
  | .text content => !Text.isAllBlank content
  | .cdata _ => true
  | _ => false

def newLine (depth : Nat) : String := String.ofList ('\n' :: List.replicate (2 * depth) ' ')

mutual
def Node.writeIndented (depth : Nat) : Node → String
  | .element name attributes [] => writeTagStart name attributes ++ "/>"
  | .element name attributes (child :: rest) =>
      if (child :: rest).any Node.isSignificantText then
        Node.write (.element name attributes (child :: rest))
      else
        writeTagStart name attributes ++ ">" ++ Forest.writeLines (depth + 1) (child :: rest) ++
          (if (child :: rest).all Node.isBlank then "" else newLine depth) ++ writeTagEnd name
  | node => node.write

/-- Sibling nodes without the blank ones, each on a line of its own. -/
def Forest.writeLines (depth : Nat) : Forest → String
  | [] => ""
  | node :: rest =>
      (if node.isBlank then "" else newLine depth ++ node.writeIndented depth) ++
        Forest.writeLines depth rest
end

/-- The indented markup of top-level nodes: one a line, without the blank ones, and with a line feed
at the end if there is any. -/
def Forest.writeIndented (nodes : Forest) : String :=
  String.join ((nodes.filter (!·.isBlank)).map fun node => node.writeIndented 0 ++ "\n")

def Document.writeIndented (document : Document) : String := Forest.writeIndented document.nodes

end XmlTemplate.Markup
