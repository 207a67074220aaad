import XmlTemplate.Markup.Lexeme
import XmlTemplate.Markup.Node
import XmlTemplate.Markup.Scope

/-!
Reading markup. The constructs of a text are attached one by one to the innermost element that is
still open; an end tag closes it and attaches it in turn. A fragment may hold any nodes, a document
exactly one top-level element.
-/

namespace XmlTemplate.Markup

/-- An element whose end tag has not been reached. Its children so far are kept last first. -/
structure OpenElement where
  written : List Char
  element : Element
  scope : Scope
  before : Forest

/-- A tree in the making: open elements, innermost first, and finished top-level nodes, last first.
The starts of the top-level elements are recorded when their tags are met, last first. -/
structure Growth where
  opened : List OpenElement
  finished : Forest
  roots : List Nat

namespace Growth

def empty : Growth := ⟨[], [], []⟩

def scope (growth : Growth) : Scope :=
  match growth.opened with
  | [] => Scope.outermost
  | inner :: _ => inner.scope

def attach (growth : Growth) (node : Node) : Growth :=
  match growth.opened with
  | [] => { growth with finished := node :: growth.finished }
  | inner :: outer =>
      { growth with opened := { inner with before := node :: inner.before } :: outer }

def noteRoot (growth : Growth) (start : Nat) : Growth :=
  if growth.opened.isEmpty then { growth with roots := start :: growth.roots } else growth

end Growth

/-- Splits a written name at its first colon. Unlike a name given on its own, a name in markup may
have an empty prefix or an empty local part. -/
def splitWritten (written : List Char) : Option (List Char) × String :=
  match Text.cutAt? ':' written with
  | some (lead, base) => (some lead, String.ofList base)
  | none => (none, String.ofList written)

def readElementName (scope : Scope) (written : List Char) : Except Fault Name :=
  match splitWritten written with
  | (none, base) => .ok ⟨none, base, scope.defaultUri?⟩
  | (some lead, base) =>
      (scope.prefixUri lead).map fun uri => ⟨some (String.ofList lead), base, some uri⟩

/-- The name of an attribute. Declarations have no namespace, and neither have unprefixed names. -/
def readAttributeName (scope : Scope) (key : List Char) : Except Fault Name :=
  match splitWritten key with
  | (none, base) => .ok ⟨none, base, none⟩
  | (some lead, base) =>
      if (Scope.declared? key).isSome then .ok ⟨some (String.ofList lead), base, none⟩
      else (scope.prefixUri lead).map fun uri => ⟨some (String.ofList lead), base, some uri⟩

def checkFresh (seen : List RawAttribute) (key : List Char) (start : Nat) : Except Fault Unit :=
  match seen.find? (·.key == key) with
  | some previous => .error (.attributes (.duplicate start previous.start))
  | none => .ok ()

def readReferences (raw : List Char) : Except Fault String :=
  (Reference.resolve raw).mapError .reference

/-- Reads the pairs of a tag one after another: first its key, then its prefix, then its value. -/
def readAttributes (scope : Scope) (fault? : Option ScanFault) :
    (seen pairs : List RawAttribute) → Except Fault Attributes
  | seen, [] =>
      match fault? with
      | none => .ok []
      | some (.key fault) => .error (.attributes fault)
      | some (.value key start fault) => do
          checkFresh seen key start
          .error (.attributes fault)
  | seen, pair :: later => do
      checkFresh seen pair.key pair.start
      let name ← readAttributeName scope pair.key
      let value ← readReferences pair.value
      return ⟨name, value⟩ :: (← readAttributes scope fault? (seen ++ [pair]) later)

def readTag (outer : Scope) (content : List Char) : Except Fault OpenElement := do
  let scan := Tag.attributes content
  let scope ← outer.enter scan.attributes
  let name ← readElementName scope (Tag.name content)
  let attributes ← readAttributes scope scan.fault? [] scan.attributes
  return ⟨Tag.name content, ⟨name, attributes, []⟩, scope, []⟩

def declaredValue (scan : Scan) (key : String) : Except Fault (Option String) :=
  match scan.attributes.find? (·.key == key.toList) with
  | some pair => .ok (some (String.ofList pair.value))
  | none =>
      match scan.fault? with
      | none => .ok none
      | some (.key fault) => .error (.declarationAttributes fault)
      | some (.value _ _ fault) => .error (.declarationAttributes fault)

def declaredVersion (scan : Scan) : Except Fault String :=
  match scan.attributes with
  | pair :: _ =>
      if pair.key = "version".toList then .ok (String.ofList pair.value)
      else .error (.noVersion (some (String.ofList pair.key)))
  | [] =>
      match scan.fault? with
      | none => .error (.noVersion none)
      | some (.key fault) => .error (.declarationAttributes fault)
      | some (.value _ _ fault) => .error (.declarationAttributes fault)

/-- Reads the content of a declaration. Its values are kept as written. -/
def readDeclaration (content : List Char) : Except Fault Declaration := do
  let scan := Tag.scan (Text.size content) (content.drop 3)
  let version ← declaredVersion scan
  let encoding ← declaredValue scan "encoding"
  let standalone ← declaredValue scan "standalone"
  return ⟨version, encoding, standalone⟩

/-- The name in an end tag: trailing blanks are dropped unless there is nothing else. -/
def closingName (content : List Char) : List Char :=
  if content.all Text.isMarkupBlank then content else Text.trimEnd Text.isMarkupBlank content

/-- Closes the innermost element if the end tag names it as it was written. -/
def Growth.close (growth : Growth) (content : List Char) : Except Fault Growth :=
  let found := closingName content
  match growth.opened with
  | [] => .error (.unmatchedEnd (String.ofList found))
  | inner :: outer =>
      if inner.written = found then
        let node := { inner.element with children := inner.before.reverse }.toNode
        .ok ({ growth with opened := outer }.attach node)
      else .error (.mismatchedEnd (String.ofList inner.written) (String.ofList found))

def Growth.step (growth : Growth) (lexeme : Lexeme) : Except Fault Growth :=
  match lexeme.construct with
  | .text raw => return growth.attach (.text (← readReferences raw))
  | .opening content => do
      let inner ← readTag growth.scope content
      let noted := growth.noteRoot lexeme.start
      return { noted with opened := inner :: noted.opened }
  | .selfClosing content => do
      let inner ← readTag growth.scope content
      return (growth.noteRoot lexeme.start).attach inner.element.toNode
  | .closing content => growth.close content
  | .comment content => .ok (growth.attach (.comment (String.ofList content)))
  | .cdata content => .ok (growth.attach (.cdata (String.ofList content)))
  | .instruction content => .ok (growth.attach (.instruction (String.ofList content)))
  | .declaration content => return growth.attach (.declaration (← readDeclaration content))
  | .doctype content =>
      .ok (growth.attach (.doctype (String.ofList (Text.trimBlanks content))))

/-- Takes in constructs in order. A fault is reported where its construct stops. -/
def Growth.run (growth : Growth) : List Lexeme → Except (Nat × Fault) Growth
  | [] => .ok growth
  | lexeme :: later =>
      match growth.step lexeme with
      | .error fault => .error (lexeme.stop, fault)
      | .ok grown => grown.run later

/-- Ends the reading of a text of `size` bytes: it must have been cut to its end, with all elements
closed. -/
def Growth.finish (growth : Growth) (size : Nat) : Ending → Except (Nat × Fault) Growth
  | .broken offset fault => .error (offset, fault)
  | .finished =>
      match growth.opened with
      | [] => .ok growth
      | inner :: _ => .error (size, .unclosedElement inner.element.name.written)

structure Malformed where
  line : Nat
  fault : Fault
deriving DecidableEq

def withoutMark : List Char → List Char
  | c :: rest => if c = '\ufeff' then rest else c :: rest
  | [] => []

/-- Reads all of a text. Offsets do not count a leading byte order mark, while lines are counted on
the text with it. -/
def grow (text : List Char) : Except Malformed Growth :=
  let marked := withoutMark text
  let (parts, ending) := lexemes (Text.size marked) marked
  let outcome := do
    let grown ← Growth.empty.run parts
    grown.finish (Text.size marked) ending
  outcome.mapError fun (offset, fault) => ⟨Text.lineAt text offset, fault⟩

def Forest.read (text : String) : Except Malformed Forest :=
  (grow text.toList).map (·.finished.reverse)

/-- Reads a document, which has exactly one top-level element. A second one is reported where its
tag starts. -/
def Document.read (text : String) : Except Malformed Document := do
  let grown ← grow text.toList
  match grown.roots.reverse with
  | [_] => .ok ⟨grown.finished.reverse⟩
  | [] => .error ⟨Text.lineAt text.toList (Text.size text.toList), .noRoot⟩
  | _ :: second :: _ => .error ⟨Text.lineAt text.toList second, .manyRoots⟩

end XmlTemplate.Markup
