import XmlTemplate.Text.Split

/-!
Paths as they are written. A path is a text whose parts are separated by slashes; a leading slash
makes it absolute. Repeated and trailing slashes do not matter, and neither does a part `.`, except
that one at the very start is a part of its own when the path is shortened.
-/

namespace XmlTemplate

inductive PathPart
  | here
  | up
  | name (text : String)
deriving DecidableEq

namespace Path

def isAbsolute (path : String) : Bool := path.toList.head? = some '/'

/-- The part that a piece between slashes stands for; an empty piece is none. -/
def part? (piece : List Char) : Option PathPart :=
  match piece with
  | [] => none
  | ['.'] => some .here
  | ['.', '.'] => some .up
  | _ => some (.name (String.ofList piece))

def parts (path : String) : List PathPart := (Text.pieces '/' path.toList).filterMap part?

def ofPieces (pieces : List (List Char)) : String :=
  String.ofList (['/'].intercalate pieces)

/-- Drops pieces from the end until one matters: an empty piece and a part `.` do not, but a part
`.` that begins a relative path does. -/
def dropIdle (absolute : Bool) (pieces : List (List Char)) : List (List Char) :=
  match pieces with
  | first :: rest =>
      let kept := (rest.reverse.dropWhile fun piece => piece == [] || piece == ['.']).reverse
      if kept.isEmpty && (first == [] || (absolute && first == ['.'])) then [] else first :: kept
  | [] => []

/-- The path without its last part, if it has one. The spelling of what remains is kept. -/
def parent? (path : String) : Option String :=
  let absolute := isAbsolute path
  let body := if absolute then path.toList.drop 1 else path.toList
  match dropIdle absolute (Text.pieces '/' body) with
  | [] => none
  | pieces =>
      let remaining := ofPieces (dropIdle absolute pieces.dropLast)
      some (if absolute then "/" ++ remaining else remaining)

/-- A path taken relative to a base; an absolute path stands for itself. -/
def join (base path : String) : String :=
  if isAbsolute path || base.isEmpty then path
  else if base.toList.getLast? = some '/' then base ++ path
  else base ++ "/" ++ path

end Path
end XmlTemplate
