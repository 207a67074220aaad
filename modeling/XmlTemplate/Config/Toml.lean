import XmlTemplate.Markup.Reference
import XmlTemplate.Number.Decimal
import XmlTemplate.Text.Split

/-!
Settings files in TOML: tables of keys with values, in lines. Readers take the characters that are
left and give a value with the rest, or nothing where the text does not follow the format.
-/

namespace XmlTemplate.Toml

/-- How a table came about: under a header of its own, as a step on the way to another header,
through dotted keys, or in braces. Only some of them may be added to later. -/
inductive TableForm
  | headed
  | implied
  | dotted
  | inline
deriving DecidableEq

/-- A value. A series is an array of tables written under repeated headers. -/
inductive Value
  | string (content : String)
  | integer (content : Int)
  | float (content : Float)
  | bool (content : Bool)
  | datetime
  | array (items : List Value)
  | table (form : TableForm) (entries : List (String × Value))
  | series (tables : List (List (String × Value)))

/-- The keys of a table with their values, in the order in which they were written. -/
abbrev Entries := List (String × Value)

/-- How many brackets and braces may be open at once, and how many keys a path may have. -/
def maxDepth : Nat := 80

/-- A control character other than a tab; none may stand anywhere but at the end of a line. -/
def isControl (c : Char) : Bool := (c.toNat < 0x20 && c != '\t') || c.toNat == 0x7f

def isSpace (c : Char) : Bool := c == ' ' || c == '\t'

def isBare (c : Char) : Bool := c.isAlphanum || c == '_' || c == '-'

def skipSpaces (text : List Char) : List Char := text.dropWhile isSpace

def lineEnd? : List Char → Option (List Char)
  | '\n' :: rest => some rest
  | '\r' :: '\n' :: rest => some rest
  | _ => none

def skipComment? (text : List Char) : Option (List Char) :=
  match skipSpaces text with
  | '#' :: rest =>
      let stop (c : Char) : Bool := c == '\n' || c == '\r'
      if (rest.takeWhile (!stop ·)).any isControl then none else some (rest.dropWhile (!stop ·))
  | rest => some rest

/-- The text after the rest of a line, which may hold a comment. -/
def closeLine? (text : List Char) : Option (List Char) := do
  match ← skipComment? text with
  | [] => some []
  | rest => lineEnd? rest

def skipLines? : (fuel : Nat) → List Char → Option (List Char)
  | 0, _ => none
  | fuel + 1, text => do
      let rest ← skipComment? text
      match lineEnd? rest with
      | some after => skipLines? fuel after
      | none => some rest

def escaped? : Char → Option Char
  | 'b' => some '\x08'
  | 'e' => some '\x1b'
  | 't' => some '\t'
  | 'n' => some '\n'
  | 'f' => some '\x0c'
  | 'r' => some '\r'
  | '"' => some '"'
  | '\\' => some '\\'
  | _ => none

def scalar? (digits : List Char) : Option Char := do
  let values ← digits.mapM (Markup.Reference.digit? 16)
  let code := values.foldl (fun code digit => 16 * code + digit) 0
  if code.isValidChar then some (Char.ofNat code) else none

def basicString? : List Char → Option (List Char × List Char)
  | [] => none
  | '"' :: rest => some ([], rest)
  | '\\' :: 'x' :: a :: b :: rest => do
      let character ← scalar? [a, b]
      let (content, after) ← basicString? rest
      some (character :: content, after)
  | '\\' :: 'u' :: a :: b :: c :: d :: rest => do
      let character ← scalar? [a, b, c, d]
      let (content, after) ← basicString? rest
      some (character :: content, after)
  | '\\' :: 'U' :: a :: b :: c :: d :: e :: f :: g :: h :: rest => do
      let character ← scalar? [a, b, c, d, e, f, g, h]
      let (content, after) ← basicString? rest
      some (character :: content, after)
  | '\\' :: c :: rest => do
      let character ← escaped? c
      let (content, after) ← basicString? rest
      some (character :: content, after)
  | c :: rest =>
      if isControl c then none
      else (basicString? rest).map fun (content, after) => (c :: content, after)

/-- Where the reading of a long string stands: in its text, behind a backslash at the end of a line,
or among the blanks that such a backslash swallows. -/
inductive LongState
  | text
  | lineEnding
  | swallowing

/-- A string with escapes over several lines, after its opening quotes. One or two quotes may stand
before the closing three. -/
def longBasicString? : LongState → List Char → Option (List Char × List Char)
  | _, [] => none
  | .lineEnding, c :: rest =>
      if isSpace c then longBasicString? .lineEnding rest
      else if c = '\n' then longBasicString? .swallowing rest
      else if c = '\r' ∧ rest.head? = some '\n' then longBasicString? .lineEnding rest
      else none
  | .swallowing, ' ' :: rest => longBasicString? .swallowing rest
  | .swallowing, '\t' :: rest => longBasicString? .swallowing rest
  | .swallowing, '\n' :: rest => longBasicString? .swallowing rest
  | .swallowing, '\r' :: '\n' :: rest => longBasicString? .swallowing rest
  | _, '"' :: '"' :: '"' :: '"' :: '"' :: rest => some (['"', '"'], rest)
  | _, '"' :: '"' :: '"' :: '"' :: rest => some (['"'], rest)
  | _, '"' :: '"' :: '"' :: rest => some ([], rest)
  | _, '\\' :: 'x' :: a :: b :: rest => do
      let character ← scalar? [a, b]
      let (content, after) ← longBasicString? .text rest
      some (character :: content, after)
  | _, '\\' :: 'u' :: a :: b :: c :: d :: rest => do
      let character ← scalar? [a, b, c, d]
      let (content, after) ← longBasicString? .text rest
      some (character :: content, after)
  | _, '\\' :: 'U' :: a :: b :: c :: d :: e :: f :: g :: h :: rest => do
      let character ← scalar? [a, b, c, d, e, f, g, h]
      let (content, after) ← longBasicString? .text rest
      some (character :: content, after)
  | _, '\\' :: c :: rest =>
      if isSpace c then longBasicString? .lineEnding rest
      else if c = '\n' then longBasicString? .swallowing rest
      else if c = '\r' then
        if rest.head? = some '\n' then longBasicString? .swallowing rest else none
      else do
        let character ← escaped? c
        let (content, after) ← longBasicString? .text rest
        some (character :: content, after)
  | _, '\r' :: '\n' :: rest =>
      (longBasicString? .text rest).map fun (content, after) => ('\r' :: '\n' :: content, after)
  | _, c :: rest =>
      if isControl c && c != '\n' then none
      else (longBasicString? .text rest).map fun (content, after) => (c :: content, after)

def longLiteralString? : List Char → Option (List Char × List Char)
  | [] => none
  | '\'' :: '\'' :: '\'' :: '\'' :: '\'' :: rest => some (['\'', '\''], rest)
  | '\'' :: '\'' :: '\'' :: '\'' :: rest => some (['\''], rest)
  | '\'' :: '\'' :: '\'' :: rest => some ([], rest)
  | '\r' :: '\n' :: rest =>
      (longLiteralString? rest).map fun (content, after) => ('\r' :: '\n' :: content, after)
  | c :: rest =>
      if isControl c && c != '\n' then none
      else (longLiteralString? rest).map fun (content, after) => (c :: content, after)

def literalString? (text : List Char) : Option (List Char × List Char) := do
  let (content, after) ← Text.cutAt? '\'' text
  if content.any isControl then none else some (content, after)

/-- A long string does not contain a line end right after its opening quotes. -/
def skipFirstLineEnd (text : List Char) : List Char := (lineEnd? text).getD text

def string? : List Char → Option (List Char × List Char)
  | '"' :: '"' :: '"' :: rest => longBasicString? .text (skipFirstLineEnd rest)
  | '"' :: rest => basicString? rest
  | '\'' :: '\'' :: '\'' :: rest => longLiteralString? (skipFirstLineEnd rest)
  | '\'' :: rest => literalString? rest
  | _ => none

def plainDigits? (isDigit : Char → Bool) (text : List Char) : Option (List Char) :=
  let groups := Text.pieces '_' text
  if groups.all fun group => !group.isEmpty && group.all isDigit then some groups.flatten else none

/-- The digits of a decimal number, which has no needless zero in front. -/
def wholeDigits? (text : List Char) : Option (List Char) := do
  let digits ← plainDigits? Char.isDigit text
  if digits.head? = some '0' ∧ digits ≠ ['0'] then none else some digits

def based? (base : Nat) (text : List Char) : Option Int := do
  let digits ← plainDigits? (fun c => (Markup.Reference.digit? base c).isSome) text
  let values := digits.filterMap (Markup.Reference.digit? base)
  some (values.foldl (fun value digit => base * value + digit) 0 : Nat)

/-- A whole number. Only decimal ones may have a sign. -/
def integer? (text : List Char) : Option Int :=
  match text with
  | '0' :: 'x' :: digits => based? 16 digits
  | '0' :: 'o' :: digits => based? 8 digits
  | '0' :: 'b' :: digits => based? 2 digits
  | _ => do
      let (negative, unsigned) := Number.splitSign text
      let value : Int := Number.digitsValue (← wholeDigits? unsigned)
      some (if negative then -value else value)

/-- The decimal places and the exponent of a number, without underscores; one of them has to be
there. -/
def fraction? (text : List Char) : Option (List Char) := do
  let isMark (c : Char) : Bool := c == 'e' || c == 'E'
  let places ← match text.takeWhile (!isMark ·) with
    | [] => some []
    | '.' :: digits => (plainDigits? Char.isDigit digits).map ('.' :: ·)
    | _ => none
  let exponent ← match text.dropWhile (!isMark ·) with
    | [] => some []
    | _ :: rest =>
        let (negative, digits) := Number.splitSign rest
        (plainDigits? Char.isDigit digits).map fun plain =>
          if negative then 'e' :: '-' :: plain else 'e' :: plain
  if places.isEmpty && exponent.isEmpty then none else some (places ++ exponent)

/-- A number with a fraction or an exponent, or one of the special values. One that is too large for
a double is refused. -/
def float? (text : List Char) : Option Float :=
  let (negative, unsigned) := Number.splitSign text
  let signed (value : Float) : Float := if negative then -value else value
  if unsigned = "inf".toList then some (signed (1.0 / 0.0))
  else if unsigned = "nan".toList then some (signed (0.0 / 0.0))
  else do
    let inWhole (c : Char) : Bool := c.isDigit || c == '_'
    let whole ← wholeDigits? (unsigned.takeWhile inWhole)
    let fraction ← fraction? (unsigned.dropWhile inWhole)
    let value ← Number.readFloat? (String.ofList (whole ++ fraction))
    if value.isInf then none else some (signed value)

def field? (width low high : Nat) (digits : List Char) : Option Nat :=
  let value := Number.digitsValue digits
  if digits.length = width ∧ digits.all Char.isDigit ∧ low ≤ value ∧ value ≤ high then some value
  else none

def daysIn (year month : Nat) : Nat :=
  if month = 2 then
    if year % 4 = 0 ∧ (year % 100 ≠ 0 ∨ year % 400 = 0) then 29 else 28
  else if month = 4 ∨ month = 6 ∨ month = 9 ∨ month = 11 then 30
  else 31

def isDate (text : List Char) : Bool :=
  match Text.pieces '-' text with
  | [year, month, day] =>
      match field? 4 0 9999 year, field? 2 1 12 month with
      | some y, some m => (field? 2 1 (daysIn y m) day).isSome
      | _, _ => false
  | _ => false

def isHourMinute (hour minute : List Char) : Bool :=
  (field? 2 0 23 hour).isSome && (field? 2 0 59 minute).isSome

/-- Whether a text is a second, which may be a leap second and may have a fraction. -/
def isSecond (text : List Char) : Bool :=
  (field? 2 0 60 (text.takeWhile (· ≠ '.'))).isSome &&
    match Text.cutAt? '.' text with
    | some (_, places) => !places.isEmpty && places.all Char.isDigit
    | none => true

/-- Whether a text is a time of the day; the seconds may be left out. -/
def isTime (text : List Char) : Bool :=
  match Text.pieces ':' text with
  | [hour, minute] => isHourMinute hour minute
  | [hour, minute, second] => isHourMinute hour minute && isSecond second
  | _ => false

def isOffset (text : List Char) : Bool :=
  match Text.pieces ':' text with
  | [hour, minute] => isHourMinute hour minute
  | _ => false

def isTimeWithOffset (text : List Char) : Bool :=
  let isMark (c : Char) : Bool := c == 'Z' || c == 'z' || c == '+' || c == '-'
  isTime (text.takeWhile (!isMark ·)) &&
    match text.dropWhile (!isMark ·) with
    | [] => true
    | mark :: rest => if mark = 'Z' ∨ mark = 'z' then rest.isEmpty else isOffset rest

def isDatetime (text : List Char) : Bool :=
  isDate text || isTime text ||
    match text.drop 10 with
    | mark :: time =>
        (mark == 'T' || mark == 't' || mark == ' ') && isDate (text.take 10) &&
          isTimeWithOffset time
    | [] => false

def isPlain (c : Char) : Bool :=
  c.isAlphanum || c == '_' || c == '+' || c == '-' || c == '.' || c == ':'

/-- Splits off a value written without delimiters. A date may be followed by a space and a time. -/
def splitPlain (text : List Char) : List Char × List Char :=
  let first := text.takeWhile isPlain
  match text.dropWhile isPlain with
  | ' ' :: rest =>
      if isDate first ∧ (rest.head?.any Char.isDigit) then
        (first ++ ' ' :: rest.takeWhile isPlain, rest.dropWhile isPlain)
      else (first, ' ' :: rest)
  | rest => (first, rest)

def plainValue? (text : List Char) : Option Value :=
  if text = "true".toList then some (.bool true)
  else if text = "false".toList then some (.bool false)
  else match integer? text with
    | some value => some (.integer value)
    | none =>
        match float? text with
        | some value => some (.float value)
        | none => if isDatetime text then some .datetime else none

def replace (entries : Entries) (key : String) (value : Value) : Entries :=
  entries.map fun entry => if entry.1 = key then (key, value) else entry

/-- Changes the table at the end of a path, making the tables on the way that are missing. A table
in braces is complete, and dotted keys cannot enter one that has a header of its own. -/
def modifyAt (dotted : Bool) (change : TableForm → Entries → Option Entries) :
    List String → TableForm → Entries → Option Entries
  | [], form, entries => change form entries
  | key :: path, _, entries =>
      match entries.lookup key with
      | none => do
          let form := if dotted then TableForm.dotted else .implied
          let inner ← modifyAt dotted change path form []
          some (entries ++ [(key, .table form inner)])
      | some (.table form inner) =>
          if form = .inline ∨ (dotted ∧ form = .headed) then none
          else do
            let changed ← modifyAt dotted change path form inner
            some (replace entries key (.table form changed))
      | some (.series tables) => do
          let last ← tables.getLast?
          let changed ← modifyAt dotted change path .headed last
          some (replace entries key (.series (tables.dropLast ++ [changed])))
      | some _ => none

/-- Adds a value under a path of keys. No key may be there already, and dotted keys may only add to
a table that dotted keys have made. -/
def insert (path : List String) (value : Value) (form : TableForm) (entries : Entries) :
    Option Entries := do
  let last ← path.getLast?
  let add (form : TableForm) (entries : Entries) : Option Entries :=
    if (form = .dotted) = (path.dropLast = []) then none
    else if (entries.lookup last).isSome then none
    else some (entries ++ [(last, value)])
  modifyAt true add path.dropLast form entries

/-- Opens the table of a header. It may be there only as a step on the way to another. -/
def openTable (path : List String) (entries : Entries) : Option Entries := do
  let last ← path.getLast?
  let add (_ : TableForm) (entries : Entries) : Option Entries :=
    match entries.lookup last with
    | none => some (entries ++ [(last, .table .headed [])])
    | some (.table .implied inner) => some (replace entries last (.table .headed inner))
    | some _ => none
  modifyAt false add path.dropLast .headed entries

def openSeries (path : List String) (entries : Entries) : Option Entries := do
  let last ← path.getLast?
  let add (_ : TableForm) (entries : Entries) : Option Entries :=
    match entries.lookup last with
    | none => some (entries ++ [(last, .series [[]])])
    | some (.series tables) => some (replace entries last (.series (tables ++ [[]])))
    | some _ => none
  modifyAt false add path.dropLast .headed entries

def key? (text : List Char) : Option (String × List Char) :=
  match text with
  | '"' :: rest => (basicString? rest).map fun (content, after) => (String.ofList content, after)
  | '\'' :: rest => (literalString? rest).map fun (content, after) => (String.ofList content, after)
  | _ =>
      let bare := text.takeWhile isBare
      if bare.isEmpty then none else some (String.ofList bare, text.dropWhile isBare)

/-- At most so many keys with points between them, and spaces around each. -/
def keysUpTo? : (limit : Nat) → List Char → Option (List String × List Char)
  | 0, _ => none
  | limit + 1, text => do
      let (key, rest) ← key? (skipSpaces text)
      match skipSpaces rest with
      | '.' :: more => do
          let (path, after) ← keysUpTo? limit more
          some (key :: path, after)
      | after => some ([key], after)

def keyPath? (text : List Char) : Option (List String × List Char) := keysUpTo? maxDepth text

mutual
/-- A value inside of which so many brackets and braces may be open at once. -/
def value? : (fuel depth : Nat) → List Char → Option (Value × List Char)
  | 0, _, _ => none
  | fuel + 1, depth, text =>
      match depth, text with
      | 0, '[' :: _ => none
      | depth + 1, '[' :: rest => do
          let (items, after) ← items? fuel depth rest
          some (.array items, after)
      | 0, '\x7b' :: _ => none
      | depth + 1, '\x7b' :: rest => do
          let (entries, after) ← pairs? fuel depth [] rest
          some (.table .inline entries, after)
      | _, c :: _ =>
          if c = '"' ∨ c = '\'' then
            (string? text).map fun (content, after) => (.string (String.ofList content), after)
          else
            let (plain, after) := splitPlain text
            (plainValue? plain).map fun value => (value, after)
      | _, [] => none

/-- The items of an array up to its closing bracket; a comma may follow the last one. -/
def items? : (fuel depth : Nat) → List Char → Option (List Value × List Char)
  | 0, _, _ => none
  | fuel + 1, depth, text => do
      match ← skipLines? (text.length + 1) text with
      | ']' :: after => some ([], after)
      | begun => do
          let (item, rest) ← value? fuel depth begun
          match ← skipLines? (rest.length + 1) rest with
          | ']' :: after => some ([item], after)
          | ',' :: more => do
              let (items, after) ← items? fuel depth more
              some (item :: items, after)
          | _ => none

/-- The pairs of a table in braces up to the closing one; a comma may follow the last pair. Only
the keys of a path have to stay on one line. -/
def pairs? : (fuel depth : Nat) → Entries → List Char → Option (Entries × List Char)
  | 0, _, _, _ => none
  | fuel + 1, depth, entries, text => do
      match ← skipLines? (text.length + 1) text with
      | '\x7d' :: after => some (entries, after)
      | named => do
          let (path, rest) ← keyPath? named
          match ← skipLines? (rest.length + 1) rest with
          | '=' :: rest => do
              let begun ← skipLines? (rest.length + 1) rest
              let (value, rest) ← value? fuel depth begun
              let extended ← insert path value .inline entries
              match ← skipLines? (rest.length + 1) rest with
              | '\x7d' :: after => some (extended, after)
              | ',' :: more => pairs? fuel depth extended more
              | _ => none
          | _ => none
end

structure Progress where
  entries : Entries
  header : List String

def header? (progress : Progress) (text : List Char) : Option (Progress × List Char) :=
  match text with
  | '[' :: rest => do
      let (path, rest) ← keyPath? rest
      match rest with
      | ']' :: ']' :: after => do
          let opened ← openSeries path progress.entries
          some (⟨opened, path⟩, ← closeLine? after)
      | _ => none
  | _ => do
      let (path, rest) ← keyPath? text
      match rest with
      | ']' :: after => do
          let opened ← openTable path progress.entries
          some (⟨opened, path⟩, ← closeLine? after)
      | _ => none

def pair? (progress : Progress) (text : List Char) : Option (Progress × List Char) := do
  let (path, rest) ← keyPath? text
  match rest with
  | '=' :: begun => do
      let (value, rest) ← value? (2 * begun.length + 2) maxDepth (skipSpaces begun)
      let entries ← modifyAt false (insert path value) progress.header .headed progress.entries
      some ({ progress with entries }, ← closeLine? rest)
  | _ => none

def line? (progress : Progress) (text : List Char) : Option (Progress × List Char) :=
  match skipSpaces text with
  | '[' :: rest => header? progress rest
  | begun =>
      match closeLine? begun with
      | some after => some (progress, after)
      | none => pair? progress begun

/-- Reads lines to the end; where one does not follow the format, tells how much text is left. -/
def lines : (fuel : Nat) → Progress → List Char → Except Nat Entries
  | 0, _, text => .error text.length
  | fuel + 1, progress, text =>
      match text with
      | [] => .ok progress.entries
      | _ =>
          match line? progress text with
          | some (read, rest) => lines fuel read rest
          | none => .error text.length

/-- Reads a settings file, which may begin with a byte order mark. A fault is told by the number of
its line. -/
def read (text : String) : Except Nat Entries :=
  let marked := text.toList
  let chars := if marked.head? = some '\ufeff' then marked.drop 1 else marked
  (lines (chars.length + 1) ⟨[], []⟩ chars).mapError fun left =>
    (chars.take (chars.length - left)).count '\n' + 1

end XmlTemplate.Toml
