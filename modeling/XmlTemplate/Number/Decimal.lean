import XmlTemplate.Number.Digits
import XmlTemplate.Number.Shortest

/-!
Decimal text. A double is written with the fewest digits that read back as the same double, always
in positional notation: no exponent, and no point when the value is whole. A share is written with
one place, a half going to the even neighbour. Reading accepts the usual forms, with an optional
exponent.
-/

namespace XmlTemplate.Number

def Decimal.positional (d : Decimal) : List Char :=
  let digits := Nat.toDigits 10 d.digits
  if 0 ≤ d.exponent then
    if d.digits = 0 then digits else digits ++ List.replicate d.exponent.toNat '0'
  else
    let places := (-d.exponent).toNat
    if places < digits.length then
      digits.take (digits.length - places) ++ '.' :: digits.drop (digits.length - places)
    else '0' :: '.' :: List.replicate (places - digits.length) '0' ++ digits

/-- The text of a double; zero keeps its sign. -/
def floatText (value : Float) : String :=
  match Reading.ofBits value.toBits with
  | .nan => "NaN"
  | .infinite negative => if negative then "-inf" else "inf"
  | .finite negative magnitude =>
      String.ofList ((if negative then ['-'] else []) ++ magnitude.shortest.positional)

/-- The nearest whole number to a fraction, a half going to the even neighbour. -/
def roundHalfEven (numerator denominator : Nat) : Nat :=
  let whole := numerator / denominator
  let twice := 2 * (numerator % denominator)
  if twice < denominator || (twice == denominator && whole % 2 == 0) then whole else whole + 1

/-- A double that is not negative, rounded to one decimal place. -/
def onePlace (value : Float) : String :=
  match Reading.ofBits value.toBits with
  | .finite _ magnitude =>
      let (numerator, denominator) := magnitude.fraction
      let tenths := roundHalfEven (10 * numerator) denominator
      toString (tenths / 10) ++ "." ++ toString (tenths % 10)
  | _ => floatText value

/-- The double nearest to `digits * 10 ^ exponent`. Magnitudes far outside the range are settled
before any power of ten is computed. -/
def nearestFloat (negative : Bool) (digits : Nat) (exponent : Int) : Float :=
  let size : Int := digits.log2 * 30103 / 100000 + exponent
  let magnitude : Float :=
    if digits = 0 then 0.0
    else if 400 < size then 1.0 / 0.0
    else if size < -400 then 0.0
    else if 0 ≤ exponent then Float.ofScientific digits false exponent.toNat
    else Float.ofScientific digits true (-exponent).toNat
  if negative then -magnitude else magnitude

def splitSign : List Char → Bool × List Char
  | '-' :: rest => (true, rest)
  | '+' :: rest => (false, rest)
  | chars => (false, chars)

def readExponent? : List Char → Option Int
  | [] => some 0
  | mark :: rest =>
      let (negative, digits) := splitSign rest
      if (mark == 'e' || mark == 'E') && !digits.isEmpty && digits.all Char.isDigit then
        some (if negative then -(digitsValue digits : Int) else digitsValue digits)
      else none

/-- The digits around a decimal point, of which at least one is needed, and the exponent part. -/
def readUnsigned? (negative : Bool) (chars : List Char) : Option Float :=
  let whole := chars.takeWhile Char.isDigit
  let afterWhole := chars.dropWhile Char.isDigit
  let (places, rest) := match afterWhole with
    | '.' :: rest => (rest.takeWhile Char.isDigit, rest.dropWhile Char.isDigit)
    | rest => ([], rest)
  if whole.isEmpty && places.isEmpty then none
  else (readExponent? rest).map fun exponent =>
    nearestFloat negative (digitsValue (whole ++ places)) (exponent - places.length)

/-- Reads a decimal number, an infinity or a not-a-number; the words may be in either case. -/
def readFloat? (text : String) : Option Float :=
  let (negative, rest) := splitSign text.toList
  let word := String.ofList (rest.map Char.toLower)
  if word = "nan" then some (0.0 / 0.0)
  else if word = "inf" || word = "infinity" then
    some (if negative then -(1.0 / 0.0) else 1.0 / 0.0)
  else readUnsigned? negative rest

end XmlTemplate.Number
