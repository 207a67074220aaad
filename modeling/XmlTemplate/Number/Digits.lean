/-!
Numbers written in decimal digits.
-/

namespace XmlTemplate.Number

/-- The value of a run of decimal digits; leading zeros add nothing. -/
def digitsValue (digits : List Char) : Nat :=
  digits.foldl (fun value c => 10 * value + (c.toNat - '0'.toNat)) 0

end XmlTemplate.Number
