/-!
A double read off its bits: a sign and a number `significand * 2 ^ exponent`, or one of the values
that are no number. All further work on a double happens in exact integers.
-/

namespace XmlTemplate.Number

/-- The magnitude `significand * 2 ^ exponent` of a finite double. -/
structure Binary where
  significand : Nat
  exponent : Int
  /-- The next smaller double is only half as far away as the next larger one. -/
  narrowBelow : Bool
deriving DecidableEq

inductive Reading
  | nan
  | infinite (negative : Bool)
  | finite (negative : Bool) (magnitude : Binary)
deriving DecidableEq

/-- The number of fractions that a double can have, one for each value of 52 bits. -/
def fractionCount : Nat := 0x10000000000000

/-- Reads sign, exponent and fraction from the 64 bits. Biased exponent zero marks the subnormal
numbers, which have no hidden bit; the spacing halves below a power of two among the others. -/
def Reading.ofBits (bits : UInt64) : Reading :=
  let negative := bits.toNat / fractionCount / 2048 == 1
  let biased : Nat := bits.toNat / fractionCount % 2048
  let fraction : Nat := bits.toNat % fractionCount
  if biased = 2047 then if fraction = 0 then .infinite negative else .nan
  else if biased = 0 then .finite negative ⟨fraction, -1074, false⟩
  else
    .finite negative
      ⟨fractionCount + fraction, (biased : Int) - 1075, fraction = 0 && biased ≠ 1⟩

def Binary.fraction (b : Binary) : Nat × Nat :=
  if 0 ≤ b.exponent then (b.significand * Nat.pow 2 b.exponent.toNat, 1)
  else (b.significand, Nat.pow 2 (-b.exponent).toNat)

end XmlTemplate.Number
