import XmlTemplate.Number.Binary

/-!
The shortest decimal that reads back as a given double. The reals that round to the double form an
interval around it. On a decimal grid the two neighbours of the double are the only candidates, so
the grids are tried from the coarsest on: the first one that has a neighbour inside the interval
gives the fewest digits, and of two hits on it the nearer one is taken, the larger one when they are
equally near.
-/

namespace XmlTemplate.Number

/-- The number `digits * 10 ^ exponent`. -/
structure Decimal where
  digits : Nat
  exponent : Int
deriving DecidableEq

/-- The interval of reals that round to a double, in units of a fourth of its last place. The ends
belong to it when the significand is even. -/
structure Interval where
  lower : Nat
  centre : Nat
  upper : Nat
  closed : Bool
  unit : Nat × Nat

/-- The interval around a magnitude. Where the spacing halves below, so does the lower half. -/
def Binary.interval (b : Binary) : Interval where
  lower := 4 * b.significand - (if b.narrowBelow then 1 else 2)
  centre := 4 * b.significand
  upper := 4 * b.significand + 2
  closed := b.significand % 2 == 0
  unit := { b with significand := 1, exponent := b.exponent - 2 }.fraction

/-- The best point of the grid `10 ^ exponent` inside the interval, if there is one. Both sides of
each comparison are multiplied out to integers. -/
def Interval.onGrid? (i : Interval) (exponent : Int) : Option Decimal :=
  let raise := Nat.pow 10 (-exponent).toNat * i.unit.1
  let step := Nat.pow 10 exponent.toNat * i.unit.2
  let below := i.centre * raise / step
  let contains (digits : Nat) : Bool :=
    let point := digits * step
    0 < digits && (if i.closed then i.lower * raise ≤ point && point ≤ i.upper * raise
      else i.lower * raise < point && point < i.upper * raise)
  let distanceBelow := i.centre * raise - below * step
  let distanceAbove := (below + 1) * step - i.centre * raise
  match contains below, contains (below + 1) with
  | true, true => some ⟨if distanceAbove ≤ distanceBelow then below + 1 else below, exponent⟩
  | true, false => some ⟨below, exponent⟩
  | false, true => some ⟨below + 1, exponent⟩
  | false, false => none

/-- Tries the grids downwards from `10 ^ exponent`, at most `grids` of them. -/
def Interval.searchGrids (i : Interval) : (grids : Nat) → (exponent : Int) → Decimal
  | 0, exponent => ⟨0, exponent⟩
  | grids + 1, exponent =>
      (i.onGrid? exponent).getD (i.searchGrids grids (exponent - 1))

/-- The shortest decimal that rounds to the magnitude, and of those the nearest. The search starts
above the magnitude; seventeen digits always suffice to tell two doubles apart. -/
def Binary.shortest (b : Binary) : Decimal :=
  if b.significand = 0 then ⟨0, 0⟩
  else
    let bits : Int := b.exponent + b.significand.log2 + 1
    b.interval.searchGrids 21 (bits * 30103 / 100000 + 1)

end XmlTemplate.Number
