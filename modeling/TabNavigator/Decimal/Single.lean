import TabNavigator.Decimal.Layout

/-!
# Text of single precision numbers

The form in which a single precision number stands in a printed description: the
shortest digits that read back, plain from one ten-thousandth up to below ten to
the sixteenth, and a number in the middle of two goes up.
-/

namespace TabNavigator.Decimal

/-- The layout of numbers in descriptions. -/
def describedLayout : Layout := ⟨-4, 16, false, .up⟩

/-- Sign and magnitude of a finite single precision number, from its bits: a sign, eight
bits of exponent and twenty-three bits of fraction, with one more bit in front of them
unless the exponent is the least. -/
def singleOfBits (bits : Nat) : Bool × Magnitude :=
  let fraction := bits % 0x800000
  let field := bits / 0x800000 % 0x100
  let magnitude : Magnitude :=
    if field = 0 then ⟨fraction, -149⟩ else ⟨0x800000 + fraction, (field : Int) - 150⟩
  (0x80000000 ≤ bits, magnitude)

/-- A single precision number as it stands in a description. -/
def describeSingle (x : Float32) : String :=
  if x.isNaN then "NaN"
  else if x.isInf then (if x < 0 then "-inf" else "inf")
  else
    let (negative, magnitude) := singleOfBits x.toBits.toNat
    String.ofList (describedLayout.render .single negative magnitude)

end TabNavigator.Decimal
