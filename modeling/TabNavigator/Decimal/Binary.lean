/-!
# Binary numbers of limited precision

A format fixes how many bits a number has and between which powers of two its last
bit may stand. Its numbers are exact fractions, a natural number times a power of
two, and a quotient is brought into the format by rounding to the nearest number,
a half going to the even neighbour. All arithmetic is on natural numbers.
-/

namespace TabNavigator.Decimal

/-- Precision in bits, and the range of the exponents of the last bit. -/
structure Format where
  precision : Nat
  leastExponent : Int
  greatestExponent : Int

/-- The format with fifty-three bits. -/
def Format.double : Format := ⟨53, -1074, 971⟩

/-- The format with twenty-four bits. -/
def Format.single : Format := ⟨24, -149, 104⟩

/-- The number `mantissa * 2 ^ exponent`. -/
structure Magnitude where
  mantissa : Nat
  exponent : Int
deriving DecidableEq

/-- The numerator of a power with an integer exponent. -/
def powerAbove (base : Nat) (exponent : Int) : Nat := Nat.pow base exponent.toNat

/-- The denominator of a power with an integer exponent. -/
def powerBelow (base : Nat) (exponent : Int) : Nat := Nat.pow base (-exponent).toNat

/-- The greatest power of two that is at most the quotient of two positive numbers. -/
def floorLog2 (num den : Nat) : Int :=
  let guess : Int := Nat.log2 num - Nat.log2 den
  if den * powerAbove 2 guess ≤ num * powerBelow 2 guess then guess else guess - 1

/-- The natural number nearest to a quotient; of two, the even one. -/
def roundHalfEven (num den : Nat) : Nat :=
  let q := num / den
  let twice := 2 * (num % den)
  if twice < den then q
  else if den < twice then q + 1
  else q + q % 2

/-- The number of the format nearest to a quotient, unless that lies above its range. -/
def Format.nearest (f : Format) (num den : Nat) : Option Magnitude :=
  if num = 0 then some ⟨0, f.leastExponent⟩
  else
    let exponent := max (floorLog2 num den - (f.precision - 1)) f.leastExponent
    let mantissa := roundHalfEven (num * powerBelow 2 exponent) (den * powerAbove 2 exponent)
    let rounded : Magnitude :=
      if mantissa = Nat.pow 2 f.precision then ⟨Nat.pow 2 (f.precision - 1), exponent + 1⟩
      else ⟨mantissa, exponent⟩
    if f.greatestExponent < rounded.exponent then none else some rounded

/-- The number of the format nearest to a product, unless that lies above its range. -/
def Format.product (f : Format) (x y : Magnitude) : Option Magnitude :=
  let exponent := x.exponent + y.exponent
  f.nearest (x.mantissa * y.mantissa * powerAbove 2 exponent) (powerBelow 2 exponent)

/-- The number of the format nearest to a quotient of two of its numbers, unless that
lies above its range. -/
def Format.quotient (f : Format) (x y : Magnitude) : Option Magnitude :=
  let exponent := x.exponent - y.exponent
  f.nearest (x.mantissa * powerAbove 2 exponent) (y.mantissa * powerBelow 2 exponent)

end TabNavigator.Decimal
