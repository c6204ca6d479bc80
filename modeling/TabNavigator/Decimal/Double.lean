import TabNavigator.Decimal.Binary
import TabNavigator.Decimal.Digits

/-!
# The double for a word and a power of ten

A word times a power of ten becomes a double in rounded steps: the word is rounded,
and then multiplied with the power or divided by its inverse, which are doubles
themselves. Each step rounds to the nearest number, but the last one rounds what the
earlier ones left, so the result can lie a few places beside the double nearest to
the number. It is the one that these steps give, in this order.

The largest power of ten that is a double has three hundred and eight zeros. A larger
factor leaves the range, and so does a product that gets too large. A smaller number
than that takes two divisions, and a word that is divided twice by the largest power
is zero.
-/

namespace TabNavigator.Decimal

/-- The greatest power of ten that is a double. -/
def greatestTen : Nat := 308

/-- The double nearest to a power of ten. -/
def tenTo (power : Nat) : Option Magnitude :=
  Format.double.nearest (Nat.pow 10 power) 1

/-- A double times a power of ten, unless that lies above the range. -/
def timesTen (x : Magnitude) (power : Nat) : Option Magnitude :=
  if x.mantissa = 0 then some x
  else if greatestTen < power then none
  else do Format.double.product x (← tenTo power)

/-- A double that came from a word, divided by a power of ten. -/
def overTen (x : Magnitude) (power : Nat) : Option Magnitude :=
  if power ≤ greatestTen then do Format.double.quotient x (← tenTo power)
  else if power ≤ 2 * greatestTen then do
    let y ← Format.double.quotient x (← tenTo greatestTen)
    Format.double.quotient y (← tenTo (power - greatestTen))
  else some ⟨0, Format.double.leastExponent⟩

/-- The double for a number whose coefficient is a word, unless it lies above the range. -/
def Digits.toDouble? (d : Digits) : Option Magnitude := do
  let word ← Format.double.nearest d.coefficient 1
  if 0 ≤ d.exponent then timesTen word d.exponent.toNat
  else overTen word (-d.exponent).toNat

end TabNavigator.Decimal
