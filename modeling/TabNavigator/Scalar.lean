/-!
# Numbers for sizes, colours and opacities

All that is drawn is measured in one type of numbers, and nothing outside this
module looks at what the numbers are. A navigator runs on single precision; the same
definitions read over the rationals give the exact curve of a fade, about which laws
can be stated that rounding would break.

Comparison is a test here, not a relation, because single precision has a value that
compares with nothing.
-/

namespace TabNavigator

/-- Numbers with the operations that drawing needs. -/
class Scalar (α : Type) extends Add α, Sub α, Mul α, Div α where
  /-- A count as a number. -/
  ofNat : Nat → α
  /-- Whether the first number is below the second. -/
  below : α → α → Bool

instance : Scalar Float32 where
  ofNat n := n.toUInt64.toFloat32
  below a b := a < b

instance : Scalar Rat where
  ofNat n := n
  below a b := a < b

namespace Scalar

variable {α : Type} [Scalar α]

/-- A fraction of two counts. -/
def ratio (n d : Nat) : α := ofNat n / ofNat d

def zero : α := ofNat 0

def one : α := ofNat 1

/-- The number, or one if it is not below one. -/
def capAtOne (x : α) : α :=
  if below x one then x else one

/-- The number brought between zero and one. -/
def toUnit (x : α) : α :=
  if below x zero then zero else if below one x then one else x

end Scalar

end TabNavigator
