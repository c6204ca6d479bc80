import TabNavigator.Decimal.Shortest

/-!
# Writing digits out

Digits are written with a point in their place while the number is neither very
small nor very large, and as a mantissa with a power of ten otherwise. Where the
one form ends and the other begins, and how the power is signed, is a layout. The
plain form always has a digit on both sides of the point.
-/

namespace TabNavigator.Decimal

/-- How a number is written: from which power of ten on it is plain, from which on it is
no longer, whether a positive power carries a sign, and where a tie goes. -/
structure Layout where
  plainFrom : Int
  plainBelow : Int
  signedPower : Bool
  tie : Tie

/-- The digits of a natural number. -/
def digits (n : Nat) : List Char :=
  Nat.toDigits 10 n

/-- An integer, with a sign if it is negative. -/
def signedDigits (n : Int) : List Char :=
  if n < 0 then '-' :: digits n.natAbs else digits n.natAbs

/-- Digits with a point after the first `places` of them, padded with zeros. -/
def withPoint (ds : List Char) (places : Int) : List Char :=
  if places ≤ 0 then '0' :: '.' :: (List.replicate (-places).toNat '0' ++ ds)
  else if ds.length ≤ places then
    ds ++ List.replicate (places - ds.length).toNat '0' ++ ['.', '0']
  else ds.take places.toNat ++ '.' :: ds.drop places.toNat

/-- Digits with a point after the first of them, and a power of ten. -/
def withPower (ds : List Char) (power : Int) (signedPower : Bool) : List Char :=
  let mantissa := match ds with
    | [] => []
    | [d] => [d]
    | d :: rest => d :: '.' :: rest
  let sign := if signedPower && 0 ≤ power then ['+'] else []
  mantissa ++ 'e' :: (sign ++ signedDigits power)

/-- A decimal number in a layout. -/
def Layout.write (l : Layout) (x : Digits) : List Char :=
  let ds := digits x.coefficient
  let power := ds.length + x.exponent - 1
  if l.plainFrom ≤ power ∧ power < l.plainBelow then withPoint ds (power + 1)
  else withPower ds power l.signedPower

/-- A number of a binary format, in its shortest digits. -/
def Layout.render (l : Layout) (f : Format) (negative : Bool) (x : Magnitude) : List Char :=
  let body := if x.mantissa = 0 then ['0', '.', '0'] else l.write (f.shortest l.tie x)
  if negative then '-' :: body else body

end TabNavigator.Decimal
