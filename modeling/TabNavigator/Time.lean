import TabNavigator.Scalar
import TabNavigator.Decimal.Layout

/-!
# Time

Moments and durations are counted in nanoseconds. A moment may lie before the origin
of the count, a duration may not.
-/

namespace TabNavigator

/-- A moment, in nanoseconds from some origin. -/
abbrev Moment := Int

/-- A length of time, in nanoseconds. -/
abbrev Duration := Nat

namespace Duration

/-- The time from one moment to another, none if the other is earlier. -/
def between (start now : Moment) : Duration :=
  (now - start).toNat

def second : Duration := 1000000000

def milliseconds (n : Nat) : Duration := n * 1000000

/-- A duration in seconds: the whole ones, and the rest as a fraction. -/
def seconds {α : Type} [Scalar α] (d : Duration) : α :=
  Scalar.ofNat (d / second) + Scalar.ofNat (d % second) / Scalar.ofNat second

/-- A count of some unit, with the part below the unit as decimals and no zero at the
end of them. -/
def withDecimals (places count unit : Nat) : List Char :=
  let whole := Decimal.digits (count / unit)
  let fraction := Decimal.digits (count % unit)
  let padded := List.replicate (places - fraction.length) '0' ++ fraction
  let kept := (padded.reverse.dropWhile (· == '0')).reverse
  if kept.isEmpty then whole else whole ++ '.' :: kept

/-- A duration in the largest unit of which it holds one. -/
def describe (d : Duration) : String :=
  String.ofList <|
    if second ≤ d then withDecimals 9 d second ++ ['s']
    else if 1000000 ≤ d then withDecimals 6 d 1000000 ++ ['m', 's']
    else if 1000 ≤ d then withDecimals 3 d 1000 ++ ['µ', 's']
    else Decimal.digits d ++ ['n', 's']

end Duration

end TabNavigator
