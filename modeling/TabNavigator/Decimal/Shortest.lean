import TabNavigator.Decimal.Binary
import TabNavigator.Decimal.Digits

/-!
# The fewest digits that read back

Every number of a binary format stands for an interval: the quotients that round
to it. Among the decimal numbers in that interval one is written out, and it is
found by trying grids of powers of ten, the coarsest first. The first grid that has
a point in the interval gives the fewest digits, and of the two points next to the
number the nearer one is taken.

The number itself lies on the grid of its own last bit, because a power of one half
is a multiple of the same power of one tenth. So the search ends there at the
latest, and that grid bounds the recursion.
-/

namespace TabNavigator.Decimal

/-- The quotients that round to `value / scale`: between `low` and `high` over `scale`,
ends included if `closed`. -/
structure Interval where
  low : Nat
  value : Nat
  high : Nat
  scale : Nat
  closed : Bool

/-- The quotients that round to a number. The gap below a power of two is half of the
gap above it, except at the bottom of the range. -/
def Format.interval (f : Format) (x : Magnitude) : Interval :=
  let unit := powerAbove 2 x.exponent
  let isPower := x.mantissa = Nat.pow 2 (f.precision - 1)
  let below := if isPower ∧ f.leastExponent < x.exponent then 1 else 2
  { low := (4 * x.mantissa - below) * unit
    value := 4 * x.mantissa * unit
    high := (4 * x.mantissa + 2) * unit
    scale := 4 * powerBelow 2 x.exponent
    closed := x.mantissa % 2 == 0 }

/-- Where a number exactly between two points of a grid goes. -/
inductive Tie where
  | even
  | up
deriving DecidableEq

/-- The point of the grid of `10 ^ exponent` in the interval that is nearest to its
value, as a multiple of the grid's unit. -/
def Interval.onGrid (i : Interval) (tie : Tie) (exponent : Int) : Option Nat :=
  let fine := powerBelow 10 exponent
  let unit := i.scale * powerAbove 10 exponent
  let value := i.value * fine
  let inside (n : Nat) : Bool :=
    if i.closed then i.low * fine ≤ n * unit && n * unit ≤ i.high * fine
    else i.low * fine < n * unit && n * unit < i.high * fine
  let n := value / unit
  let twice := 2 * (value % unit)
  match inside n, inside (n + 1) with
  | false, false => none
  | true, false => some n
  | false, true => some (n + 1)
  | true, true =>
      if twice < unit then some n
      else if unit < twice then some (n + 1)
      else match tie with
        | .even => some (n + n % 2)
        | .up => some (n + 1)

/-- Tries `steps` grids, each ten times finer than the one before. -/
def Interval.coarsest (i : Interval) (tie : Tie) : Nat → Int → Digits
  | 0, exponent =>
      ⟨i.value * powerBelow 10 exponent / (i.scale * powerAbove 10 exponent), exponent⟩
  | steps + 1, exponent =>
      match i.onGrid tie exponent with
      | some n => ⟨n, exponent⟩
      | none => i.coarsest tie steps (exponent - 1)

/-- The shortest decimal that rounds to a number, and of those the nearest. -/
def Format.shortest (f : Format) (tie : Tie) (x : Magnitude) : Digits :=
  let i := f.interval x
  let top : Int := (Nat.toDigits 10 (i.high / i.scale)).length
  i.coarsest tie (top - min x.exponent 0).toNat top

end TabNavigator.Decimal
