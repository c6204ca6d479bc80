/-!
# Rows of decimal digits

A row of digits can be longer than any number that one wants to hold, so it is read
into a machine word. Digits are taken for as long as the word holds the number they
make. Those left over before the point still count as places; those left over behind
it are as good as zero.

After digits have been dropped before the point, the ones behind it are tried again
from the first. A smaller digit than the one that found no room may find room.
-/

namespace TabNavigator.Decimal

/-- The number `coefficient * 10 ^ exponent`. -/
structure Digits where
  coefficient : Nat
  exponent : Int
deriving DecidableEq

/-- How many values a machine word has. -/
def wordSize : Nat := 0x10000000000000000

/-- The number that a digit stands for. -/
def digitValue (d : Char) : Nat := d.toNat - 48

/-- The value of a row of digits, however long. -/
def digitsValue (ds : List Char) : Nat :=
  ds.foldl (fun n d => 10 * n + digitValue d) 0

/-- A word with as many of the digits appended to it as it holds, and the digits left. -/
def appendDigits (word : Nat) : List Char → Nat × List Char
  | [] => (word, [])
  | d :: rest =>
      let longer := 10 * word + digitValue d
      if longer < wordSize then appendDigits longer rest else (word, d :: rest)

/-- What a word holds of the digits before and behind a point. -/
def Digits.ofRows (whole fraction : List Char) : Digits :=
  let (word, dropped) := appendDigits 0 whole
  let (word, ignored) := appendDigits word fraction
  ⟨word, dropped.length - (fraction.length - ignored.length)⟩

/-- A number moved by a power of ten. -/
def Digits.scaled (d : Digits) (power : Int) : Digits :=
  ⟨d.coefficient, d.exponent + power⟩

end TabNavigator.Decimal
