import TabNavigator.Decimal.Double

/-!
# JSON values

A number is an integer as long as it is written as one and fits in a machine word,
signed or not; every other number is the double for what a word holds of its digits.
The members of an object are kept in the order of their keys, each key once, so two
objects with the same members are equal.
-/

namespace TabNavigator

open Decimal

namespace Json

/-- A number: an integer, or a finite double given by its sign and magnitude. -/
inductive Number where
  | integer (value : Int)
  | double (negative : Bool) (magnitude : Magnitude)
deriving DecidableEq

end Json

/-- A value that a JSON document can denote. -/
inductive Json where
  | null
  | bool (value : Bool)
  | number (value : Json.Number)
  | string (value : String)
  | array (elements : List Json)
  | object (members : List (String × Json))

namespace Json

/-- The members of an object. -/
abbrev Members := List (String × Json)

/-- Sets a member, in place of one with the same key or else before the first greater key. -/
def Members.insert (key : String) (value : Json) : Members → Members
  | [] => [(key, value)]
  | (k, v) :: rest =>
      if key = k then (key, value) :: rest
      else if key < k then (key, value) :: (k, v) :: rest
      else (k, v) :: Members.insert key value rest

/-- The members written in some order. Of two with the same key the later one counts. -/
def Members.ofList (pairs : List (String × Json)) : Members :=
  pairs.foldl (fun members pair => members.insert pair.1 pair.2) []

/-- The value of a member. -/
def Members.get? (members : Members) (key : String) : Option Json :=
  List.lookup key members

theorem Members.get?_cons (key : String) (value : Json) (rest : Members) (k : String) :
    Members.get? ((key, value) :: rest) k = if k = key then some value else rest.get? k := by
  rw [get?, List.lookup_cons]
  split
  · next hsame => rw [if_pos (beq_iff_eq.mp hsame)]
  · next hother => rw [if_neg (beq_eq_false_iff_ne.mp hother), get?]

/-- A member that is set has its new value, and the others keep theirs. -/
theorem Members.get?_insert (key : String) (value : Json) (members : Members) (k : String) :
    (members.insert key value).get? k = if k = key then some value else members.get? k := by
  induction members with
  | nil => exact get?_cons key value [] k
  | cons member rest ih =>
      rw [insert]
      split
      · next hsame =>
          rw [get?_cons, hsame, get?_cons]
          split <;> rfl
      · next hother =>
          split
          · rw [get?_cons]
          · rw [get?_cons, ih, get?_cons]
            split
            · next hhere => rw [if_neg (hhere ▸ Ne.symm hother)]
            · rfl

/-- The number that a text with the digits `whole` before the point, the digits
`fraction` behind it and the power of ten `power` denotes; nothing if it is too large
for a double. Digits alone, with neither point nor power, make an integer if a word can
hold it, but no word holds a negative zero. -/
def Number.ofDecimal (negative : Bool) (whole fraction : List Char) (power : Option Int) :
    Option Number :=
  let digits := Digits.ofRows whole fraction
  let integral := fraction.isEmpty && power.isNone && digits.exponent == 0
  if integral && !negative then some (.integer digits.coefficient)
  else if integral && 0 < digits.coefficient && 2 * digits.coefficient ≤ wordSize then
    some (.integer (-digits.coefficient))
  else
    (digits.scaled (power.getD 0)).toDouble?.map (.double negative)

end Json

end TabNavigator
