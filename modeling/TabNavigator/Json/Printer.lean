import TabNavigator.Decimal.Layout
import TabNavigator.Json.Value

/-!
# Printing JSON

The compact form: no blanks, members in the order in which the object keeps them,
and only those characters escaped that must be. Doubles have their shortest digits
and always show that they are not integers.
-/

namespace TabNavigator.Json

open Decimal

/-- The layout of doubles: plain from one hundred-thousandth up to below ten to the
sixteenth, the power always signed, and a number in the middle of two goes to the even
one. -/
def doubleLayout : Layout := ⟨-5, 16, true, .even⟩

def Number.print : Number → List Char
  | .integer n => signedDigits n
  | .double negative magnitude => doubleLayout.render .double negative magnitude

/-- A digit of a number below sixteen, in small letters. -/
def smallHexDigit (n : Nat) : Char :=
  if n < 10 then Char.ofNat (48 + n) else Char.ofNat (87 + n)

/-- One character as it stands in a string. -/
def printChar (c : Char) : List Char :=
  if c = '"' then ['\\', '"']
  else if c = '\\' then ['\\', '\\']
  else if c = '\x08' then ['\\', 'b']
  else if c = '\x0c' then ['\\', 'f']
  else if c = '\n' then ['\\', 'n']
  else if c = '\r' then ['\\', 'r']
  else if c = '\t' then ['\\', 't']
  else if c.toNat < 0x20 then
    ['\\', 'u', '0', '0', smallHexDigit (c.toNat / 16), smallHexDigit (c.toNat % 16)]
  else [c]

def printString (cs : List Char) : List Char :=
  '"' :: (cs.flatMap printChar ++ ['"'])

mutual

/-- The compact text of a value, as characters. -/
def print : Json → List Char
  | .null => "null".toList
  | .bool true => "true".toList
  | .bool false => "false".toList
  | .number n => n.print
  | .string s => printString s.toList
  | .array elements => '[' :: (printElements elements ++ [']'])
  | .object members => '\x7b' :: (printMembers members ++ ['\x7d'])

/-- Values with commas between them. -/
def printElements : List Json → List Char
  | [] => []
  | [v] => print v
  | v :: rest => print v ++ ',' :: printElements rest

/-- Members with commas between them. -/
def printMembers : List (String × Json) → List Char
  | [] => []
  | [(k, v)] => printString k.toList ++ ':' :: print v
  | (k, v) :: rest => printString k.toList ++ ':' :: (print v ++ ',' :: printMembers rest)

end

/-- The compact text of a value. -/
def compact (v : Json) : String :=
  String.ofList v.print

end TabNavigator.Json
