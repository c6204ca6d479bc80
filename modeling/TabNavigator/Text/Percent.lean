/-!
# Percent encoding of a query

A query inside a route keeps the characters that a query may hold as they are:
letters and digits, the marks `-._~`, the delimiters of a part of a query, and
`: @ / ?`. Everything else is written byte by byte, in UTF-8, as a percent sign and
two hexadecimal digits in capitals.

Encoding works on bytes and decoding gives bytes back. The kept characters are
ASCII, so a byte and its character have the same number, and the percent sign is
not among them: what is read back is never in doubt.
-/

namespace TabNavigator.Text.Percent

/-- The characters other than letters and digits that a query keeps. -/
def keptMarks : List Char :=
  "-._~!$&'()*+,;=:@/?".toList

/-- Whether a character stands for itself in a query. -/
def isKept (c : Char) : Bool :=
  c.isAlphanum || keptMarks.contains c

/-- A hexadecimal digit, in capitals. -/
def hexDigit (n : Nat) : Char :=
  if n < 10 then Char.ofNat (48 + n) else Char.ofNat (55 + n)

/-- The value of a hexadecimal digit in capitals. -/
def hexValue? (c : Char) : Option Nat :=
  if '0' ≤ c ∧ c ≤ '9' then some (c.toNat - 48)
  else if 'A' ≤ c ∧ c ≤ 'F' then some (c.toNat - 55)
  else none

/-- One byte of a query: itself if it is kept, else its escape. -/
def encodeByte (b : UInt8) : List Char :=
  if isKept (Char.ofNat b.toNat) then [Char.ofNat b.toNat]
  else ['%', hexDigit (b.toNat / 16), hexDigit (b.toNat % 16)]

/-- The bytes of a text in UTF-8. -/
def bytes (cs : List Char) : List UInt8 :=
  cs.flatMap String.utf8EncodeChar

/-- A text as it stands in a query. -/
def encode (s : String) : String :=
  String.ofList ((bytes s.toList).flatMap encodeByte)

/-- The bytes that an encoded query stands for; nothing if it is malformed. -/
def decode : List Char → Option (List UInt8)
  | [] => some []
  | '%' :: high :: low :: rest => do
      let h ← hexValue? high
      let l ← hexValue? low
      return UInt8.ofNat (16 * h + l) :: (← decode rest)
  | c :: rest =>
      if isKept c then (UInt8.ofNat c.toNat :: ·) <$> decode rest else none

end TabNavigator.Text.Percent
