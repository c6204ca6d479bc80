import TabNavigator.Text.EscapeTable
import TabNavigator.Text.Ranges

/-!
# Text in quotation marks

The form in which a text stands inside a printed description of a value: between
double quotes, with the quote and the backslash escaped, the usual short escapes
for line ends and tabs, and a code point in hexadecimal for what cannot be shown.
-/

namespace TabNavigator.Text

/-- The digits of a number in base sixteen, in small letters. -/
def hexDigits (n : Nat) : List Char :=
  Nat.toDigits 16 n

/-- One character as it stands between quotes. -/
def quoteChar (c : Char) : List Char :=
  if c = '"' then ['\\', '"']
  else if c = '\\' then ['\\', '\\']
  else if c = '\n' then ['\\', 'n']
  else if c = '\r' then ['\\', 'r']
  else if c = '\t' then ['\\', 't']
  else if c.toNat = 0 then ['\\', '0']
  else if inRanges escapedRanges c then '\\' :: 'u' :: '\x7b' :: (hexDigits c.toNat ++ ['\x7d'])
  else [c]

/-- A text between double quotes. -/
def quoted (s : String) : String :=
  String.ofList ('"' :: (s.toList.flatMap quoteChar ++ ['"']))

end TabNavigator.Text
