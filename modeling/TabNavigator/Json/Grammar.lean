import TabNavigator.Json.Reader

/-!
# The grammar of JSON

Which texts are documents, and which value each of them denotes. A text is built from
the texts of its parts, so a rule has as many premises as the construct has parts, and
blanks are named where the format allows them. But for the value of a number, the rules
say nothing about how a text is read.

That value is not a matter of the format alone. The shape of a number is a rule like the
others, but its range and its value are those of `Number.ofDecimal`, which the reader
uses as well, with the same rounded steps. So that the reader follows these rules says
nothing about how near a double comes to its digits.

`Denotes room text value` leaves `room` levels of arrays and objects. Two spellings
of a value are two derivations with the same value: blanks, escapes, the order of
members, and a member that a later one replaces make no difference to it.
-/

namespace TabNavigator.Json

open Decimal

/-- A text of blanks only, possibly none. -/
def Blanks (cs : List Char) : Prop :=
  ∀ c ∈ cs, isBlank c = true

/-- A text of decimal digits, at least one. -/
def DigitRow (ds : List Char) : Prop :=
  ds ≠ [] ∧ ∀ d ∈ ds, d.isDigit = true

/-- Whether a code unit is half of a pair. -/
def IsSurrogate (unit : Nat) : Prop :=
  0xD800 ≤ unit ∧ unit ≤ 0xDFFF

/-- Four hexadecimal digits and the number that they make. -/
inductive UnitText : List Char → Nat → Prop where
  | mk {a b c d : Char} {i j k l : Nat} :
      hexValue? a = some i → hexValue? b = some j → hexValue? c = some k →
      hexValue? d = some l →
      UnitText [a, b, c, d] (((i * 16 + j) * 16 + k) * 16 + l)

/-- What stands between the quotes of a string, and the characters that it denotes. -/
inductive StringText : List Char → List Char → Prop where
  | nil : StringText [] []
  | plain {c : Char} {t s : List Char} :
      c ≠ '"' → c ≠ '\\' → 0x20 ≤ c.toNat → StringText t s →
      StringText (c :: t) (c :: s)
  | short {e c : Char} {t s : List Char} :
      shortEscape? e = some c → StringText t s →
      StringText ('\\' :: e :: t) (c :: s)
  | code {u t s : List Char} {unit : Nat} :
      UnitText u unit → ¬ IsSurrogate unit → StringText t s →
      StringText ('\\' :: 'u' :: (u ++ t)) (Char.ofNat unit :: s)
  | pair {u v t s : List Char} {high low : Nat} :
      UnitText u high → isHighSurrogate high = true →
      UnitText v low → isLowSurrogate low = true → StringText t s →
      StringText ('\\' :: 'u' :: (u ++ '\\' :: 'u' :: (v ++ t)))
        (joinSurrogates high low :: s)

/-- The digits before the point. -/
inductive WholeText : List Char → Prop where
  | zero : WholeText ['0']
  | row {ds : List Char} : DigitRow ds → ds.head? ≠ some '0' → WholeText ds

/-- The part from the point on, and its digits. -/
inductive FractionText : List Char → List Char → Prop where
  | none : FractionText [] []
  | some {ds : List Char} : DigitRow ds → FractionText ('.' :: ds) ds

/-- The part from the letter on, and the power of ten. -/
inductive PowerText : List Char → Option Int → Prop where
  | none : PowerText [] none
  | unsigned {e : Char} {ds : List Char} :
      e = 'e' ∨ e = 'E' → DigitRow ds → PowerText (e :: ds) (some (digitsValue ds : Int))
  | plus {e : Char} {ds : List Char} :
      e = 'e' ∨ e = 'E' → DigitRow ds →
      PowerText (e :: '+' :: ds) (some (digitsValue ds : Int))
  | minus {e : Char} {ds : List Char} :
      e = 'e' ∨ e = 'E' → DigitRow ds →
      PowerText (e :: '-' :: ds) (some (-(digitsValue ds : Int)))

/-- The sign before a number. -/
inductive SignText : List Char → Bool → Prop where
  | none : SignText [] false
  | minus : SignText ['-'] true

/-- The text of a number and its value, which is the one that the reader works out of the same
digits and must lie in its range of doubles. -/
inductive NumberText : List Char → Number → Prop where
  | mk {sign whole fraction power digits : List Char} {negative : Bool}
      {exponent : Option Int} {n : Number} :
      SignText sign negative → WholeText whole → FractionText fraction digits →
      PowerText power exponent →
      Number.ofDecimal negative whole digits exponent = some n →
      NumberText (sign ++ whole ++ fraction ++ power) n

mutual

/-- The text of a value that nests at most `room` deep. -/
inductive Denotes : Nat → List Char → Json → Prop where
  | null {room : Nat} : Denotes room "null".toList .null
  | true {room : Nat} : Denotes room "true".toList (.bool true)
  | false {room : Nat} : Denotes room "false".toList (.bool false)
  | number {room : Nat} {t : List Char} {n : Number} :
      NumberText t n → Denotes room t (.number n)
  | string {room : Nat} {t s : List Char} :
      StringText t s → Denotes room ('"' :: (t ++ ['"'])) (.string (String.ofList s))
  | emptyArray {room : Nat} {b : List Char} :
      Blanks b → Denotes (room + 1) ('[' :: (b ++ [']'])) (.array [])
  | array {room : Nat} {t : List Char} {vs : List Json} :
      ElementsText room t vs → Denotes (room + 1) ('[' :: (t ++ [']'])) (.array vs)
  | emptyObject {room : Nat} {b : List Char} :
      Blanks b → Denotes (room + 1) ('\x7b' :: (b ++ ['\x7d'])) (.object [])
  | object {room : Nat} {t : List Char} {ms : List (String × Json)} :
      MembersText room t ms →
      Denotes (room + 1) ('\x7b' :: (t ++ ['\x7d'])) (.object (Members.ofList ms))

/-- One element or more, with commas between them and blanks around each. -/
inductive ElementsText : Nat → List Char → List Json → Prop where
  | one {room : Nat} {a t b : List Char} {v : Json} :
      Blanks a → Denotes room t v → Blanks b → ElementsText room (a ++ t ++ b) [v]
  | more {room : Nat} {a t b rest : List Char} {v : Json} {vs : List Json} :
      Blanks a → Denotes room t v → Blanks b → ElementsText room rest vs →
      ElementsText room (a ++ t ++ b ++ ',' :: rest) (v :: vs)

/-- One member or more, with commas between them and blanks around each part. -/
inductive MembersText : Nat → List Char → List (String × Json) → Prop where
  | one {room : Nat} {a k b c t d s : List Char} {v : Json} :
      Blanks a → StringText k s → Blanks b → Blanks c → Denotes room t v → Blanks d →
      MembersText room (a ++ '"' :: (k ++ '"' :: (b ++ ':' :: (c ++ t ++ d))))
        [(String.ofList s, v)]
  | more {room : Nat} {a k b c t d s rest : List Char} {v : Json}
      {ms : List (String × Json)} :
      Blanks a → StringText k s → Blanks b → Blanks c → Denotes room t v → Blanks d →
      MembersText room rest ms →
      MembersText room
        (a ++ '"' :: (k ++ '"' :: (b ++ ':' :: (c ++ t ++ d ++ ',' :: rest))))
        ((String.ofList s, v) :: ms)

end

/-- A document and the value that it denotes. -/
def Document (cs : List Char) (v : Json) : Prop :=
  ∃ a t b, Blanks a ∧ Denotes maxDepth t v ∧ Blanks b ∧ cs = a ++ t ++ b

end TabNavigator.Json
