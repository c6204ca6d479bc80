import TabNavigator.Json.Value

/-!
# Reading JSON

A document is one value with blanks around it, and only the four blanks of the
format count. The reader is strict: what the grammar does not allow is not read,
and neither is a document that nests too deeply or holds a number beyond the range
of doubles.

Each reader takes the characters that are left and returns what it read and the
rest. Strings shrink their input visibly. Values, elements and members call each
other, and share a budget of calls instead; of three calls in a row at least one
takes a character, so three times the length of the text is enough.
-/

namespace TabNavigator.Json

open Decimal

/-- The deepest nesting of arrays and objects that is read. -/
def maxDepth : Nat := 127

def isBlank (c : Char) : Bool :=
  c = ' ' || c = '\t' || c = '\n' || c = '\r'

/-- What is left after the blanks. -/
def skipBlanks (cs : List Char) : List Char :=
  cs.dropWhile isBlank

/-! ## Strings -/

/-- The value of a hexadecimal digit in either case. -/
def hexValue? (c : Char) : Option Nat :=
  if '0' ≤ c ∧ c ≤ '9' then some (c.toNat - 48)
  else if 'a' ≤ c ∧ c ≤ 'f' then some (c.toNat - 87)
  else if 'A' ≤ c ∧ c ≤ 'F' then some (c.toNat - 55)
  else none

/-- Four hexadecimal digits. -/
def readUnit : List Char → Option (Nat × List Char)
  | a :: b :: c :: d :: rest => do
      let a ← hexValue? a
      let b ← hexValue? b
      let c ← hexValue? c
      let d ← hexValue? d
      return (((a * 16 + b) * 16 + c) * 16 + d, rest)
  | _ => none

def isHighSurrogate (unit : Nat) : Bool := 0xD800 ≤ unit && unit ≤ 0xDBFF

def isLowSurrogate (unit : Nat) : Bool := 0xDC00 ≤ unit && unit ≤ 0xDFFF

/-- The character that a pair of surrogates stands for. -/
def joinSurrogates (high low : Nat) : Char :=
  Char.ofNat (0x10000 + (high - 0xD800) * 0x400 + (low - 0xDC00))

/-- The character named by its number, after the letter that announces the number. -/
def readCode (cs : List Char) : Option (Char × List Char) := do
  let (unit, rest) ← readUnit cs
  if isHighSurrogate unit then
    match rest with
    | '\\' :: 'u' :: rest =>
        let (low, rest) ← readUnit rest
        if isLowSurrogate low then some (joinSurrogates unit low, rest) else none
    | _ => none
  else if isLowSurrogate unit then none
  else some (Char.ofNat unit, rest)

/-- The character that a short escape stands for. -/
def shortEscape? (c : Char) : Option Char :=
  match c with
  | '"' => some '"'
  | '\\' => some '\\'
  | '/' => some '/'
  | 'b' => some '\x08'
  | 'f' => some '\x0c'
  | 'n' => some '\n'
  | 'r' => some '\r'
  | 't' => some '\t'
  | _ => none

/-- The escaped character, after the backslash. -/
def readEscape : List Char → Option (Char × List Char)
  | [] => none
  | c :: rest => if c = 'u' then readCode rest else (shortEscape? c).map (·, rest)

theorem length_of_readUnit {cs rest : List Char} {unit : Nat}
    (h : readUnit cs = some (unit, rest)) : rest.length < cs.length := by
  unfold readUnit at h
  split at h
  · simp only [bind, Option.bind_eq_some_iff, pure, Option.some.injEq, Prod.mk.injEq] at h
    obtain ⟨_, _, _, _, _, _, _, _, _, rfl⟩ := h
    simp only [List.length_cons]
    omega
  · cases h

theorem length_of_readCode {cs rest : List Char} {c : Char}
    (h : readCode cs = some (c, rest)) : rest.length < cs.length := by
  unfold readCode at h
  simp only [bind, Option.bind_eq_some_iff] at h
  obtain ⟨⟨unit, rest₁⟩, hu, h⟩ := h
  have h₁ := length_of_readUnit hu
  split at h
  · split at h
    · next hr =>
        simp only at hr
        subst hr
        simp only [Option.bind_eq_some_iff] at h
        obtain ⟨⟨low, rest₂⟩, hl, h⟩ := h
        have h₂ := length_of_readUnit hl
        split at h
        · simp only [Option.some.injEq, Prod.mk.injEq] at h
          obtain ⟨_, rfl⟩ := h
          simp only [List.length_cons] at h₁
          omega
        · cases h
    · cases h
  · split at h
    · cases h
    · simp only [Option.some.injEq, Prod.mk.injEq] at h
      obtain ⟨_, rfl⟩ := h
      exact h₁

theorem length_of_readEscape {cs rest : List Char} {c : Char}
    (h : readEscape cs = some (c, rest)) : rest.length < cs.length := by
  unfold readEscape at h
  split at h
  · cases h
  · split at h
    · have := length_of_readCode h
      simp only [List.length_cons]
      omega
    · simp only [Option.map_eq_some_iff, Prod.mk.injEq] at h
      obtain ⟨_, _, _, rfl⟩ := h
      simp

/-- The characters of a string, after its opening quote and with its closing quote. -/
def readString (cs : List Char) : Option (List Char × List Char) :=
  match cs with
  | [] => none
  | c :: rest =>
      if c = '"' then some ([], rest)
      else if c = '\\' then
        match _h : readEscape rest with
        | none => none
        | some (e, rest') => (readString rest').map fun r => (e :: r.1, r.2)
      else if c.toNat < 0x20 then none
      else (readString rest).map fun r => (c :: r.1, r.2)
termination_by cs.length
decreasing_by
  · have := length_of_readEscape _h
    simp only [List.length_cons]
    omega
  · simp

/-! ## Numbers -/

/-- At least one digit, and what follows the digits. -/
def readDigits (cs : List Char) : Option (List Char × List Char) :=
  match cs.takeWhile Char.isDigit with
  | [] => none
  | ds => some (ds, cs.dropWhile Char.isDigit)

/-- The digits before the point: a zero alone, or a row that does not begin with one. -/
def readWhole (cs : List Char) : Option (List Char × List Char) :=
  match cs with
  | '0' :: rest => some (['0'], rest)
  | _ => readDigits cs

/-- The digits after the point, if there is a point. -/
def readFraction (cs : List Char) : Option (List Char × List Char) :=
  match cs with
  | '.' :: rest => readDigits rest
  | _ => some ([], cs)

/-- The power of ten, if there is one. -/
def readPower (cs : List Char) : Option (Option Int × List Char) :=
  match cs with
  | [] => some (none, [])
  | c :: rest =>
      if c = 'e' ∨ c = 'E' then
        match rest with
        | '-' :: rest => (readDigits rest).map fun r => (some (-(digitsValue r.1 : Int)), r.2)
        | '+' :: rest => (readDigits rest).map fun r => (some (digitsValue r.1 : Int), r.2)
        | rest => (readDigits rest).map fun r => (some (digitsValue r.1 : Int), r.2)
      else some (none, c :: rest)

/-- A number without its sign. -/
def readUnsigned (negative : Bool) (cs : List Char) : Option (Number × List Char) := do
  let (whole, rest) ← readWhole cs
  let (fraction, rest) ← readFraction rest
  let (power, rest) ← readPower rest
  let number ← Number.ofDecimal negative whole fraction power
  return (number, rest)

def readNumber (cs : List Char) : Option (Number × List Char) :=
  match cs with
  | '-' :: rest => readUnsigned true rest
  | _ => readUnsigned false cs

/-! ## Values -/

/-- What follows a fixed word. -/
def skipWord (word cs : List Char) : Option (List Char) :=
  if word.isPrefixOf cs then some (cs.drop word.length) else none

mutual

/-- One value, without blanks before it. Arrays and objects may nest `room` deep. -/
def readValue : Nat → Nat → List Char → Option (Json × List Char)
  | 0, _, _ => none
  | _, _, [] => none
  | budget + 1, room, c :: rest =>
      if c = '[' then
        match room with
        | 0 => none
        | room + 1 =>
            (readElements budget room (skipBlanks rest)).map fun r => (.array r.1, r.2)
      else if c = '\x7b' then
        match room with
        | 0 => none
        | room + 1 =>
            (readMembers budget room (skipBlanks rest)).map fun r =>
              (.object (Members.ofList r.1), r.2)
      else if c = '"' then
        (readString rest).map fun r => (.string (String.ofList r.1), r.2)
      else if c = 'n' then (skipWord "ull".toList rest).map (.null, ·)
      else if c = 't' then (skipWord "rue".toList rest).map (.bool true, ·)
      else if c = 'f' then (skipWord "alse".toList rest).map (.bool false, ·)
      else (readNumber (c :: rest)).map fun r => (.number r.1, r.2)

/-- The elements of an array up to its end, none or more. -/
def readElements : Nat → Nat → List Char → Option (List Json × List Char)
  | 0, _, _ => none
  | budget + 1, room, cs =>
      match cs with
      | ']' :: rest => some ([], rest)
      | cs => readElementsFrom budget room cs

/-- The elements of an array up to its end, one or more. -/
def readElementsFrom : Nat → Nat → List Char → Option (List Json × List Char)
  | 0, _, _ => none
  | budget + 1, room, cs =>
      match readValue budget room cs with
      | none => none
      | some (v, rest) =>
          match skipBlanks rest with
          | ',' :: rest =>
              (readElementsFrom budget room (skipBlanks rest)).map fun r => (v :: r.1, r.2)
          | ']' :: rest => some ([v], rest)
          | _ => none

/-- The members of an object up to its end, none or more. -/
def readMembers : Nat → Nat → List Char → Option (List (String × Json) × List Char)
  | 0, _, _ => none
  | budget + 1, room, cs =>
      match cs with
      | '\x7d' :: rest => some ([], rest)
      | cs => readMembersFrom budget room cs

/-- The members of an object up to its end, one or more, as they are written. -/
def readMembersFrom : Nat → Nat → List Char → Option (List (String × Json) × List Char)
  | 0, _, _ => none
  | budget + 1, room, cs =>
      match cs with
      | '"' :: rest =>
          match readString rest with
          | none => none
          | some (key, rest) =>
              match skipBlanks rest with
              | ':' :: rest =>
                  match readValue budget room (skipBlanks rest) with
                  | none => none
                  | some (v, rest) =>
                      let member := (String.ofList key, v)
                      match skipBlanks rest with
                      | ',' :: rest =>
                          (readMembersFrom budget room (skipBlanks rest)).map fun r =>
                            (member :: r.1, r.2)
                      | '\x7d' :: rest => some ([member], rest)
                      | _ => none
              | _ => none
      | _ => none

end

/-- The value that a document denotes, if it is a document. -/
def ofChars? (cs : List Char) : Option Json :=
  match readValue (3 * cs.length + 3) maxDepth (skipBlanks cs) with
  | some (v, rest) => if (skipBlanks rest).isEmpty then some v else none
  | none => none

/-- The value that a text denotes, if it is a document. -/
def read? (text : String) : Option Json :=
  ofChars? text.toList

end TabNavigator.Json
