import Mathlib
import TabNavigator.Json.Printer
import TabNavigator.Proofs.Members
import TabNavigator.Proofs.Values

/-!
# Printed values read back

The compact text of a value is a text of the grammar, and the value that it denotes is the
one that was printed. Since the reader follows the grammar, the value is then read back; so
all that is to be shown is a derivation for each printed text, along the value.

Three things can stand in the way. Doubles are printed in their shortest digits and read in
rounded steps, and nothing is said about them here (`IsDouble`). What nests too deeply is
printed and not read (`NestsWithin`). And the type of values has more than what documents
denote: integers beyond a machine word, and members out of order. A value without these is
well held (`WellHeld`), and what a document denotes always is (`Document.shaped`).
-/

namespace TabNavigator.Json

open Decimal

/-! ## The shape of values -/

/-- A value that another one holds at some depth, or is itself. -/
inductive Part : Json → Json → Prop where
  | self (v : Json) : Part v v
  | element {w v : Json} {vs : List Json} : v ∈ vs → Part w v → Part w (.array vs)
  | member {w : Json} {m : String × Json} {ms : Members} :
      m ∈ ms → Part w m.2 → Part w (.object ms)

/-- Something holds of a value and of all that it holds. -/
def Everywhere (p : Json → Prop) (v : Json) : Prop :=
  ∀ w, Part w v → p w

/-- Integers fit in a machine word, signed or not, and members are in the order of their
keys. -/
def WellHeld : Json → Prop
  | .number (.integer n) => -(2 ^ 63) ≤ n ∧ n < 2 ^ 64
  | .object ms => Members.Ordered ms
  | _ => True

def IsDouble : Json → Prop
  | .number (.double _ _) => True
  | _ => False

/-- Arrays and objects nest at most so deep. -/
inductive NestsWithin : Nat → Json → Prop where
  | null {room : Nat} : NestsWithin room .null
  | bool {room : Nat} {b : Bool} : NestsWithin room (.bool b)
  | number {room : Nat} {n : Number} : NestsWithin room (.number n)
  | string {room : Nat} {s : String} : NestsWithin room (.string s)
  | array {room : Nat} {vs : List Json} :
      (∀ v ∈ vs, NestsWithin room v) → NestsWithin (room + 1) (.array vs)
  | object {room : Nat} {ms : Members} :
      (∀ m ∈ ms, NestsWithin room m.2) → NestsWithin (room + 1) (.object ms)

/-- A value that is well held and nests within the room that it has. -/
structure Shaped (room : Nat) (v : Json) : Prop where
  held : Everywhere WellHeld v
  nests : NestsWithin room v

section Everywhere

variable {p : Json → Prop}

theorem Everywhere.here {v : Json} (h : Everywhere p v) : p v :=
  h v (.self v)

theorem Everywhere.element {vs : List Json} (h : Everywhere p (.array vs)) :
    ∀ v ∈ vs, Everywhere p v :=
  fun _ hmem w hpart => h w (.element hmem hpart)

theorem Everywhere.member {ms : Members} (h : Everywhere p (.object ms)) :
    ∀ m ∈ ms, Everywhere p m.2 :=
  fun _ hmem w hpart => h w (.member hmem hpart)

theorem Everywhere.null (hhere : p .null) : Everywhere p .null := by
  rintro w ⟨⟩
  exact hhere

theorem Everywhere.bool {b : Bool} (hhere : p (.bool b)) : Everywhere p (.bool b) := by
  rintro w ⟨⟩
  exact hhere

theorem Everywhere.number {n : Number} (hhere : p (.number n)) :
    Everywhere p (.number n) := by
  rintro w ⟨⟩
  exact hhere

theorem Everywhere.string {s : String} (hhere : p (.string s)) :
    Everywhere p (.string s) := by
  rintro w ⟨⟩
  exact hhere

theorem Everywhere.array {vs : List Json} (hhere : p (.array vs))
    (hinside : ∀ v ∈ vs, Everywhere p v) : Everywhere p (.array vs) := by
  intro w hpart
  cases hpart with
  | self => exact hhere
  | element hmem hpart => exact hinside _ hmem w hpart

theorem Everywhere.object {ms : Members} (hhere : p (.object ms))
    (hinside : ∀ m ∈ ms, Everywhere p m.2) : Everywhere p (.object ms) := by
  intro w hpart
  cases hpart with
  | self => exact hhere
  | member hmem hpart => exact hinside _ hmem w hpart

end Everywhere

theorem NestsWithin.succ {room : Nat} {v : Json} (h : NestsWithin room v) :
    NestsWithin (room + 1) v := by
  induction h with
  | null => exact .null
  | bool => exact .bool
  | number => exact .number
  | string => exact .string
  | array _ ih => exact .array ih
  | object _ ih => exact .object ih

theorem Shaped.member {room : Nat} {ms : Members} (h : Shaped room (.object ms)) :
    ∀ m ∈ ms, Shaped room m.2 := by
  obtain ⟨hheld, hnests⟩ := h
  cases hnests with
  | object hinside => exact fun m hmem => ⟨hheld.member m hmem, (hinside m hmem).succ⟩

/-! ## Strings -/

theorem hexValue?_smallHexDigit : ∀ n < 16, hexValue? (smallHexDigit n) = some n := by
  decide

theorem unitText_of_control {c : Char} (hcontrol : c.toNat < 0x20) :
    UnitText ['0', '0', smallHexDigit (c.toNat / 16), smallHexDigit (c.toNat % 16)]
      c.toNat := by
  have hvalue : ((0 * 16 + 0) * 16 + c.toNat / 16) * 16 + c.toNat % 16 = c.toNat := by omega
  have htext := UnitText.mk (i := 0) (j := 0) (a := '0') (b := '0') rfl rfl
    (hexValue?_smallHexDigit (c.toNat / 16) (by omega))
    (hexValue?_smallHexDigit (c.toNat % 16) (by omega))
  rwa [hvalue] at htext

/-- A printed character is the character again: itself, one of the short escapes, or its
number. -/
theorem StringText.printChar {t s : List Char} (htext : StringText t s) (c : Char) :
    StringText (printChar c ++ t) (c :: s) := by
  rw [Json.printChar]
  split_ifs with hquote hescape hbackspace hfeed hline hback htab hcontrol
  · rw [hquote]; exact .short rfl htext
  · rw [hescape]; exact .short rfl htext
  · rw [hbackspace]; exact .short rfl htext
  · rw [hfeed]; exact .short rfl htext
  · rw [hline]; exact .short rfl htext
  · rw [hback]; exact .short rfl htext
  · rw [htab]; exact .short rfl htext
  · have hwhole : ¬ IsSurrogate c.toNat := by
      intro hsurrogate
      have := hsurrogate.1
      omega
    have hcode := StringText.code (unitText_of_control hcontrol) hwhole htext
    rwa [Char.ofNat_toNat] at hcode
  · exact .plain hquote hescape (Nat.not_lt.mp hcontrol) htext

theorem stringText_print (cs : List Char) : StringText (cs.flatMap printChar) cs := by
  induction cs with
  | nil => exact .nil
  | cons c cs ih => exact ih.printChar c

theorem denotes_printString (room : Nat) (s : String) :
    Denotes room (printString s.toList) (.string s) := by
  have h : Denotes room (printString s.toList) (.string (String.ofList s.toList)) :=
    .string (stringText_print s.toList)
  rwa [String.ofList_toList] at h

/-! ## Integers -/

theorem le_foldl_digits (ds : List Char) (word : Nat) :
    word ≤ ds.foldl (fun n d => 10 * n + digitValue d) word := by
  induction ds generalizing word with
  | nil => exact Nat.le_refl word
  | cons d ds ih =>
      have hlonger := ih (10 * word + digitValue d)
      rw [List.foldl_cons]
      omega

/-- A word takes a row of digits whole if it holds the number that they make. -/
theorem appendDigits_of_fits {ds : List Char} {word : Nat}
    (hfits : ds.foldl (fun n d => 10 * n + digitValue d) word < wordSize) :
    appendDigits word ds = (ds.foldl (fun n d => 10 * n + digitValue d) word, []) := by
  induction ds generalizing word with
  | nil => rfl
  | cons d ds ih =>
      rw [List.foldl_cons] at hfits
      have hlonger : 10 * word + digitValue d < wordSize :=
        Nat.lt_of_le_of_lt (le_foldl_digits ds _) hfits
      simp only [appendDigits, if_pos hlonger, ih hfits, List.foldl_cons]

theorem digitsValue_digits (n : Nat) : digitsValue (digits n) = n :=
  Nat.ofDigitChars_ten_toDigits

theorem ofRows_digits {n : Nat} (hfits : n < wordSize) :
    Digits.ofRows (digits n) [] = ⟨n, 0⟩ := by
  have hvalue : (digits n).foldl (fun n d => 10 * n + digitValue d) 0 = n := digitsValue_digits n
  have htaken : appendDigits 0 (digits n) = (n, []) := by
    rw [appendDigits_of_fits (by rwa [hvalue]), hvalue]
  simp only [Digits.ofRows, htaken, appendDigits, List.length_nil]
  rfl

/-- The first digit of a positive number is none that could be left out. -/
theorem head?_digits_ne_zero {n : Nat} (hpos : 0 < n) : (digits n).head? ≠ some '0' := by
  have hfirst : ∀ d : Nat, d < 10 → 0 < d → [d.digitChar].head? ≠ some '0' := by decide
  induction n using Nat.strongRecOn with
  | ind n ih =>
      rw [digits, Nat.toDigits_eq_if (by decide)]
      split
      · next hsmall => exact hfirst n hsmall hpos
      · next hlarge =>
          rw [List.head?_append_of_ne_nil _ Nat.toDigits_ne_nil]
          exact ih (n / 10) (by omega) (by omega)

theorem wholeText_digits (n : Nat) : WholeText (digits n) := by
  rcases Nat.eq_zero_or_pos n with rfl | hpos
  · exact .zero
  · refine .row ⟨Nat.toDigits_ne_nil, fun d hmem => ?_⟩ (head?_digits_ne_zero hpos)
    exact Nat.isDigit_of_mem_toDigits (by decide) (by decide) hmem

/-- Digits alone, without a point and a power, are the text of whatever they amount to. -/
theorem unsignedText_digits {negative : Bool} {n : Nat} {value : Number}
    (hamounts : Number.ofDecimal negative (digits n) [] none = some value) :
    UnsignedText negative (digits n) value := by
  have h := UnsignedText.mk (wholeText_digits n) .none .none hamounts
  rwa [List.append_nil, List.append_nil] at h

theorem ofDecimal_digits {n : Nat} (hfits : n < wordSize) :
    Number.ofDecimal false (digits n) [] none = some (.integer n) := by
  rw [Number.ofDecimal, ofRows_digits hfits]
  rfl

theorem ofDecimal_minus_digits {n : Nat} (hpos : 0 < n) (hfits : 2 * n ≤ wordSize) :
    Number.ofDecimal true (digits n) [] none = some (.integer (-n)) := by
  have hlt : n < wordSize := by omega
  rw [Number.ofDecimal, ofRows_digits hlt]
  simp only [List.isEmpty_nil, Option.isNone_none, Bool.and_self, beq_self_eq_true, Bool.not_true,
    Bool.and_false, Bool.false_eq_true, if_false, hpos, hfits, decide_true, if_true]

theorem numberText_signedDigits {n : Int} (hfits : -(2 ^ 63) ≤ n ∧ n < 2 ^ 64) :
    NumberText (signedDigits n) (.integer n) := by
  have hword : (wordSize : Int) = 2 ^ 64 := by decide
  rw [signedDigits]
  split
  · next hnegative =>
      have hvalue : -(n.natAbs : Int) = n := by omega
      have hamounts := ofDecimal_minus_digits (n := n.natAbs) (by omega) (by omega)
      rw [hvalue] at hamounts
      exact numberText_of_minus (unsignedText_digits hamounts)
  · next hnatural =>
      have hvalue : (n.natAbs : Int) = n := by omega
      have hamounts := ofDecimal_digits (n := n.natAbs) (by omega)
      rw [hvalue] at hamounts
      exact numberText_of_unsigned (unsignedText_digits hamounts)

/-! ## Values -/

variable {room : Nat}

/-- The form of a text of elements in which nothing is blank. -/
theorem elementsText_print {vs : List Json} (hsome : vs ≠ [])
    (hinside : ∀ v ∈ vs, Denotes room v.print v) : ElementsText room (printElements vs) vs := by
  induction vs with
  | nil => exact absurd rfl hsome
  | cons v rest ih =>
      obtain ⟨hhere, hothers⟩ := List.forall_mem_cons.mp hinside
      cases rest with
      | nil =>
          have h := ElementsText.one blanks_nil hhere blanks_nil
          rwa [List.nil_append, List.append_nil] at h
      | cons w rest =>
          have hmore := ih (List.cons_ne_nil w rest) hothers
          have h := ElementsText.more blanks_nil hhere blanks_nil hmore
          rwa [List.nil_append, List.append_nil] at h

theorem membersText_print {ms : List (String × Json)} (hsome : ms ≠ [])
    (hinside : ∀ m ∈ ms, Denotes room m.2.print m.2) : MembersText room (printMembers ms) ms := by
  induction ms with
  | nil => exact absurd rfl hsome
  | cons m rest ih =>
      obtain ⟨key, v⟩ := m
      obtain ⟨hhere, hothers⟩ := List.forall_mem_cons.mp hinside
      have hname := stringText_print key.toList
      cases rest with
      | nil =>
          have h := MembersText.one blanks_nil hname blanks_nil blanks_nil hhere blanks_nil
          simpa only [printMembers, printString, String.ofList_toList, List.nil_append,
            List.append_nil, List.cons_append, List.append_assoc] using h
      | cons w rest =>
          have hmore := ih (List.cons_ne_nil w rest) hothers
          have h :=
            MembersText.more blanks_nil hname blanks_nil blanks_nil hhere blanks_nil hmore
          simpa only [printMembers, printString, String.ofList_toList, List.nil_append,
            List.append_nil, List.cons_append, List.append_assoc] using h

/-- A value that is well held, has no doubles and does not nest too deeply is denoted by its
compact text. -/
theorem denotes_print {v : Json} (hnests : NestsWithin room v) (hheld : Everywhere WellHeld v)
    (hwhole : Everywhere (¬ IsDouble ·) v) : Denotes room v.print v := by
  induction hnests with
  | null => exact .null
  | @bool _ b =>
      cases b with
      | false => exact .false
      | true => exact .true
  | @number _ n =>
      cases n with
      | integer n => exact .number (numberText_signedDigits hheld.here)
      | double => exact absurd trivial hwhole.here
  | string => exact denotes_printString _ _
  | @array room vs _ ih =>
      have hinside : ∀ v ∈ vs, Denotes room v.print v :=
        fun v hmem => ih v hmem (hheld.element v hmem) (hwhole.element v hmem)
      rw [print]
      cases vs with
      | nil => exact .emptyArray blanks_nil
      | cons v rest => exact .array (elementsText_print (List.cons_ne_nil v rest) hinside)
  | @object room ms _ ih =>
      have hinside : ∀ m ∈ ms, Denotes room m.2.print m.2 :=
        fun m hmem => ih m hmem (hheld.member m hmem) (hwhole.member m hmem)
      have hordered : Members.Ordered ms := hheld.here
      rw [print]
      cases ms with
      | nil => exact .emptyObject blanks_nil
      | cons m rest =>
          have htext := membersText_print (List.cons_ne_nil m rest) hinside
          have h := Denotes.object htext
          rwa [hordered.ofList] at h

/-- The compact text is read as the value that it was printed from. -/
theorem read?_compact {v : Json} (hshaped : Shaped maxDepth v)
    (hwhole : Everywhere (¬ IsDouble ·) v) : read? v.compact = some v := by
  have htext := denotes_print hshaped.nests hshaped.held hwhole
  have hdocument : Document v.compact.toList v :=
    ⟨[], v.print, [], blanks_nil, htext, blanks_nil, by
      rw [compact, String.toList_ofList, List.nil_append, List.append_nil]⟩
  exact hdocument.ofChars?

/-! ## What documents denote -/

theorem appendDigits_lt {word : Nat} (hfits : word < wordSize) (ds : List Char) :
    (appendDigits word ds).1 < wordSize := by
  induction ds generalizing word with
  | nil => exact hfits
  | cons d ds ih =>
      rw [appendDigits]
      split
      · next hlonger => exact ih hlonger
      · exact hfits

theorem coefficient_ofRows_lt (whole fraction : List Char) :
    (Digits.ofRows whole fraction).coefficient < wordSize :=
  appendDigits_lt (appendDigits_lt (by decide) whole) fraction

theorem wellHeld_of_numberText {t : List Char} {n : Number} (htext : NumberText t n) :
    WellHeld (.number n) := by
  cases htext with
  | @mk _ whole _ _ digits negative exponent _ _ _ _ _ hvalue =>
      have hword : (wordSize : Int) = 2 ^ 64 := by decide
      have hfits := coefficient_ofRows_lt whole digits
      cases n with
      | double => trivial
      | integer n =>
          show -(2 ^ 63) ≤ n ∧ n < 2 ^ 64
          simp only [Number.ofDecimal] at hvalue
          split at hvalue
          · cases hvalue
            omega
          · split at hvalue
            · next hsmall =>
                simp only [Bool.and_eq_true, decide_eq_true_eq] at hsmall
                cases hvalue
                omega
            · rw [Option.map_eq_some_iff] at hvalue
              obtain ⟨_, -, hother⟩ := hvalue
              cases hother

mutual

theorem Denotes.shaped {room : Nat} {t : List Char} {v : Json} :
    Denotes room t v → Shaped room v
  | .null => ⟨.null trivial, .null⟩
  | .true => ⟨.bool trivial, .bool⟩
  | .false => ⟨.bool trivial, .bool⟩
  | .number htext => ⟨.number (wellHeld_of_numberText htext), .number⟩
  | .string _ => ⟨.string trivial, .string⟩
  | .emptyArray _ => ⟨.array trivial nofun, .array nofun⟩
  | .array helements =>
      have hinside := helements.shaped
      ⟨.array trivial fun v hmem => (hinside v hmem).held,
        .array fun v hmem => (hinside v hmem).nests⟩
  | .emptyObject _ => ⟨.object List.Pairwise.nil nofun, .object nofun⟩
  | .object hmembers =>
      have hinside := fun m hmem => hmembers.shaped m (Members.mem_of_mem_ofList hmem)
      ⟨.object (Members.ordered_ofList _) fun m hmem => (hinside m hmem).held,
        .object fun m hmem => (hinside m hmem).nests⟩

theorem ElementsText.shaped {room : Nat} {t : List Char} {vs : List Json} :
    ElementsText room t vs → ∀ v ∈ vs, Shaped room v
  | .one _ hvalue _ => List.forall_mem_singleton.mpr hvalue.shaped
  | .more _ hvalue _ hrest => List.forall_mem_cons.mpr ⟨hvalue.shaped, hrest.shaped⟩

theorem MembersText.shaped {room : Nat} {t : List Char} {ms : List (String × Json)} :
    MembersText room t ms → ∀ m ∈ ms, Shaped room m.2
  | .one _ _ _ _ hvalue _ => List.forall_mem_singleton.mpr hvalue.shaped
  | .more _ _ _ _ hvalue _ hrest => List.forall_mem_cons.mpr ⟨hvalue.shaped, hrest.shaped⟩

end

theorem Document.shaped {cs : List Char} {v : Json} (h : Document cs v) : Shaped maxDepth v := by
  obtain ⟨a, t, b, -, hdenotes, -, -⟩ := h
  exact hdenotes.shaped

end TabNavigator.Json
