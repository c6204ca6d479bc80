import TabNavigator.Json.Grammar

/-!
# Strings and numbers are read as the grammar has them

The leaves of a document. A reader takes a text off the front of what is left, so to say
that it follows the grammar is to say two things: what it takes is a text of the grammar,
with the value that it gives; and a text of the grammar is taken, whatever follows it.

A string ends with its quote, so the second half holds whatever follows. A number has no
end of its own. Digits are taken as long as there are any, a point or a power is taken if
there is one, and `Ends` is what has to follow for the reader to stop where the number does.
-/

namespace TabNavigator.Json

open Decimal

/-! ## Blanks -/

theorem skipBlanks_append {b : List Char} (hblanks : Blanks b) (cs : List Char) :
    skipBlanks (b ++ cs) = skipBlanks cs :=
  List.dropWhile_append_of_pos hblanks

theorem skipBlanks_of_head {c : Char} (hsolid : isBlank c = false) (cs : List Char) :
    skipBlanks (c :: cs) = c :: cs := by
  rw [skipBlanks, List.dropWhile_cons, if_neg (Bool.eq_false_iff.mp hsolid)]

/-- What is skipped are blanks. -/
theorem exists_blanks (cs : List Char) : ∃ b, Blanks b ∧ cs = b ++ skipBlanks cs :=
  ⟨cs.takeWhile isBlank, List.all_eq_true.mp List.all_takeWhile,
    List.takeWhile_append_dropWhile.symm⟩

theorem blanks_nil : Blanks [] := fun _ hmem => nomatch hmem

theorem Blanks.append {a b : List Char} (ha : Blanks a) (hb : Blanks b) : Blanks (a ++ b) :=
  List.forall_mem_append.mpr ⟨ha, hb⟩

/-! ## Escapes -/

/-- What stands behind a backslash, and the character that it denotes. -/
inductive EscapeText : List Char → Char → Prop where
  | short {e c : Char} : shortEscape? e = some c → EscapeText [e] c
  | code {u : List Char} {unit : Nat} :
      UnitText u unit → ¬ IsSurrogate unit → EscapeText ('u' :: u) (Char.ofNat unit)
  | pair {u v : List Char} {high low : Nat} :
      UnitText u high → isHighSurrogate high = true →
      UnitText v low → isLowSurrogate low = true →
      EscapeText ('u' :: (u ++ '\\' :: 'u' :: v)) (joinSurrogates high low)

theorem StringText.escaped {e t s : List Char} {c : Char} (hescape : EscapeText e c)
    (htext : StringText t s) : StringText ('\\' :: (e ++ t)) (c :: s) := by
  cases hescape with
  | short hknown => exact .short hknown htext
  | code hunit hother => exact .code hunit hother htext
  | pair hfirst hhigh hsecond hlow =>
      have h := StringText.pair hfirst hhigh hsecond hlow htext
      simpa only [List.append_assoc, List.cons_append] using h

theorem isSurrogate_iff (unit : Nat) :
    IsSurrogate unit ↔ isHighSurrogate unit = true ∨ isLowSurrogate unit = true := by
  simp only [IsSurrogate, isHighSurrogate, isLowSurrogate, Bool.and_eq_true,
    decide_eq_true_eq]
  omega

theorem readUnit_eq_some_iff {cs rest : List Char} {unit : Nat} :
    readUnit cs = some (unit, rest) ↔ ∃ u, cs = u ++ rest ∧ UnitText u unit := by
  constructor
  · intro h
    unfold readUnit at h
    split at h
    · next a b c d rest' =>
        simp only [bind, Option.bind_eq_some_iff, pure, Option.some.injEq,
          Prod.mk.injEq] at h
        obtain ⟨i, hi, j, hj, k, hk, l, hl, rfl, rfl⟩ := h
        exact ⟨[a, b, c, d], rfl, .mk hi hj hk hl⟩
    · cases h
  · rintro ⟨u, rfl, hunit⟩
    cases hunit with
    | mk hi hj hk hl =>
        simp only [List.cons_append, List.nil_append, readUnit, hi, hj, hk, hl, bind,
          Option.bind_some, pure]

theorem readUnit_append {u : List Char} {unit : Nat} (htext : UnitText u unit)
    (rest : List Char) : readUnit (u ++ rest) = some (unit, rest) :=
  readUnit_eq_some_iff.mpr ⟨u, rfl, htext⟩

theorem readCode_of_code {u : List Char} {unit : Nat} (htext : UnitText u unit)
    (hother : ¬ IsSurrogate unit) (rest : List Char) :
    readCode (u ++ rest) = some (Char.ofNat unit, rest) := by
  rw [isSurrogate_iff, not_or] at hother
  simp only [readCode, readUnit_append htext, bind, Option.bind_some, if_neg hother.1,
    if_neg hother.2]

theorem readCode_of_pair {u v : List Char} {high low : Nat} (hfirst : UnitText u high)
    (hhigh : isHighSurrogate high = true) (hsecond : UnitText v low)
    (hlow : isLowSurrogate low = true) (rest : List Char) :
    readCode (u ++ '\\' :: 'u' :: (v ++ rest)) = some (joinSurrogates high low, rest) := by
  simp only [readCode, readUnit_append hfirst, readUnit_append hsecond, bind, Option.bind_some,
    if_pos hhigh, if_pos hlow]

/-- What is read behind the letter of a number: a code of its own, or both halves of a
pair. -/
theorem escapeText_of_readCode {cs rest : List Char} {c : Char}
    (h : readCode cs = some (c, rest)) : ∃ t, cs = t ++ rest ∧ EscapeText ('u' :: t) c := by
  unfold readCode at h
  simp only [bind, Option.bind_eq_some_iff] at h
  obtain ⟨⟨unit, after⟩, hfirst, h⟩ := h
  obtain ⟨u, rfl, hu⟩ := readUnit_eq_some_iff.mp hfirst
  split at h
  · next hhigh =>
      split at h
      · next hbehind =>
          simp only at hbehind
          subst hbehind
          simp only [Option.bind_eq_some_iff] at h
          obtain ⟨⟨low, after⟩, hsecond, h⟩ := h
          obtain ⟨v, rfl, hv⟩ := readUnit_eq_some_iff.mp hsecond
          split at h
          · next hlow =>
              simp only [Option.some.injEq, Prod.mk.injEq] at h
              obtain ⟨rfl, rfl⟩ := h
              refine ⟨u ++ '\\' :: 'u' :: v, ?_, .pair hu hhigh hv hlow⟩
              simp only [List.append_assoc, List.cons_append]
          · cases h
      · cases h
  · next hnotHigh =>
      split at h
      · cases h
      · next hnotLow =>
          simp only [Option.some.injEq, Prod.mk.injEq] at h
          obtain ⟨rfl, rfl⟩ := h
          refine ⟨u, rfl, .code hu ?_⟩
          rw [isSurrogate_iff, not_or]
          exact ⟨hnotHigh, hnotLow⟩

theorem escapeText_of_readEscape {cs rest : List Char} {c : Char}
    (h : readEscape cs = some (c, rest)) : ∃ t, cs = t ++ rest ∧ EscapeText t c := by
  unfold readEscape at h
  split at h
  · cases h
  · next e cs =>
      split at h
      · next hnumbered =>
          obtain ⟨t, rfl, hescape⟩ := escapeText_of_readCode h
          exact ⟨'u' :: t, by rw [hnumbered, List.cons_append], hescape⟩
      · rw [Option.map_eq_some_iff] at h
        obtain ⟨c, hknown, h⟩ := h
        cases h
        exact ⟨[e], rfl, .short hknown⟩

theorem EscapeText.read {t : List Char} {c : Char} (hescape : EscapeText t c)
    (rest : List Char) : readEscape (t ++ rest) = some (c, rest) := by
  cases hescape with
  | @short e _ hknown =>
      have hother : e ≠ 'u' := by
        rintro rfl
        cases hknown
      rw [List.singleton_append, readEscape, if_neg hother, hknown, Option.map_some]
  | code hunit hother =>
      rw [List.cons_append, readEscape, if_pos rfl]
      exact readCode_of_code hunit hother rest
  | pair hfirst hhigh hsecond hlow =>
      rw [List.cons_append, readEscape, if_pos rfl, List.append_assoc, List.cons_append,
        List.cons_append]
      exact readCode_of_pair hfirst hhigh hsecond hlow rest

/-! ## Strings -/

theorem readString_quote (rest : List Char) : readString ('"' :: rest) = some ([], rest) := by
  rw [readString, if_pos rfl]

theorem readString_plain {c : Char} (hnotQuote : c ≠ '"') (hnotEscape : c ≠ '\\')
    (hprintable : 0x20 ≤ c.toNat) (cs : List Char) :
    readString (c :: cs) = (readString cs).map fun r => (c :: r.1, r.2) := by
  rw [readString, if_neg hnotQuote, if_neg hnotEscape, if_neg (Nat.not_lt.mpr hprintable)]

theorem readString_escape {e : List Char} {c : Char} (hescape : EscapeText e c)
    (cs : List Char) :
    readString ('\\' :: (e ++ cs)) = (readString cs).map fun r => (c :: r.1, r.2) := by
  have hhere := hescape.read cs
  rw [readString, if_neg (by decide), if_pos rfl]
  split
  · next hnone => rw [hnone] at hhere; cases hhere
  · next c' rest hsome =>
      rw [hsome] at hhere
      cases hhere
      rfl

theorem StringText.read {t s : List Char} (htext : StringText t s) (rest : List Char) :
    readString (t ++ '"' :: rest) = some (s, rest) := by
  induction htext with
  | nil => exact readString_quote rest
  | plain hnotQuote hnotEscape hprintable _ ih =>
      rw [List.cons_append, readString_plain hnotQuote hnotEscape hprintable, ih,
        Option.map_some]
  | @short e _ t _ hknown _ ih =>
      have hstep := readString_escape (.short hknown) (t ++ '"' :: rest)
      rw [ih, Option.map_some] at hstep
      exact hstep
  | @code u t _ _ hunit hother _ ih =>
      have hstep := readString_escape (.code hunit hother) (t ++ '"' :: rest)
      rw [ih, Option.map_some] at hstep
      rw [List.cons_append, List.cons_append, List.append_assoc]
      exact hstep
  | @pair u v t _ _ _ hfirst hhigh hsecond hlow _ ih =>
      have hstep := readString_escape (.pair hfirst hhigh hsecond hlow) (t ++ '"' :: rest)
      rw [ih, Option.map_some] at hstep
      simp only [List.append_assoc, List.cons_append] at hstep ⊢
      exact hstep

/-- The recursion of the reader: each turn takes the closing quote, a plain character, or
an escape. -/
theorem stringText_of_readString {cs rest s : List Char}
    (h : readString cs = some (s, rest)) :
    ∃ t, cs = t ++ '"' :: rest ∧ StringText t s := by
  fun_induction readString cs generalizing s with
  | case1 => cases h
  | case2 cs =>
      cases h
      exact ⟨[], rfl, .nil⟩
  | case3 => cases h
  | case4 cs c after hread _ ih =>
      rw [Option.map_eq_some_iff] at h
      obtain ⟨r, hr, h⟩ := h
      cases h
      obtain ⟨t, rfl, htext⟩ := ih hr
      obtain ⟨u, rfl, hescaped⟩ := escapeText_of_readEscape hread
      refine ⟨'\\' :: (u ++ t), ?_, .escaped hescaped htext⟩
      rw [List.cons_append, List.append_assoc]
  | case5 => cases h
  | case6 c cs hnotQuote hnotEscape hprintable ih =>
      rw [Option.map_eq_some_iff] at h
      obtain ⟨r, hr, h⟩ := h
      cases h
      obtain ⟨t, rfl, htext⟩ := ih hr
      exact ⟨c :: t, rfl, .plain hnotQuote hnotEscape (Nat.not_lt.mp hprintable) htext⟩

/-! ## Numbers -/

/-- A text that does not begin with a digit. -/
def NoDigit (cs : List Char) : Prop :=
  ∀ c ∈ cs.head?, c.isDigit = false

/-- A text that does not go on with a number: it begins with none of the characters that a
number can hold behind its first digit. -/
structure Ends (cs : List Char) : Prop where
  digit : NoDigit cs
  point : ∀ c ∈ cs.head?, c ≠ '.'
  power : ∀ c ∈ cs.head?, ¬ (c = 'e' ∨ c = 'E')

theorem noDigit_cons {c : Char} (h : c.isDigit = false) (cs : List Char) :
    NoDigit (c :: cs) := by
  intro d hhead
  cases hhead
  exact h

theorem readDigits_eq_some_iff {cs ds rest : List Char} :
    readDigits cs = some (ds, rest) ↔ DigitRow ds ∧ NoDigit rest ∧ cs = ds ++ rest := by
  constructor
  · intro h
    unfold readDigits at h
    split at h
    · cases h
    · next hne =>
        cases h
        refine ⟨⟨hne, List.all_eq_true.mp List.all_takeWhile⟩, ?_,
          List.takeWhile_append_dropWhile.symm⟩
        intro c hhead
        have hfirst := List.head?_dropWhile_not Char.isDigit cs
        rw [Option.mem_def.mp hhead] at hfirst
        exact hfirst
  · rintro ⟨⟨hne, hdigits⟩, hstop, rfl⟩
    have hnone : rest.takeWhile Char.isDigit = [] ∧ rest.dropWhile Char.isDigit = rest := by
      cases rest with
      | nil => exact ⟨rfl, rfl⟩
      | cons c cs =>
          have h : ¬ c.isDigit = true := Bool.eq_false_iff.mp (hstop c rfl)
          rw [List.takeWhile_cons, List.dropWhile_cons, if_neg h, if_neg h]
          exact ⟨rfl, rfl⟩
    rw [readDigits, List.takeWhile_append_of_pos hdigits, List.dropWhile_append_of_pos hdigits,
      hnone.1, hnone.2, List.append_nil]
    split
    · exact absurd rfl hne
    · rfl

theorem DigitRow.read {ds : List Char} (hrow : DigitRow ds) {rest : List Char}
    (hstop : NoDigit rest) : readDigits (ds ++ rest) = some (ds, rest) :=
  readDigits_eq_some_iff.mpr ⟨hrow, hstop, rfl⟩

/-- A row of digits begins with one. -/
theorem DigitRow.exists_cons {ds : List Char} (hrow : DigitRow ds) :
    ∃ d rest, ds = d :: rest ∧ d.isDigit = true := by
  cases ds with
  | nil => exact absurd rfl hrow.1
  | cons d rest => exact ⟨d, rest, rfl, hrow.2 d List.mem_cons_self⟩

theorem wholeText_of_readWhole {cs w rest : List Char} (h : readWhole cs = some (w, rest)) :
    WholeText w ∧ cs = w ++ rest := by
  unfold readWhole at h
  split at h
  · cases h
    exact ⟨.zero, rfl⟩
  · next hother =>
      obtain ⟨hrow, -, rfl⟩ := readDigits_eq_some_iff.mp h
      refine ⟨.row hrow fun hzero => ?_, rfl⟩
      obtain ⟨d, ds, rfl, -⟩ := hrow.exists_cons
      cases hzero
      exact hother (ds ++ rest) rfl

theorem WholeText.read {w : List Char} (htext : WholeText w) {rest : List Char}
    (hstop : NoDigit rest) : readWhole (w ++ rest) = some (w, rest) := by
  cases htext with
  | zero => rfl
  | row hrow hother =>
      obtain ⟨d, ds, rfl, -⟩ := hrow.exists_cons
      unfold readWhole
      split
      · next hzero =>
          cases hzero
          exact absurd rfl hother
      · exact hrow.read hstop

theorem fractionText_of_readFraction {cs ds rest : List Char}
    (h : readFraction cs = some (ds, rest)) : ∃ t, cs = t ++ rest ∧ FractionText t ds := by
  unfold readFraction at h
  split at h
  · obtain ⟨hrow, -, rfl⟩ := readDigits_eq_some_iff.mp h
    exact ⟨'.' :: ds, rfl, .some hrow⟩
  · cases h
    exact ⟨[], rfl, .none⟩

theorem FractionText.read {t ds : List Char} (htext : FractionText t ds) {rest : List Char}
    (hstop : NoDigit rest) (hnoPoint : ∀ c ∈ rest.head?, c ≠ '.') :
    readFraction (t ++ rest) = .some (ds, rest) := by
  cases htext with
  | none =>
      unfold readFraction
      split
      · next hpoint =>
          rw [List.nil_append] at hpoint
          exact absurd rfl (hnoPoint '.' (by rw [hpoint]; rfl))
      · rfl
  | some hrow => exact hrow.read hstop

theorem FractionText.noDigit {t ds : List Char} (htext : FractionText t ds) {rest : List Char}
    (hstop : NoDigit rest) : NoDigit (t ++ rest) := by
  cases htext with
  | none => exact hstop
  | some => exact noDigit_cons (by decide) _

theorem powerText_of_readPower {cs rest : List Char} {power : Option Int}
    (h : readPower cs = some (power, rest)) : ∃ t, cs = t ++ rest ∧ PowerText t power := by
  unfold readPower at h
  split at h
  · cases h
    exact ⟨[], rfl, .none⟩
  · next c cs =>
      split at h
      · next hletter =>
          split at h
          all_goals
            rw [Option.map_eq_some_iff] at h
            obtain ⟨⟨ds, after⟩, hread, h⟩ := h
            cases h
            obtain ⟨hrow, -, rfl⟩ := readDigits_eq_some_iff.mp hread
          · exact ⟨c :: '-' :: ds, rfl, .minus hletter hrow⟩
          · exact ⟨c :: '+' :: ds, rfl, .plus hletter hrow⟩
          · exact ⟨c :: ds, rfl, .unsigned hletter hrow⟩
      · cases h
        exact ⟨[], rfl, .none⟩

theorem PowerText.read {t : List Char} {power : Option Int} (htext : PowerText t power)
    {rest : List Char} (hends : Ends rest) : readPower (t ++ rest) = some (power, rest) := by
  cases htext with
  | none =>
      rw [List.nil_append]
      cases rest with
      | nil => rfl
      | cons c rest => simp only [readPower, if_neg (hends.power c rfl)]
  | @unsigned e ds hletter hrow =>
      have hread := hrow.read hends.digit
      obtain ⟨d, ds, rfl, hdigit⟩ := hrow.exists_cons
      rw [List.cons_append, readPower, if_pos hletter, hread, Option.map_some]
      -- A digit is no sign of the power.
      · intro after hsign; cases hsign; cases hdigit
      · intro after hsign; cases hsign; cases hdigit
  | plus hletter hrow =>
      rw [List.cons_append, List.cons_append, readPower, if_pos hletter]
      simp only [hrow.read hends.digit, Option.map_some]
  | minus hletter hrow =>
      rw [List.cons_append, List.cons_append, readPower, if_pos hletter]
      simp only [hrow.read hends.digit, Option.map_some]

theorem PowerText.noDigit {t : List Char} {power : Option Int} (htext : PowerText t power)
    {rest : List Char} (hends : Ends rest) : NoDigit (t ++ rest) := by
  have hletters : ∀ e : Char, e = 'e' ∨ e = 'E' → e.isDigit = false := by
    rintro e (rfl | rfl) <;> decide
  cases htext with
  | none => exact hends.digit
  | unsigned hletter | plus hletter | minus hletter => exact noDigit_cons (hletters _ hletter) _

theorem PowerText.noPoint {t : List Char} {power : Option Int} (htext : PowerText t power)
    {rest : List Char} (hends : Ends rest) : ∀ c ∈ (t ++ rest).head?, c ≠ '.' := by
  have hletters : ∀ e : Char, e = 'e' ∨ e = 'E' → e ≠ '.' := by
    rintro e (rfl | rfl) <;> decide
  cases htext with
  | none => exact hends.point
  | unsigned hletter | plus hletter | minus hletter =>
      intro c hhead
      cases hhead
      exact hletters _ hletter

/-- The text of a number without its sign, for a number with that sign. -/
inductive UnsignedText (negative : Bool) : List Char → Number → Prop where
  | mk {whole fraction power digits : List Char} {exponent : Option Int} {n : Number} :
      WholeText whole → FractionText fraction digits → PowerText power exponent →
      Number.ofDecimal negative whole digits exponent = some n →
      UnsignedText negative (whole ++ fraction ++ power) n

theorem unsignedText_of_readUnsigned {negative : Bool} {cs rest : List Char} {n : Number}
    (h : readUnsigned negative cs = some (n, rest)) :
    ∃ t, cs = t ++ rest ∧ UnsignedText negative t n := by
  simp only [readUnsigned, bind, Option.bind_eq_some_iff, pure, Option.some.injEq,
    Prod.mk.injEq] at h
  obtain ⟨⟨whole, afterWhole⟩, hw, ⟨digits, afterFraction⟩, hf, ⟨exponent, afterPower⟩, hp,
    number, hvalue, rfl, rfl⟩ := h
  obtain ⟨hwholeText, rfl⟩ := wholeText_of_readWhole hw
  obtain ⟨fraction, rfl, hfractionText⟩ := fractionText_of_readFraction hf
  obtain ⟨power, rfl, hpowerText⟩ := powerText_of_readPower hp
  refine ⟨whole ++ fraction ++ power, ?_, .mk hwholeText hfractionText hpowerText hvalue⟩
  simp only [List.append_assoc]

theorem UnsignedText.read {negative : Bool} {t : List Char} {n : Number}
    (htext : UnsignedText negative t n) {rest : List Char} (hends : Ends rest) :
    readUnsigned negative (t ++ rest) = some (n, rest) := by
  cases htext with
  | mk hwhole hfraction hpower hvalue =>
      have hnoDigit := hpower.noDigit hends
      simp only [readUnsigned, List.append_assoc, hwhole.read (hfraction.noDigit hnoDigit),
        hfraction.read hnoDigit (hpower.noPoint hends), hpower.read hends, hvalue, bind,
        Option.bind_some, pure]

/-- Without its sign, a number begins with a digit. -/
theorem UnsignedText.exists_cons {negative : Bool} {t : List Char} {n : Number}
    (htext : UnsignedText negative t n) : ∃ d rest, t = d :: rest ∧ d.isDigit = true := by
  cases htext with
  | mk hwhole hfraction hpower hvalue =>
      cases hwhole with
      | zero => exact ⟨'0', _, rfl, rfl⟩
      | row hrow =>
          obtain ⟨d, ds, rfl, hdigit⟩ := hrow.exists_cons
          exact ⟨d, _, rfl, hdigit⟩

theorem numberText_of_unsigned {t : List Char} {n : Number} (htext : UnsignedText false t n) :
    NumberText t n := by
  cases htext with
  | mk hwhole hfraction hpower hvalue => exact .mk .none hwhole hfraction hpower hvalue

theorem numberText_of_minus {t : List Char} {n : Number} (htext : UnsignedText true t n) :
    NumberText ('-' :: t) n := by
  cases htext with
  | mk hwhole hfraction hpower hvalue => exact .mk .minus hwhole hfraction hpower hvalue

theorem numberText_of_readNumber {cs rest : List Char} {n : Number}
    (h : readNumber cs = some (n, rest)) : ∃ t, cs = t ++ rest ∧ NumberText t n := by
  unfold readNumber at h
  split at h
  · obtain ⟨t, rfl, htext⟩ := unsignedText_of_readUnsigned h
    exact ⟨'-' :: t, rfl, numberText_of_minus htext⟩
  · obtain ⟨t, rfl, htext⟩ := unsignedText_of_readUnsigned h
    exact ⟨t, rfl, numberText_of_unsigned htext⟩

theorem NumberText.cases_sign {t : List Char} {n : Number} (htext : NumberText t n) :
    UnsignedText false t n ∨ ∃ u, t = '-' :: u ∧ UnsignedText true u n := by
  cases htext with
  | mk hsign hwhole hfraction hpower hvalue =>
      cases hsign with
      | none => exact .inl (.mk hwhole hfraction hpower hvalue)
      | minus => exact .inr ⟨_, rfl, .mk hwhole hfraction hpower hvalue⟩

theorem NumberText.read {t : List Char} {n : Number} (htext : NumberText t n)
    {rest : List Char} (hends : Ends rest) : readNumber (t ++ rest) = some (n, rest) := by
  rcases htext.cases_sign with hunsigned | ⟨u, rfl, hunsigned⟩
  · have hread := hunsigned.read hends
    obtain ⟨d, ds, rfl, hdigit⟩ := hunsigned.exists_cons
    unfold readNumber
    split
    · next hsign => cases hsign; cases hdigit
    · exact hread
  · exact hunsigned.read hends

/-- A number begins with a digit or with a sign. -/
theorem NumberText.exists_cons {t : List Char} {n : Number} (htext : NumberText t n) :
    ∃ c rest, t = c :: rest ∧ (c = '-' ∨ c.isDigit = true) := by
  rcases htext.cases_sign with hunsigned | ⟨u, rfl, -⟩
  · obtain ⟨d, rest, rfl, hdigit⟩ := hunsigned.exists_cons
    exact ⟨d, rest, rfl, .inr hdigit⟩
  · exact ⟨'-', u, rfl, .inl rfl⟩

end TabNavigator.Json
