import TabNavigator.Proofs.Tokens

/-!
# Values are read as the grammar has them

Values hold elements and members, which hold values. The readers of all these call each
other and spend a budget of calls, so what they take is shown to be in the grammar by
induction on the budget, for all five at once (`Sound`).

For the other direction the grammar is followed instead. A text of the grammar is read
whatever comes behind it, as long as the budget is three calls for each of its characters
and, if it is a number, it ends there. Brackets, commas and colons are what the calls of a
level are counted against, so the budget that a document is given always suffices and no
document is refused for want of it (`ofChars?_eq_some_iff`). Two values for one text would
be read off it both, so there is only one (`Document.unique`).
-/

namespace TabNavigator.Json

/-! ## What the first character of a value decides -/

section Readers

variable {budget room : Nat} {cs : List Char}

theorem readValue_nil : readValue budget room [] = none := by
  cases budget with
  | zero => rw [readValue]
  | succ budget => rw [readValue]; exact Nat.succ_ne_zero budget

theorem readValue_bracket_too_deep : readValue (budget + 1) 0 ('[' :: cs) = none := by
  rw [readValue, if_pos rfl]

theorem readValue_bracket :
    readValue (budget + 1) (room + 1) ('[' :: cs) =
      (readElements budget room (skipBlanks cs)).map fun r => (.array r.1, r.2) := by
  rw [readValue, if_pos rfl]

theorem readValue_brace_too_deep : readValue (budget + 1) 0 ('\x7b' :: cs) = none := by
  rw [readValue, if_neg (by decide), if_pos rfl]

theorem readValue_brace :
    readValue (budget + 1) (room + 1) ('\x7b' :: cs) =
      (readMembers budget room (skipBlanks cs)).map fun r =>
        (.object (Members.ofList r.1), r.2) := by
  rw [readValue, if_neg (by decide), if_pos rfl]

theorem readValue_quote :
    readValue (budget + 1) room ('"' :: cs) =
      (readString cs).map fun r => (.string (String.ofList r.1), r.2) := by
  cases room <;> rw [readValue, if_neg (by decide), if_neg (by decide), if_pos rfl]

theorem readValue_null :
    readValue (budget + 1) room ('n' :: cs) =
      (skipWord "ull".toList cs).map (.null, ·) := by
  cases room <;>
    rw [readValue, if_neg (by decide), if_neg (by decide), if_neg (by decide), if_pos rfl]

theorem readValue_true :
    readValue (budget + 1) room ('t' :: cs) =
      (skipWord "rue".toList cs).map (.bool true, ·) := by
  cases room <;>
    rw [readValue, if_neg (by decide), if_neg (by decide), if_neg (by decide),
      if_neg (by decide), if_pos rfl]

theorem readValue_false :
    readValue (budget + 1) room ('f' :: cs) =
      (skipWord "alse".toList cs).map (.bool false, ·) := by
  cases room <;>
    rw [readValue, if_neg (by decide), if_neg (by decide), if_neg (by decide),
      if_neg (by decide), if_neg (by decide), if_pos rfl]

/-- Whatever begins like no other value is read as a number. -/
theorem readValue_number {c : Char} (hother : c ∉ ['[', '\x7b', '"', 'n', 't', 'f']) :
    readValue (budget + 1) room (c :: cs) =
      (readNumber (c :: cs)).map fun r => (.number r.1, r.2) := by
  simp only [List.mem_cons, List.not_mem_nil, or_false, not_or] at hother
  obtain ⟨h₁, h₂, h₃, h₄, h₅, h₆⟩ := hother
  cases room <;>
    simp only [readValue, if_neg h₁, if_neg h₂, if_neg h₃, if_neg h₄, if_neg h₅, if_neg h₆]

end Readers

/-! ## What is read is in the grammar -/

theorem ElementsText.blanks_before {room : Nat} {b t : List Char} {vs : List Json}
    (hblanks : Blanks b) (htext : ElementsText room t vs) : ElementsText room (b ++ t) vs := by
  cases htext with
  | one hbefore hvalue hafter =>
      have h := ElementsText.one (hblanks.append hbefore) hvalue hafter
      simpa only [List.append_assoc] using h
  | more hbefore hvalue hafter hrest =>
      have h := ElementsText.more (hblanks.append hbefore) hvalue hafter hrest
      simpa only [List.append_assoc] using h

theorem MembersText.blanks_before {room : Nat} {b t : List Char} {ms : List (String × Json)}
    (hblanks : Blanks b) (htext : MembersText room t ms) : MembersText room (b ++ t) ms := by
  cases htext with
  | one hbefore hkey hafterKey hbeforeValue hvalue hafter =>
      have h := MembersText.one (hblanks.append hbefore) hkey hafterKey hbeforeValue hvalue hafter
      simpa only [List.append_assoc] using h
  | more hbefore hkey hafterKey hbeforeValue hvalue hafter hrest =>
      have h :=
        MembersText.more (hblanks.append hbefore) hkey hafterKey hbeforeValue hvalue hafter hrest
      simpa only [List.append_assoc] using h

/-- All that is read with a budget is in the grammar. -/
structure Sound (budget : Nat) : Prop where
  value : ∀ {room : Nat} {cs rest : List Char} {v : Json},
    readValue budget room cs = some (v, rest) → ∃ t, cs = t ++ rest ∧ Denotes room t v
  elements : ∀ {room : Nat} {cs rest : List Char} {vs : List Json},
    readElements budget room cs = some (vs, rest) →
      (vs = [] ∧ cs = ']' :: rest) ∨ ∃ t, cs = t ++ ']' :: rest ∧ ElementsText room t vs
  elementsFrom : ∀ {room : Nat} {cs rest : List Char} {vs : List Json},
    readElementsFrom budget room cs = some (vs, rest) →
      ∃ t, cs = t ++ ']' :: rest ∧ ElementsText room t vs
  members : ∀ {room : Nat} {cs rest : List Char} {ms : List (String × Json)},
    readMembers budget room cs = some (ms, rest) →
      (ms = [] ∧ cs = '\x7d' :: rest) ∨
        ∃ t, cs = t ++ '\x7d' :: rest ∧ MembersText room t ms
  membersFrom : ∀ {room : Nat} {cs rest : List Char} {ms : List (String × Json)},
    readMembersFrom budget room cs = some (ms, rest) →
      ∃ t, cs = t ++ '\x7d' :: rest ∧ MembersText room t ms

theorem eq_of_skipWord {word cs rest : List Char} (h : skipWord word cs = some rest) :
    cs = word ++ rest := by
  rw [skipWord] at h
  split at h
  · next hstarts =>
      obtain ⟨after, rfl⟩ := List.isPrefixOf_iff_prefix.mp hstarts
      rw [List.drop_left] at h
      cases h
      rfl
  · cases h

/-- What comes of an array, from what comes of its elements. -/
theorem Sound.array {budget room : Nat} (hsound : Sound budget) {cs rest : List Char}
    {vs : List Json} (h : readElements budget room (skipBlanks cs) = some (vs, rest)) :
    ∃ t, '[' :: cs = t ++ rest ∧ Denotes (room + 1) t (.array vs) := by
  obtain ⟨b, hblanks, hsplit⟩ := exists_blanks cs
  rcases hsound.elements h with ⟨rfl, hnone⟩ | ⟨t, hsome, helements⟩
  · refine ⟨'[' :: (b ++ [']']), ?_, .emptyArray hblanks⟩
    rw [hsplit, hnone]
    simp only [List.cons_append, List.append_assoc, List.nil_append]
  · refine ⟨'[' :: (b ++ t ++ [']']), ?_, .array (helements.blanks_before hblanks)⟩
    rw [hsplit, hsome]
    simp only [List.cons_append, List.append_assoc, List.nil_append]

theorem Sound.object {budget room : Nat} (hsound : Sound budget) {cs rest : List Char}
    {ms : List (String × Json)}
    (h : readMembers budget room (skipBlanks cs) = some (ms, rest)) :
    ∃ t, '\x7b' :: cs = t ++ rest ∧ Denotes (room + 1) t (.object (Members.ofList ms)) := by
  obtain ⟨b, hblanks, hsplit⟩ := exists_blanks cs
  rcases hsound.members h with ⟨rfl, hnone⟩ | ⟨t, hsome, hmembers⟩
  · refine ⟨'\x7b' :: (b ++ ['\x7d']), ?_, .emptyObject hblanks⟩
    rw [hsplit, hnone]
    simp only [List.cons_append, List.append_assoc, List.nil_append]
  · refine ⟨'\x7b' :: (b ++ t ++ ['\x7d']), ?_, .object (hmembers.blanks_before hblanks)⟩
    rw [hsplit, hsome]
    simp only [List.cons_append, List.append_assoc, List.nil_append]

theorem Sound.value_succ {budget : Nat} (hsound : Sound budget) {room : Nat}
    {cs rest : List Char} {v : Json} (h : readValue (budget + 1) room cs = some (v, rest)) :
    ∃ t, cs = t ++ rest ∧ Denotes room t v := by
  cases cs with
  | nil =>
      rw [readValue_nil] at h
      cases h
  | cons c cs =>
      by_cases hleads : c ∈ ['[', '\x7b', '"', 'n', 't', 'f']
      · simp only [List.mem_cons, List.not_mem_nil, or_false] at hleads
        rcases hleads with rfl | rfl | rfl | rfl | rfl | rfl
        · cases room with
          | zero => rw [readValue_bracket_too_deep] at h; cases h
          | succ room =>
              rw [readValue_bracket, Option.map_eq_some_iff] at h
              obtain ⟨⟨vs, after⟩, helements, h⟩ := h
              cases h
              exact hsound.array helements
        · cases room with
          | zero => rw [readValue_brace_too_deep] at h; cases h
          | succ room =>
              rw [readValue_brace, Option.map_eq_some_iff] at h
              obtain ⟨⟨ms, after⟩, hmembers, h⟩ := h
              cases h
              exact hsound.object hmembers
        · rw [readValue_quote, Option.map_eq_some_iff] at h
          obtain ⟨⟨s, after⟩, hstring, h⟩ := h
          cases h
          obtain ⟨t, rfl, htext⟩ := stringText_of_readString hstring
          refine ⟨'"' :: (t ++ ['"']), ?_, .string htext⟩
          simp only [List.cons_append, List.append_assoc, List.nil_append]
        · rw [readValue_null, Option.map_eq_some_iff] at h
          obtain ⟨after, hword, h⟩ := h
          cases h
          exact ⟨"null".toList, congrArg ('n' :: ·) (eq_of_skipWord hword), .null⟩
        · rw [readValue_true, Option.map_eq_some_iff] at h
          obtain ⟨after, hword, h⟩ := h
          cases h
          exact ⟨"true".toList, congrArg ('t' :: ·) (eq_of_skipWord hword), .true⟩
        · rw [readValue_false, Option.map_eq_some_iff] at h
          obtain ⟨after, hword, h⟩ := h
          cases h
          exact ⟨"false".toList, congrArg ('f' :: ·) (eq_of_skipWord hword), .false⟩
      · rw [readValue_number hleads, Option.map_eq_some_iff] at h
        obtain ⟨⟨n, after⟩, hnumber, h⟩ := h
        cases h
        obtain ⟨t, hsplit, htext⟩ := numberText_of_readNumber hnumber
        exact ⟨t, hsplit, .number htext⟩

theorem Sound.elementsFrom_succ {budget : Nat} (hsound : Sound budget) {room : Nat}
    {cs rest : List Char} {vs : List Json}
    (h : readElementsFrom (budget + 1) room cs = some (vs, rest)) :
    ∃ t, cs = t ++ ']' :: rest ∧ ElementsText room t vs := by
  simp only [readElementsFrom] at h
  split at h
  · cases h
  · next v behind hvalue =>
      obtain ⟨t, rfl, hdenotes⟩ := hsound.value hvalue
      obtain ⟨b, hblanks, hbehind⟩ := exists_blanks behind
      split at h
      · next after hcomma =>
          obtain ⟨⟨vs, last⟩, hmore, h⟩ := Option.map_eq_some_iff.mp h
          cases h
          obtain ⟨u, hafter, helements⟩ := hsound.elementsFrom hmore
          obtain ⟨a, hblanks', hafter'⟩ := exists_blanks after
          refine ⟨[] ++ t ++ b ++ ',' :: (a ++ u), ?_,
            .more blanks_nil hdenotes hblanks (helements.blanks_before hblanks')⟩
          rw [hbehind, hcomma, hafter', hafter]
          simp only [List.nil_append, List.cons_append, List.append_assoc]
      · next after hbracket =>
          cases h
          refine ⟨[] ++ t ++ b, ?_, .one blanks_nil hdenotes hblanks⟩
          rw [hbehind, hbracket, List.nil_append, List.append_assoc]
      · cases h

theorem Sound.membersFrom_succ {budget : Nat} (hsound : Sound budget) {room : Nat}
    {cs rest : List Char} {ms : List (String × Json)}
    (h : readMembersFrom (budget + 1) room cs = some (ms, rest)) :
    ∃ t, cs = t ++ '\x7d' :: rest ∧ MembersText room t ms := by
  unfold readMembersFrom at h
  split at h
  · next cs =>
      split at h
      · cases h
      · next key behindKey hstring =>
          obtain ⟨k, rfl, hkeyText⟩ := stringText_of_readString hstring
          obtain ⟨b, hblanks, hbehindKey⟩ := exists_blanks behindKey
          split at h
          · next afterColon hcolon =>
              obtain ⟨c, hblanks', hafterColon⟩ := exists_blanks afterColon
              split at h
              · cases h
              · next v behind hvalue =>
                  obtain ⟨t, ht, hdenotes⟩ := hsound.value hvalue
                  obtain ⟨d, hblanks'', hbehind⟩ := exists_blanks behind
                  simp only at h
                  split at h
                  · next after hcomma =>
                      rw [Option.map_eq_some_iff] at h
                      obtain ⟨⟨ms, last⟩, hmore, h⟩ := h
                      cases h
                      obtain ⟨u, hafter, hmembers⟩ := hsound.membersFrom hmore
                      obtain ⟨a, hblanks₃, hafter'⟩ := exists_blanks after
                      refine ⟨_, ?_, .more blanks_nil hkeyText hblanks hblanks' hdenotes hblanks''
                        (hmembers.blanks_before hblanks₃)⟩
                      rw [hbehindKey, hcolon, hafterColon, ht, hbehind, hcomma,
                        hafter', hafter]
                      simp only [List.nil_append, List.cons_append, List.append_assoc]
                  · next after hbrace =>
                      cases h
                      refine ⟨_, ?_,
                        .one blanks_nil hkeyText hblanks hblanks' hdenotes hblanks''⟩
                      rw [hbehindKey, hcolon, hafterColon, ht, hbehind, hbrace]
                      simp only [List.nil_append, List.cons_append, List.append_assoc]
                  · cases h
          · cases h
  · cases h

theorem sound (budget : Nat) : Sound budget := by
  induction budget with
  | zero =>
      refine ⟨?_, ?_, ?_, ?_, ?_⟩ <;> intro _ _ _ _ h
      · rw [readValue] at h; cases h
      · rw [readElements] at h; cases h
      · rw [readElementsFrom] at h; cases h
      · rw [readMembers] at h; cases h
      · rw [readMembersFrom] at h; cases h
  | succ budget ih =>
      refine ⟨ih.value_succ, ?elements, ih.elementsFrom_succ, ?members, ih.membersFrom_succ⟩
      case elements =>
        intro room cs rest vs h
        unfold readElements at h
        split at h
        · cases h
          exact .inl ⟨rfl, rfl⟩
        · exact .inr (ih.elementsFrom h)
      case members =>
        intro room cs rest ms h
        unfold readMembers at h
        split at h
        · cases h
          exact .inl ⟨rfl, rfl⟩
        · exact .inr (ih.membersFrom h)

/-! ## What is in the grammar is read -/

theorem skipWord_append (word rest : List Char) : skipWord word (word ++ rest) = some rest := by
  rw [skipWord, if_pos (List.isPrefixOf_iff_prefix.mpr (List.prefix_append word rest)),
    List.drop_left]

theorem isBlank_of_isDigit {c : Char} (hdigit : c.isDigit = true) : isBlank c = false := by
  rw [Bool.eq_false_iff]
  intro hblank
  simp only [isBlank, Bool.or_eq_true, decide_eq_true_eq] at hblank
  rcases hblank with ((rfl | rfl) | rfl) | rfl <;> cases hdigit

theorem skipBlanks_to {b : List Char} (hblanks : Blanks b) {c : Char}
    (hsolid : isBlank c = false) (cs : List Char) : skipBlanks (b ++ c :: cs) = c :: cs := by
  rw [skipBlanks_append hblanks, skipBlanks_of_head hsolid]

/-- A number begins like no other value. -/
theorem NumberText.not_mem_of_cons {c : Char} {cs : List Char} {n : Number}
    (htext : NumberText (c :: cs) n) : c ∉ ['[', '\x7b', '"', 'n', 't', 'f'] := by
  obtain ⟨d, rest, h, hsign | hdigit⟩ := htext.exists_cons
  · cases h
    rw [hsign]
    decide
  · cases h
    intro hmem
    simp only [List.mem_cons, List.not_mem_nil, or_false] at hmem
    rcases hmem with rfl | rfl | rfl | rfl | rfl | rfl <;> cases hdigit

/-- A value begins neither with a blank nor with the end of an array. -/
theorem Denotes.exists_cons {room : Nat} {t : List Char} {v : Json} (h : Denotes room t v) :
    ∃ c rest, t = c :: rest ∧ isBlank c = .false ∧ c ≠ ']' := by
  cases h with
  | null => exact ⟨'n', "ull".toList, rfl, by decide, by decide⟩
  | true => exact ⟨'t', "rue".toList, rfl, by decide, by decide⟩
  | false => exact ⟨'f', "alse".toList, rfl, by decide, by decide⟩
  | number htext =>
      obtain ⟨c, rest, rfl, hsign | hdigit⟩ := htext.exists_cons
      · rw [hsign]
        exact ⟨'-', rest, rfl, by decide, by decide⟩
      · refine ⟨c, rest, rfl, isBlank_of_isDigit hdigit, ?_⟩
        rintro rfl
        cases hdigit
  | string => exact ⟨'"', _, rfl, by decide, by decide⟩
  | emptyArray | array => exact ⟨'[', _, rfl, by decide, by decide⟩
  | emptyObject | object => exact ⟨'\x7b', _, rfl, by decide, by decide⟩

theorem Denotes.skipBlanks_before {room : Nat} {b t : List Char} {v : Json}
    (h : Denotes room t v) (hblanks : Blanks b) (more : List Char) :
    skipBlanks (b ++ (t ++ more)) = t ++ more := by
  obtain ⟨c, rest, rfl, hsolid, -⟩ := h.exists_cons
  rw [skipBlanks_append hblanks, List.cons_append, skipBlanks_of_head hsolid]

/-- The first element is where the blanks end, and it is not the end of the array. -/
theorem ElementsText.skipBlanks_eq {room : Nat} {t : List Char} {vs : List Json}
    (htext : ElementsText room t vs) (more : List Char) :
    ∃ c rest, skipBlanks (t ++ more) = c :: rest ∧ c ≠ ']' := by
  cases htext with
  | one hbefore hvalue hafter | more hbefore hvalue hafter =>
      simp only [List.append_assoc, hvalue.skipBlanks_before hbefore]
      obtain ⟨c, rest, rfl, -, hother⟩ := hvalue.exists_cons
      exact ⟨c, _, List.cons_append, hother⟩

theorem MembersText.skipBlanks_eq {room : Nat} {t : List Char} {ms : List (String × Json)}
    (htext : MembersText room t ms) (more : List Char) :
    ∃ rest, skipBlanks (t ++ more) = '"' :: rest := by
  cases htext with
  | one hbefore | more hbefore =>
      simp only [List.append_assoc, List.cons_append]
      exact ⟨_, skipBlanks_to hbefore (by decide) _⟩

theorem ends_nil : Ends [] :=
  ⟨fun _ hnone => (nomatch hnone), fun _ hnone => (nomatch hnone), fun _ hnone => (nomatch hnone)⟩

theorem ends_cons {c : Char} (hdigit : c.isDigit = false) (hpoint : c ≠ '.')
    (hpower : ¬ (c = 'e' ∨ c = 'E')) (cs : List Char) : Ends (c :: cs) := by
  refine ⟨noDigit_cons hdigit cs, ?_, ?_⟩ <;> intro d hhead <;> cases hhead
  · exact hpoint
  · exact hpower

theorem ends_comma (cs : List Char) : Ends (',' :: cs) :=
  ends_cons (by decide) (by decide) (by decide) cs

theorem ends_bracket (cs : List Char) : Ends (']' :: cs) :=
  ends_cons (by decide) (by decide) (by decide) cs

theorem ends_brace (cs : List Char) : Ends ('\x7d' :: cs) :=
  ends_cons (by decide) (by decide) (by decide) cs

theorem Blanks.ends {b : List Char} (hblanks : Blanks b) {cs : List Char} (hends : Ends cs) :
    Ends (b ++ cs) := by
  cases b with
  | nil => exact hends
  | cons c b =>
      have hblank := hblanks c List.mem_cons_self
      simp only [isBlank, Bool.or_eq_true, decide_eq_true_eq] at hblank
      rcases hblank with ((rfl | rfl) | rfl) | rfl <;>
        exact ends_cons (by decide) (by decide) (by decide) _

section Readers

variable {budget room : Nat} {cs behind after rest : List Char} {v : Json}

theorem readElementsFrom_last (hvalue : readValue budget room cs = some (v, behind))
    (hclose : skipBlanks behind = ']' :: rest) :
    readElementsFrom (budget + 1) room cs = some ([v], rest) := by
  simp only [readElementsFrom, hvalue, hclose]

theorem readElementsFrom_more {vs : List Json}
    (hvalue : readValue budget room cs = some (v, behind))
    (hcomma : skipBlanks behind = ',' :: after)
    (hmore : readElementsFrom budget room (skipBlanks after) = some (vs, rest)) :
    readElementsFrom (budget + 1) room cs = some (v :: vs, rest) := by
  simp only [readElementsFrom, hvalue, hcomma, hmore, Option.map_some]

variable {key behindKey afterColon : List Char}

theorem readMembersFrom_last (hstring : readString cs = some (key, behindKey))
    (hcolon : skipBlanks behindKey = ':' :: afterColon)
    (hvalue : readValue budget room (skipBlanks afterColon) = some (v, behind))
    (hclose : skipBlanks behind = '\x7d' :: rest) :
    readMembersFrom (budget + 1) room ('"' :: cs) = some ([(String.ofList key, v)], rest) := by
  simp only [readMembersFrom, hstring, hcolon, hvalue, hclose]

theorem readMembersFrom_more {ms : List (String × Json)}
    (hstring : readString cs = some (key, behindKey))
    (hcolon : skipBlanks behindKey = ':' :: afterColon)
    (hvalue : readValue budget room (skipBlanks afterColon) = some (v, behind))
    (hcomma : skipBlanks behind = ',' :: after)
    (hmore : readMembersFrom budget room (skipBlanks after) = some (ms, rest)) :
    readMembersFrom (budget + 1) room ('"' :: cs) =
      some ((String.ofList key, v) :: ms, rest) := by
  simp only [readMembersFrom, hstring, hcolon, hvalue, hcomma, hmore, Option.map_some]

end Readers

/-- Where there are elements, the reader of none or more is that of one or more. -/
theorem ElementsText.readElements_eq {room : Nat} {t : List Char} {vs : List Json}
    (htext : ElementsText room t vs) (budget : Nat) (more : List Char) :
    readElements (budget + 1) room (skipBlanks (t ++ more)) =
      readElementsFrom budget room (skipBlanks (t ++ more)) := by
  obtain ⟨c, rest, hfirst, hother⟩ := htext.skipBlanks_eq more
  rw [hfirst, readElements]
  rintro _ hclose
  cases hclose
  exact hother rfl

theorem MembersText.readMembers_eq {room : Nat} {t : List Char} {ms : List (String × Json)}
    (htext : MembersText room t ms) (budget : Nat) (more : List Char) :
    readMembers (budget + 1) room (skipBlanks (t ++ more)) =
      readMembersFrom budget room (skipBlanks (t ++ more)) := by
  obtain ⟨rest, hfirst⟩ := htext.skipBlanks_eq more
  rw [hfirst, readMembers]
  rintro _ hclose
  cases hclose

mutual

theorem Denotes.read {room : Nat} {t : List Char} {v : Json} (h : Denotes room t v)
    {budget : Nat} (henough : 3 * t.length ≤ budget) {rest : List Char} (hends : Ends rest) :
    readValue budget room (t ++ rest) = some (v, rest) := by
  obtain ⟨first, others, hcons, -⟩ := h.exists_cons
  obtain ⟨budget, rfl⟩ : ∃ b, budget = b + 1 := by
    rw [hcons, List.length_cons] at henough
    exact ⟨budget - 1, by omega⟩
  clear hcons
  cases h with
  | null =>
      show readValue (budget + 1) room ('n' :: ("ull".toList ++ rest)) = _
      rw [readValue_null, skipWord_append, Option.map_some]
  | true =>
      show readValue (budget + 1) room ('t' :: ("rue".toList ++ rest)) = _
      rw [readValue_true, skipWord_append, Option.map_some]
  | false =>
      show readValue (budget + 1) room ('f' :: ("alse".toList ++ rest)) = _
      rw [readValue_false, skipWord_append, Option.map_some]
  | number htext =>
      have hread := htext.read hends
      obtain ⟨c, cs, rfl, -⟩ := htext.exists_cons
      rw [List.cons_append] at hread ⊢
      rw [readValue_number htext.not_mem_of_cons, hread, Option.map_some]
  | string htext =>
      rw [List.cons_append, List.append_assoc, List.singleton_append, readValue_quote,
        htext.read, Option.map_some]
  | emptyArray hblanks =>
      obtain ⟨budget, rfl⟩ : ∃ b, budget = b + 1 := by
        rw [List.length_cons, List.length_append] at henough
        exact ⟨budget - 1, by omega⟩
      rw [List.cons_append, List.append_assoc, List.singleton_append, readValue_bracket,
        skipBlanks_to hblanks (by decide), readElements, Option.map_some]
  | array helements =>
      rw [List.length_cons, List.length_append, List.length_singleton] at henough
      obtain ⟨budget, rfl⟩ : ∃ b, budget = b + 1 := ⟨budget - 1, by omega⟩
      rw [List.cons_append, List.append_assoc, List.singleton_append, readValue_bracket,
        helements.readElements_eq, helements.read (by omega), Option.map_some]
  | emptyObject hblanks =>
      obtain ⟨budget, rfl⟩ : ∃ b, budget = b + 1 := by
        rw [List.length_cons, List.length_append] at henough
        exact ⟨budget - 1, by omega⟩
      rw [List.cons_append, List.append_assoc, List.singleton_append, readValue_brace,
        skipBlanks_to hblanks (by decide), readMembers, Option.map_some]
      rfl
  | object hmembers =>
      rw [List.length_cons, List.length_append, List.length_singleton] at henough
      obtain ⟨budget, rfl⟩ : ∃ b, budget = b + 1 := ⟨budget - 1, by omega⟩
      rw [List.cons_append, List.append_assoc, List.singleton_append, readValue_brace,
        hmembers.readMembers_eq, hmembers.read (by omega), Option.map_some]

theorem ElementsText.read {room : Nat} {t : List Char} {vs : List Json}
    (htext : ElementsText room t vs) {budget : Nat} (henough : 3 * t.length + 1 ≤ budget)
    (rest : List Char) :
    readElementsFrom budget room (skipBlanks (t ++ ']' :: rest)) = some (vs, rest) := by
  obtain ⟨budget, rfl⟩ : ∃ b, budget = b + 1 := ⟨budget - 1, by omega⟩
  cases htext with
  | @one _ _ t _ _ hbefore hvalue hafter =>
      simp only [List.length_append] at henough
      simp only [List.append_assoc, hvalue.skipBlanks_before hbefore]
      have hinside : 3 * t.length ≤ budget := by omega
      have hread := hvalue.read hinside (hafter.ends (ends_bracket rest))
      exact readElementsFrom_last hread (skipBlanks_to hafter (by decide) rest)
  | @more _ _ t _ u _ _ hbefore hvalue hafter hothers =>
      simp only [List.length_append, List.length_cons] at henough
      simp only [List.append_assoc, List.cons_append, hvalue.skipBlanks_before hbefore]
      have hinside : 3 * t.length ≤ budget := by omega
      have hread := hvalue.read hinside (hafter.ends (ends_comma (u ++ ']' :: rest)))
      exact readElementsFrom_more hread (skipBlanks_to hafter (by decide) _)
        (hothers.read (by omega) rest)

theorem MembersText.read {room : Nat} {t : List Char} {ms : List (String × Json)}
    (htext : MembersText room t ms) {budget : Nat} (henough : 3 * t.length + 1 ≤ budget)
    (rest : List Char) :
    readMembersFrom budget room (skipBlanks (t ++ '\x7d' :: rest)) = some (ms, rest) := by
  obtain ⟨budget, rfl⟩ : ∃ b, budget = b + 1 := ⟨budget - 1, by omega⟩
  cases htext with
  | @one _ _ _ _ _ t _ _ _ hbefore hkey hafterKey hbeforeValue hvalue hafter =>
      simp only [List.length_append, List.length_cons] at henough
      simp only [List.append_assoc, List.cons_append,
        skipBlanks_to hbefore (c := '"') (by decide)]
      have hinside : 3 * t.length ≤ budget := by omega
      have hread := hvalue.read hinside (hafter.ends (ends_brace rest))
      rw [← hvalue.skipBlanks_before hbeforeValue] at hread
      exact readMembersFrom_last (hkey.read _) (skipBlanks_to hafterKey (by decide) _) hread
        (skipBlanks_to hafter (by decide) rest)
  | @more _ _ _ _ _ t _ _ u _ _ hbefore hkey hafterKey hbeforeValue hvalue hafter hothers =>
      simp only [List.length_append, List.length_cons] at henough
      simp only [List.append_assoc, List.cons_append,
        skipBlanks_to hbefore (c := '"') (by decide)]
      have hinside : 3 * t.length ≤ budget := by omega
      have hread := hvalue.read hinside (hafter.ends (ends_comma (u ++ '\x7d' :: rest)))
      rw [← hvalue.skipBlanks_before hbeforeValue] at hread
      exact readMembersFrom_more (hkey.read _) (skipBlanks_to hafterKey (by decide) _) hread
        (skipBlanks_to hafter (by decide) _) (hothers.read (by omega) rest)

end

/-! ## Documents -/

theorem document_of_ofChars? {cs : List Char} {v : Json} (h : ofChars? cs = some v) :
    Document cs v := by
  unfold ofChars? at h
  split at h
  · next rest hvalue =>
      split at h
      · next hfinished =>
          cases h
          obtain ⟨t, hbehind, hdenotes⟩ := (sound _).value hvalue
          obtain ⟨a, hbefore, hcs⟩ := exists_blanks cs
          obtain ⟨b, hafter, hrest⟩ := exists_blanks rest
          rw [List.isEmpty_iff.mp hfinished, List.append_nil] at hrest
          refine ⟨a, t, b, hbefore, hdenotes, hafter, ?_⟩
          rw [hcs, hbehind, hrest, List.append_assoc]
      · cases h
  · cases h

theorem Document.ofChars? {cs : List Char} {v : Json} (h : Document cs v) :
    ofChars? cs = some v := by
  obtain ⟨a, t, b, hbefore, hdenotes, hafter, rfl⟩ := h
  have hends : Ends b := by
    have h := hafter.ends ends_nil
    rwa [List.append_nil] at h
  have hfinished : skipBlanks b = [] := by
    have h := skipBlanks_append hafter []
    rwa [List.append_nil] at h
  have henough : 3 * t.length ≤ 3 * (a ++ t ++ b).length + 3 := by
    simp only [List.length_append]
    omega
  have hstart : skipBlanks (a ++ t ++ b) = t ++ b := by
    rw [List.append_assoc, hdenotes.skipBlanks_before hbefore]
  rw [Json.ofChars?, hstart, hdenotes.read henough hends]
  simp only [hfinished, List.isEmpty_nil, if_true]

theorem Document.unique {cs : List Char} {v w : Json} (hv : Document cs v)
    (hw : Document cs w) : v = w :=
  Option.some.inj (hv.ofChars?.symm.trans hw.ofChars?)

end TabNavigator.Json
