import TabNavigator.Text.CaseTable
import TabNavigator.Text.Ranges

/-!
# Upper and lower case

Both directions work on whole characters and may make a text longer. Lowering has
one rule that looks at more than a character: the Greek capital sigma has two
small forms, and the one for the end of a word is taken when a cased letter comes
before it and none comes after it. Characters that do not interrupt a word are
passed over on both sides.

The texts are lists of characters here. What lowering does to a text is then one
recursion that carries the characters already passed, nearest first, so that the
look back and the look ahead are the same function.
-/

namespace TabNavigator.Text

/-- The characters a character becomes under a table of runs and expansions. -/
def mapCase (runs : List CaseRun) (expansions : List (Nat × List Nat)) (c : Char) :
    List Char :=
  match expansions.lookup c.toNat with
  | some codes => codes.map Char.ofNat
  | none =>
      match runs.find? (·.covers c.toNat) with
      | some run => [Char.ofNat (c.toNat + run.shift).toNat]
      | none => [c]

/-- The full lower case of one character, regardless of where it stands. -/
def lowerChar (c : Char) : List Char :=
  mapCase lowerRuns lowerExpansions c

/-- The full upper case of one character. -/
def upperChar (c : Char) : List Char :=
  mapCase upperRuns upperExpansions c

/-- Whether a character has a case. -/
def isCased (c : Char) : Bool :=
  inRanges casedRanges c

/-- Whether a character leaves the word around it unbroken. -/
def isCaseIgnorable (c : Char) : Bool :=
  inRanges caseIgnorableRanges c

/-- Whether the first character that could break a word is a cased letter. -/
def meetsLetter (cs : List Char) : Bool :=
  match cs.dropWhile isCaseIgnorable with
  | [] => false
  | c :: _ => isCased c

/-- The small sigma that fits between `before`, nearest character first, and `after`. -/
def lowerSigma (before after : List Char) : Char :=
  if meetsLetter before && !meetsLetter after then 'ς' else 'σ'

/-- Lowers a text that follows `before`, whose characters are listed nearest first. -/
def lowerAfter (before : List Char) : List Char → List Char
  | [] => []
  | c :: rest =>
      (if c = 'Σ' then [lowerSigma before rest] else lowerChar c)
        ++ lowerAfter (c :: before) rest

/-- The lower case of a whole text. -/
def lower (cs : List Char) : List Char :=
  lowerAfter [] cs

/-! No character is lost: an expansion may lengthen a text but never empties it. -/

theorem mapCase_ne_nil {runs : List CaseRun} {expansions : List (Nat × List Nat)}
    (hexpands : ∀ e ∈ expansions, e.2 ≠ []) (c : Char) : mapCase runs expansions c ≠ [] := by
  rw [mapCase]
  split
  · next codes hfound =>
      obtain ⟨before, after, hsplit, -⟩ := List.lookup_eq_some_iff.mp hfound
      have hmem : (c.toNat, codes) ∈ expansions := by
        rw [hsplit]
        exact List.mem_append_right before List.mem_cons_self
      intro hempty
      exact hexpands _ hmem (List.map_eq_nil_iff.mp hempty)
  · split <;> exact List.cons_ne_nil _ _

theorem lowerChar_ne_nil (c : Char) : lowerChar c ≠ [] :=
  mapCase_ne_nil (by decide) c

theorem lower_ne_nil {cs : List Char} (hne : cs ≠ []) : lower cs ≠ [] := by
  cases cs with
  | nil => exact absurd rfl hne
  | cons c rest =>
      rw [lower, lowerAfter]
      intro hempty
      have hfirst := (List.append_eq_nil_iff.mp hempty).1
      split at hfirst
      · cases hfirst
      · exact lowerChar_ne_nil c hfirst

/-- A text with its first character in upper case and the rest left alone. -/
def capitalize : List Char → List Char
  | [] => []
  | c :: rest => upperChar c ++ rest

end TabNavigator.Text
