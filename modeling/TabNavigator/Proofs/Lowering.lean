import Mathlib.Data.List.TakeWhile
import TabNavigator.Text.Case

/-!
# The lower case of a part of a text

Lowering goes character by character, and all characters but one are lowered alike wherever
they stand. So one would think that a text which contains another contains it in lower case
too. The capital sigma is the exception: it takes one small form at the end of a word and
another elsewhere, and a part of a text may end where a word of the text goes on, or begin
where a word of the text has begun before.

How far a sigma looks is known: past the characters that leave a word unbroken, and no
further than the first that does not. If there is such a character inside the part, on a
side, then nothing beyond the part matters on that side. `isSettledSigma` says that a sigma
has one form whatever stands beyond, and a text is settled if all its capital sigmas are.
Lowering a settled text gives the same wherever the text stands (`lowerWithin_of_settled`).

That this is the whole truth is `isSettled_iff`: if a text is contained in lower case in
every text that contains it, it is settled. A sigma that is not settled has only unbroken
text on one of its sides, so it is the first or the last of its text. A letter is put at that
end, which gives this one sigma its other form and leaves all else as it was. The small sigma
of the old form then occurs once less than in the part, so the part does not occur at all,
at this place or any other.
-/

namespace TabNavigator.Text

/-! ## What a sigma meets -/

/-- Whether a text leaves the word around it unbroken throughout. -/
def isUnbroken (cs : List Char) : Bool :=
  cs.all isCaseIgnorable

theorem isUnbroken_iff {cs : List Char} :
    isUnbroken cs = true ↔ cs.dropWhile isCaseIgnorable = [] := by
  rw [isUnbroken, List.all_eq_true, List.dropWhile_eq_nil_iff]

theorem meetsLetter_append (cs more : List Char) :
    meetsLetter (cs ++ more) =
      if isUnbroken cs then meetsLetter more else meetsLetter cs := by
  rw [meetsLetter, List.dropWhile_append]
  by_cases hunbroken : isUnbroken cs = true
  · have hnothing := isUnbroken_iff.mp hunbroken
    rw [if_pos hunbroken, hnothing, List.isEmpty_nil, if_pos rfl]
    rfl
  · have hmet : cs.dropWhile isCaseIgnorable ≠ [] := mt isUnbroken_iff.mpr hunbroken
    obtain ⟨c, rest, hfirst⟩ := List.exists_cons_of_ne_nil hmet
    rw [if_neg hunbroken, meetsLetter, hfirst]
    rfl

theorem meetsLetter_of_isUnbroken {cs : List Char} (hunbroken : isUnbroken cs = true) :
    meetsLetter cs = false := by
  rw [meetsLetter, isUnbroken_iff.mp hunbroken]

theorem isUnbroken_append_of_right {more : List Char} (hbroken : isUnbroken more = false)
    (cs : List Char) : isUnbroken (cs ++ more) = false := by
  rw [isUnbroken] at hbroken
  rw [isUnbroken, List.all_append, hbroken, Bool.and_false]

theorem isUnbroken_sigma (rest : List Char) : isUnbroken ('Σ' :: rest) = false := by
  have hbreaks : isCaseIgnorable 'Σ' = false := by decide +kernel
  rw [isUnbroken, List.all_cons, hbreaks, Bool.false_and]

theorem not_mem_of_isUnbroken {cs : List Char} (hunbroken : isUnbroken cs = true) :
    'Σ' ∉ cs := by
  intro hmem
  obtain ⟨before, after, rfl⟩ := List.append_of_mem hmem
  rw [isUnbroken_append_of_right (isUnbroken_sigma after)] at hunbroken
  cases hunbroken

/-- What stands behind a character that breaks the word does not matter. -/
theorem lowerSigma_farther {before : List Char} (hbroken : isUnbroken before = false)
    (farther after : List Char) :
    lowerSigma (before ++ farther) after = lowerSigma before after := by
  rw [lowerSigma, lowerSigma, meetsLetter_append, hbroken]
  rfl

theorem lowerSigma_beyond {after : List Char} (hbroken : isUnbroken after = false)
    (before beyond : List Char) :
    lowerSigma before (after ++ beyond) = lowerSigma before after := by
  rw [lowerSigma, lowerSigma, meetsLetter_append, hbroken]
  rfl

/-! ## Lowering in place -/

/-- Lowers a text that stands between others; those before it are listed nearest first. -/
def lowerWithin (before : List Char) : List Char → List Char → List Char
  | [], _ => []
  | c :: rest, after =>
      (if c = 'Σ' then [lowerSigma before (rest ++ after)] else lowerChar c)
        ++ lowerWithin (c :: before) rest after

theorem lowerAfter_append (before part after : List Char) :
    lowerAfter before (part ++ after) =
      lowerWithin before part after ++ lowerAfter (part.reverse ++ before) after := by
  induction part generalizing before with
  | nil => rfl
  | cons c rest ih =>
      rw [List.cons_append, lowerAfter, ih, lowerWithin, List.append_assoc,
        List.reverse_cons, List.append_assoc, List.singleton_append]

theorem lowerAfter_eq_lowerWithin (before cs : List Char) :
    lowerAfter before cs = lowerWithin before cs [] := by
  have hwhole := lowerAfter_append before cs []
  rwa [List.append_nil, lowerAfter, List.append_nil] at hwhole

/-- A text with a sigma in it: the sigma takes its form between the parts around it. -/
theorem lowerAfter_append_sigma (before part rest : List Char) :
    lowerAfter before (part ++ 'Σ' :: rest) =
      lowerWithin before part ('Σ' :: rest) ++
        lowerSigma (part.reverse ++ before) rest ::
          lowerAfter ('Σ' :: (part.reverse ++ before)) rest := by
  rw [lowerAfter_append, lowerAfter, if_pos rfl, List.singleton_append]

theorem lowerWithin_of_not_mem {part : List Char} (hnone : 'Σ' ∉ part)
    (before after : List Char) : lowerWithin before part after = part.flatMap lowerChar := by
  induction part generalizing before with
  | nil => rfl
  | cons c rest ih =>
      have hother : 'Σ' ≠ c := List.ne_of_not_mem_cons hnone
      have hnone : 'Σ' ∉ rest := List.not_mem_of_not_mem_cons hnone
      rw [lowerWithin, if_neg (Ne.symm hother), ih hnone, List.flatMap_cons]

theorem lowerWithin_farther {before : List Char} (hbroken : isUnbroken before = false)
    (farther part after : List Char) :
    lowerWithin (before ++ farther) part after = lowerWithin before part after := by
  induction part generalizing before with
  | nil => rfl
  | cons c rest ih =>
      have hbroken' : isUnbroken (c :: before) = false := isUnbroken_append_of_right hbroken [c]
      rw [lowerWithin, lowerWithin, lowerSigma_farther hbroken, ← List.cons_append, ih hbroken']

theorem lowerWithin_beyond {after : List Char} (hbroken : isUnbroken after = false)
    (before part beyond : List Char) :
    lowerWithin before part (after ++ beyond) = lowerWithin before part after := by
  induction part generalizing before with
  | nil => rfl
  | cons c rest ih =>
      have hbroken' : isUnbroken (rest ++ after) = false :=
        isUnbroken_append_of_right hbroken rest
      rw [lowerWithin, lowerWithin, ← List.append_assoc, lowerSigma_beyond hbroken', ih]

/-! ## Settled texts -/

/-- Whether a capital sigma has one small form, whatever stands beyond `before` and `after`:
a letter follows; or it is known what comes before it, and either that is no letter or it is
known what follows. -/
def isSettledSigma (before after : List Char) : Bool :=
  meetsLetter after || (!isUnbroken before && (!isUnbroken after || !meetsLetter before))

/-- Whether all capital sigmas of a text are settled that follows `before`, whose characters
are listed nearest first. -/
def isSettledAfter (before : List Char) : List Char → Bool
  | [] => true
  | c :: rest => (c != 'Σ' || isSettledSigma before rest) && isSettledAfter (c :: before) rest

/-- Whether a text is lowered alike wherever it stands. -/
def isSettled (cs : List Char) : Bool :=
  isSettledAfter [] cs

theorem lowerSigma_of_settled {before after : List Char}
    (hsettled : isSettledSigma before after = true) (farther beyond : List Char) :
    lowerSigma (before ++ farther) (after ++ beyond) = lowerSigma before after := by
  rw [isSettledSigma, Bool.or_eq_true, Bool.and_eq_true, Bool.not_eq_true', Bool.or_eq_true,
    Bool.not_eq_true', Bool.not_eq_true'] at hsettled
  rcases hsettled with hletter | ⟨hbroken, hbroken' | hnoLetter⟩
  · -- A letter follows, and it follows in either text.
    have hbroken : isUnbroken after = false := by
      by_contra hunbroken
      rw [Bool.not_eq_false] at hunbroken
      rw [meetsLetter_of_isUnbroken hunbroken] at hletter
      cases hletter
    rw [lowerSigma_beyond hbroken, lowerSigma, lowerSigma, hletter, Bool.not_true,
      Bool.and_false, Bool.and_false]
  · -- Both neighbours stand in the text itself.
    rw [lowerSigma_farther hbroken, lowerSigma_beyond hbroken']
  · -- No letter comes before, so it does not matter what follows.
    rw [lowerSigma_farther hbroken, lowerSigma, lowerSigma, hnoLetter, Bool.false_and,
      Bool.false_and]

theorem lowerWithin_of_settled {before part : List Char}
    (hsettled : isSettledAfter before part = true) (farther after : List Char) :
    lowerWithin (before ++ farther) part after = lowerAfter before part := by
  induction part generalizing before with
  | nil => rfl
  | cons c rest ih =>
      rw [isSettledAfter, Bool.and_eq_true, Bool.or_eq_true, bne_iff_ne] at hsettled
      obtain ⟨hhere, hthere⟩ := hsettled
      rw [lowerWithin, lowerAfter, ← List.cons_append, ih hthere]
      by_cases hsigma : c = 'Σ'
      · have hhere := hhere.resolve_left (not_not_intro hsigma)
        rw [if_pos hsigma, if_pos hsigma, lowerSigma_of_settled hhere]
      · rw [if_neg hsigma, if_neg hsigma]

theorem isSettledAfter_of_not_mem {part : List Char} (hnone : 'Σ' ∉ part)
    (before : List Char) : isSettledAfter before part = true := by
  induction part generalizing before with
  | nil => rfl
  | cons c rest ih =>
      have hhere : (c != 'Σ') = true := bne_iff_ne.mpr (Ne.symm (List.ne_of_not_mem_cons hnone))
      have hnone : 'Σ' ∉ rest := List.not_mem_of_not_mem_cons hnone
      rw [isSettledAfter, hhere, Bool.true_or, ih hnone, Bool.and_true]

theorem exists_of_isSettledAfter_false {before part : List Char}
    (hunsettled : isSettledAfter before part = false) :
    ∃ u v, part = u ++ 'Σ' :: v ∧ isSettledSigma (u.reverse ++ before) v = false := by
  induction part generalizing before with
  | nil => cases hunsettled
  | cons c rest ih =>
      rw [isSettledAfter, Bool.and_eq_false_iff, Bool.or_eq_false_iff, bne_eq_false_iff_eq]
        at hunsettled
      rcases hunsettled with ⟨rfl, hhere⟩ | hthere
      · exact ⟨[], rest, rfl, hhere⟩
      · obtain ⟨u, v, rfl, hfound⟩ := ih hthere
        refine ⟨c :: u, v, rfl, ?_⟩
        rwa [List.reverse_cons, List.append_assoc, List.singleton_append]

/-! ## Containment in lower case -/

theorem lower_infix_of_settled {part whole : List Char} (hsettled : isSettled part = true)
    (hcontained : part <:+: whole) : lower part <:+: lower whole := by
  obtain ⟨before, after, rfl⟩ := hcontained
  have hinPlace : lowerWithin before.reverse part after = lower part :=
    lowerWithin_of_settled hsettled before.reverse after
  have hparts : lower (before ++ part ++ after) =
      lowerWithin [] before (part ++ after) ++ lower part ++
        lowerAfter (part.reverse ++ before.reverse) after := by
    rw [List.append_assoc, lower, lowerAfter_append, List.append_nil, lowerAfter_append,
      hinPlace, List.append_assoc]
  rw [hparts]
  exact List.infix_append _ _ _

theorem lowerChar_alpha : lowerChar 'Α' = ['α'] := by decide +kernel

theorem meetsLetter_alpha : meetsLetter ['Α'] = true := by decide +kernel

/-- One character of a text is exchanged, and what else is changed does not have it. The text
as it was is then nowhere in what comes of it, because it has the character once more. -/
theorem not_infix_of_count {whole before after : List Char} {c other : Char}
    (hsame : whole.count c = (before ++ other :: after).count c) (hdiffers : other ≠ c) :
    ¬ before ++ c :: after <:+: whole := by
  intro hcontained
  have hmost := hcontained.sublist.count_le c
  rw [hsame, List.count_append, List.count_append, List.count_cons_self,
    List.count_cons_of_ne hdiffers] at hmost
  omega

/-- A sigma with nothing but unbroken text before it: a letter in front gives it the form for
the end of a word. -/
theorem not_infix_of_open_front {u v : List Char} (hunbroken : isUnbroken u.reverse = true)
    (hnoLetter : meetsLetter v = false) :
    ¬ lower (u ++ 'Σ' :: v) <:+: lower ('Α' :: (u ++ 'Σ' :: v)) := by
  have hnone : 'Σ' ∉ u := fun hmem => not_mem_of_isUnbroken hunbroken (List.mem_reverse.mpr hmem)
  have hrest : lowerAfter ('Σ' :: (u.reverse ++ ['Α'])) v = lowerAfter ('Σ' :: u.reverse) v := by
    rw [lowerAfter_eq_lowerWithin, lowerAfter_eq_lowerWithin, ← List.cons_append,
      lowerWithin_farther (isUnbroken_sigma _)]
  have halone : lowerSigma u.reverse v = 'σ' := by
    rw [lowerSigma, meetsLetter_of_isUnbroken hunbroken]
    rfl
  have hending : lowerSigma (u.reverse ++ ['Α']) v = 'ς' := by
    rw [lowerSigma, meetsLetter_append, if_pos hunbroken, meetsLetter_alpha, hnoLetter]
    rfl
  have hpart : lower (u ++ 'Σ' :: v) =
      u.flatMap lowerChar ++ 'σ' :: lowerAfter ('Σ' :: u.reverse) v := by
    rw [lower, lowerAfter_append_sigma, List.append_nil, lowerWithin_of_not_mem hnone, halone]
  have hwhole : lower ('Α' :: (u ++ 'Σ' :: v)) =
      ['α'] ++ (u.flatMap lowerChar ++ 'ς' :: lowerAfter ('Σ' :: u.reverse) v) := by
    rw [lower, lowerAfter, if_neg (by decide), lowerChar_alpha, lowerAfter_append_sigma,
      lowerWithin_of_not_mem hnone, hending, hrest]
  rw [hpart, hwhole]
  refine not_infix_of_count ?_ (by decide : 'ς' ≠ 'σ')
  rw [List.count_append, show ['α'].count 'σ' = 0 from by decide, Nat.zero_add]

/-- A sigma at the end of a word with nothing but unbroken text after it: a letter behind it
takes it from the end of the word. -/
theorem not_infix_of_open_back {u v : List Char} (hunbroken : isUnbroken v = true)
    (hletter : meetsLetter u.reverse = true) :
    ¬ lower (u ++ 'Σ' :: v) <:+: lower (u ++ 'Σ' :: v ++ ['Α']) := by
  have hnone : 'Σ' ∉ v := not_mem_of_isUnbroken hunbroken
  have hending : lowerSigma u.reverse v = 'ς' := by
    rw [lowerSigma, hletter, meetsLetter_of_isUnbroken hunbroken]
    rfl
  have hwithin : lowerSigma u.reverse (v ++ ['Α']) = 'σ' := by
    rw [lowerSigma, meetsLetter_append, if_pos hunbroken, meetsLetter_alpha, Bool.not_true,
      Bool.and_false]
    rfl
  have hlast : ∀ before, lowerAfter before ['Α'] = ['α'] := by
    intro before
    rw [lowerAfter, if_neg (by decide), lowerChar_alpha]
    rfl
  have hpart : lower (u ++ 'Σ' :: v) =
      lowerWithin [] u ('Σ' :: v) ++ 'ς' :: v.flatMap lowerChar := by
    rw [lower, lowerAfter_append_sigma, List.append_nil, hending, lowerAfter_eq_lowerWithin,
      lowerWithin_of_not_mem hnone]
  have hwhole : lower (u ++ 'Σ' :: v ++ ['Α']) =
      (lowerWithin [] u ('Σ' :: v) ++ 'σ' :: v.flatMap lowerChar) ++ ['α'] := by
    rw [List.append_assoc, List.cons_append, lower, lowerAfter_append_sigma, List.append_nil,
      hwithin, ← List.cons_append, lowerWithin_beyond (isUnbroken_sigma v), lowerAfter_append,
      lowerWithin_of_not_mem hnone, hlast, List.append_assoc, List.cons_append]
  rw [hpart, hwhole]
  refine not_infix_of_count ?_ (by decide : 'σ' ≠ 'ς')
  rw [List.count_append, show ['α'].count 'ς' = 0 from by decide, Nat.add_zero]

/-- A text is contained in lower case in all texts that contain it exactly if its capital
sigmas are settled. -/
theorem isSettled_iff {part : List Char} :
    isSettled part = true ↔ ∀ whole, part <:+: whole → lower part <:+: lower whole := by
  constructor
  · intro hsettled whole hcontained
    exact lower_infix_of_settled hsettled hcontained
  · intro halways
    by_contra hunsettled
    rw [Bool.not_eq_true] at hunsettled
    obtain ⟨u, v, rfl, hsigma⟩ := exists_of_isSettledAfter_false hunsettled
    rw [List.append_nil, isSettledSigma, Bool.or_eq_false_iff, Bool.and_eq_false_iff,
      Bool.not_eq_false', Bool.or_eq_false_iff, Bool.not_eq_false', Bool.not_eq_false'] at hsigma
    obtain ⟨hnoLetter, hfront | ⟨hback, hletter⟩⟩ := hsigma
    · exact not_infix_of_open_front hfront hnoLetter (halways _ (List.suffix_cons _ _).isInfix)
    · exact not_infix_of_open_back hback hletter (halways _ (List.prefix_append _ _).isInfix)

end TabNavigator.Text
