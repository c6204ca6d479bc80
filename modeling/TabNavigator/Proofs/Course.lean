import TabNavigator.Proofs.Curve

/-!
# The course of fades that interrupt each other

A fade can be started at any time, also while another is under way and also at a time before
that one began, and it begins where the other is by then. So where a fade begins can only be
said of the whole line of fades before it. What carries over from one to the next is that
both ends lie between zero and one (`InUnit`): in between, the opacity never leaves its
ends.

Everything else is about one fade. The part of the way that is done (`share`) grows with
time from zero, which it is until the fade begins, to one, which it is when the fade is
complete. It is a cubic of the progress, level at both ends and rising between them
(`ease_mono`), and the opacity follows it up or down. Everything is exact here, as in
`Proofs/Curve.lean`.
-/

namespace TabNavigator

theorem Duration.between_mono {start earlier later : Moment} (hle : earlier ≤ later) :
    between start earlier ≤ between start later :=
  Int.toNat_le_toNat (Int.sub_le_sub_right hle start)

theorem Duration.between_of_le {start now : Moment} (hle : now ≤ start) :
    between start now = 0 :=
  Int.toNat_of_nonpos (Int.sub_nonpos_of_le hle)

namespace Fade

/-! ## The part of the way that is done -/

theorem ease_eq (t : Rat) : ease t = t * t * (3 - 2 * t) := rfl

theorem ease_zero : ease (0 : Rat) = 0 := by
  rw [ease_eq]
  norm_num

/-- Between zero and one the curve rises: what it gains is what the progress gains, times
something that is positive there. -/
theorem ease_mono {a b : Rat} (hnonneg : 0 ≤ a) (hle : a ≤ b) (hone : b ≤ 1) :
    ease a ≤ ease b := by
  have hgain : ease b - ease a =
      (b - a) * (2 * (a * (1 - a)) + 2 * (b * (1 - b)) + a * (1 - b) + b * (1 - a)) := by
    rw [ease_eq, ease_eq]
    ring
  have ha : 0 ≤ 1 - a := sub_nonneg.mpr (hle.trans hone)
  have hb : 0 ≤ 1 - b := sub_nonneg.mpr hone
  have hdiff : 0 ≤ b - a := sub_nonneg.mpr hle
  have hnonneg' : 0 ≤ b := hnonneg.trans hle
  rw [← sub_nonneg, hgain]
  positivity

theorem progress_nonneg (fade : Fade Rat) (now : Moment) : 0 ≤ fade.progress now := by
  cases hstarted : fade.started with
  | none =>
      rw [progress_of_settled hstarted]
      norm_num
  | some start =>
      rw [progress_eq_min hstarted]
      positivity

theorem progress_mono (fade : Fade Rat) {earlier later : Moment} (hle : earlier ≤ later) :
    fade.progress earlier ≤ fade.progress later := by
  cases hstarted : fade.started with
  | none => rw [progress_of_settled hstarted, progress_of_settled hstarted]
  | some start =>
      have helapsed : (Duration.between start earlier : Rat) ≤ Duration.between start later := by
        exact_mod_cast Duration.between_mono hle
      rw [progress_eq_min hstarted, progress_eq_min hstarted]
      gcongr

/-- Before a fade begins, nothing of it has passed. -/
theorem progress_of_not_begun {fade : Fade Rat} {start now : Moment}
    (hstarted : fade.started = some start) (hle : now ≤ start) : fade.progress now = 0 := by
  rw [progress_eq_min hstarted, Duration.between_of_le hle, Nat.cast_zero, zero_div]
  norm_num

/-- The part of its way that a fade has done at a moment. -/
def share (fade : Fade Rat) (now : Moment) : Rat :=
  ease (fade.progress now)

theorem share_mono (fade : Fade Rat) {earlier later : Moment} (hle : earlier ≤ later) :
    fade.share earlier ≤ fade.share later :=
  ease_mono (fade.progress_nonneg _) (fade.progress_mono hle) (fade.progress_le_one _)

theorem share_nonneg (fade : Fade Rat) (now : Moment) : 0 ≤ fade.share now := by
  rw [← ease_zero]
  exact ease_mono le_rfl (fade.progress_nonneg now) (fade.progress_le_one now)

theorem share_le_one (fade : Fade Rat) (now : Moment) : fade.share now ≤ 1 := by
  rw [← ease_one]
  exact ease_mono (fade.progress_nonneg now) (fade.progress_le_one now) le_rfl

theorem opacity_eq (fade : Fade Rat) (now : Moment) :
    fade.opacity now = fade.origin + (fade.target - fade.origin) * fade.share now := rfl

theorem opacity_of_not_begun {fade : Fade Rat} {start now : Moment}
    (hstarted : fade.started = some start) (hle : now ≤ start) :
    fade.opacity now = fade.origin := by
  rw [opacity_eq, share, progress_of_not_begun hstarted hle, ease_zero, mul_zero, add_zero]

/-! ## Up and down -/

/-- A fade with the higher end before it rises, from its origin up to its target. -/
theorem rises {fade : Fade Rat} (hup : fade.origin ≤ fade.target) {earlier later : Moment}
    (hle : earlier ≤ later) :
    fade.origin ≤ fade.opacity earlier ∧ fade.opacity earlier ≤ fade.opacity later ∧
      fade.opacity later ≤ fade.target := by
  have hway : 0 ≤ fade.target - fade.origin := sub_nonneg.mpr hup
  have hbegun := mul_nonneg hway (fade.share_nonneg earlier)
  have hfurther := mul_le_mul_of_nonneg_left (fade.share_mono hle) hway
  have hwhole := mul_le_mul_of_nonneg_left (fade.share_le_one later) hway
  rw [opacity_eq, opacity_eq]
  refine ⟨?_, ?_, ?_⟩ <;> linarith

/-- And one with the lower end before it falls. -/
theorem falls {fade : Fade Rat} (hdown : fade.target ≤ fade.origin) {earlier later : Moment}
    (hle : earlier ≤ later) :
    fade.target ≤ fade.opacity later ∧ fade.opacity later ≤ fade.opacity earlier ∧
      fade.opacity earlier ≤ fade.origin := by
  have hway : 0 ≤ fade.origin - fade.target := sub_nonneg.mpr hdown
  have hbegun := mul_nonneg hway (fade.share_nonneg earlier)
  have hfurther := mul_le_mul_of_nonneg_left (fade.share_mono hle) hway
  have hwhole := mul_le_mul_of_nonneg_left (fade.share_le_one later) hway
  rw [opacity_eq, opacity_eq]
  refine ⟨?_, ?_, ?_⟩ <;> linarith

/-! ## One fade after the other -/

/-- What a fade is started with. -/
structure Start where
  visibility : Visibility
  duration : Duration
  animated : Bool
  now : Moment

/-- Whether a start is still under way at a moment: it is animated, has time, and has not had
all of it. -/
def Start.LastsAt (s : Start) (now : Moment) : Prop :=
  s.animated = true ∧ s.duration ≠ 0 ∧ now < s.now + s.duration

/-- A fade after one more start. -/
def after {α : Type} [Scalar α] (fade : Fade α) (s : Start) : Fade α :=
  fade.start s.visibility s.duration s.animated s.now

/-- A fade after any number of starts, one after the other. -/
def afterAll {α : Type} [Scalar α] (fade : Fade α) (starts : List Start) : Fade α :=
  starts.foldl after fade

/-- Fades between the two opacities at which a strip can rest. -/
structure InUnit (fade : Fade Rat) : Prop where
  origin : 0 ≤ fade.origin ∧ fade.origin ≤ 1
  target : 0 ≤ fade.target ∧ fade.target ≤ 1

theorem InUnit.opacity {fade : Fade Rat} (h : fade.InUnit) (now : Moment) :
    0 ≤ fade.opacity now ∧ fade.opacity now ≤ 1 := by
  rcases le_total fade.origin fade.target with hup | hdown
  · obtain ⟨habove, -, hbelow⟩ := rises hup (le_refl now)
    exact ⟨h.origin.1.trans habove, hbelow.trans h.target.2⟩
  · obtain ⟨habove, -, hbelow⟩ := falls hdown (le_refl now)
    exact ⟨h.target.1.trans habove, hbelow.trans h.origin.2⟩

theorem restingOpacity_mem_unit (v : Visibility) :
    0 ≤ (restingOpacity v : Rat) ∧ (restingOpacity v : Rat) ≤ 1 := by
  cases v with
  | visible => exact ⟨zero_le_one, le_rfl⟩
  | hidden => exact ⟨le_rfl, zero_le_one⟩

theorem settled_inUnit (v : Visibility) : (settled v : Fade Rat).InUnit :=
  ⟨restingOpacity_mem_unit v, restingOpacity_mem_unit v⟩

/-- A start without animation, or without time for it, leaves a fade at rest. -/
theorem after_of_still {fade : Fade Rat} {s : Start}
    (hstill : ¬ (s.animated = true ∧ s.duration ≠ 0)) : fade.after s = settled s.visibility := by
  rw [after, start, if_pos]
  rw [Bool.or_eq_true, Bool.not_eq_true', beq_iff_eq]
  by_cases hanimated : s.animated = true
  · exact .inr (not_not.mp fun htimed => hstill ⟨hanimated, htimed⟩)
  · exact .inl (Bool.eq_false_iff.mpr hanimated)

/-- Any other start leaves a fade that begins where the fade before it is. -/
theorem after_of_moving {fade : Fade Rat} {s : Start} (hanimated : s.animated = true)
    (htimed : s.duration ≠ 0) :
    fade.after s =
      { origin := fade.opacity s.now, target := restingOpacity s.visibility
        started := some s.now, duration := s.duration } := by
  have hmoving : ¬ (!s.animated || s.duration == 0) = true := by
    rw [hanimated, beq_eq_false_iff_ne.mpr htimed]
    exact Bool.false_ne_true
  rw [after, start, if_neg hmoving]

theorem InUnit.after {fade : Fade Rat} (h : fade.InUnit) (s : Start) :
    (fade.after s).InUnit := by
  by_cases hmoving : s.animated = true ∧ s.duration ≠ 0
  · rw [after_of_moving hmoving.1 hmoving.2]
    exact ⟨h.opacity s.now, restingOpacity_mem_unit s.visibility⟩
  · rw [after_of_still hmoving]
    exact settled_inUnit s.visibility

theorem InUnit.afterAll {fade : Fade Rat} (h : fade.InUnit) (starts : List Start) :
    (fade.afterAll starts).InUnit := by
  induction starts generalizing fade with
  | nil => exact h
  | cons s rest ih => exact ih (h.after s)

theorem target_after (fade : Fade Rat) (s : Start) :
    (fade.after s).target = restingOpacity s.visibility := by
  by_cases hmoving : s.animated = true ∧ s.duration ≠ 0
  · rw [after_of_moving hmoving.1 hmoving.2]
  · rw [after_of_still hmoving, settled]

theorem isAnimating_after_iff (fade : Fade Rat) (s : Start) (now : Moment) :
    (fade.after s).isAnimating now = true ↔ s.LastsAt now := by
  by_cases hmoving : s.animated = true ∧ s.duration ≠ 0
  · obtain ⟨hanimated, htimed⟩ := hmoving
    have hendsInTime : (fade.after s).isAnimating now = false ↔ _ :=
      isAnimating_eq_false_iff_over fun _ _ => by
        rw [after_of_moving hanimated htimed]
        exact htimed
    rw [after_of_moving hanimated htimed] at hendsInTime ⊢
    rw [← Bool.not_eq_false, hendsInTime, Start.LastsAt]
    constructor
    · intro hunfinished
      exact ⟨hanimated, htimed, lt_of_not_ge fun hended => hunfinished fun _ hstarted => by
        cases hstarted
        exact hended⟩
    · rintro ⟨-, -, hlasts⟩ hended
      exact absurd (hended s.now rfl) (not_le.mpr hlasts)
  · rw [after_of_still hmoving]
    constructor
    · intro hanimating; cases hanimating
    · rintro ⟨hanimated, htimed, -⟩
      exact absurd ⟨hanimated, htimed⟩ hmoving

/-- After any starts, a fade is as it was or comes of the last of them. -/
theorem afterAll_cases {α : Type} [Scalar α] (fade : Fade α) (starts : List Start) :
    (starts.getLast? = none ∧ fade.afterAll starts = fade) ∨
    ∃ (s : Start) (before : Fade α),
      starts.getLast? = some s ∧ fade.afterAll starts = before.after s := by
  rcases starts.eq_nil_or_concat' with rfl | ⟨earlier, s, rfl⟩
  · exact .inl ⟨rfl, rfl⟩
  · refine .inr ⟨s, fade.afterAll earlier, List.getLast?_concat, ?_⟩
    rw [afterAll, List.foldl_append]
    rfl

/-- A fade at rest is started any number of times, towards either visibility, with or
without animation and time, and at times in any order. Whenever it is then read, the opacity
lies between zero and one. As time goes on it moves one way, from the origin of the last fade
to its target and never past it. One more start with animation and time for it makes no jump:
until it begins, and when it begins, the opacity is that of the fade before it at that
moment. And the fade animates as long as its last start lasts; when it does not animate, it
is at its target, which is the opacity at which the visibility rests that was last asked
for. -/
theorem course_of_starts (v : Visibility) (starts : List Start) :
    let fade : Fade Rat := (settled v).afterAll starts
    (∀ now, 0 ≤ fade.opacity now ∧ fade.opacity now ≤ 1) ∧
    (∀ earlier later, earlier ≤ later →
      (fade.origin ≤ fade.target →
        fade.origin ≤ fade.opacity earlier ∧ fade.opacity earlier ≤ fade.opacity later ∧
        fade.opacity later ≤ fade.target) ∧
      (fade.target ≤ fade.origin →
        fade.target ≤ fade.opacity later ∧ fade.opacity later ≤ fade.opacity earlier ∧
        fade.opacity earlier ≤ fade.origin)) ∧
    (∀ s : Start, s.animated = true → s.duration ≠ 0 →
      (fade.after s).origin = fade.opacity s.now ∧
      ∀ now ≤ s.now, (fade.after s).opacity now = fade.opacity s.now) ∧
    (∀ now, fade.isAnimating now = true ↔ ∃ s, starts.getLast? = some s ∧ s.LastsAt now) ∧
    (∀ now, fade.isAnimating now = false → fade.opacity now = fade.target) ∧
    fade.target = restingOpacity ((starts.getLast?.map (·.visibility)).getD v) := by
  intro fade
  have hlast := (settled v : Fade Rat).afterAll_cases starts
  refine ⟨?unit, fun earlier later hle =>
      ⟨fun hup => rises hup hle, fun hdown => falls hdown hle⟩,
    ?jump, ?animates, ?rests, ?target⟩
  case unit => exact ((settled_inUnit v).afterAll starts).opacity
  case jump =>
    intro s hanimated htimed
    rw [after_of_moving hanimated htimed]
    exact ⟨rfl, fun now hle => opacity_of_not_begun rfl hle⟩
  case rests =>
    intro now hrest
    exact opacity_of_complete ((isAnimating_eq_false_iff fade now).mp hrest)
  case animates =>
    intro now
    rcases hlast with ⟨hlast, hnone⟩ | ⟨s, before, hlast, hsome⟩
    · rw [show fade = settled v from hnone, hlast]
      constructor
      · intro hanimating; cases hanimating
      · rintro ⟨s, habsent, -⟩; cases habsent
    · rw [show fade = before.after s from hsome, isAnimating_after_iff, hlast]
      simp only [Option.some.injEq, exists_eq_left']
  case target =>
    rcases hlast with ⟨hlast, hnone⟩ | ⟨s, before, hlast, hsome⟩
    · rw [show fade = settled v from hnone, hlast]
      rfl
    · rw [show fade = before.after s from hsome, target_after, hlast]
      rfl

/-- A strip is hidden, and shown again when it is half gone; then it is hidden from a moment
that lies further back. Both starts make no jump, and the last one ends in its time. -/
theorem course_of_interrupted_fade :
    let hide : Start := ⟨.hidden, 200, true, 0⟩
    let shown : Start := ⟨.visible, 400, true, 100⟩
    let back : Start := ⟨.hidden, 100, true, 50⟩
    let fade : Fade Rat := (settled .visible).afterAll [hide, shown]
    fade.origin = 1 / 2 ∧ fade.opacity 50 = 1 / 2 ∧ fade.opacity 300 = 3 / 4 ∧
    fade.opacity 300 ≤ fade.target ∧
    (fade.after back).opacity 50 = fade.opacity 50 ∧
    (fade.after back).isAnimating 149 = true ∧ (fade.after back).isAnimating 150 = false ∧
    (fade.after back).opacity 150 = 0 := by
  intro hide shown back fade
  obtain ⟨-, hway, hjump, -, -, -⟩ := course_of_starts .visible [hide, shown]
  obtain ⟨-, -, -, hanimates, hrests, htarget⟩ := course_of_starts .visible [hide, shown, back]
  have hrest : (fade.after back).isAnimating 150 = false := by
    rw [Bool.eq_false_iff]
    intro hanimating
    obtain ⟨s, hlast, hlasts⟩ := (hanimates 150).mp hanimating
    cases hlast
    exact absurd hlasts.2.2 (by decide)
  refine ⟨by decide +kernel, by decide +kernel, by decide +kernel, ?_, ?_, ?_, hrest, ?_⟩
  · exact ((hway 300 300 le_rfl).1 (by decide +kernel)).2.2
  · exact (hjump back rfl (by decide)).2 50 le_rfl
  · exact (hanimates 149).mpr ⟨back, rfl, rfl, by decide, by decide⟩
  · exact (hrests 150 hrest).trans htarget

end Fade

end TabNavigator
