import TabNavigator.Proofs.Curve
import TabNavigator.Proofs.Step
import TabNavigator.Proofs.Strip

/-!
# The strip is where the visibility says

The visibility, the fade and the clock are fields of their own, and each is written
somewhere else: a wish for a visibility that is there already leaves the fade alone, a
tick moves the clock and nothing besides, and a change without animation throws away
the fade that is under way. What holds them together is `Fade.Serves`: the fade heads
for the visibility, it has the time that it divides by, and it did not begin after the
latest moment. Mounting gives that and every step keeps it, whatever the numbers are
(`Reachable.fade_serves`).

The rest is about the exact numbers of `Proofs/Curve.lean`, in which a fade ends when
its time is over and not before. A navigator that does not animate rests at its target
then, and shows its strip or leaves it out as the visibility says. With single
precision the last step of a fade can be rounded, and this can only be said of the
target.
-/

namespace TabNavigator

namespace Fade

variable {α : Type} [Scalar α]

/-- A fade that suits a visibility at a moment. -/
structure Serves (fade : Fade α) (v : Visibility) (now : Moment) : Prop where
  heads : fade.target = restingOpacity v
  timed : ∀ start, fade.started = some start → fade.duration ≠ 0
  begun : ∀ start, fade.started = some start → start ≤ now

theorem settled_serves (v : Visibility) (now : Moment) :
    (settled v : Fade α).Serves v now where
  heads := rfl
  timed := fun _ hnone => by cases hnone
  begun := fun _ hnone => by cases hnone

/-- Heading for a visibility serves it, from whichever fade it is done. -/
theorem start_serves (fade : Fade α) (v : Visibility) (duration : Duration)
    (animated : Bool) (now : Moment) :
    (fade.start v duration animated now).Serves v now := by
  rw [start]
  split
  · exact settled_serves v now
  · next hmoves =>
      have htimed : duration ≠ 0 := by
        intro hnone
        apply hmoves
        rw [hnone, beq_self_eq_true, Bool.or_true]
      refine ⟨rfl, fun _ _ => htimed, ?_⟩
      intro start hstarted
      cases hstarted
      exact Int.le_refl now

theorem Serves.later {fade : Fade α} {v : Visibility} {now after : Moment}
    (h : fade.Serves v now) (hle : now ≤ after) : fade.Serves v after where
  heads := h.heads
  timed := h.timed
  begun := fun start hstarted => Int.le_trans (h.begun start hstarted) hle

theorem restingOpacity_rat (v : Visibility) :
    (restingOpacity v : Rat) = if v.isVisible then 1 else 0 := by
  cases v <;> rfl

end Fade

namespace Navigator

variable {α μ κ : Type}

section AnyNumbers

variable [Scalar α]

/-! ## Every step keeps the fade in the service of the visibility -/

theorem Step.clock_le {n : Navigator α μ κ} {event : Event} {o : Outcome α μ κ}
    (h : Step n event o) : n.clock ≤ o.after.clock := by
  cases h with
  | visibilityChanged | ticked => exact le_max_left _ _
  | _ => exact Int.le_refl n.clock

theorem clock_le_run (n : Navigator α μ κ) (events : List Event) :
    n.clock ≤ (n.run events).clock := by
  have hkeeps : ∀ (m : Navigator α μ κ) event,
      n.clock ≤ m.clock → n.clock ≤ (m.reduce event).after.clock := by
    intro m event hle
    have hstep : m.clock ≤ (m.act event).after.clock := (m.act_step event).clock_le
    exact Int.le_trans hle hstep
  exact run_of_step hkeeps (Int.le_refl n.clock) events

theorem Step.fade_serves {n : Navigator α μ κ} {event : Event} {o : Outcome α μ κ}
    (h : Step n event o) (hserves : n.fade.Serves n.visibility n.clock) :
    o.after.fade.Serves o.after.visibility o.after.clock := by
  cases h with
  | visibilityChanged => exact Fade.start_serves _ _ _ _ _
  | ticked => exact hserves.later (le_max_left _ _)
  | _ => exact hserves

/-- What is attached or exchanged does not touch the fade, and what is mounted has a fade
at rest. -/
theorem Reachable.fade_serves {n : Navigator α μ κ} (h : Reachable n) :
    n.fade.Serves n.visibility n.clock := by
  induction h with
  | mounted h =>
      obtain ⟨c, now, rfl⟩ := h.exists_configuration
      exact Fade.settled_serves c.visibility now
  -- The calls that reducing adds are not part of what the fade serves.
  | @reduce n event _ ih => exact (n.act_step event).fade_serves ih
  | style _ _ ih | palette _ _ ih | delegate _ _ ih | source _ _ ih | subscribe _ ih
  | calls _ _ ih => exact ih

/-! ## What is drawn -/

theorem view_eq (n : Navigator α μ κ) (lift : Event → μ)
    (mount : Controller κ → Element α μ) :
    (n.view lift mount).1 = .column (n.searchView lift ++
      [View.page n.palette (n.contentView mount n.activeContent), n.stripView lift]) :=
  rfl

/-- A hidden navigator has no strip that can be pressed, also while it still draws one. -/
theorem buttonMessages_stripView_of_hidden {n : Navigator α μ κ}
    (hhidden : n.visibility = .hidden) (lift : Event → μ) :
    (n.stripView lift).buttonMessages = [] := by
  rw [stripView]
  split
  · rfl
  · rw [View.buttonMessages_strip]
    show (if n.visibility.isVisible then _ else []) = []
    rw [hhidden]
    rfl

theorem stripIsGone_of_hidden {n : Navigator α μ κ} (hrest : n.isAnimating = false)
    (hhidden : n.visibility = .hidden) : n.stripIsGone = true := by
  rw [stripIsGone, hrest, hhidden]
  exact Bool.or_true _

theorem stripView_of_hidden {n : Navigator α μ κ} (hrest : n.isAnimating = false)
    (hhidden : n.visibility = .hidden) (lift : Event → μ) :
    n.stripView lift = .space := by
  rw [stripView, if_pos (stripIsGone_of_hidden hrest hhidden)]

theorem buttonMessages_strip_of_visible {n : Navigator α μ κ}
    (hvisible : n.visibility = .visible) (lift : Event → μ) (palette : Palette α)
    (opacity : α) :
    (View.strip lift n.stripLayout palette opacity).buttonMessages =
      n.items.map fun item => lift (.select item.id) := by
  rw [View.buttonMessages_strip]
  show (if n.visibility.isVisible then _ else []) = _
  rw [hvisible]
  show ((n.items.map fun item => StripEntry.mk item (Style.isSelected n.selected item)).map
    fun entry => lift (.select entry.item.id)) = _
  rw [List.map_map]
  rfl

end AnyNumbers

/-! ## At rest, in exact numbers -/

theorem isAnimating_eq_false_iff {n : Navigator Rat μ κ}
    (hserves : n.fade.Serves n.visibility n.clock) :
    n.isAnimating = false ↔
      ∀ start, n.fade.started = some start → start + n.fade.duration ≤ n.clock :=
  Fade.isAnimating_eq_false_iff_over hserves.timed

theorem opacity_at_rest {n : Navigator Rat μ κ} (hrest : n.isAnimating = false) :
    n.opacity = n.fade.target :=
  Fade.opacity_of_complete ((Fade.isAnimating_eq_false_iff _ _).mp hrest)

theorem stripView_of_visible {n : Navigator Rat μ κ}
    (hserves : n.fade.Serves n.visibility n.clock) (hrest : n.isAnimating = false)
    (hvisible : n.visibility = .visible) (lift : Event → μ) :
    n.stripView lift = View.strip lift n.stripLayout (n.palette.faded 1) 1 := by
  have hopacity : n.opacity = 1 := by
    rw [opacity_at_rest hrest, hserves.heads, hvisible]
    rfl
  have hshown : n.stripIsGone = false := by
    rw [stripIsGone, hopacity, hvisible]
    rfl
  rw [stripView, hshown, hopacity]
  rfl

/-- The clock only moves forward. The fade heads for the visibility, has the time that it
divides by, and began no later than now; it is over once its time is, or if there is none
under way. A navigator whose fade is over is at the opacity that the fade heads for: if it
is visible it shows its strip, with one button for each item, and if it is hidden there is
no strip. None of the buttons of a hidden strip can be pressed before that either. -/
theorem strip_of_reachable {n : Navigator Rat μ κ} (h : Reachable n) :
    (∀ earlier later, (n.run earlier).clock ≤ (n.run (earlier ++ later)).clock) ∧
    n.fade.target = (if n.visibility.isVisible then 1 else 0) ∧
    (∀ start, n.fade.started = some start →
      n.fade.duration ≠ 0 ∧ (n.fade.duration.seconds : Rat) ≠ 0 ∧ start ≤ n.clock) ∧
    (n.isAnimating = false ↔
      ∀ start, n.fade.started = some start → start + n.fade.duration ≤ n.clock) ∧
    (n.isAnimating = false → n.opacity = n.fade.target) ∧
    ∀ (lift : Event → μ) (mount : Controller κ → Element Rat μ),
      (n.view lift mount).1 = .column (n.searchView lift ++
        [View.page n.palette (n.contentView mount n.activeContent), n.stripView lift]) ∧
      (n.isAnimating = false → n.visibility = .visible →
        n.stripView lift = View.strip lift n.stripLayout (n.palette.faded 1) 1 ∧
        (n.stripView lift).buttonMessages = n.items.map fun item => lift (.select item.id)) ∧
      (n.isAnimating = false → n.visibility = .hidden → n.stripView lift = .space) ∧
      (n.visibility = .hidden → (n.stripView lift).buttonMessages = []) := by
  have hserves := h.fade_serves
  refine ⟨?clock, ?target, ?timed, isAnimating_eq_false_iff hserves, opacity_at_rest,
    fun lift mount => ⟨n.view_eq lift mount, ?visible, ?hidden, ?dead⟩⟩
  case clock =>
    -- A longer run goes on from where the shorter one ends.
    intro earlier later
    rw [run_append]
    exact clock_le_run _ later
  case target => rw [hserves.heads, Fade.restingOpacity_rat]
  case timed =>
    intro start hstarted
    have htimed := hserves.timed start hstarted
    exact ⟨htimed, Duration.seconds_ne_zero htimed, hserves.begun start hstarted⟩
  case visible =>
    intro hrest hvisible
    have hstrip := stripView_of_visible hserves hrest hvisible lift
    refine ⟨hstrip, ?_⟩
    rw [hstrip, buttonMessages_strip_of_visible hvisible]
  case hidden => exact fun hrest hhidden => stripView_of_hidden hrest hhidden lift
  case dead => exact fun hhidden => buttonMessages_stripView_of_hidden hhidden lift

/-- Shown again half-way through hiding, the strip is whole again when the second fade has
had its time. -/
theorem strip_of_turned_fade :
    let n : Navigator Rat Event Unit := (standard 0).run
      [.setVisibility .hidden 0, .tick 150000000, .toggleVisibility 150000000,
        .tick 450000000]
    n.fade.started = some 150000000 ∧ n.isAnimating = false ∧ n.opacity = 1 ∧
    (n.stripView id).buttonMessages =
      [.select "home", .select "search", .select "favorites", .select "profile"] := by
  intro n
  have hreach : Reachable n :=
    ((((Reachable.mounted (.standard 0)).reduce _).reduce _).reduce _).reduce _
  obtain ⟨-, htarget, -, hrest, hopacity, hdrawn⟩ := strip_of_reachable hreach
  have hstarted : n.fade.started = some 150000000 := rfl
  have hstill : n.isAnimating = false := by
    rw [hrest]
    intro start hs
    rw [hstarted] at hs
    cases hs
    decide
  have hvisible : n.visibility = .visible := rfl
  refine ⟨hstarted, hstill, ?_, ?_⟩
  · rw [hopacity hstill, htarget, hvisible]
    rfl
  · rw [((hdrawn id fun _ => .space).2.1 hstill hvisible).2]
    rfl

end Navigator

end TabNavigator
