import TabNavigator.Proofs.Notices

/-!
# An event without an effect leaves no trace

Events are turned away in different places: where a tab is looked up, where the source is
asked, where a query is submitted. `Ignores` lists the events that mean nothing to a
navigator, by what it knows of them before it does anything. Each of them leaves the whole
navigator as it was, and nobody but the log hears of it.

That an event has no effect says less. A query can be typed and time can pass without the
host being told, and a wish for the visibility that there is already is told to the
observers. `Quiet` lists all events without an effect (`Step.effect_eq_none_iff`). What
they have in common is that they write at most the clock and the search, so that a fade in
flight flies on as it did, and that no collaborator is called.
-/

namespace TabNavigator

namespace Navigator

variable {α μ κ : Type}

/-- The events that mean nothing to a navigator. -/
inductive Ignores (n : Navigator α μ κ) : Event → Prop where
  | unknownTab {event : Event} {id : String} (hnames : event.tab? = some id)
      (habsent : id ∉ n.items.map (·.id)) : Ignores n event
  | noSource (habsent : n.source = none) : Ignores n .reloadItems
  | nothingToSubmit (hempty : n.search.query = "") : Ignores n .searchSubmitted

/-- The events that have no effect on a navigator. -/
inductive Quiet (n : Navigator α μ κ) : Event → Prop where
  | ignored {event : Event} : n.Ignores event → Quiet n event
  | visibilityKept (now : Moment) : Quiet n (.setVisibility n.visibility now)
  | queryChanged (query : String) : Quiet n (.searchChanged query)
  | emptySuggestion : Quiet n (.suggestionSelected "")
  | ticked (now : Moment) : Quiet n (.tick now)

variable [Scalar α]

/-- What comes of an ignored event is a log entry, or nothing at all. -/
theorem Ignores.step {n : Navigator α μ κ} {event : Event} (h : n.Ignores event) :
    ∃ entries : List LogEntry, Step n event (n.ignoring (entries.map .logged)) := by
  cases h with
  | @unknownTab _ id hnames habsent =>
      exact ⟨[.unknownTab id], .unknownTab hnames (Item.find?_eq_none_iff.mpr habsent)⟩
  | noSource habsent => exact ⟨[.reloadWithoutSource], .noSource habsent⟩
  | nothingToSubmit hempty => exact ⟨[], .nothingToSubmit hempty⟩

theorem Quiet.effect {n : Navigator α μ κ} {event : Event} (h : n.Quiet event) :
    (n.act event).effect = none := by
  cases h with
  | ignored hignores =>
      obtain ⟨entries, hstep⟩ := hignores.step
      rw [hstep.eq_act]
      rfl
  | visibilityKept now =>
      have hstep : Step n (.setVisibility n.visibility now) _ := .visibilityKept
      rw [hstep.eq_act]
  | emptySuggestion =>
      have hstep : Step n (.suggestionSelected "") _ := .emptySuggestion
      rw [hstep.eq_act]
      rfl
  | queryChanged | ticked => rfl

theorem Step.effect_eq_none_iff {n : Navigator α μ κ} {event : Event} {o : Outcome α μ κ}
    (h : Step n event o) : o.effect = none ↔ n.Quiet event := by
  constructor
  · intro hquiet
    cases h with
    | unknownTab hnames habsent =>
        exact .ignored (.unknownTab hnames (Item.find?_eq_none_iff.mp habsent))
    | noSource habsent => exact .ignored (.noSource habsent)
    | nothingToSubmit hempty => exact .ignored (.nothingToSubmit hempty)
    | visibilityKept => exact .visibilityKept _
    | queryChanged => exact .queryChanged _
    | emptySuggestion => exact .emptySuggestion
    | ticked => exact .ticked _
    | selected | performed | performedDefault | visibilityChanged | itemsReplaced
    | submitted | searchCleared | suggestionSubmitted => cases hquiet
  · intro hquiet
    rw [← h.eq_act]
    exact hquiet.effect

/-- Without an effect, all that an event can write is the clock and the search. -/
theorem Step.after_of_no_effect {n : Navigator α μ κ} {event : Event} {o : Outcome α μ κ}
    (h : Step n event o) (hquiet : o.effect = none) :
    o.after = { n with clock := o.after.clock, search := o.after.search } := by
  cases h with
  | unknownTab | visibilityKept | noSource | queryChanged | nothingToSubmit
  | emptySuggestion | ticked => rfl
  | selected | performed | performedDefault | visibilityChanged | itemsReplaced
  | submitted | searchCleared | suggestionSubmitted => cases hquiet

/-- Calls are all that reducing adds to what an event does, so without calls it adds
nothing. -/
theorem reduce_of_no_calls {n : Navigator α μ κ} {event : Event}
    (hnone : (n.act event).journal.calls = []) : n.reduce event = n.act event := by
  rw [reduce, hnone, afterCalls, List.append_nil]

theorem Ignores.reduce {n : Navigator α μ κ} {event : Event} (h : n.Ignores event) :
    ∃ entries : List LogEntry, n.reduce event = n.ignoring (entries.map .logged) := by
  obtain ⟨entries, hstep⟩ := h.step
  refine ⟨entries, ?_⟩
  rw [← hstep.eq_act]
  exact reduce_of_no_calls (hstep.eq_act ▸ hstep.calls_of_no_effect rfl)

/-- An event that a navigator ignores has no effect and leaves the navigator as it was, in
every field; no collaborator is called and no observer is told. The events without an
effect are these and a few others. Each leaves everything but the clock and the search as
it was, and calls nobody. A wish for the visibility that there is already is one of them,
and it leaves even the clock alone: a fade in flight goes on as if nothing had been
wished. -/
theorem still_without_effect (n : Navigator α μ κ) (event : Event) :
    (n.Ignores event →
      (n.reduce event).effect = none ∧ (n.reduce event).after = n ∧
      (n.reduce event).journal.calls = [] ∧
      ∀ observer, (n.reduce event).journal.changesFor observer = []) ∧
    ((n.reduce event).effect = none ↔ n.Quiet event) ∧
    ((n.reduce event).effect = none →
      (n.reduce event).after =
        { n with clock := (n.reduce event).after.clock
                 search := (n.reduce event).after.search } ∧
      (n.reduce event).journal.calls = []) ∧
    ∀ now, (n.reduce (.setVisibility n.visibility now)).after = n := by
  have hstep := n.act_step event
  refine ⟨?ignored, hstep.effect_eq_none_iff, ?quiet, ?kept⟩
  case ignored =>
    intro hignores
    obtain ⟨entries, hreduced⟩ := hignores.reduce
    rw [hreduced]
    exact ⟨rfl, rfl, Journal.filterMap_map_logged (fun _ => rfl) entries,
      fun _ => Journal.filterMap_map_logged (fun _ => rfl) entries⟩
  case quiet =>
    intro hquiet
    have hcalls := hstep.calls_of_no_effect hquiet
    rw [reduce_of_no_calls hcalls]
    exact ⟨hstep.after_of_no_effect hquiet, hcalls⟩
  case kept =>
    intro now
    have hkept : Step n (.setVisibility n.visibility now) _ := .visibilityKept
    have hcalls := hkept.calls_of_no_effect rfl
    rw [← hkept.eq_act] at hcalls
    rw [reduce_of_no_calls hcalls, hkept.eq_act]

/-- Half-way through hiding and with a query typed, a tab that does not exist is asked for
by name and by its default action, and the strip is wished hidden once more. -/
theorem still_in_flight :
    let n : Navigator Rat Unit Unit :=
      (((standard 0).withDataSource (.fixed [Item.home, Item.profile])).subscribe).run
        [.searchChanged "o", .setVisibility .hidden 0, .tick 150000000]
    n.isAnimating = true ∧ n.search.query = "o" ∧
    n.Ignores (.performDefaultAction "search") ∧
    (n.reduce (.performDefaultAction "search")).after = n ∧
    (n.reduce (.performDefaultAction "search")).journal.calls = [] ∧
    (n.reduce (.setVisibility .hidden 200000000)).after = n := by
  intro n
  have hignores : n.Ignores (.performDefaultAction "search") :=
    .unknownTab rfl (by decide)
  obtain ⟨hignored, -, -, hkept⟩ := n.still_without_effect (.performDefaultAction "search")
  obtain ⟨-, hafter, hcalls, -⟩ := hignored hignores
  exact ⟨by decide +kernel, by decide, hignores, hafter, hcalls, hkept 200000000⟩

end Navigator

end TabNavigator
