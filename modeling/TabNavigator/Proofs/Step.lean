import TabNavigator.Navigator.Reachable

/-!
# What an event can do

Reducing an event is a choice between a dozen operations, and most of them choose once
more: the tab is there or it is not, the visibility is new or it is not, there is
something to submit or there is not. This file makes all of these choices, so that no
invariant has to make them again. `Step` has one constructor for each thing that can
come of an event, with what decides for it as its premises and the whole outcome
written out. `act_step` says that nothing else can come of an event, and `Step.eq_act` that
what a constructor describes is what the event does.

An invariant of the navigator is then a case analysis of a step. Most of its cases ask
for no argument at all, because a field that a case leaves alone is the old field by
definition.

What holds of a whole run is read off the moments of the run: the navigators that it
passes through, each with the event that it reduces next. The outcomes of a run are the
outcomes of its moments (`outcomes_eq_map_moments`), so a statement about a sequence of
events comes down to one about a single event, and an invariant that a step keeps holds
at every moment (`mem_moments_of_step`).
-/

namespace TabNavigator

/-- The tab that an event is about. -/
def Event.tab? : Event → Option String
  | .select id => some id
  | .performAction _ id => some id
  | .performDefaultAction id => some id
  | _ => none

theorem Search.submit_of_empty {s : Search} (hempty : s.query = "") :
    s.submit = (none, s) := by
  rw [submit, submission, hempty]
  rfl

theorem Search.submit_of_nonempty {s : Search} (hne : s.query ≠ "") :
    s.submit = (some (itemFor s.query), { s with active := true }) := by
  have h : s.query.isEmpty = false := by simpa using hne
  rw [submit, submission, h]
  rfl

namespace Navigator

variable {α μ κ : Type}

/-- The visibility that an event asks for, and the time at which it does. -/
def visibilityAsked? (n : Navigator α μ κ) : Event → Option (Visibility × Moment)
  | .setVisibility v now => some (v, now)
  | .toggleVisibility now => some (n.visibility.toggled, now)
  | _ => none

/-- The items that an event brings, and what the source is asked for them. -/
def itemsBrought? (n : Navigator α μ κ) : Event → Option (List Item × Journal)
  | .updateItems items => some (items, [])
  | .reloadItems =>
      n.source.map fun source => (source.items n.past, [.called (.askSource .items)])
  | _ => none

variable [Scalar α]

/-- All that can come of an event. -/
inductive Step (n : Navigator α μ κ) : Event → Outcome α μ κ → Prop where
  | unknownTab {event : Event} {id : String} (hnames : event.tab? = some id)
      (habsent : n.tabs.find? id = none) :
      Step n event (n.ignoring [.logged (.unknownTab id)])
  | selected {id : String} {item : Item} (hfound : n.tabs.find? id = some item) :
      Step n (.select id)
        { after := { n with tabs := { n.tabs with selected := some item } }
          effect := some (.selected id)
          journal := (n.tabs.select item n.delegate).journal }
  | performed {action : Action} {id : String} {item : Item}
      (hfound : n.tabs.find? id = some item) :
      Step n (.performAction action id)
        { after := n
          effect := some (.actionPerformed action id)
          journal := Tabs.relay action item n.delegate }
  | performedDefault {id : String} {item : Item} (hfound : n.tabs.find? id = some item) :
      Step n (.performDefaultAction id)
        { after := n
          effect := some (.actionPerformed (n.defaultAction item) id)
          journal :=
            n.askAction item ++ Tabs.relay (n.defaultAction item) item n.delegate }
  | visibilityKept {now : Moment} :
      Step n (.setVisibility n.visibility now)
        { after := n
          effect := none
          journal := (n.tabs.setVisibility n.visibility).journal }
  | visibilityChanged {event : Event} {v : Visibility} {now : Moment}
      (hasked : n.visibilityAsked? event = some (v, now)) (hchanges : n.visibility ≠ v) :
      Step n event
        { after :=
            { n with
              tabs := { n.tabs with visibility := v }
              clock := max n.clock now
              fade := n.fade.start v n.style.transition n.animated (max n.clock now) }
          effect := some (.visibilityChanged v)
          journal := (n.tabs.setVisibility v).journal }
  | itemsReplaced {event : Event} {items : List Item} {asked : Journal}
      (hbrought : n.itemsBrought? event = some (items, asked)) :
      Step n event
        { after :=
            { n with
              tabs := (n.tabs.replaceItems items).tabs
              search := refreshedSearch n.search items }
          effect := some (.itemsUpdated (n.tabs.replaceItems items).tabs.selectedId?)
          journal := asked ++ (n.tabs.replaceItems items).journal }
  | noSource (habsent : n.source = none) :
      Step n .reloadItems (n.ignoring [.logged .reloadWithoutSource])
  | queryChanged {query : String} :
      Step n (.searchChanged query)
        ({ n with search := n.search.setQuery query n.items }.ignoring [])
  | nothingToSubmit (hempty : n.search.query = "") :
      Step n .searchSubmitted (n.ignoring [])
  | submitted (hne : n.search.query ≠ "") :
      Step n .searchSubmitted
        { after := { n with search := { n.search with active := true } }
          effect := some (.searched n.search.query)
          journal := .logged (.searchSubmitted (Search.routeOf n.search.query))
            :: (Delegate.tell n.delegate (.itemSelected (Search.itemFor n.search.query))
              ++ Delegate.tell n.delegate (.searched n.search.query)) }
  | searchCleared : Step n .searchCleared n.clearSearch
  | emptySuggestion :
      Step n (.suggestionSelected "")
        ({ n with search := n.search.setQuery "" n.items }.ignoring [])
  | suggestionSubmitted {suggestion : String} (hne : suggestion ≠ "") :
      Step n (.suggestionSelected suggestion)
        { after :=
            { n with search := { n.search.setQuery suggestion n.items with active := true } }
          effect := some (.searched suggestion)
          journal := .logged (.searchSubmitted (Search.routeOf suggestion))
            :: (Delegate.tell n.delegate (.itemSelected (Search.itemFor suggestion))
              ++ Delegate.tell n.delegate (.searched suggestion)
              ++ Delegate.tell n.delegate (.suggestionSelected suggestion)) }
  | ticked {now : Moment} :
      Step n (.tick now) ({ n with clock := max n.clock now }.ignoring [])

/-! ## The operations

One lemma for each operation that chooses, over the choices that it makes. -/

omit [Scalar α] in
theorem withTab_found {n : Navigator α μ κ} {id : String} {item : Item}
    (hfound : n.tabs.find? id = some item) (act : Item → Outcome α μ κ) :
    n.withTab id act = act item := by
  rw [withTab, hfound]

omit [Scalar α] in
theorem withTab_absent {n : Navigator α μ κ} {id : String}
    (habsent : n.tabs.find? id = none) (act : Item → Outcome α μ κ) :
    n.withTab id act = n.ignoring [.logged (.unknownTab id)] := by
  rw [withTab, habsent]

theorem select_step (n : Navigator α μ κ) (id : String) :
    Step n (.select id) (n.select id) := by
  rw [select]
  cases hfound : n.tabs.find? id with
  | none => rw [withTab_absent hfound]; exact .unknownTab rfl hfound
  | some item => rw [withTab_found hfound]; exact .selected hfound

theorem performAction_step (n : Navigator α μ κ) (action : Action) (id : String) :
    Step n (.performAction action id) (n.performAction action id) := by
  rw [performAction]
  cases hfound : n.tabs.find? id with
  | none => rw [withTab_absent hfound]; exact .unknownTab rfl hfound
  | some item => rw [withTab_found hfound]; exact .performed hfound

theorem performDefaultAction_step (n : Navigator α μ κ) (id : String) :
    Step n (.performDefaultAction id) (n.performDefaultAction id) := by
  rw [performDefaultAction]
  cases hfound : n.tabs.find? id with
  | none => rw [withTab_absent hfound]; exact .unknownTab rfl hfound
  | some item =>
      rw [withTab_found hfound]
      simp only [performAction, withTab_found hfound]
      exact .performedDefault hfound

/-- Setting the visibility, from whichever event the wish for it comes. A wish for the
visibility that there is already can only come from an event that names it. -/
theorem setVisibility_step {n : Navigator α μ κ} {event : Event} {v : Visibility}
    {now : Moment} (hasked : n.visibilityAsked? event = some (v, now))
    (hnamed : n.visibility = v → event = .setVisibility v now) :
    Step n event (n.setVisibility v now) := by
  simp only [setVisibility]
  split
  · next hsame =>
      rw [hnamed hsame]
      subst hsame
      exact .visibilityKept
  · next hchanges => exact .visibilityChanged hasked hchanges

theorem reloadItems_step (n : Navigator α μ κ) : Step n .reloadItems n.reloadItems := by
  rw [reloadItems]
  split
  · next habsent => exact .noSource habsent
  · next source hattached =>
      have hbrought : n.itemsBrought? .reloadItems =
          some (source.items n.past, [.called (.askSource .items)]) := by
        rw [itemsBrought?, hattached, Option.map_some]
      exact .itemsReplaced hbrought

theorem submitSearch_step (n : Navigator α μ κ) : Step n .searchSubmitted n.submitSearch := by
  by_cases h : n.search.query = ""
  · rw [submitSearch, Search.submit_of_empty h]
    exact .nothingToSubmit h
  · rw [submitSearch, Search.submit_of_nonempty h]
    exact .submitted h

theorem selectSuggestion_step (n : Navigator α μ κ) (suggestion : String) :
    Step n (.suggestionSelected suggestion) (n.selectSuggestion suggestion) := by
  by_cases h : suggestion = ""
  · subst h
    rw [selectSuggestion, submitSearch, Search.submit_of_empty rfl]
    exact .emptySuggestion
  · rw [selectSuggestion, submitSearch, Search.submit_of_nonempty h]
    exact .suggestionSubmitted h

theorem act_step (n : Navigator α μ κ) (event : Event) : Step n event (n.act event) := by
  cases event with
  | select id => exact n.select_step id
  | performAction action id => exact n.performAction_step action id
  | performDefaultAction id => exact n.performDefaultAction_step id
  | setVisibility v now => exact setVisibility_step rfl fun _ => rfl
  | toggleVisibility now =>
      refine setVisibility_step rfl fun hsame => ?_
      cases h : n.visibility <;> rw [h] at hsame <;> cases hsame
  | updateItems items =>
      have hbrought : n.itemsBrought? (.updateItems items) = some (items, []) := rfl
      exact .itemsReplaced hbrought
  | reloadItems => exact n.reloadItems_step
  | searchChanged query => exact .queryChanged
  | searchSubmitted => exact n.submitSearch_step
  | searchCleared => exact .searchCleared
  | suggestionSelected suggestion => exact n.selectSuggestion_step suggestion
  | tick now => exact .ticked

/-- The other direction: what `Step` describes is what the event does. -/
theorem Step.eq_act {n : Navigator α μ κ} {event : Event} {o : Outcome α μ κ}
    (h : Step n event o) : n.act event = o := by
  cases h with
  | unknownTab hnames habsent =>
      cases event with
      | select id => cases hnames; exact withTab_absent habsent _
      | performAction action id => cases hnames; exact withTab_absent habsent _
      | performDefaultAction id => cases hnames; exact withTab_absent habsent _
      | _ => cases hnames
  | selected hfound => exact withTab_found hfound _
  | performed hfound => exact withTab_found hfound _
  | performedDefault hfound =>
      refine (withTab_found hfound _).trans ?_
      simp only [performAction, withTab_found hfound]
  | visibilityKept => exact if_pos rfl
  | visibilityChanged hasked hchanges =>
      cases event with
      | setVisibility | toggleVisibility => cases hasked; exact if_neg hchanges
      | _ => cases hasked
  | itemsReplaced hbrought =>
      cases event with
      | updateItems => cases hbrought; rfl
      | reloadItems =>
          rw [itemsBrought?, Option.map_eq_some_iff] at hbrought
          obtain ⟨source, hattached, h⟩ := hbrought
          cases h
          rw [act, reloadItems]
          split
          · next habsent => rw [habsent] at hattached; cases hattached
          · next other hhere => rw [hhere] at hattached; cases hattached; rfl
      | _ => cases hbrought
  | noSource habsent => rw [act, reloadItems, habsent]
  | nothingToSubmit hempty => rw [act, submitSearch, Search.submit_of_empty hempty]
  | submitted hne =>
      rw [act, submitSearch, Search.submit_of_nonempty hne]
      rfl
  | suggestionSubmitted hne =>
      rw [act, selectSuggestion, submitSearch, Search.submit_of_nonempty hne]
      rfl
  | emptySuggestion => rfl
  | queryChanged | searchCleared | ticked => rfl

/-! Reducing an event adds the calls to the past of the navigator, and that is all it adds
to what the event does. -/

theorem reduce_effect (n : Navigator α μ κ) (event : Event) :
    (n.reduce event).effect = (n.act event).effect := rfl

/-! ## Runs -/

/-- The navigators that a run passes through, each with the event that it reduces. -/
def moments (n : Navigator α μ κ) : List Event → List (Navigator α μ κ × Event)
  | [] => []
  | event :: rest => (n, event) :: moments (n.reduce event).after rest

theorem outcomes_eq_map_moments (n : Navigator α μ κ) (events : List Event) :
    n.outcomes events = (n.moments events).map fun m => m.1.reduce m.2 := by
  induction events generalizing n with
  | nil => rfl
  | cons event rest ih => rw [outcomes, moments, List.map_cons, ih]

theorem outcomes_take (n : Navigator α μ κ) (events : List Event) (k : Nat) :
    (n.outcomes events).take k = n.outcomes (events.take k) := by
  induction events generalizing n k with
  | nil => rw [outcomes, List.take_nil, List.take_nil, outcomes]
  | cons event rest ih =>
      cases k with
      | zero => rfl
      | succ k => rw [outcomes, List.take_succ_cons, List.take_succ_cons, outcomes, ih]

theorem run_append (n : Navigator α μ κ) (earlier later : List Event) :
    n.run (earlier ++ later) = (n.run earlier).run later := by
  induction earlier generalizing n with
  | nil => rfl
  | cons event rest ih => rw [List.cons_append, run, run, ih]

/-- What holds after every number of events, holds now and after every number of events from
the next navigator on. -/
theorem forall_run_take_cons {P : Navigator α μ κ → Prop} (n : Navigator α μ κ)
    (event : Event) (rest : List Event) :
    (∀ k, P (n.run ((event :: rest).take k))) ↔
      P n ∧ ∀ k, P ((n.reduce event).after.run (rest.take k)) := by
  constructor
  · intro h
    exact ⟨h 0, fun k => h (k + 1)⟩
  · rintro ⟨hnow, hlater⟩ k
    cases k with
    | zero => exact hnow
    | succ k => exact hlater k

/-- What every step keeps, a run keeps. -/
theorem run_of_step {P : Navigator α μ κ → Prop}
    (hkeeps : ∀ m event, P m → P (m.reduce event).after) {n : Navigator α μ κ} (h : P n)
    (events : List Event) : P (n.run events) := by
  induction events generalizing n with
  | nil => exact h
  | cons event rest ih => exact ih (hkeeps n event h)

theorem Reachable.run {n : Navigator α μ κ} (h : Reachable n) (events : List Event) :
    Reachable (n.run events) :=
  run_of_step (fun _ event hbefore => hbefore.reduce event) h events

/-- What every step keeps holds at every moment of a run. -/
theorem mem_moments_of_step {P : Navigator α μ κ → Prop}
    (hkeeps : ∀ m event, P m → P (m.reduce event).after) {n : Navigator α μ κ} (h : P n)
    {events : List Event} {m : Navigator α μ κ × Event} (hm : m ∈ n.moments events) :
    P m.1 := by
  induction events generalizing n with
  | nil => cases hm
  | cons event rest ih =>
      rcases List.mem_cons.mp hm with rfl | hlater
      · exact h
      · exact ih (hkeeps n event h) hlater

end Navigator

end TabNavigator
