import Mathlib.Data.List.Induction
import TabNavigator.Proofs.Suggestions

/-!
# What the active flag remembers

A search is active for one of two reasons: it has suggestions, or its query was submitted and
has not been edited since. The first can be seen in the state. The second is a matter of the
events that led there, and the flag is all that is kept of them, so this file puts it next to
the events themselves (`StillSubmitted`).

Every event that writes the flag can be held against these two reasons. Submitting gives the
second one, and editing or clearing takes it away. New items should do neither, but a query
that is there is set again among them, as if it had been typed anew, and the flag is then
worked out from the suggestions alone. So the flag never says too much: an active search has
one of its reasons. It can say too little, and it does exactly if items came in behind the
submission and the query finds nothing among them.
-/

namespace TabNavigator

/-- Whether an event submits the query that there is afterwards, if there is one. -/
def Event.submits : Event → Bool
  | .searchSubmitted => true
  | .suggestionSelected _ => true
  | _ => false

/-- Whether an event replaces the query without submitting it. -/
def Event.editsQuery : Event → Bool
  | .searchChanged _ => true
  | .searchCleared => true
  | _ => false

/-- One of the events submitted the query, and none of those behind it undoes that. -/
def StillSubmitted (undoes : Event → Bool) (events : List Event) : Prop :=
  ∃ earlier event later, events = earlier ++ event :: later ∧ event.submits = true ∧
    ∀ e ∈ later, undoes e = false

/-- The last event submits the query, or it leaves an earlier submission standing. -/
theorem stillSubmitted_concat {undoes : Event → Bool} {events : List Event} {last : Event} :
    StillSubmitted undoes (events ++ [last]) ↔
      last.submits = true ∨ (StillSubmitted undoes events ∧ undoes last = false) := by
  constructor
  · rintro ⟨earlier, event, later, hsplit, hsubmits, hkept⟩
    rcases List.eq_nil_or_concat later with rfl | ⟨later, e, rfl⟩
    · obtain ⟨-, rfl⟩ := List.append_singleton_inj.mp hsplit
      exact .inl hsubmits
    · rw [List.concat_eq_append] at hkept hsplit
      rw [← List.cons_append, ← List.append_assoc] at hsplit
      obtain ⟨rfl, rfl⟩ := List.append_singleton_inj.mp hsplit
      obtain ⟨hbefore, hhere⟩ := List.forall_mem_append.mp hkept
      exact .inr ⟨⟨earlier, event, later, rfl, hsubmits, hbefore⟩, hhere last List.mem_cons_self⟩
  · rintro (hsubmits | ⟨⟨earlier, event, later, rfl, hsubmits, hkept⟩, hstays⟩)
    · exact ⟨events, last, [], rfl, hsubmits, nofun⟩
    · refine ⟨earlier, event, later ++ [last], ?_, hsubmits, ?_⟩
      · rw [List.append_assoc, List.cons_append]
      · exact List.forall_mem_append.mpr ⟨hkept, List.forall_mem_singleton.mpr hstays⟩

theorem StillSubmitted.mono {undoes undoes' : Event → Bool} {events : List Event}
    (hfewer : ∀ e, undoes e = false → undoes' e = false) (h : StillSubmitted undoes events) :
    StillSubmitted undoes' events := by
  obtain ⟨earlier, event, later, hsplit, hsubmits, hkept⟩ := h
  exact ⟨earlier, event, later, hsplit, hsubmits, fun e hmem => hfewer e (hkept e hmem)⟩

/-- A reason for a search to be active: it has suggestions, or it has a query and that was
submitted, as `submitted` says. -/
def Search.HasReason (search : Search) (submitted : Prop) : Prop :=
  search.suggestions ≠ [] ∨ (search.query ≠ "" ∧ submitted)

theorem Search.HasReason.mono {search : Search} {submitted submitted' : Prop}
    (hweaker : submitted → submitted') (h : search.HasReason submitted) :
    search.HasReason submitted' :=
  h.imp_right fun hboth => ⟨hboth.1, hweaker hboth.2⟩

/-- A query that is set is not submitted yet, so its suggestions are the only reason. -/
theorem Search.setQuery_active_iff (search : Search) (query : String) (items : List Item)
    {submitted : Prop} (hunsubmitted : ¬ submitted) :
    (search.setQuery query items).active = true ↔
      (search.setQuery query items).HasReason submitted := by
  have hshown : (!(suggest items query).isEmpty) = true ↔ suggest items query ≠ [] := by
    rw [Bool.not_eq_true', List.isEmpty_eq_false_iff]
  exact hshown.trans (or_iff_left fun hboth => hunsubmitted hboth.2).symm

/-- Without a query, it makes no difference what was submitted. -/
theorem Search.hasReason_congr_of_empty {search : Search} (hempty : search.query = "")
    (submitted submitted' : Prop) :
    search.HasReason submitted ↔ search.HasReason submitted' :=
  or_congr_right (iff_of_false (fun hboth => hboth.1 hempty) (fun hboth => hboth.1 hempty))

namespace Navigator

variable {α μ κ : Type}

/-- Whether an event makes the navigator forget a submission: it edits the query, or it
brings items. -/
def forgets (n : Navigator α μ κ) (event : Event) : Bool :=
  event.editsQuery || (n.itemsBrought? event).isSome

/-- Which events bring items depends on nothing but whether there is a source. -/
theorem forgets_congr {n w : Navigator α μ κ} (hsame : n.source = w.source) :
    n.forgets = w.forgets := by
  funext event
  cases event with
  | reloadItems => simp only [forgets, itemsBrought?, Option.isSome_map, hsame]
  | _ => rfl

/-- An event that does not concern the search: it neither submits a query nor makes the
navigator forget that one was submitted. -/
def SparesSearch (n : Navigator α μ κ) (event : Event) : Prop :=
  event.submits = false ∧ n.forgets event = false

theorem sparesSearch_of_tab? {n : Navigator α μ κ} {event : Event} {id : String}
    (hnames : event.tab? = some id) : n.SparesSearch event := by
  cases event with
  | select | performAction | performDefaultAction => exact ⟨rfl, rfl⟩
  | _ => cases hnames

theorem sparesSearch_of_visibilityAsked? {n : Navigator α μ κ} {event : Event}
    {v : Visibility} {now : Moment} (hasked : n.visibilityAsked? event = some (v, now)) :
    n.SparesSearch event := by
  cases event with
  | setVisibility | toggleVisibility => exact ⟨rfl, rfl⟩
  | _ => cases hasked

theorem submits_of_itemsBrought? {n : Navigator α μ κ} {event : Event} {items : List Item}
    {asked : Journal} (hbrought : n.itemsBrought? event = some (items, asked)) :
    event.submits = false := by
  cases event with
  | updateItems | reloadItems => rfl
  | _ => cases hbrought

/-! ## Steps and runs -/

variable [Scalar α]

theorem Step.source {n : Navigator α μ κ} {event : Event} {o : Outcome α μ κ}
    (h : Step n event o) : o.after.source = n.source := by
  cases h <;> rfl

theorem run_source (n : Navigator α μ κ) (events : List Event) :
    (n.run events).source = n.source :=
  run_of_step (P := fun w => w.source = n.source)
    (fun w event hbefore => (w.act_step event).source.trans hbefore) rfl events

/-- If the flag says that there is a reason, it says so after the next event, which may give
the second reason or take it away. -/
theorem Step.active_iff {n : Navigator α μ κ} {event : Event} {o : Outcome α μ κ}
    (h : Step n event o) {submitted : Prop}
    (hbefore : n.search.active = true ↔ n.search.HasReason submitted) :
    o.after.search.active = true ↔
      o.after.search.HasReason
        (event.submits = true ∨ (submitted ∧ n.forgets event = false)) := by
  have hspared (hspares : n.SparesSearch event) : n.search.active = true ↔
      n.search.HasReason (event.submits = true ∨ (submitted ∧ n.forgets event = false)) := by
    rw [hspares.1, hspares.2, hbefore, eq_self, and_true, or_iff_right Bool.false_ne_true]
  cases h with
  | unknownTab hnames => exact hspared (sparesSearch_of_tab? hnames)
  | visibilityChanged hasked => exact hspared (sparesSearch_of_visibilityAsked? hasked)
  | noSource habsent =>
      refine hspared ⟨rfl, ?_⟩
      rw [forgets, itemsBrought?, habsent]
      rfl
  | selected | performed | performedDefault | visibilityKept | ticked =>
      exact hspared ⟨rfl, rfl⟩
  | nothingToSubmit hempty => exact hbefore.trans (Search.hasReason_congr_of_empty hempty _ _)
  | submitted hne => exact iff_of_true rfl (.inr ⟨hne, .inl rfl⟩)
  | suggestionSubmitted hne => exact iff_of_true rfl (.inr ⟨hne, .inl rfl⟩)
  | searchCleared =>
      refine iff_of_false Bool.false_ne_true ?_
      rintro (hshown | ⟨hne, -⟩)
      · exact hshown rfl
      · exact hne rfl
  | emptySuggestion =>
      exact (n.search.setQuery_active_iff "" n.items not_false).trans
        (Search.hasReason_congr_of_empty rfl _ _)
  | queryChanged =>
      refine n.search.setQuery_active_iff _ n.items ?_
      rintro (hsubmits | ⟨-, hkeeps⟩)
      · cases hsubmits
      · cases hkeeps
  | @itemsReplaced _ items _ hbrought =>
      show (refreshedSearch n.search items).active = true ↔
        (refreshedSearch n.search items).HasReason _
      rw [refreshedSearch]
      split
      · next hempty =>
          have hempty : n.search.query = "" := by simpa using hempty
          exact hbefore.trans (Search.hasReason_congr_of_empty hempty _ _)
      · refine n.search.setQuery_active_iff _ items ?_
        rintro (hsubmits | ⟨-, hkeeps⟩)
        · rw [submits_of_itemsBrought? hbrought] at hsubmits
          cases hsubmits
        · rw [forgets, hbrought, Option.isSome_some, Bool.or_true] at hkeeps
          cases hkeeps

theorem run_concat (n : Navigator α μ κ) (events : List Event) (event : Event) :
    n.run (events ++ [event]) = ((n.run events).reduce event).after := by
  rw [run_append]
  rfl

theorem Fitted.active_of_run {n : Navigator α μ κ} (h : Fitted n) (events : List Event) :
    (n.run events).search.active = true ↔
      (n.run events).search.HasReason (StillSubmitted n.forgets events) := by
  induction events using List.reverseRecOn with
  | nil =>
      obtain ⟨options, hsearch⟩ := h.search
      show n.search.active = true ↔ n.search.HasReason _
      rw [hsearch]
      refine iff_of_false Bool.false_ne_true ?_
      rintro (hshown | ⟨hne, -⟩)
      · exact hshown rfl
      · exact hne rfl
  | append_singleton events event ih =>
      have hstep := ((n.run events).act_step event).active_iff ih
      rw [forgets_congr (n.run_source events)] at hstep
      rw [run_concat, stillSubmitted_concat]
      exact hstep

/-- A navigator that was mounted and fitted out in whatever way reduces any events. Its search
is then active exactly if it has suggestions, or it has a query and that was submitted behind
the last event that edits it or brings items. So an active search has suggestions, or a query
that was submitted and not edited since. That it is active if there is such a reason holds
exactly if there are suggestions, or no query, or no items came in since the submission. -/
theorem active_of_run_iff {n : Navigator α μ κ} (h : Fitted n) (events : List Event) :
    let search := (n.run events).search
    (search.active = true ↔
      search.suggestions ≠ [] ∨ (search.query ≠ "" ∧ StillSubmitted n.forgets events)) ∧
    (search.active = true →
      search.suggestions ≠ [] ∨
        (search.query ≠ "" ∧ StillSubmitted Event.editsQuery events)) ∧
    ((search.active = true ↔
        search.suggestions ≠ [] ∨
          (search.query ≠ "" ∧ StillSubmitted Event.editsQuery events)) ↔
      search.suggestions ≠ [] ∨ search.query = "" ∨
        (StillSubmitted Event.editsQuery events → StillSubmitted n.forgets events)) := by
  intro search
  have hnow : search.active = true ↔ search.HasReason (StillSubmitted n.forgets events) :=
    h.active_of_run events
  have hweaker : StillSubmitted n.forgets events → StillSubmitted Event.editsQuery events := by
    refine StillSubmitted.mono fun event hkeeps => ?_
    exact (Bool.or_eq_false_iff.mp hkeeps).1
  refine ⟨hnow, fun hactive => (hnow.mp hactive).mono hweaker, ?_⟩
  rw [hnow]
  constructor
  · intro hagree
    by_cases hshown : search.suggestions ≠ []
    · exact .inl hshown
    · by_cases hempty : search.query = ""
      · exact .inr (.inl hempty)
      · refine .inr (.inr fun hsubmitted => ?_)
        have hreason := (hagree.mpr (.inr ⟨hempty, hsubmitted⟩)).resolve_left hshown
        exact hreason.2
  · intro heither
    refine ⟨Search.HasReason.mono hweaker, ?_⟩
    rintro (hshown | ⟨hne, hsubmitted⟩)
    · exact .inl hshown
    · rcases heither with hshown | hempty | hkept
      · exact .inl hshown
      · exact absurd hempty hne
      · exact .inr ⟨hne, hkept hsubmitted⟩

/-- A query that finds nothing is submitted again behind new items, and then a tab is selected:
the search is active, and was not before. -/
theorem active_of_run_resubmitted :
    let n : Navigator Rat Unit Unit := (standard 0).withDataSource (.fixed [Item.home])
    let events : List Event :=
      [.searchChanged "zzz", .searchSubmitted, .reloadItems, .searchSubmitted, .select "home"]
    Fitted n ∧ StillSubmitted n.forgets events ∧ (n.run events).search.suggestions = [] ∧
    (n.run (events.take 3)).search.active = false ∧ (n.run events).search.active = true := by
  intro n events
  have hfitted : Fitted n := (Fitted.mounted (.standard 0)).source _
  have hsubmitted : StillSubmitted n.forgets events :=
    ⟨[.searchChanged "zzz", .searchSubmitted, .reloadItems], .searchSubmitted, [.select "home"],
      rfl, rfl, by decide⟩
  have hne : (n.run events).search.query ≠ "" := by decide
  obtain ⟨hiff, -, -⟩ := active_of_run_iff hfitted events
  exact ⟨hfitted, hsubmitted, by decide, by decide, hiff.mpr (.inr ⟨hne, hsubmitted⟩)⟩

/-- A query that finds nothing is submitted, and the same items come in again. The query is as
it was submitted, and the search is no longer active. -/
theorem submission_forgotten_at_update :
    let n : Navigator Rat Unit Unit := standard 0
    let events : List Event :=
      [.searchChanged "zzz", .searchSubmitted, .updateItems n.items]
    let search := (n.run events).search
    Fitted n ∧ (n.run (events.take 2)).search.active = true ∧
    search = { (n.run (events.take 2)).search with active := false } ∧
    search.query = "zzz" ∧ StillSubmitted Event.editsQuery events ∧
    ¬ (search.active = true ↔
      search.suggestions ≠ [] ∨
        (search.query ≠ "" ∧ StillSubmitted Event.editsQuery events)) := by
  intro n events search
  have hfitted : Fitted n := .mounted (.standard 0)
  have hsubmitted : StillSubmitted Event.editsQuery events :=
    ⟨[.searchChanged "zzz"], .searchSubmitted, [.updateItems n.items], rfl, rfl, by decide⟩
  have hinactive : search.active = false := by decide
  have hne : search.query ≠ "" := by decide
  refine ⟨hfitted, by decide, by decide, by decide, hsubmitted, ?_⟩
  intro hagree
  rw [hinactive] at hagree
  exact Bool.false_ne_true (hagree.mpr (.inr ⟨hne, hsubmitted⟩))

end Navigator

end TabNavigator
