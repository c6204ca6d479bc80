import TabNavigator.Proofs.Step

/-!
# Who hears of what

An effect tells the host what an event has come to. The delegate is told the same in
other words, and told nothing else: an effect stands for a fixed list of notices
(`Effect.notices`), and what the delegate hears over a run is what the effects of the
run stand for, one after the other. The words differ in one place. A submitted query is
reported alike whether it was typed or suggested, while the delegate hears of a
suggestion in addition; so the notices of an effect depend on the event as well.

Observers of the tabs hear of changes instead, and they hear of more: a wish for the
visibility that there is already has no effect, yet it is a change to them. What they
are owed is therefore a function of the event (`changeOwed?`), not of its effect.

The journal holds all of this in one list. The first part of this file reads the lists
that matter here off the journals of the parts, after which nothing looks inside a
journal again.
-/

namespace TabNavigator

/-! ## Reading a journal -/

namespace Journal

@[simp] theorem notices_append (j k : Journal) :
    notices (j ++ k) = notices j ++ notices k := by
  rw [notices, List.filterMap_append]; rfl

@[simp] theorem notices_logged (entry : LogEntry) (j : Journal) :
    notices (.logged entry :: j) = notices j := rfl

@[simp] theorem notices_asked (question : Question) (j : Journal) :
    notices (.called (.askSource question) :: j) = notices j := rfl

@[simp] theorem calls_logged (entry : LogEntry) (j : Journal) :
    calls (.logged entry :: j) = calls j := rfl

@[simp] theorem changesFor_append (j k : Journal) (observer : Nat) :
    changesFor (j ++ k) observer = changesFor j observer ++ changesFor k observer := by
  rw [changesFor, List.filterMap_append]; rfl

@[simp] theorem changesFor_logged (entry : LogEntry) (j : Journal) (observer : Nat) :
    changesFor (.logged entry :: j) observer = changesFor j observer := rfl

@[simp] theorem changesFor_called (call : Call) (j : Journal) (observer : Nat) :
    changesFor (.called call :: j) observer = changesFor j observer := rfl

/-! What a reading passes over: the log entries of a delegate are no notices, and a change
that is told to all observers is a call to nobody. -/

theorem filterMap_map_logged {β : Type} {f : JournalEntry → Option β}
    (hpasses : ∀ entry, f (.logged entry) = none) (entries : List LogEntry) :
    (entries.map JournalEntry.logged).filterMap f = [] := by
  rw [List.filterMap_eq_nil_iff]
  intro e he
  obtain ⟨entry, -, rfl⟩ := List.mem_map.mp he
  exact hpasses entry

theorem filterMap_tellObservers {β : Type} {f : JournalEntry → Option β}
    {change : Change} (hpasses : ∀ i, f (.observed i change) = none) (count : Nat) :
    (tellObservers count change).filterMap f = [] := by
  rw [tellObservers, List.filterMap_eq_nil_iff]
  intro e he
  obtain ⟨i, -, rfl⟩ := List.mem_map.mp he
  exact hpasses i

@[simp] theorem notices_tellObservers (count : Nat) (change : Change) :
    notices (tellObservers count change) = [] :=
  filterMap_tellObservers (fun _ => rfl) count

@[simp] theorem calls_tellObservers (count : Nat) (change : Change) :
    calls (tellObservers count change) = [] :=
  filterMap_tellObservers (fun _ => rfl) count

/-- Every observer is told of a change once. -/
theorem changesFor_tellObservers (count : Nat) (change : Change) (observer : Nat) :
    changesFor (tellObservers count change) observer =
      if observer < count then [change] else [] := by
  induction count with
  | zero => rfl
  | succ count ih =>
      have hsucc : tellObservers (count + 1) change =
          tellObservers count change ++ [.observed count change] := by
        rw [tellObservers, List.range_succ, List.map_append]; rfl
      rw [hsucc, changesFor_append, ih]
      by_cases hlast : count = observer
      · subst hlast
        rw [if_neg (Nat.lt_irrefl count), if_pos (Nat.lt_succ_self count)]
        simp [changesFor, JournalEntry.changeFor?]
      · have hnone : changesFor [.observed count change] observer = [] := by
          simp [changesFor, JournalEntry.changeFor?, hlast]
        rw [hnone, List.append_nil]
        by_cases hlt : observer < count
        · rw [if_pos hlt, if_pos (by omega)]
        · rw [if_neg hlt, if_neg (by omega)]

theorem changesFor_tellObservers_of_lt {count observer : Nat} (h : observer < count)
    (change : Change) : changesFor (tellObservers count change) observer = [change] := by
  rw [changesFor_tellObservers, if_pos h]

variable {α μ κ : Type}

@[simp] theorem notices_tell (delegate : Delegate α μ κ) (notice : Notice) :
    notices (Delegate.tell (some delegate) notice) = [notice] := by
  show notice :: notices ((delegate.log notice).map .logged) = [notice]
  rw [notices, filterMap_map_logged fun _ => rfl]

@[simp] theorem changesFor_tell (delegate : Option (Delegate α μ κ)) (notice : Notice)
    (observer : Nat) : changesFor (Delegate.tell delegate notice) observer = [] := by
  cases delegate with
  | none => rfl
  | some delegate =>
      rw [Delegate.tell, changesFor_called, changesFor, filterMap_map_logged fun _ => rfl]

end Journal

/-! ## What is owed -/

/-- The tab that an effect is about. -/
def Effect.tab? : Effect → Option String
  | .selected id => some id
  | .actionPerformed _ id => some id
  | _ => none

/-- What the delegate is told when an event among these items has an effect. Of several
items with the identifier, it is told of the first. -/
def Effect.notices (items : List Item) (event : Event) : Effect → List Notice
  | .selected id => ((Item.find? items id).map .itemSelected).toList
  | .actionPerformed action id =>
      ((Item.find? items id).map (.actionPerformed action)).toList
  | .searched query =>
      match event with
      | .suggestionSelected _ =>
          [.itemSelected (Search.itemFor query), .searched query,
            .suggestionSelected query]
      | _ => [.itemSelected (Search.itemFor query), .searched query]
  | .searchCleared => [.searchCleared]
  | .visibilityChanged _ => []
  | .itemsUpdated _ => []

namespace Navigator

variable {α μ κ : Type}

/-- The change that an event is to observers: one if it selects a tab that there is, asks
for a visibility, or brings items. -/
def changeOwed? (n : Navigator α μ κ) : Event → Option Change
  | .select id => (n.tabs.find? id).map .selected
  | .setVisibility v _ => some (.visibilityChanged v)
  | .toggleVisibility _ => some (.visibilityChanged n.visibility.toggled)
  | .updateItems items => some (n.tabs.replaceItems items).change
  | .reloadItems =>
      n.source.map fun source => (n.tabs.replaceItems (source.items n.past)).change
  | _ => none

theorem changeOwed?_of_absent {n : Navigator α μ κ} {event : Event} {id : String}
    (hnames : event.tab? = some id) (habsent : n.tabs.find? id = none) :
    n.changeOwed? event = none := by
  cases event with
  | select _ => cases hnames; rw [changeOwed?, habsent, Option.map_none]
  | performAction _ _ | performDefaultAction _ => rfl
  | _ => cases hnames

theorem changeOwed?_of_visibilityAsked? {n : Navigator α μ κ} {event : Event}
    {v : Visibility} {now : Moment} (hasked : n.visibilityAsked? event = some (v, now)) :
    n.changeOwed? event = some (.visibilityChanged v) := by
  cases event with
  | setVisibility _ _ | toggleVisibility _ => cases hasked; rfl
  | _ => cases hasked

theorem changeOwed?_of_itemsBrought? {n : Navigator α μ κ} {event : Event}
    {items : List Item} {asked : Journal}
    (hbrought : n.itemsBrought? event = some (items, asked)) :
    n.changeOwed? event = some (n.tabs.replaceItems items).change := by
  cases event with
  | updateItems _ => cases hbrought; rfl
  | reloadItems =>
      rw [itemsBrought?, Option.map_eq_some_iff] at hbrought
      obtain ⟨source, hattached, h⟩ := hbrought
      cases h
      rw [changeOwed?, hattached, Option.map_some]
  | _ => cases hbrought

/-- Items that are brought are at most asked for, and the source is the one asked. -/
theorem asked_of_itemsBrought? {n : Navigator α μ κ} {event : Event} {items : List Item}
    {asked : Journal} (hbrought : n.itemsBrought? event = some (items, asked)) :
    asked = [] ∨ asked = [.called (.askSource .items)] := by
  cases event with
  | updateItems _ => cases hbrought; exact Or.inl rfl
  | reloadItems =>
      rw [itemsBrought?, Option.map_eq_some_iff] at hbrought
      obtain ⟨source, -, h⟩ := hbrought
      cases h
      exact Or.inr rfl
  | _ => cases hbrought

@[simp] theorem notices_askAction (n : Navigator α μ κ) (item : Item) :
    (n.askAction item).notices = [] := by
  rw [askAction]
  split <;> rfl

@[simp] theorem changesFor_askAction (n : Navigator α μ κ) (item : Item)
    (observer : Nat) : (n.askAction item).changesFor observer = [] := by
  rw [askAction]
  split <;> rfl

/-! ## Steps -/

variable [Scalar α]

theorem Step.delegate {n : Navigator α μ κ} {event : Event} {o : Outcome α μ κ}
    (h : Step n event o) : o.after.delegate = n.delegate := by
  cases h <;> rfl

theorem Step.observers {n : Navigator α μ κ} {event : Event} {o : Outcome α μ κ}
    (h : Step n event o) : o.after.tabs.observers = n.tabs.observers := by
  cases h <;> rfl

theorem Step.calls_of_no_effect {n : Navigator α μ κ} {event : Event}
    {o : Outcome α μ κ} (h : Step n event o) (hquiet : o.effect = none) :
    o.journal.calls = [] := by
  cases h with
  | unknownTab | noSource | queryChanged | nothingToSubmit | emptySuggestion | ticked => rfl
  | visibilityKept =>
      rw [Tabs.setVisibility, Journal.calls_logged, Tabs.tellObservers,
        Journal.calls_tellObservers]
  | _ => cases hquiet

theorem Step.find?_of_effect {n : Navigator α μ κ} {event : Event} {o : Outcome α μ κ}
    (h : Step n event o) {effect : Effect} (he : o.effect = some effect) {id : String}
    (habout : effect.tab? = some id) : ∃ item, n.tabs.find? id = some item := by
  cases h with
  | selected hfound => cases he; cases habout; exact ⟨_, hfound⟩
  | performed hfound => cases he; cases habout; exact ⟨_, hfound⟩
  | performedDefault hfound => cases he; cases habout; exact ⟨_, hfound⟩
  | unknownTab | visibilityKept | noSource | queryChanged | nothingToSubmit
  | emptySuggestion | ticked => cases he
  | visibilityChanged | itemsReplaced | submitted | searchCleared | suggestionSubmitted =>
      cases he; cases habout

/-- What the delegate is owed for an event: what the effect stands for, if there is one. -/
def noticesOwed (n : Navigator α μ κ) (event : Event) : List Notice :=
  match (n.reduce event).effect with
  | none => []
  | some effect => effect.notices n.items event

theorem Step.notices {n : Navigator α μ κ} {event : Event} {o : Outcome α μ κ}
    (h : Step n event o) {delegate : Delegate α μ κ}
    (hattached : n.delegate = some delegate) :
    o.journal.notices = match o.effect with
      | none => []
      | some effect => effect.notices n.items event := by
  cases h with
  | unknownTab | noSource | queryChanged | nothingToSubmit | emptySuggestion | ticked => rfl
  | selected hfound =>
      have hfind : Item.find? n.items _ = some _ := hfound
      simp [Tabs.select, Tabs.tellObservers, hattached, Effect.notices, hfind]
  | performed hfound =>
      have hfind : Item.find? n.items _ = some _ := hfound
      simp [Tabs.relay, hattached, Effect.notices, hfind]
  | performedDefault hfound =>
      have hfind : Item.find? n.items _ = some _ := hfound
      simp [Tabs.relay, hattached, Effect.notices, hfind]
  | visibilityKept => simp [Tabs.setVisibility, Tabs.tellObservers]
  | visibilityChanged => simp [Tabs.setVisibility, Tabs.tellObservers, Effect.notices]
  | itemsReplaced hbrought =>
      rcases asked_of_itemsBrought? hbrought with rfl | rfl <;>
        simp [Tabs.replaceItems, Tabs.tellObservers, Effect.notices]
  | submitted => simp [hattached, Effect.notices]
  | searchCleared => simp [clearSearch, hattached, Effect.notices]
  | suggestionSubmitted => simp [hattached, Effect.notices]

theorem Step.changesFor {n : Navigator α μ κ} {event : Event} {o : Outcome α μ κ}
    (h : Step n event o) {observer : Nat} (hsubscribed : observer < n.tabs.observers) :
    o.journal.changesFor observer = (n.changeOwed? event).toList := by
  have hone := Journal.changesFor_tellObservers_of_lt hsubscribed
  cases h with
  | unknownTab hnames habsent => rw [changeOwed?_of_absent hnames habsent]; rfl
  | noSource habsent => rw [changeOwed?, habsent]; rfl
  | queryChanged | nothingToSubmit | emptySuggestion | ticked => rfl
  | selected hfound =>
      simp [Tabs.select, Tabs.tellObservers, changeOwed?, hfound, hone]
  | performed => simp [Tabs.relay, changeOwed?]
  | performedDefault => simp [Tabs.relay, changeOwed?]
  | visibilityKept => simp [Tabs.setVisibility, Tabs.tellObservers, changeOwed?, hone]
  | visibilityChanged hasked =>
      rw [changeOwed?_of_visibilityAsked? hasked]
      simp [Tabs.setVisibility, Tabs.tellObservers, hone]
  | itemsReplaced hbrought =>
      rw [changeOwed?_of_itemsBrought? hbrought]
      rcases asked_of_itemsBrought? hbrought with rfl | rfl <;>
        simp [Tabs.replaceItems, Tabs.tellObservers, hone]
  | submitted => simp [changeOwed?]
  | searchCleared => simp [clearSearch, changeOwed?]
  | suggestionSubmitted => simp [changeOwed?]

/-! ## Runs -/

/-- A navigator with a delegate reduces any events. What the delegate hears is, in order,
what the effects stand for, and an effect that is about a tab stands for one notice of
it; an event without an effect makes no call to anybody; and each observer hears of
exactly the changes that it is owed, event by event. -/
theorem heard_of_run {n : Navigator α μ κ} {delegate : Delegate α μ κ}
    (hattached : n.delegate = some delegate) (events : List Event) :
    (n.outcomes events).flatMap (·.journal.notices) =
      (n.moments events).flatMap (fun m => m.1.noticesOwed m.2) ∧
    (∀ m ∈ n.moments events, ∀ effect, (m.1.reduce m.2).effect = some effect →
      ∀ id, effect.tab? = some id → ∃ item, m.1.tabs.find? id = some item) ∧
    (∀ o ∈ n.outcomes events, o.effect = none → o.journal.calls = []) ∧
    (∀ observer < n.tabs.observers,
      (n.outcomes events).map (·.journal.changesFor observer) =
        (n.moments events).map fun m => (m.1.changeOwed? m.2).toList) := by
  have hdelegate : ∀ m ∈ n.moments events, m.1.delegate = some delegate :=
    fun _ => mem_moments_of_step (P := fun m => m.delegate = some delegate)
      (fun m event h => (m.act_step event).delegate.trans h) hattached
  have hobservers : ∀ m ∈ n.moments events, m.1.tabs.observers = n.tabs.observers :=
    fun _ => mem_moments_of_step (P := fun m => m.tabs.observers = n.tabs.observers)
      (fun m event h => (m.act_step event).observers.trans h) rfl
  rw [outcomes_eq_map_moments]
  refine ⟨?_, ?_, ?_, ?_⟩
  · rw [List.flatMap_map, List.flatMap_def, List.flatMap_def]
    refine congrArg List.flatten (List.map_congr_left fun m hm => ?_)
    exact (m.1.act_step m.2).notices (hdelegate m hm)
  · intro m _ effect he id habout
    exact (m.1.act_step m.2).find?_of_effect he habout
  · intro o ho hquiet
    obtain ⟨m, -, rfl⟩ := List.mem_map.mp ho
    exact (m.1.act_step m.2).calls_of_no_effect hquiet
  · intro observer hsubscribed
    rw [List.map_map]
    refine List.map_congr_left fun m hm => ?_
    exact (m.1.act_step m.2).changesFor (hobservers m hm ▸ hsubscribed)

/-- A suggestion is heard of three times, a tab that does not exist not at all, and a
visibility that is not new by the observers alone. -/
theorem heard_of_suggestion :
    let n : Navigator Rat Unit Unit :=
      ((standard 0).withDelegate .silent).subscribe.subscribe
    let events : List Event :=
      [.select "profile", .setVisibility .visible 0, .select "nowhere",
        .suggestionSelected "Pro"]
    n.delegate = some .silent ∧ 1 < n.tabs.observers ∧
    (n.outcomes events).flatMap (·.journal.notices) =
      [.itemSelected Item.profile, .itemSelected (Search.itemFor "Pro"), .searched "Pro",
        .suggestionSelected "Pro"] ∧
    (n.outcomes events).map (·.journal.changesFor 1) =
      [[.selected Item.profile], [.visibilityChanged .visible], [], []] := by
  intro n events
  have hattached : n.delegate = some .silent := rfl
  have h := heard_of_run hattached events
  exact ⟨hattached, by decide, h.1.trans rfl, (h.2.2.2 1 (by decide)).trans rfl⟩

end Navigator

end TabNavigator
