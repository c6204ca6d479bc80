import Mathlib.Data.List.Forall2
import TabNavigator.Proofs.Notices

/-!
# Only identifiers decide what is selected

Items carry titles, icons, routes and more, and all of it travels with an item through
every lookup and every comparison. None of it decides anything. Two navigators are
counterparts if their items have the same identifiers in the same places, their selections
have the same identifier, and they agree in the few other things that an event looks at.
Events that differ at most in what else the items say that they bring have the same effects
on counterparts, and leave counterparts (`Step.counterpart`).

What the items have to say does show in the suggestions, and a search with suggestions is
active, so counterparts need not agree in either. The query is all that an event reads of a
search.

A source takes part in two ways. For the items that it returns it is enough that they have
the same identifiers whenever they are asked for in the two runs, so this is a condition on
the moments of the runs (`SameInput`) and not on the source. The action that it picks for an
item must be the same for all items with the identifier (`DataSource.PickAlike`).
-/

namespace TabNavigator

/-! ## Reading identifiers -/

/-- Items with the same identifiers are found by the same identifiers. -/
theorem Item.find?_of_ids {items others : List Item}
    (hids : items.map (·.id) = others.map (·.id)) {id : String} {item : Item}
    (hfound : find? items id = some item) :
    ∃ other, find? others id = some other ∧ other.id = item.id := by
  cases hthere : find? others id with
  | none =>
      rw [find?_eq_none_iff, ← hids, ← find?_eq_none_iff, hfound] at hthere
      cases hthere
  | some other => exact ⟨other, rfl, (id_of_find? hthere).trans (id_of_find? hfound).symm⟩

/-- What an identifier is kept by: being one of those that there are. Otherwise it is
replaced by the first. -/
def keptId (selected : Option String) (ids : List String) : Option String :=
  match selected with
  | some id => if id ∈ ids then some id else ids.head?
  | none => ids.head?

theorem Tabs.id_keepOrFirst (selected : Option Item) (items : List Item) :
    (keepOrFirst selected items).map (·.id) =
      keptId (selected.map (·.id)) (items.map (·.id)) := by
  cases selected with
  | none => rw [keepOrFirst, Option.map_none, keptId, List.head?_map]
  | some item =>
      have hamong : item.isAmong items = true ↔ item.id ∈ items.map (·.id) := by
        rw [Item.isAmong_iff, List.mem_map]
      simp only [keepOrFirst, Option.map_some, keptId]
      split
      · next hhere => rw [if_pos (hamong.mp hhere), Option.map_some]
      · next hgone => rw [if_neg (mt hamong.mpr hgone), List.head?_map]

theorem Tabs.selectedId?_replaceItems (tabs : Tabs) (items : List Item) :
    (tabs.replaceItems items).tabs.selectedId? =
      keptId tabs.selectedId? (items.map (·.id)) :=
  id_keepOrFirst tabs.selected items

/-- A strip marks the places of the selected identifier. -/
theorem Style.marks_layout {α : Type} [Scalar α] (style : Style α) (items : List Item)
    (selected : Option Item) (v : Visibility) :
    (style.layout items selected v).entries.map (·.isSelected) =
      (items.map (·.id)).map fun id => selected.map (·.id) == some id := by
  rw [layout, List.map_map, List.map_map]
  refine List.map_congr_left fun item _ => ?_
  show isSelected selected item = (selected.map (·.id) == some item.id)
  cases selected with
  | none => rfl
  | some chosen =>
      show (item.id == chosen.id) = (chosen.id == item.id)
      exact Bool.beq_comm

/-- What observers are told of the selection when the items are replaced. -/
def Change.selectionChanged? : Change → Option Bool
  | .itemsUpdated selectionChanged => some selectionChanged
  | _ => none

/-- Sources that pick the same action for all items with an identifier, whatever the items
say and whatever was asked before. -/
def DataSource.PickAlike {α μ κ : Type} (s t : DataSource α μ κ) : Prop :=
  ∃ pick : String → Option Action, ∀ past item,
    s.action past item = pick item.id ∧ t.action past item = pick item.id

/-- Events that are the same but for the items that they bring. -/
inductive Event.Akin : Event → Event → Prop where
  | same (event : Event) : Akin event event
  | updateItems (items others : List Item) : Akin (.updateItems items) (.updateItems others)

namespace Navigator

variable {α μ κ : Type}

/-! ## Counterparts -/

/-- Navigators with the same identifiers. -/
structure Counterparts (n m : Navigator α μ κ) : Prop where
  ids : n.items.map (·.id) = m.items.map (·.id)
  selectedId : n.tabs.selectedId? = m.tabs.selectedId?
  visibility : n.visibility = m.visibility
  observers : n.tabs.observers = m.tabs.observers
  query : n.search.query = m.search.query
  sources : Option.Rel DataSource.PickAlike n.source m.source

/-- The identifiers of the items that an event brings. -/
def idsBrought? (n : Navigator α μ κ) (event : Event) : Option (List String) :=
  (n.itemsBrought? event).map fun brought => brought.1.map (·.id)

/-- Moments of two runs with events that are the same, and bring the same identifiers if
they bring items. -/
structure SameInput (a b : Navigator α μ κ × Event) : Prop where
  akin : a.2.Akin b.2
  brought : a.1.idsBrought? a.2 = b.1.idsBrought? b.2

theorem idsBrought?_eq_some_iff {n : Navigator α μ κ} {event : Event} {ids : List String} :
    n.idsBrought? event = some ids ↔
      ∃ items asked, n.itemsBrought? event = some (items, asked) ∧ items.map (·.id) = ids := by
  rw [idsBrought?, Option.map_eq_some_iff, Prod.exists]

theorem Counterparts.find?_none {n m : Navigator α μ κ} (h : n.Counterparts m) {id : String}
    (habsent : n.tabs.find? id = none) : m.tabs.find? id = none := by
  rw [Tabs.find?, Item.find?_eq_none_iff] at habsent ⊢
  exact h.ids ▸ habsent

theorem Counterparts.visibilityAsked? {n m : Navigator α μ κ} (h : n.Counterparts m)
    (event : Event) : n.visibilityAsked? event = m.visibilityAsked? event := by
  cases event with
  | toggleVisibility now => rw [Navigator.visibilityAsked?, h.visibility]; rfl
  | _ => rfl

theorem Counterparts.defaultAction {n m : Navigator α μ κ} (h : n.Counterparts m)
    {item other : Item} (hid : item.id = other.id) :
    n.defaultAction item = m.defaultAction other := by
  have hbyTable : Action.byTable item = .byTable other := by
    rw [Action.byTable, Action.byTable, hid]
  have hsources := h.sources
  rw [Navigator.defaultAction, Navigator.defaultAction, hbyTable]
  generalize n.source = s, m.source = t at hsources ⊢
  cases hsources with
  | none => rfl
  | some halike =>
      obtain ⟨pick, hpicks⟩ := halike
      rw [Option.bind_some, Option.bind_some, (hpicks n.past item).1, (hpicks m.past other).2,
        hid]

theorem query_refreshedSearch (search : Search) (items : List Item) :
    (refreshedSearch search items).query = search.query := by
  rw [refreshedSearch]
  split <;> rfl

/-- Whether the selection changes with the items is a matter of identifiers. -/
theorem selectionChanged?_changeOwed? (n : Navigator α μ κ) (event : Event) :
    (n.changeOwed? event).bind Change.selectionChanged? =
      (n.idsBrought? event).map fun ids => n.tabs.selectedId? != keptId n.tabs.selectedId? ids := by
  have hreplaced : ∀ items : List Item,
      (n.tabs.replaceItems items).change.selectionChanged? =
        some (n.tabs.selectedId? != keptId n.tabs.selectedId? (items.map (·.id))) :=
    fun items => congrArg (fun id => some (n.tabs.selectedId? != id))
      (n.tabs.selectedId?_replaceItems items)
  cases event with
  | updateItems items => exact hreplaced items
  | reloadItems =>
      rw [changeOwed?, idsBrought?, itemsBrought?]
      cases n.source with
      | none => rfl
      | some source => exact hreplaced (source.items n.past)
  | select id =>
      show ((n.tabs.find? id).map Change.selected).bind _ = none
      cases n.tabs.find? id <;> rfl
  | _ => rfl

variable [Scalar α]

/-! ## Steps -/

/-- What an event does to a navigator, its counterpart event does to a counterpart. -/
theorem Step.counterpart {n m : Navigator α μ κ} {event other : Event} {o : Outcome α μ κ}
    (h : Step n event o) (hsame : n.Counterparts m) (hinput : SameInput (n, event) (m, other)) :
    ∃ o', Step m other o' ∧ o.effect = o'.effect ∧ o.after.Counterparts o'.after := by
  obtain ⟨hakin, hbrought⟩ := hinput
  simp only at hakin hbrought
  cases h with
  | unknownTab hnames habsent =>
      cases hakin with
      | same => exact ⟨_, .unknownTab hnames (hsame.find?_none habsent), rfl, hsame⟩
      | updateItems => cases hnames
  | selected hfound =>
      cases hakin
      obtain ⟨item, hfound', hid⟩ := Item.find?_of_ids hsame.ids hfound
      refine ⟨_, .selected hfound', rfl, { hsame with selectedId := ?_ }⟩
      exact congrArg some hid.symm
  | performed hfound =>
      cases hakin
      obtain ⟨item, hfound', -⟩ := Item.find?_of_ids hsame.ids hfound
      exact ⟨_, .performed hfound', rfl, hsame⟩
  | @performedDefault id _ hfound =>
      cases hakin
      obtain ⟨item, hfound', hid'⟩ := Item.find?_of_ids hsame.ids hfound
      refine ⟨_, .performedDefault hfound', ?_, hsame⟩
      exact congrArg (fun action => some (Effect.actionPerformed action id))
        (hsame.defaultAction hid'.symm)
  | @visibilityKept now =>
      cases hakin
      rw [hsame.visibility]
      exact ⟨_, .visibilityKept, rfl, hsame⟩
  | visibilityChanged hasked hchanges =>
      cases hakin with
      | updateItems => cases hasked
      | same =>
          rw [hsame.visibilityAsked?] at hasked
          rw [hsame.visibility] at hchanges
          exact ⟨_, .visibilityChanged hasked hchanges, rfl, { hsame with visibility := rfl }⟩
  | @itemsReplaced _ items _ hitemsBrought =>
      have hids : n.idsBrought? event = some (items.map (·.id)) :=
        idsBrought?_eq_some_iff.mpr ⟨items, _, hitemsBrought, rfl⟩
      rw [hbrought, idsBrought?_eq_some_iff] at hids
      obtain ⟨others, asked, hothers, hids⟩ := hids
      have hselectedId : (n.tabs.replaceItems items).tabs.selectedId? =
          (m.tabs.replaceItems others).tabs.selectedId? := by
        rw [Tabs.selectedId?_replaceItems, Tabs.selectedId?_replaceItems, hsame.selectedId, hids]
      refine ⟨_, .itemsReplaced hothers, congrArg (some ∘ Effect.itemsUpdated) hselectedId,
        { hsame with ids := hids.symm, selectedId := hselectedId, query := ?_ }⟩
      show (refreshedSearch n.search items).query = (refreshedSearch m.search others).query
      rw [query_refreshedSearch, query_refreshedSearch, hsame.query]
  | noSource habsent =>
      cases hakin
      have hsources := hsame.sources
      rw [habsent] at hsources
      cases hnone : m.source with
      | none => exact ⟨_, .noSource hnone, rfl, hsame⟩
      | some source => rw [hnone] at hsources; cases hsources
  | queryChanged =>
      cases hakin
      exact ⟨_, .queryChanged, rfl, { hsame with query := rfl }⟩
  | nothingToSubmit hempty =>
      cases hakin
      rw [hsame.query] at hempty
      exact ⟨_, .nothingToSubmit hempty, rfl, hsame⟩
  | submitted hne =>
      cases hakin
      rw [hsame.query] at hne
      exact ⟨_, .submitted hne, congrArg (some ∘ Effect.searched) hsame.query,
        { hsame with query := hsame.query }⟩
  | searchCleared =>
      cases hakin
      exact ⟨_, .searchCleared, rfl, { hsame with query := rfl }⟩
  | emptySuggestion =>
      cases hakin
      exact ⟨_, .emptySuggestion, rfl, { hsame with query := rfl }⟩
  | suggestionSubmitted hne =>
      cases hakin
      exact ⟨_, .suggestionSubmitted hne, rfl, { hsame with query := rfl }⟩
  | ticked =>
      cases hakin
      exact ⟨_, .ticked, rfl, { hsame with visibility := hsame.visibility }⟩

theorem Counterparts.reduce {n m : Navigator α μ κ} (h : n.Counterparts m)
    {event other : Event} (hinput : SameInput (n, event) (m, other)) :
    (n.reduce event).effect = (m.reduce other).effect ∧
      (n.reduce event).after.Counterparts (m.reduce other).after := by
  obtain ⟨o, hstep, heffect, hafter⟩ := (n.act_step event).counterpart h hinput
  rw [Navigator.reduce, Navigator.reduce, hstep.eq_act]
  exact ⟨heffect, { hafter with ids := hafter.ids }⟩

/-- Of the selection, observers are told the same. -/
theorem Counterparts.flags {n m : Navigator α μ κ} (h : n.Counterparts m)
    {event other : Event} (hinput : SameInput (n, event) (m, other)) {observer : Nat}
    (hsubscribed : observer < n.tabs.observers) :
    ((n.reduce event).journal.changesFor observer).filterMap Change.selectionChanged? =
      ((m.reduce other).journal.changesFor observer).filterMap Change.selectionChanged? := by
  have hflags : ∀ (w : Navigator α μ κ) (e : Event), observer < w.tabs.observers →
      ((w.reduce e).journal.changesFor observer).filterMap Change.selectionChanged? =
        ((w.changeOwed? e).bind Change.selectionChanged?).toList := by
    intro w e hsubscribed
    show ((w.act e).journal.changesFor observer).filterMap _ = _
    rw [(w.act_step e).changesFor hsubscribed]
    cases w.changeOwed? e with
    | none => rfl
    | some change => cases change <;> rfl
  rw [hflags n event hsubscribed, hflags m other (h.observers ▸ hsubscribed),
    selectionChanged?_changeOwed?, selectionChanged?_changeOwed?, hinput.brought, h.selectedId]

/-! ## Runs -/

/-- Counterparts that meet the same input are counterparts at every moment. -/
theorem Counterparts.moments {n m : Navigator α μ κ} (h : n.Counterparts m)
    {events others : List Event}
    (hinput : List.Forall₂ SameInput (n.moments events) (m.moments others)) :
    List.Forall₂
      (fun a b => a.1.Counterparts b.1 ∧ SameInput a b ∧ a.1.tabs.observers = n.tabs.observers)
      (n.moments events) (m.moments others) := by
  have hkeeps : ∀ (w : Navigator α μ κ) (event : Event), w.tabs.observers = n.tabs.observers →
      (w.reduce event).after.tabs.observers = n.tabs.observers :=
    fun w event hsame => (w.act_step event).observers.trans hsame
  have hobservers : ∀ a ∈ n.moments events, a.1.tabs.observers = n.tabs.observers :=
    fun _ => mem_moments_of_step hkeeps rfl
  clear hkeeps
  generalize n.tabs.observers = count at hobservers ⊢
  induction events generalizing n m others with
  | nil =>
      cases others with
      | nil => exact .nil
      | cons => cases hinput
  | cons event rest ih =>
      cases others with
      | nil => cases hinput
      | cons other others =>
          obtain ⟨hnow, hlater⟩ := List.forall₂_cons.mp hinput
          obtain ⟨hhere, hthere⟩ := List.forall_mem_cons.mp hobservers
          exact .cons ⟨h, hnow, hhere⟩ (ih (h.reduce hnow).2 hlater hthere)

theorem Counterparts.run_take {n m : Navigator α μ κ} (h : n.Counterparts m)
    {events others : List Event}
    (hinput : List.Forall₂ SameInput (n.moments events) (m.moments others)) (k : Nat) :
    (n.run (events.take k)).Counterparts (m.run (others.take k)) := by
  induction k generalizing n m events others with
  | zero => exact h
  | succ k ih =>
      cases events with
      | nil =>
          cases others with
          | nil => exact h
          | cons => cases hinput
      | cons event rest =>
          cases others with
          | nil => cases hinput
          | cons other others =>
              obtain ⟨hnow, hlater⟩ := List.forall₂_cons.mp hinput
              exact ih (h.reduce hnow).2 hlater

/-- What is the same of moments that correspond is the same of the runs. -/
theorem map_outcomes_congr {β : Type} {n m : Navigator α μ κ} {events others : List Event}
    {f : Outcome α μ κ → β}
    (hsame : List.Forall₂ (fun a b => f (a.1.reduce a.2) = f (b.1.reduce b.2))
      (n.moments events) (m.moments others)) :
    (n.outcomes events).map f = (m.outcomes others).map f := by
  rw [outcomes_eq_map_moments, outcomes_eq_map_moments, List.map_map, List.map_map,
    ← List.forall₂_eq_eq_eq, List.forall₂_map_left_iff, List.forall₂_map_right_iff]
  exact hsame

/-- Two navigators are counterparts, and their events differ, one by one, at most in what
else is said by the items that they bring or that the sources return. Then all effects are
the same, the observers are told the same of whether the selection changes, and after every
number of events the selections have the same identifier and the strips mark the same
places. -/
theorem selection_by_ids {n m : Navigator α μ κ} (hsame : n.Counterparts m)
    {events others : List Event}
    (hinput : List.Forall₂ SameInput (n.moments events) (m.moments others)) :
    (n.outcomes events).map (·.effect) = (m.outcomes others).map (·.effect) ∧
    (∀ observer < n.tabs.observers,
      (n.outcomes events).map
          (fun o => (o.journal.changesFor observer).filterMap Change.selectionChanged?) =
        (m.outcomes others).map
          (fun o => (o.journal.changesFor observer).filterMap Change.selectionChanged?)) ∧
    ∀ k,
      let a := n.run (events.take k)
      let b := m.run (others.take k)
      a.tabs.selectedId? = b.tabs.selectedId? ∧
      a.stripLayout.entries.map (·.isSelected) =
        b.stripLayout.entries.map (·.isSelected) := by
  have hmoments := hsame.moments hinput
  refine ⟨?effects, ?flags, ?selection⟩
  case effects =>
    exact map_outcomes_congr (hmoments.imp fun a b h => (h.1.reduce h.2.1).1)
  case flags =>
    intro observer hsubscribed
    refine map_outcomes_congr (hmoments.imp fun a b h => ?_)
    obtain ⟨hsame, hinput, hobservers⟩ := h
    exact hsame.flags hinput (hobservers ▸ hsubscribed)
  case selection =>
    intro k a b
    have hnow : a.Counterparts b := hsame.run_take hinput k
    refine ⟨hnow.selectedId, ?_⟩
    rw [stripLayout, stripLayout, Style.marks_layout, Style.marks_layout, hnow.ids]
    exact congrArg (fun selected => (b.items.map (·.id)).map fun id => selected == some id)
      hnow.selectedId

/-- Two sources list a tab twice, and one of them has renamed and rerouted everything. -/
theorem selection_by_ids_of_renamed_tabs :
    let renamed (item : Item) : Item :=
      { id := item.id, title := some "Renamed", route := "app://settings", modal := some true }
    let items := [Item.home, Item.search, Item.home]
    let n : Navigator Rat Unit Unit := ((standard 0).withDataSource (.fixed items)).subscribe
    let m : Navigator Rat Unit Unit :=
      ((standard 0).withDataSource (.fixed (items.map renamed))).subscribe
    let events : List Event :=
      [.select "search", .performDefaultAction "search", .updateItems [Item.profile, Item.home],
        .reloadItems, .select "home"]
    let others : List Event :=
      [.select "search", .performDefaultAction "search",
        .updateItems [renamed Item.profile, renamed Item.home], .reloadItems, .select "home"]
    n.Counterparts m ∧ List.Forall₂ SameInput (n.moments events) (m.moments others) ∧
    0 < n.tabs.observers ∧
    (m.outcomes others).map (·.effect) =
      [some (.selected "search"), some (.actionPerformed .present "search"),
        some (.itemsUpdated (some "profile")), some (.itemsUpdated (some "home")),
        some (.selected "home")] ∧
    (m.outcomes others).map
        (fun o => (o.journal.changesFor 0).filterMap Change.selectionChanged?) =
      [[], [], [true], [true], []] ∧
    (m.run others).stripLayout.entries.map (·.isSelected) = [true, false, true] := by
  intro renamed items n m events others
  have hsame : n.Counterparts m :=
    ⟨rfl, rfl, rfl, rfl, rfl,
      .some ⟨fun id => some (.byTable { id }), fun _ _ => ⟨rfl, rfl⟩⟩⟩
  have hinput : List.Forall₂ SameInput (n.moments events) (m.moments others) :=
    .cons ⟨.same _, rfl⟩ <| .cons ⟨.same _, rfl⟩ <| .cons ⟨.updateItems _ _, rfl⟩ <|
      .cons ⟨.same _, rfl⟩ <| .cons ⟨.same _, rfl⟩ .nil
  obtain ⟨heffects, hflags, hselection⟩ := selection_by_ids hsame hinput
  refine ⟨hsame, hinput, by decide, ?_, ?_, ?_⟩
  · rw [← heffects]
    rfl
  · rw [← hflags 0 (by decide)]
    rfl
  · refine ((hselection 5).2.symm.trans ?_)
    rfl

end Navigator

end TabNavigator
