import TabNavigator.Proofs.Fading
import TabNavigator.Proofs.SearchBar
import TabNavigator.Proofs.Suggestions

/-!
# Every button does what it offers

The view and the events are separate: a view draws buttons from the state, and an event
may find that what it asks for is not there. That no button of the strip or the search bar
asks in vain is an agreement between the two. The strip is built from the items, and the
identifier of an item is found among the items, if not always with that item first. A
suggestion is never empty, so there is something to submit. And a search can be emptied at
any time.

Whether a button can be pressed at all is up to the strip: one that is drawn while it fades
out has its buttons, and all of them are disabled.
-/

namespace TabNavigator.Navigator

variable {α μ κ : Type} [Scalar α]

/-! ## Which buttons there are -/

theorem buttons_searchView (n : Navigator α μ κ) (lift : Event → μ) :
    (n.searchView lift).flatMap Element.buttons =
      if n.search.enabled then n.search.offers.map fun event => some (lift event)
      else [] := by
  rw [searchView]
  split
  · rw [List.flatMap_singleton, View.buttons_searchBar]
  · rfl

/-! ## What comes of pressing them -/

theorem reduce_select {n : Navigator α μ κ} {item : Item} (hmem : item ∈ n.items) :
    (n.reduce (.select item.id)).effect = some (.selected item.id) ∧
      (n.reduce (.select item.id)).after.tabs.selectedId? = some item.id := by
  obtain ⟨first, hfound⟩ := Item.exists_find?_of_mem hmem
  have hact := (Step.selected (n := n) hfound).eq_act
  have hsame : first.id = item.id := Item.id_of_find? hfound
  refine ⟨?_, ?_⟩
  · rw [reduce_effect, hact]
  · show (n.act (.select item.id)).after.tabs.selectedId? = some item.id
    rw [hact, Tabs.selectedId?, Option.map_some, hsame]

theorem reduce_suggestionSelected (n : Navigator α μ κ) {suggestion : String}
    (hne : suggestion ≠ "") :
    (n.reduce (.suggestionSelected suggestion)).effect = some (.searched suggestion) ∧
      (n.reduce (.suggestionSelected suggestion)).after.search.query = suggestion := by
  have hact := (Step.suggestionSubmitted (n := n) hne).eq_act
  refine ⟨?_, ?_⟩
  · rw [reduce_effect, hact]
  · show (n.act (.suggestionSelected suggestion)).after.search.query = suggestion
    rw [hact]
    rfl

/-- A search that has been emptied offers nothing. -/
theorem reduce_searchCleared (n : Navigator α μ κ) :
    (n.reduce .searchCleared).effect = some .searchCleared ∧
      (n.reduce .searchCleared).after.search.offers = [] :=
  ⟨rfl, rfl⟩

theorem Reachable.ne_empty_of_mem_suggestions {n : Navigator α μ κ} (h : Reachable n)
    {suggestion : String} (hmem : suggestion ∈ n.search.suggestions) : suggestion ≠ "" := by
  obtain ⟨items, query, honce⟩ := h.suggestions_once
  rw [honce] at hmem
  exact Search.ne_empty_of_mem_suggest hmem

theorem Reachable.effect_of_mem_offers {n : Navigator α μ κ} (h : Reachable n)
    {event : Event} (hmem : event ∈ n.search.offers) :
    ∃ effect, (n.reduce event).effect = some effect := by
  rw [Search.offers, List.mem_append] at hmem
  rcases hmem with hclear | hsuggestion
  · split at hclear
    · cases hclear
    · cases List.mem_singleton.mp hclear
      exact ⟨_, n.reduce_searchCleared.1⟩
  · split at hsuggestion
    · obtain ⟨s, hmem, rfl⟩ := List.mem_map.mp hsuggestion
      have hne := h.ne_empty_of_mem_suggestions hmem
      exact ⟨_, (n.reduce_suggestionSelected hne).1⟩
    · cases hsuggestion

/-- The buttons of a strip that is drawn are those of its items, and they can be pressed as
long as it is visible. Those of the search bar are the one that empties the query, if there
is a query, and the suggestions, if the search is active. Whatever one of them sends has an
effect: an item is selected and is the selection from then on, a suggestion is searched for
and is the query from then on, and emptying the query leaves a search bar without buttons. -/
theorem offers_of_reachable {n : Navigator α μ κ} (h : Reachable n) (lift : Event → μ)
    (mount : Controller κ → Element α μ) :
    (n.view lift mount).1 = .column (n.searchView lift ++
      [View.page n.palette (n.contentView mount n.activeContent), n.stripView lift]) ∧
    (n.stripView lift).buttons =
      (if n.stripIsGone then []
      else n.items.map fun item =>
        if n.visibility.isVisible then some (lift (.select item.id)) else none) ∧
    (n.searchView lift).flatMap Element.buttons =
      (if n.search.enabled then
        (if n.search.query = "" then [] else [some (lift .searchCleared)])
          ++ (if n.search.active then
                n.search.suggestions.map fun s => some (lift (.suggestionSelected s))
              else [])
      else []) ∧
    (∀ message, some message ∈
        (n.searchView lift).flatMap Element.buttons ++ (n.stripView lift).buttons →
      ∃ event effect, message = lift event ∧ (n.reduce event).effect = some effect) ∧
    (∀ item ∈ n.items,
      (n.reduce (.select item.id)).effect = some (.selected item.id) ∧
      (n.reduce (.select item.id)).after.tabs.selectedId? = some item.id) ∧
    (∀ s ∈ n.search.suggestions, s ≠ "" ∧
      (n.reduce (.suggestionSelected s)).effect = some (.searched s) ∧
      (n.reduce (.suggestionSelected s)).after.search.query = s) ∧
    (n.reduce .searchCleared).effect = some .searchCleared ∧
    ((n.reduce .searchCleared).after.searchView lift).flatMap Element.buttons = [] := by
  refine ⟨n.view_eq lift mount, n.buttons_stripView lift, ?search, ?honoured,
    fun item hmem => reduce_select hmem, ?suggestions, n.reduce_searchCleared.1, ?cleared⟩
  case search =>
    have hempty : n.search.query.isEmpty = true ↔ n.search.query = "" := by simp
    rw [buttons_searchView, Search.offers, List.map_append]
    simp only [hempty, apply_ite (List.map _), List.map_map, List.map_nil, List.map_cons]
    rfl
  case honoured =>
    intro message hmem
    rw [buttons_searchView, buttons_stripView, List.mem_append] at hmem
    rcases hmem with hsearched | hselected
    · split at hsearched
      · obtain ⟨event, hoffered, hsends⟩ := List.mem_map.mp hsearched
        cases hsends
        obtain ⟨effect, he⟩ := h.effect_of_mem_offers hoffered
        exact ⟨event, effect, rfl, he⟩
      · cases hsearched
    · split at hselected
      · cases hselected
      -- The identifier of an item is found, if not always with that item first.
      · obtain ⟨item, hmem, hsends⟩ := List.mem_map.mp hselected
        split at hsends
        · cases hsends
          exact ⟨_, _, rfl, (reduce_select hmem).1⟩
        · cases hsends
  case suggestions =>
    intro s hmem
    have hne := h.ne_empty_of_mem_suggestions hmem
    exact ⟨hne, n.reduce_suggestionSelected hne⟩
  case cleared =>
    rw [buttons_searchView, n.reduce_searchCleared.2]
    split <;> rfl

/-- Two tabs of one identifier and one with none, under a decorated strip that is shown
again half-way through hiding. -/
theorem offers_of_repeated_tab :
    let items : List Item :=
      [{ id := "a", title := some "Ant" }, { id := "", title := none },
        { id := "a", title := some "Bat" }]
    let c : Configuration :=
      { Configuration.standard with items, selected := none, search := { enabled := true } }
    let n : Navigator Rat Event Unit :=
      ((mount c 0).withStyle ((Style.ofKind .compact).decorate (.padding 4 4))).run
        [.setVisibility .hidden 0, .toggleVisibility 150000000, .searchChanged "A"]
    Reachable n ∧ n.isAnimating = true ∧
    (n.stripView id).buttons =
      [some (.select "a"), some (.select ""), some (.select "a")] ∧
    (n.searchView id).flatMap Element.buttons =
      [some .searchCleared, some (.suggestionSelected "Ant"),
        some (.suggestionSelected "Bat")] ∧
    (n.reduce (.select "")).effect = some (.selected "") ∧
    (n.reduce (.suggestionSelected "Bat")).effect = some (.searched "Bat") := by
  intro items c n
  have h : Reachable n := ((Reachable.mounted (.configuration c 0)).style _).run _
  obtain ⟨-, hstrip, hsearch, -, hselect, hsuggestion, -⟩ :=
    offers_of_reachable h id fun _ => .space
  refine ⟨h, by decide +kernel, hstrip.trans (by decide +kernel), hsearch.trans (by decide),
    ?_, ?_⟩
  · exact (hselect { id := "", title := none } (by decide)).1
  · exact (hsuggestion "Bat" (by decide)).2.1

end TabNavigator.Navigator
