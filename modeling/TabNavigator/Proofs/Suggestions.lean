import TabNavigator.Proofs.Step

/-!
# Suggestions are never stale

The suggestions are worked out when the query changes and kept from then on, but they
depend on two things: the query and the items. Of the events that write the query each
works them out anew, or has none to work out. Those that write the items do so only if
there is a query, and that is enough, because an empty query has no suggestions among any
items. What the three fields of a search have to do with each other is `UpToDate`: the
suggestions are those of the query among the items, they make the search active, and only
a search with a query is active.

The one thing that breaks it is a source that is attached while there is a query: its
items come in, and the search is not told. Before the first event there is no query, so
whatever a navigator is fitted out with, its suggestions are right after every run.
Attached later, a source leaves suggestions that were right once, and of those it can
still be said that none of them is empty (`Reachable.suggestions_once`).
-/

namespace TabNavigator

namespace Search

theorem suggest_of_empty (items : List Item) : suggest items "" = [] := rfl

theorem suggest_of_nonempty {query : String} (hne : query ≠ "") (items : List Item) :
    suggest items query = (allMatches items query).take maxSuggestions := by
  have h : query.isEmpty = false := by simpa using hne
  rw [suggest, h]
  rfl

theorem length_suggest_le (items : List Item) (query : String) :
    (suggest items query).length ≤ maxSuggestions := by
  by_cases h : query = ""
  · rw [h, suggest_of_empty]
    exact Nat.zero_le _
  · rw [suggest_of_nonempty h]
    exact List.length_take_le _ _

theorem mem_allMatches_iff {items : List Item} {query title : String} :
    title ∈ allMatches items query ↔
      (∃ item ∈ items, item.title = some title) ∧ finds query title = true := by
  rw [allMatches, List.mem_filter, List.mem_filterMap]

/-- A suggestion is the title of an item, and only a query that is not empty finds it. -/
theorem of_mem_suggest {items : List Item} {query title : String}
    (hmem : title ∈ suggest items query) :
    query ≠ "" ∧ (∃ item ∈ items, item.title = some title) ∧ finds query title = true := by
  by_cases h : query = ""
  · rw [h, suggest_of_empty] at hmem
    cases hmem
  · rw [suggest_of_nonempty h] at hmem
    exact ⟨h, mem_allMatches_iff.mp (List.mem_of_mem_take hmem)⟩

/-- Lowering empties no query, so a title in which one is found is not empty either. -/
theorem ne_empty_of_finds {query title : String} (hne : query ≠ "")
    (hfound : finds query title = true) : title ≠ "" := by
  intro hempty
  have hquery : query.toList ≠ [] := by simpa using hne
  have hlower : Text.lower query.toList = [] := by
    rw [finds, Text.occursIn_iff, hempty] at hfound
    exact List.infix_nil.mp hfound
  exact Text.lower_ne_nil hquery hlower

theorem ne_empty_of_mem_suggest {items : List Item} {query title : String}
    (hmem : title ∈ suggest items query) : title ≠ "" := by
  obtain ⟨hne, -, hfound⟩ := of_mem_suggest hmem
  exact ne_empty_of_finds hne hfound

/-- A search whose suggestions are those of its query among some items, and that is active
if it has any. It can also be active without any, but not without a query. -/
structure UpToDate (search : Search) (items : List Item) : Prop where
  suggested : search.suggestions = suggest items search.query
  active_of_suggestions : search.suggestions ≠ [] → search.active = true
  query_of_active : search.active = true → search.query ≠ ""

/-! ## What writes a search -/

theorem ofOptions_upToDate (options : SearchOptions) (items : List Item) :
    (ofOptions options).UpToDate items where
  suggested := rfl
  active_of_suggestions := fun hne => absurd rfl hne
  query_of_active := fun hactive => by cases hactive

theorem clear_upToDate (search : Search) (items : List Item) :
    search.clear.UpToDate items where
  suggested := rfl
  active_of_suggestions := fun hne => absurd rfl hne
  query_of_active := fun hactive => by cases hactive

theorem setQuery_upToDate (search : Search) (query : String) (items : List Item) :
    (search.setQuery query items).UpToDate items where
  suggested := rfl
  active_of_suggestions := by
    intro hne
    show (!(suggest items query).isEmpty) = true
    rw [Bool.not_eq_true', List.isEmpty_eq_false_iff]
    exact hne
  query_of_active := by
    intro hactive
    have hne : suggest items query ≠ [] := by
      intro hnone
      rw [setQuery, hnone] at hactive
      cases hactive
    obtain ⟨title, hmem⟩ := List.exists_mem_of_ne_nil _ hne
    exact (of_mem_suggest hmem).1

theorem UpToDate.activated {search : Search} {items : List Item}
    (h : search.UpToDate items) (hne : search.query ≠ "") :
    UpToDate { search with active := true } items where
  suggested := h.suggested
  active_of_suggestions := fun _ => rfl
  query_of_active := fun _ => hne

/-- New items: an empty query is not asked again, and need not be. -/
theorem UpToDate.refreshed {search : Search} {items : List Item} (h : search.UpToDate items)
    (others : List Item) : (Navigator.refreshedSearch search others).UpToDate others := by
  rw [Navigator.refreshedSearch]
  split
  · next hempty =>
      have hquery : search.query = "" := by simpa using hempty
      refine ⟨?_, h.active_of_suggestions, h.query_of_active⟩
      rw [h.suggested, hquery, suggest_of_empty, suggest_of_empty]
  · exact setQuery_upToDate search search.query others

end Search

namespace Navigator

variable {α μ κ : Type} [Scalar α]

/-! ## Steps and runs -/

theorem Step.search_upToDate {n : Navigator α μ κ} {event : Event} {o : Outcome α μ κ}
    (h : Step n event o) (hbefore : n.search.UpToDate n.items) :
    o.after.search.UpToDate o.after.items := by
  cases h with
  | itemsReplaced => exact hbefore.refreshed _
  | queryChanged => exact Search.setQuery_upToDate _ _ _
  | emptySuggestion => exact Search.setQuery_upToDate _ _ _
  | submitted hne => exact hbefore.activated hne
  | suggestionSubmitted hne =>
      exact (Search.setQuery_upToDate _ _ _).activated hne
  | searchCleared => exact Search.clear_upToDate _ _
  -- No other event writes the items or the search.
  | _ => exact hbefore

/-- Before the first event the query is empty, and suits all items that are taken. -/
theorem Fitted.search {n : Navigator α μ κ} (h : Fitted n) :
    ∃ options, n.search = .ofOptions options := by
  induction h with
  | mounted hm =>
      obtain ⟨c, now, rfl⟩ := hm.exists_configuration
      exact ⟨c.search, rfl⟩
  | style | palette | delegate | source | subscribe | calls => assumption

theorem Fitted.search_upToDate {n : Navigator α μ κ} (h : Fitted n) :
    n.search.UpToDate n.items := by
  obtain ⟨options, hsearch⟩ := h.search
  rw [hsearch]
  exact Search.ofOptions_upToDate options n.items

theorem Fitted.run_search_upToDate {n : Navigator α μ κ} (h : Fitted n)
    (events : List Event) : (n.run events).search.UpToDate (n.run events).items :=
  run_of_step (P := fun w => w.search.UpToDate w.items)
    (fun w event hbefore => (w.act_step event).search_upToDate hbefore) h.search_upToDate events

theorem Step.suggestions_once {n : Navigator α μ κ} {event : Event} {o : Outcome α μ κ}
    (h : Step n event o)
    (hbefore : ∃ items query, n.search.suggestions = Search.suggest items query) :
    ∃ items query, o.after.search.suggestions = Search.suggest items query := by
  cases h with
  | @itemsReplaced _ items =>
      show ∃ items' query,
        (refreshedSearch n.search items).suggestions = Search.suggest items' query
      rw [refreshedSearch]
      split
      · exact hbefore
      · exact ⟨items, n.search.query, rfl⟩
  | @queryChanged query => exact ⟨n.items, query, rfl⟩
  | emptySuggestion => exact ⟨n.items, "", rfl⟩
  | @suggestionSubmitted suggestion => exact ⟨n.items, suggestion, rfl⟩
  | searchCleared => exact ⟨[], "", rfl⟩
  | _ => exact hbefore

/-- However it is reached, also if sources were attached on the way: the suggestions are
those of some query among some items. -/
theorem Reachable.suggestions_once {n : Navigator α μ κ} (h : Reachable n) :
    ∃ items query, n.search.suggestions = Search.suggest items query := by
  induction h with
  | mounted hm =>
      obtain ⟨c, now, rfl⟩ := hm.exists_configuration
      exact ⟨[], "", rfl⟩
  | @reduce n event _ ih => exact (n.act_step event).suggestions_once ih
  | style | palette | delegate | source | subscribe | calls => assumption

/-- A navigator that was mounted and fitted out in whatever way reduces any events. Its
suggestions are then those of its query among its items: at most five, each of them the
title of an item. If there are any, the search is active, and if the search is active,
there is a query. -/
theorem suggestions_of_run {n : Navigator α μ κ} (h : Fitted n) (events : List Event) :
    let m := n.run events
    m.search.suggestions = Search.suggest m.items m.search.query ∧
    m.search.suggestions.length ≤ 5 ∧
    (∀ title ∈ m.search.suggestions, ∃ item ∈ m.items, item.title = some title) ∧
    (m.search.suggestions ≠ [] → m.search.active = true) ∧
    (m.search.active = true → m.search.query ≠ "") := by
  intro m
  have hkeeps : ∀ (w : Navigator α μ κ) event, w.search.UpToDate w.items →
      (w.reduce event).after.search.UpToDate (w.reduce event).after.items :=
    fun w event hbefore => (w.act_step event).search_upToDate hbefore
  have hnow : m.search.UpToDate m.items := run_of_step hkeeps h.search_upToDate events
  refine ⟨hnow.suggested, ?_, ?_, hnow.active_of_suggestions, hnow.query_of_active⟩
  · rw [hnow.suggested]
    exact Search.length_suggest_le m.items m.search.query
  · intro title hmem
    rw [hnow.suggested] at hmem
    exact (Search.of_mem_suggest hmem).2.1

/-- Items that come in under a query are searched at once, also when the source is asked
for them again and has others by then. -/
theorem suggestions_of_reloaded_items :
    let source : DataSource Rat Unit Unit :=
      { items := fun past => if past = [] then [Item.home] else [Item.profile, Item.home] }
    let n : Navigator Rat Unit Unit := (standard 0).withDataSource source
    let m := n.run [.searchChanged "O", .reloadItems]
    Fitted n ∧ n.items = [Item.home] ∧ m.search.query = "O" ∧
    m.search.suggestions = ["Profile", "Home"] ∧
    (∀ title ∈ m.search.suggestions, ∃ item ∈ m.items, item.title = some title) ∧
    m.search.active = true := by
  intro source n m
  have hfitted : Fitted n := (Fitted.mounted (.standard 0)).source source
  obtain ⟨hsuggested, -, htitles, hactive, -⟩ :=
    suggestions_of_run hfitted [.searchChanged "O", .reloadItems]
  have hboth : m.search.suggestions = ["Profile", "Home"] := hsuggested.trans (by decide)
  have hne : m.search.suggestions ≠ [] := by
    rw [hboth]
    exact List.cons_ne_nil _ _
  exact ⟨hfitted, by decide, by decide, hboth, htitles, hactive hne⟩

end Navigator

end TabNavigator
