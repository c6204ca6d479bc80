import TabNavigator.Proofs.Identity
import TabNavigator.Proofs.Selection
import TabNavigator.Proofs.Suggestions

/-!
# Replacing the items

Items are replaced in one place, and what becomes of the selection is decided there by
identifier alone. The first part of this file says what the replacement promises about tabs
in any state whatever, also with a selection that is none of the items, as selecting an item
may leave behind: nothing is asked of the state before, because the rule by which the
selection is kept (`keepOrFirst`) repairs every selection that does not fit the new items.
A selection that fits is left as it is (`keepOrFirst_of_selectedFrom`), which is why the same
items a second time change nothing and are reported as no change of the selection.

A source has its items taken in two ways: when it is attached, and when a navigator that has
it is told to reload. Both replace the items, and both make the same calls and tell the
observers the same. The second also asks the query again among the new items, and the first
does not. The two differ in the search and in nothing else, and they do differ as soon as
there is a query whose suggestions among the new items are others than those it had, or that
was submitted without any.
-/

namespace TabNavigator

open Tabs (keepOrFirst)

/-! ## Tabs in any state -/

theorem keepOrFirst_of_selectedFrom {items : List Item} {selected : Option Item}
    (hfits : SelectedFrom items selected) : keepOrFirst selected items = selected := by
  cases selected with
  | none =>
      have hempty : items = [] := hfits
      rw [hempty]
      rfl
  | some item => exact if_pos hfits

namespace Tabs

theorem selectedId?_replaceItems_of_mem {tabs : Tabs} {items : List Item} {id : String}
    (hselected : tabs.selectedId? = some id) (hmem : id ∈ items.map (·.id)) :
    (tabs.replaceItems items).tabs.selectedId? = some id := by
  rw [selectedId?_replaceItems, hselected, keptId, if_pos hmem]

theorem selectedId?_replaceItems_of_gone {tabs : Tabs} {items : List Item}
    (hgone : ∀ id, tabs.selectedId? = some id → id ∉ items.map (·.id)) :
    (tabs.replaceItems items).tabs.selectedId? = items.head?.map (·.id) := by
  rw [selectedId?_replaceItems]
  cases hselected : tabs.selectedId? with
  | none => rw [keptId, List.head?_map]
  | some id => rw [keptId, if_neg (hgone id hselected), List.head?_map]

theorem selectedId?_replaceItems_mem {tabs : Tabs} {items : List Item} {id : String}
    (hselected : (tabs.replaceItems items).tabs.selectedId? = some id) :
    id ∈ items.map (·.id) := by
  have hfits : SelectedFrom items (keepOrFirst tabs.selected items) :=
    selectedFrom_keepOrFirst tabs.selected items
  obtain ⟨item, hkept, rfl⟩ := Option.map_eq_some_iff.mp hselected
  have hkept : keepOrFirst tabs.selected items = some item := hkept
  rw [hkept] at hfits
  obtain ⟨i, hmem, hsame⟩ := Item.isAmong_iff.mp hfits
  exact List.mem_map.mpr ⟨i, hmem, hsame⟩

theorem replaceItems_change (tabs : Tabs) (items : List Item) :
    (tabs.replaceItems items).change =
      .itemsUpdated (tabs.selectedId? != (tabs.replaceItems items).tabs.selectedId?) := rfl

theorem changesFor_replaceItems {tabs : Tabs} (items : List Item) {observer : Nat}
    (hsubscribed : observer < tabs.observers) :
    (tabs.replaceItems items).journal.changesFor observer =
      [(tabs.replaceItems items).change] := by
  rw [replaceItems, Journal.changesFor_logged, tellObservers,
    Journal.changesFor_tellObservers_of_lt hsubscribed]

theorem replaceItems_again (tabs : Tabs) (items : List Item) :
    ((tabs.replaceItems items).tabs.replaceItems items).tabs =
      (tabs.replaceItems items).tabs := by
  have hfits : SelectedFrom items (keepOrFirst tabs.selected items) :=
    selectedFrom_keepOrFirst tabs.selected items
  have hkept : keepOrFirst (keepOrFirst tabs.selected items) items =
      keepOrFirst tabs.selected items := keepOrFirst_of_selectedFrom hfits
  simp only [replaceItems, hkept]

/-- Tabs in any state get new items. The items are then these, and the identifier of the
selection is the one from before if one of them has it, and otherwise that of the first of
them, if there is one; so the selection is one of the new items, whether or not it was one of
the old. The change that is returned says whether the identifier is another than before, each
observer is told of it once, and the visibility is as it was. The same items again leave the
tabs as they are, and are no change of the selection. -/
theorem selection_of_replaced_items (tabs : Tabs) (items : List Item) :
    let update := tabs.replaceItems items
    let again := update.tabs.replaceItems items
    update.tabs.items = items ∧
    (∀ id, tabs.selectedId? = some id → id ∈ items.map (·.id) →
      update.tabs.selectedId? = some id) ∧
    ((∀ id, tabs.selectedId? = some id → id ∉ items.map (·.id)) →
      update.tabs.selectedId? = items.head?.map (·.id)) ∧
    (∀ id, update.tabs.selectedId? = some id → id ∈ items.map (·.id)) ∧
    (∃ changed, update.change = .itemsUpdated changed ∧
      (changed = true ↔ tabs.selectedId? ≠ update.tabs.selectedId?)) ∧
    (∀ observer < tabs.observers, update.journal.changesFor observer = [update.change]) ∧
    update.tabs.visibility = tabs.visibility ∧
    again.tabs = update.tabs ∧ again.change = .itemsUpdated false := by
  intro update again
  have hsame : again.tabs = update.tabs := replaceItems_again tabs items
  refine ⟨rfl, ?kept, ?first, ?member, ?changed, ?told, rfl, hsame, ?unchanged⟩
  case kept =>
    intro id hselected hmem
    exact selectedId?_replaceItems_of_mem hselected hmem
  case first => exact selectedId?_replaceItems_of_gone
  case member =>
    intro id hselected
    exact selectedId?_replaceItems_mem hselected
  case changed => exact ⟨_, replaceItems_change tabs items, bne_iff_ne⟩
  case told =>
    intro observer hsubscribed
    exact changesFor_replaceItems items hsubscribed
  case unchanged =>
    have hchange : again.change =
        .itemsUpdated (update.tabs.selectedId? != again.tabs.selectedId?) :=
      replaceItems_change update.tabs items
    rw [hchange, hsame, bne_self_eq_false]

/-- A selection that is none of the items is kept by items that have its tab, and replaced by
items that do not. -/
theorem selection_of_replaced_items_of_outsider :
    let tabs : Tabs :=
      ((make [Item.home] none .hidden).subscribe.select Item.settings
        (none : Option (Delegate Rat Unit Unit))).tabs
    let having := [Item.home, Item.settings, Item.home]
    let lacking := [Item.profile, Item.home]
    tabs.selectedId? = some "settings" ∧ 0 < tabs.observers ∧
    (tabs.replaceItems having).tabs.selectedId? = some "settings" ∧
    (tabs.replaceItems having).change = .itemsUpdated false ∧
    (tabs.replaceItems lacking).tabs.selectedId? = some "profile" ∧
    (tabs.replaceItems lacking).journal.changesFor 0 = [.itemsUpdated true] ∧
    ((tabs.replaceItems lacking).tabs.replaceItems lacking).change = .itemsUpdated false := by
  intro tabs having lacking
  have hselected : tabs.selectedId? = some "settings" := rfl
  have hgone : ∀ id, tabs.selectedId? = some id → id ∉ lacking.map (·.id) := by
    intro id hother
    rw [hselected] at hother
    cases hother
    decide
  have hsubscribed : 0 < tabs.observers := by decide
  obtain ⟨-, hkept, -⟩ := selection_of_replaced_items tabs having
  obtain ⟨-, -, hfirst, -, -, htold, -, -, hsame⟩ := selection_of_replaced_items tabs lacking
  exact ⟨hselected, hsubscribed, hkept "settings" hselected (by decide), by decide, hfirst hgone,
    (htold 0 hsubscribed).trans (by decide), hsame⟩

end Tabs

/-! ## Two ways to take the items of a source -/

namespace Search

/-- A search that is asked again is as it was exactly if it has no query, or its suggestions
are right for the new items and it is active for no other reason than having some. -/
theorem refreshedSearch_eq_self_iff (search : Search) (items : List Item) :
    Navigator.refreshedSearch search items = search ↔
      search.query = "" ∨
        (search.suggestions = suggest items search.query ∧
          (search.active = true ↔ search.suggestions ≠ [])) := by
  by_cases hempty : search.query = ""
  · have hkept : Navigator.refreshedSearch search items = search := by
      rw [Navigator.refreshedSearch, hempty]
      rfl
    exact iff_of_true hkept (Or.inl hempty)
  · have hasked : Navigator.refreshedSearch search items =
        search.setQuery search.query items := by
      have h : search.query.isEmpty = false := by simpa using hempty
      rw [Navigator.refreshedSearch, h]
      rfl
    rw [hasked, or_iff_right hempty]
    obtain ⟨enabled, placeholder, query, suggestions, active⟩ := search
    simp only [setQuery, Search.mk.injEq, true_and]
    constructor
    · rintro ⟨rfl, rfl⟩
      simp
    · rintro ⟨rfl, hreason⟩
      refine ⟨rfl, ?_⟩
      rw [Bool.eq_iff_iff, hreason, Bool.not_eq_true', List.isEmpty_eq_false_iff]

end Search

namespace Navigator

variable {α μ κ : Type} [Scalar α]

/-- Reloading from a source that was put in place unread: the items are replaced and the
search is asked again, and the source is asked for its items. -/
theorem reload_attachUnread (n : Navigator α μ κ) (source : DataSource α μ κ) :
    (n.attachUnread source).reduce .reloadItems =
      { after :=
          { n.withDataSource source with
            search := refreshedSearch n.search (source.items n.past) }
        effect := some (.itemsUpdated (n.withDataSource source).tabs.selectedId?)
        journal := (n.attachSource source).2 } := by
  have hcalls : (n.attachSource source).2.calls = [.askSource .items] := by
    show Call.askSource .items :: Journal.calls (Journal.tellObservers _ _) = _
    rw [Journal.calls_tellObservers]
  show Outcome.mk (Navigator.afterCalls _ (n.attachSource source).2.calls) _ _ = _
  rw [hcalls]
  rfl

/-- Attaching a source does what putting it in place and reloading does: the tabs, the fade,
the clock and all else are the same, the same calls are made and the observers are told the
same. Only the search is left as it was. So the two agree exactly if there is no query, or
the suggestions were already those among the new items and the search is active because it
has some; and they agree as long as there was no event. -/
theorem attached_source_agrees_iff (n : Navigator α μ κ) (source : DataSource α μ κ) :
    let attached := n.withDataSource source
    let reloaded := (n.attachUnread source).reduce .reloadItems
    attached = { reloaded.after with search := n.search } ∧
    (n.attachSource source).2 = reloaded.journal ∧
    (attached = reloaded.after ↔
      n.search.query = "" ∨
        (n.search.suggestions = Search.suggest (source.items n.past) n.search.query ∧
          (n.search.active = true ↔ n.search.suggestions ≠ []))) ∧
    (Fitted n → attached = reloaded.after) := by
  intro attached reloaded
  have houtcome := n.reload_attachUnread source
  have hafter : reloaded.after =
      { attached with search := refreshedSearch n.search (source.items n.past) } :=
    congrArg Outcome.after houtcome
  have hagree : attached = reloaded.after ↔
      refreshedSearch n.search (source.items n.past) = n.search := by
    rw [hafter]
    constructor
    · intro hsame
      exact (congrArg Navigator.search hsame).symm
    · intro hsame
      rw [hsame]
      rfl
  refine ⟨?beside, ?journal, ?agree, ?fitted⟩
  case beside =>
    rw [hafter]
    rfl
  case journal => exact (congrArg Outcome.journal houtcome).symm
  case agree => exact hagree.trans (n.search.refreshedSearch_eq_self_iff _)
  case fitted =>
    intro hfitted
    obtain ⟨options, hsearch⟩ := hfitted.search
    have hempty : n.search.query = "" := by rw [hsearch]; rfl
    exact hagree.mpr ((n.search.refreshedSearch_eq_self_iff _).mpr (Or.inl hempty))

/-- Before the first event it makes no difference how a source is attached. -/
theorem attached_source_agrees_at_first :
    let n : Navigator Rat Unit Unit := (standard 0).subscribe
    let source : DataSource Rat Unit Unit := .fixed [Item.profile, Item.search]
    Fitted n ∧ n.selected = some Item.home ∧
    n.withDataSource source = ((n.attachUnread source).reduce .reloadItems).after ∧
    ((n.attachUnread source).reduce .reloadItems).journal.changesFor 0 =
      [.itemsUpdated true] := by
  intro n source
  have hfitted : Fitted n := (Fitted.mounted (.standard 0)).subscribe
  obtain ⟨-, hjournal, -, hagree⟩ := attached_source_agrees_iff n source
  refine ⟨hfitted, rfl, hagree hfitted, ?_⟩
  rw [← hjournal]
  rfl

/-- A source that is attached while there is a query: its items are taken, and what is
suggested is the title of an item that is gone. Reloading suggests the title of the item that
there is. -/
theorem attached_source_leaves_suggestions :
    let alpha : Item := { id := "a", title := some "Alpha" }
    let balcony : Item := { id := "b", title := some "Balcony" }
    let n : Navigator Rat Unit Unit :=
      (mount { Configuration.standard with items := [alpha], selected := some alpha } 0).run
        [.searchChanged "al"]
    let source : DataSource Rat Unit Unit := .fixed [balcony]
    let attached := n.withDataSource source
    let reloaded := ((n.attachUnread source).reduce .reloadItems).after
    Reachable n ∧ attached.items = [balcony] ∧ reloaded.items = [balcony] ∧
    attached.search.suggestions = ["Alpha"] ∧ reloaded.search.suggestions = ["Balcony"] ∧
    attached.search ≠ reloaded.search := by
  intro alpha balcony n source attached reloaded
  have h : Reachable n := Reachable.run (.mounted (.configuration _ _)) _
  have hkept : attached.search.suggestions = ["Alpha"] := by decide
  have hasked : reloaded.search.suggestions = ["Balcony"] := by decide
  refine ⟨h, rfl, rfl, hkept, hasked, ?_⟩
  intro hsame
  rw [hsame, hasked] at hkept
  exact absurd hkept (by decide)

end Navigator

end TabNavigator
