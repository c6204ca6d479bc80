import TabNavigator.Proofs.Selection

/-!
# When the selection is a stale copy

Items are the same tab if they share an identifier, and the rule by which a selection is
kept asks for no more than that (`keepOrFirst`). What it keeps is the item that was
selected before, not the one of its tab among the new items. If the new items bring the
tab with another title, icon or route, the selection goes on saying what the tab said
before: the strip shows the tab as it is now, and the page is found and built for the tab
as it was.

So it is not an invariant that the selection is one of the items in all that it says. This
file says exactly when it is. Selecting a tab looks it up among the items and is always
right. All that can go wrong is a list of items that has the selected tab but not the
selected item (`Unrevised` says that it does not): mounting and attaching a source give a
fresh selection exactly if their items are no such list, and a run is fresh throughout
exactly if it starts so and no event of it brings one.
-/

namespace TabNavigator

open Tabs (keepOrFirst)

/-- If there are items, the selection is one of them in all that it says. -/
def Fresh (items : List Item) (selected : Option Item) : Prop :=
  items ≠ [] → ∃ item ∈ items, selected = some item

/-- Items that do not revise a selection: if they have its tab, they have it as it was
selected. -/
def Unrevised (selected : Option Item) (items : List Item) : Prop :=
  ∀ item, selected = some item → item.isAmong items = true → item ∈ items

theorem fresh_of_mem {items : List Item} {item : Item} (hmem : item ∈ items) :
    Fresh items (some item) :=
  fun _ => ⟨item, hmem, rfl⟩

theorem fresh_head? (items : List Item) : Fresh items items.head? := by
  cases items with
  | nil => exact fun hne => absurd rfl hne
  | cons first rest => exact fresh_of_mem List.mem_cons_self

/-- Keeping a selection gives a fresh one exactly if the items do not revise it. -/
theorem fresh_keepOrFirst_iff (selected : Option Item) (items : List Item) :
    Fresh items (keepOrFirst selected items) ↔ Unrevised selected items := by
  cases selected with
  | none =>
      have hvacuous : Unrevised none items := fun _ habsent => nomatch habsent
      exact iff_of_true (fresh_head? items) hvacuous
  | some item =>
      rw [keepOrFirst]
      split
      · next hamong =>
          obtain ⟨i, hi, -⟩ := Item.isAmong_iff.mp hamong
          constructor
          · intro hfresh
            obtain ⟨j, hj, hsame⟩ := hfresh (List.ne_nil_of_mem hi)
            intro other hsel _
            cases hsel
            cases hsame
            exact hj
          · intro hunrevised
            exact fresh_of_mem (hunrevised item rfl hamong)
      · next habsent =>
          have hvacuous : Unrevised (some item) items := by
            intro other hsel hamong
            cases hsel
            exact absurd hamong habsent
          exact iff_of_true (fresh_head? items) hvacuous

namespace Navigator

variable {α μ κ : Type}

/-- Whether the selection is one of the items in all that it says, if there are items. -/
def IsFresh (n : Navigator α μ κ) : Prop :=
  Fresh n.items n.selected

/-- An event that brings no items which revise the selection. -/
def LeavesUnrevised (n : Navigator α μ κ) (event : Event) : Prop :=
  ∀ items asked, n.itemsBrought? event = some (items, asked) → Unrevised n.selected items

theorem leavesUnrevised_of_none {n : Navigator α μ κ} {event : Event}
    (hnone : n.itemsBrought? event = none) : n.LeavesUnrevised event := by
  intro items asked hbrought
  rw [hnone] at hbrought
  cases hbrought

theorem itemsBrought?_of_tab? {n : Navigator α μ κ} {event : Event} {id : String}
    (hnames : event.tab? = some id) : n.itemsBrought? event = none := by
  cases event with
  | select | performAction | performDefaultAction => rfl
  | _ => cases hnames

theorem itemsBrought?_of_visibilityAsked? {n : Navigator α μ κ} {event : Event}
    {v : Visibility} {now : Moment} (hasked : n.visibilityAsked? event = some (v, now)) :
    n.itemsBrought? event = none := by
  cases event with
  | setVisibility | toggleVisibility => rfl
  | _ => cases hasked

variable [Scalar α]

/-- From a fresh selection, an event leads to a fresh one exactly if it brings no items
that revise it. -/
theorem Step.fresh_iff {n : Navigator α μ κ} {event : Event} {o : Outcome α μ κ}
    (h : Step n event o) (hfresh : n.IsFresh) :
    o.after.IsFresh ↔ n.LeavesUnrevised event := by
  cases h with
  | selected hfound =>
      have hafter : Fresh n.items (some _) := fresh_of_mem (Item.mem_of_find? hfound)
      exact iff_of_true hafter (leavesUnrevised_of_none rfl)
  | @itemsReplaced _ items asked hbrought =>
      have hkept : Fresh items (keepOrFirst n.selected items) ↔ Unrevised n.selected items :=
        fresh_keepOrFirst_iff n.selected items
      refine hkept.trans ⟨?_, fun hunrevised => hunrevised items asked hbrought⟩
      intro hunrevised items' asked' hbrought'
      rw [hbrought] at hbrought'
      cases hbrought'
      exact hunrevised
  | unknownTab hnames =>
      exact iff_of_true hfresh (leavesUnrevised_of_none (itemsBrought?_of_tab? hnames))
  | visibilityChanged hasked =>
      have hnone := itemsBrought?_of_visibilityAsked? hasked
      exact iff_of_true hfresh (leavesUnrevised_of_none hnone)
  | noSource habsent =>
      have hnone : n.itemsBrought? .reloadItems = none := by
        rw [itemsBrought?, habsent, Option.map_none]
      exact iff_of_true hfresh (leavesUnrevised_of_none hnone)
  | _ => exact iff_of_true hfresh (leavesUnrevised_of_none rfl)

/-- A run is fresh throughout exactly if it starts so and none of its events brings items
that revise the selection of that moment. -/
theorem fresh_throughout_iff (n : Navigator α μ κ) (events : List Event) :
    (∀ k, (n.run (events.take k)).IsFresh) ↔
      n.IsFresh ∧ ∀ m ∈ n.moments events, m.1.LeavesUnrevised m.2 := by
  induction events generalizing n with
  | nil => simp [moments, run]
  | cons event rest ih =>
      rw [forall_run_take_cons, ih, moments, List.forall_mem_cons]
      constructor
      · rintro ⟨hfresh, hafter, hlater⟩
        exact ⟨hfresh, ((n.act_step event).fresh_iff hfresh).mp hafter, hlater⟩
      · rintro ⟨hfresh, hunrevised, hlater⟩
        exact ⟨hfresh, ((n.act_step event).fresh_iff hfresh).mpr hunrevised, hlater⟩

/-- Every way to come by items leaves a selection that is one of them, in all that it says,
exactly if the items do not revise the selection there was: mounting, attaching a source,
and every event of a run. -/
theorem fresh_iff_unrevised (c : Configuration) (now : Moment) (n : Navigator α μ κ)
    (source : DataSource α μ κ) (events : List Event) :
    ((mount c now : Navigator α μ κ).IsFresh ↔ Unrevised c.selected c.items) ∧
    ((n.withDataSource source).IsFresh ↔ Unrevised n.selected (source.items n.past)) ∧
    ((∀ k, (n.run (events.take k)).IsFresh) ↔
      n.IsFresh ∧ ∀ m ∈ n.moments events, m.1.LeavesUnrevised m.2) :=
  ⟨fresh_keepOrFirst_iff _ _, fresh_keepOrFirst_iff _ _, n.fresh_throughout_iff events⟩

/-- A tab that gets a new title and a new route while it is selected: the strip has the new
title, and the content is that of the old route. -/
theorem stale_of_revised_tab :
    let before : Item := { id := "a", title := some "Old", route := "app://home" }
    let revised : Item := { id := "a", title := some "New", route := "app://settings" }
    let n : Navigator Rat Unit Unit :=
      (mount { Configuration.standard with items := [before], selected := some before } 0).run
        [.updateItems [revised]]
    Reachable n ∧ n.items = [revised] ∧ n.selected = some before ∧ ¬ n.IsFresh ∧
      n.stripLayout.entries = [⟨revised, true⟩] ∧
      n.activeContent = some (.builtin .home) ∧ Page.ofRoute revised.route = .settings := by
  intro before revised n
  have h : Reachable n :=
    run_of_step (fun _ event hm => hm.reduce event) (.mounted (.configuration _ _)) _
  have hstale : ¬ n.IsFresh := by
    intro hfresh
    obtain ⟨item, hmem, hsame⟩ := hfresh (List.cons_ne_nil revised [])
    have : item = revised := List.mem_singleton.mp hmem
    subst this
    exact absurd hsame (by decide)
  have hpage : Page.ofRoute before.route = .home := by decide
  have hcontent : n.activeContent = some (.builtin (.ofRoute before.route)) := rfl
  rw [hpage] at hcontent
  exact ⟨h, rfl, rfl, hstale, by decide, hcontent, by decide⟩

end Navigator

end TabNavigator
