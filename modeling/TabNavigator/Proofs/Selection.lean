import TabNavigator.Proofs.Step

/-!
# There is always a selection, and it is one of the items

Selecting a tab asks for no membership: it takes whatever item it is given. That the
selection is one of the items all the same rests on three places that look first. An
event that selects a tab looks its identifier up among the items; mounting replaces a
selection that is not there; and so does replacing the items, by the same rule as
mounting (`keepOrFirst`). `SelectedFrom` is what the three have in common, and nothing
else writes the items or the selection.

Membership goes by identifier throughout. The selected item carries the identifier of
an item, but it need not be that item: replacing the items keeps the selected copy.

What is shown follows. Content is resolved for the selected item, so there is content
unless there are no items; and a strip marks the entries that carry the identifier of
the selection, which is exactly one if no two items share an identifier.
-/

namespace TabNavigator

open Tabs (keepOrFirst)

/-! ## Selections that fit their items -/

/-- A selection that fits the items: there is one unless there are no items, and it
carries the identifier of one of them. -/
def SelectedFrom (items : List Item) : Option Item → Prop
  | none => items = []
  | some item => item.isAmong items = true

theorem SelectedFrom.none_iff {items : List Item} {selected : Option Item}
    (h : SelectedFrom items selected) : selected = none ↔ items = [] := by
  cases selected with
  | none => exact ⟨fun _ => h, fun _ => rfl⟩
  | some item =>
      obtain ⟨i, hi, _⟩ := Item.isAmong_iff.mp h
      constructor
      · intro habsent; cases habsent
      · intro hempty; rw [hempty] at hi; cases hi

theorem selectedFrom_of_find? {items : List Item} {id : String} {item : Item}
    (hfound : Item.find? items id = some item) : SelectedFrom items (some item) :=
  Item.isAmong_iff.mpr ⟨item, Item.mem_of_find? hfound, rfl⟩

theorem selectedFrom_head? (items : List Item) : SelectedFrom items items.head? := by
  cases items with
  | nil => rfl
  | cons first rest => exact Item.isAmong_iff.mpr ⟨first, List.mem_cons_self, rfl⟩

/-- The rule by which a selection is kept repairs every selection that does not fit. -/
theorem selectedFrom_keepOrFirst (selected : Option Item) (items : List Item) :
    SelectedFrom items (keepOrFirst selected items) := by
  cases selected with
  | none => exact selectedFrom_head? items
  | some item =>
      rw [keepOrFirst]
      split
      · next hamong => exact hamong
      · exact selectedFrom_head? items

/-! ## Steps and operations -/

namespace Navigator

variable {α μ κ : Type} [Scalar α]

theorem Step.selectedFrom {n : Navigator α μ κ} {event : Event} {o : Outcome α μ κ}
    (h : Step n event o) (hfits : SelectedFrom n.items n.selected) :
    SelectedFrom o.after.items o.after.selected := by
  cases h with
  | selected hfound => exact selectedFrom_of_find? hfound
  | itemsReplaced => exact selectedFrom_keepOrFirst _ _
  | _ => exact hfits

theorem Reachable.selectedFrom {n : Navigator α μ κ} (h : Reachable n) :
    SelectedFrom n.items n.selected := by
  induction h with
  | mounted hm =>
      obtain ⟨c, now, rfl⟩ := hm.exists_configuration
      exact selectedFrom_keepOrFirst _ _
  | source => exact selectedFrom_keepOrFirst _ _
  | reduce event _ ih => exact (act_step _ event).selectedFrom ih
  | style | palette | delegate | subscribe | calls => assumption

end Navigator

/-! ## Entries of a strip -/

/-- Of items that share no identifiers, one is the same tab as an item among them. -/
theorem filter_isSameTab {items : List Item} (hnodup : (items.map (·.id)).Nodup)
    {item : Item} (hamong : item.isAmong items = true) :
    ∃ i, items.filter (fun i => i.isSameTab item) = [i] ∧ i.id = item.id := by
  obtain ⟨i, hi, hid⟩ := Item.isAmong_iff.mp hamong
  clear hamong
  induction items with
  | nil => cases hi
  | cons first rest ih =>
      rw [List.map_cons, List.nodup_cons] at hnodup
      obtain ⟨hfresh, hnodup⟩ := hnodup
      rcases List.mem_cons.mp hi with rfl | hi
      · -- The first item is the one: none of the others has its identifier.
        have hothers : rest.filter (fun j => j.isSameTab item) = [] := by
          rw [List.filter_eq_nil_iff]
          intro j hj hsame
          have : j.id = i.id := (beq_iff_eq.mp hsame).trans hid.symm
          exact hfresh (this ▸ List.mem_map_of_mem hj)
        have this : i.isSameTab item = true := beq_iff_eq.mpr hid
        refine ⟨i, ?_, hid⟩
        rw [List.filter_cons, if_pos this, hothers]
      · -- The one is further behind, so the first item has another identifier.
        have hother : ¬ first.isSameTab item = true := by
          intro hsame
          have : i.id = first.id := hid.trans (beq_iff_eq.mp hsame).symm
          exact hfresh (this ▸ List.mem_map_of_mem hi)
        rw [List.filter_cons, if_neg hother]
        exact ih hnodup hi

theorem layout_entries {α : Type} [Scalar α] (style : Style α) (items : List Item)
    (selected : Option Item) (v : Visibility) :
    (style.layout items selected v).entries.filter (·.isSelected) =
      (items.filter (Style.isSelected selected)).map
        fun i => ⟨i, Style.isSelected selected i⟩ := by
  rw [Style.layout, List.filter_map]
  rfl

theorem exists_selected_entry {α : Type} [Scalar α] (style : Style α) {items : List Item}
    (hnodup : (items.map (·.id)).Nodup) {item : Item} (hamong : item.isAmong items = true)
    (v : Visibility) :
    ∃ entry, (style.layout items (some item) v).entries.filter (·.isSelected) = [entry] ∧
      entry.item.id = item.id := by
  obtain ⟨i, hone, hsame⟩ := filter_isSameTab hnodup hamong
  refine ⟨⟨i, Style.isSelected (some item) i⟩, ?_, hsame⟩
  have h : Style.isSelected (some item) = fun i => i.isSameTab item := by
    funext i; rfl
  rw [layout_entries, h, hone, List.map_singleton]

namespace Navigator

variable {α μ κ : Type} [Scalar α]

omit [Scalar α] in
/-- Content is resolved for the selected item, and some content always comes of it. -/
theorem activeContent_none_iff (n : Navigator α μ κ) :
    n.activeContent = none ↔ n.selected = none := by
  rw [activeContent, resolveActive, Option.map_eq_none_iff, Option.map_eq_none_iff]

/-- However a navigator was mounted and whatever happened to it since: it has a selection
unless it has no items, and the selection is one of them; it has content to show
unless it has no items; and if no two items share an identifier, a strip of any style
marks one entry, that of the selection. -/
theorem selection_of_reachable {n : Navigator α μ κ} (h : Reachable n) :
    (n.selected = none ↔ n.items = []) ∧
    (∀ item, n.selected = some item → ∃ i ∈ n.items, i.id = item.id) ∧
    (n.activeContent = none ↔ n.items = []) ∧
    ((n.items.map (·.id)).Nodup → n.items ≠ [] → ∀ style : Style α,
      ∃ entry,
        (style.layout n.items n.selected n.visibility).entries.filter (·.isSelected)
          = [entry] ∧
        n.tabs.selectedId? = some entry.item.id) := by
  have hfits := h.selectedFrom
  have hnone := hfits.none_iff
  refine ⟨hnone, ?_, ?_, ?_⟩
  · intro item hitem
    rw [hitem] at hfits
    exact Item.isAmong_iff.mp hfits
  · rw [activeContent_none_iff]
    exact hnone
  · intro hnodup hne style
    cases hsel : n.selected with
    | none => exact absurd (hnone.mp hsel) hne
    | some item =>
        rw [hsel] at hfits
        obtain ⟨entry, hone, hsame⟩ := exists_selected_entry style hnodup hfits n.visibility
        refine ⟨entry, hone, ?_⟩
        have hid : n.tabs.selectedId? = some item.id := by
          rw [Tabs.selectedId?, show n.tabs.selected = some item from hsel, Option.map_some]
        rw [hid, hsame]

/-- A selection that was never an item is repaired at once, and one that is taken away
is replaced. -/
theorem selection_of_removed_tab :
    let n : Navigator Rat Unit Unit :=
      (mount { Configuration.standard with selected := some Item.settings } 0).run
        [.select "profile", .updateItems [Item.search, Item.home]]
    Reachable n ∧ (n.items.map (·.id)).Nodup ∧ n.selected = some Item.search ∧
      ∃ entry,
        (n.style.layout n.items n.selected n.visibility).entries.filter (·.isSelected)
          = [entry] ∧
        n.tabs.selectedId? = some entry.item.id := by
  intro n
  have h : Reachable n :=
    run_of_step (fun _ event hm => hm.reduce event) (.mounted (.configuration _ _)) _
  have hnodup : (n.items.map (·.id)).Nodup := by decide
  exact ⟨h, hnodup, by decide, (selection_of_reachable h).2.2.2 hnodup (by decide) n.style⟩

end Navigator

end TabNavigator
