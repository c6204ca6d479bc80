import TabNavigator.Navigator.View
import TabNavigator.Proofs.Readings

/-!
# The buttons of a strip

A strip is built from the inside out: icon and label of an item, a highlight, a button,
the row of the buttons, the bar, and then as many boxes as the style has decorators.
None of the layers around a button adds anything to a reading that sees through boxes, so
such a reading of a strip is the readings of its buttons, one after the other
(`SeesThrough.strip`).

Hence the buttons of a strip are those of its items, in their order, and whether they can
be pressed depends on the visibility alone (`buttons_strip`); and the texts of a strip are
the icons and labels of its items (`contents_strip`).
-/

namespace TabNavigator

namespace Element.SeesThrough

open View

variable {α μ β : Type} [Scalar α] {read : Element α μ → List β} {say : String → List β}

omit [Scalar α] in
theorem itemBody (h : SeesThrough read say) (metrics : Metrics α) (palette : Palette α)
    (entry : StripEntry) :
    read (itemBody metrics palette entry) =
      say (iconGlyph entry.item.icon) ++ say entry.item.label := by
  have hpair : ∀ glyph label : Element α μ,
      [glyph, label].flatMap read = read glyph ++ read label := by
    intro glyph label
    rw [List.flatMap_cons, List.flatMap_singleton]
  rw [View.itemBody]
  cases metrics.itemLayout with
  | stacked => simp only [h.column, hpair, coloredText, h.text]
  | inline => simp only [h.row, hpair, coloredText, h.text]

theorem highlightedItem (h : SeesThrough read say) (metrics : Metrics α)
    (palette : Palette α) (entry : StripEntry) :
    read (highlightedItem metrics palette entry) =
      say (iconGlyph entry.item.icon) ++ say entry.item.label := by
  have hbody := h.itemBody metrics palette entry
  rw [View.highlightedItem]
  split
  · split
    · rw [h.box]; exact hbody
    · exact hbody
  · exact hbody

/-- The items, before anything is put around them. -/
theorem undecoratedStrip (h : SeesThrough read say) (lift : Event → μ)
    (layout : StripLayout α) (palette : Palette α) :
    read (undecoratedStrip lift layout palette) =
      layout.entries.flatMap fun entry =>
        read (itemButton lift layout.metrics palette layout.visibility.isVisible entry) := by
  simp only [View.undecoratedStrip]
  rw [h.box]
  cases layout.metrics.separator <;> cases layout.metrics.fillItems <;>
    simp [h.box, h.column, h.row, h.space, List.flatMap_map]

theorem decorate (h : SeesThrough read say) (opacity : α) (inner : Element α μ)
    (decorator : Decorator α) : read (decorate opacity inner decorator) = read inner := by
  cases decorator with
  | background | shadow | padding => rw [View.decorate, h.box]
  | animation => rfl

theorem decorated (h : SeesThrough read say) (opacity : α)
    (decorators : List (Decorator α)) (inner : Element α μ) :
    read (decorators.foldl (View.decorate opacity) inner) = read inner := by
  induction decorators generalizing inner with
  | nil => rfl
  | cons decorator rest ih => rw [List.foldl_cons, ih, h.decorate]

theorem strip (h : SeesThrough read say) (lift : Event → μ) (layout : StripLayout α)
    (palette : Palette α) (opacity : α) :
    read (strip lift layout palette opacity) =
      layout.entries.flatMap fun entry =>
        read (itemButton lift layout.metrics palette layout.visibility.isVisible entry) := by
  rw [View.strip, h.decorated, h.undecoratedStrip]

end Element.SeesThrough

namespace View

open Element

variable {α μ : Type} [Scalar α]

theorem buttons_itemButton (lift : Event → μ) (metrics : Metrics α) (palette : Palette α)
    (interactive : Bool) (entry : StripEntry) :
    (itemButton lift metrics palette interactive entry).buttons =
      [if interactive then some (lift (.select entry.item.id)) else none] := by
  rw [itemButton, button, buttons, buttons, buttons_seesThrough.highlightedItem]
  rfl

/-- A strip has one button for each of its entries. In a strip that is visible it selects
the item of the entry, in one that is not it is disabled. -/
theorem buttons_strip (lift : Event → μ) (layout : StripLayout α) (palette : Palette α)
    (opacity : α) :
    (strip lift layout palette opacity).buttons =
      layout.entries.map fun entry =>
        if layout.visibility.isVisible then some (lift (.select entry.item.id)) else none := by
  rw [buttons_seesThrough.strip]
  simp only [buttons_itemButton]
  exact List.map_eq_flatMap.symm

theorem buttonMessages_strip (lift : Event → μ) (layout : StripLayout α)
    (palette : Palette α) (opacity : α) :
    (strip lift layout palette opacity).buttonMessages =
      if layout.visibility.isVisible then
        layout.entries.map fun entry => lift (.select entry.item.id)
      else [] := by
  rw [buttonMessages_eq, buttons_strip, List.filterMap_map]
  cases layout.visibility.isVisible with
  | true =>
      show layout.entries.filterMap (some ∘ fun entry => lift (.select entry.item.id)) = _
      rw [List.filterMap_eq_map, if_pos rfl]
  | false => exact List.filterMap_eq_nil_iff.mpr fun _ _ => rfl

theorem contents_itemButton (message : Option μ) (lift : Event → μ) (metrics : Metrics α)
    (palette : Palette α) (interactive : Bool) (entry : StripEntry) :
    ((itemButton lift metrics palette interactive entry).textsUnder message).map
        (·.content) = [iconGlyph entry.item.icon, entry.item.label] := by
  have hreads := fun own : Option μ => (textsUnder_seesThrough (α := α) own).map (·.content)
  rw [itemButton, button, contents_textsUnder_button, textsUnder]
  exact (hreads _).highlightedItem metrics palette entry

theorem contents_strip (lift : Event → μ) (layout : StripLayout α) (palette : Palette α)
    (opacity : α) :
    (strip lift layout palette opacity).texts.map (·.content) =
      layout.entries.flatMap fun entry =>
        [iconGlyph entry.item.icon, entry.item.label] := by
  rw [texts, ((textsUnder_seesThrough none).map (·.content)).strip]
  simp only [contents_itemButton]

end View

namespace Navigator

variable {α μ κ : Type} [Scalar α]

/-- A strip that is drawn has one button for each item, in the order of the items. -/
theorem buttons_stripView (n : Navigator α μ κ) (lift : Event → μ) :
    (n.stripView lift).buttons =
      if n.stripIsGone then []
      else n.items.map fun item =>
        if n.visibility.isVisible then some (lift (.select item.id)) else none := by
  rw [stripView]
  split
  · rfl
  · rw [View.buttons_strip, stripLayout, Style.layout, List.map_map]
    rfl

theorem contents_stripView (n : Navigator α μ κ) (lift : Event → μ) :
    (n.stripView lift).texts.map (·.content) =
      if n.stripIsGone then []
      else n.items.flatMap fun item => [iconGlyph item.icon, item.label] := by
  rw [stripView]
  split
  · rfl
  · rw [View.contents_strip, stripLayout, Style.layout, List.flatMap_map]

end Navigator

end TabNavigator
