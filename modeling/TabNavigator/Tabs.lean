import TabNavigator.Collaborator

/-!
# Tabs

The items, the selected one, and whether the strip is shown. Every change is told to
the observers, in the order in which they subscribed; a selection is then told to the
delegate.

A selection need not be one of the items. It is one after the tabs are made and after
the items are replaced, because then it is kept only if it is still there.
-/

namespace TabNavigator

/-- The tabs of one navigator. Of its observers only the number matters. -/
structure Tabs where
  items : List Item
  selected : Option Item
  visibility : Visibility
  observers : Nat
deriving DecidableEq

/-- What a change of the tabs leaves behind. -/
structure TabsUpdate where
  tabs : Tabs
  change : Change
  journal : Journal

namespace Tabs

/-- The selection if it is one of the items, or else the first item. -/
def keepOrFirst (selected : Option Item) (items : List Item) : Option Item :=
  match selected with
  | some item => if item.isAmong items then some item else items.head?
  | none => items.head?

def make (items : List Item) (selected : Option Item) (visibility : Visibility) : Tabs :=
  { items, selected := keepOrFirst selected items, visibility, observers := 0 }

def empty : Tabs := make [] none .visible

def find? (tabs : Tabs) (id : String) : Option Item :=
  Item.find? tabs.items id

def contains (tabs : Tabs) (id : String) : Bool :=
  (tabs.find? id).isSome

def selectedId? (tabs : Tabs) : Option String :=
  tabs.selected.map (·.id)

/-- Adds an observer behind those that there are. -/
def subscribe (tabs : Tabs) : Tabs :=
  { tabs with observers := tabs.observers + 1 }

def tellObservers (tabs : Tabs) (change : Change) : Journal :=
  Journal.tellObservers tabs.observers change

/-- Replaces the items. The selection stays if one of the new items is the same tab. -/
def replaceItems (tabs : Tabs) (items : List Item) : TabsUpdate :=
  let after := { tabs with items, selected := keepOrFirst tabs.selected items }
  let change := .itemsUpdated (tabs.selectedId? != after.selectedId?)
  { tabs := after
    change
    journal := .logged (.itemsReplaced items.length after.selectedId?)
      :: after.tellObservers change }

variable {α μ κ : Type}

/-- Selects an item, whether it is one of the items or not. -/
def select (tabs : Tabs) (item : Item) (delegate : Option (Delegate α μ κ)) :
    TabsUpdate :=
  { tabs := { tabs with selected := some item }
    change := .selected item
    journal := .logged (.tabSelected item.id)
      :: (tabs.tellObservers (.selected item)
        ++ Delegate.tell delegate (.itemSelected item)) }

/-- Sets the visibility. Observers are told even if it was the same before. -/
def setVisibility (tabs : Tabs) (visibility : Visibility) : TabsUpdate :=
  { tabs := { tabs with visibility }
    change := .visibilityChanged visibility
    journal := .logged (.visibilitySet visibility)
      :: tabs.tellObservers (.visibilityChanged visibility) }

/-- Relays an action to the delegate. The tabs have no part in it. -/
def relay (action : Action) (item : Item) (delegate : Option (Delegate α μ κ)) : Journal :=
  .logged (.actionRelayed action item.id)
    :: Delegate.tell delegate (.actionPerformed action item)

end Tabs

end TabNavigator
