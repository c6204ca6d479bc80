import TabNavigator.Item
import TabNavigator.Time
import TabNavigator.Visibility

/-!
# Events and effects

An event is what a navigator is told to do. A change of the visibility may start a
fade, so the event brings the time at which it happens. An effect is what the host
learns of it: at most one for each event, and only if the event meant something.
-/

namespace TabNavigator

/-- What a navigator is told to do. -/
inductive Event where
  | select (id : String)
  | performAction (action : Action) (id : String)
  | performDefaultAction (id : String)
  | setVisibility (visibility : Visibility) (now : Moment)
  | toggleVisibility (now : Moment)
  | updateItems (items : List Item)
  /-- Takes the items from the source again. -/
  | reloadItems
  | searchChanged (query : String)
  | searchSubmitted
  | searchCleared
  | suggestionSelected (suggestion : String)
  /-- A frame of a fade. -/
  | tick (now : Moment)
deriving DecidableEq

/-- What the host learns of an event. -/
inductive Effect where
  | selected (id : String)
  | actionPerformed (action : Action) (id : String)
  | visibilityChanged (visibility : Visibility)
  /-- The items were replaced; the selection is as it is afterwards. -/
  | itemsUpdated (selected : Option String)
  | searched (query : String)
  | searchCleared
deriving DecidableEq

end TabNavigator
