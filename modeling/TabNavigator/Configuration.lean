import TabNavigator.Item.Standard
import TabNavigator.Search
import TabNavigator.Style

/-!
# Configurations

What a navigator is mounted from.
-/

namespace TabNavigator

/-- The tabs and the options of a navigator. -/
structure Configuration where
  items : List Item
  selected : Option Item
  style : StyleKind
  animated : Bool
  visible : Bool
  darkMode : Bool
  search : SearchOptions
deriving DecidableEq

namespace Configuration

/-- The configuration of a navigator that is told nothing. -/
def standard : Configuration :=
  { items := Item.standard, selected := Item.standard.head?, style := .standard
    animated := true, visible := true, darkMode := false, search := {} }

def visibility (c : Configuration) : Visibility := .ofBool c.visible

end Configuration

end TabNavigator
