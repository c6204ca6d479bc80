import TabNavigator.Item

/-!
# The standard tabs

The tabs of a navigator that is mounted without a list of its own.
-/

namespace TabNavigator.Item

def home : Item :=
  { id := "home", title := some "Home", icon := "house.fill", route := "app://home"
    modal := some false, analytics := "tab_home_selected" }

def search : Item :=
  { id := "search", title := some "Search", icon := "magnifyingglass"
    route := "app://search", modal := some false, analytics := "tab_search_selected" }

def favorites : Item :=
  { id := "favorites", title := some "Favorites", icon := "heart.fill"
    route := "app://favorites", modal := some false
    analytics := "tab_favorites_selected" }

def profile : Item :=
  { id := "profile", title := some "Profile", icon := "person.fill"
    route := "app://profile", modal := some false, analytics := "tab_profile_selected" }

def settings : Item :=
  { id := "settings", title := some "Settings", icon := "gearshape.fill"
    route := "app://settings", modal := some true, analytics := "tab_settings_selected" }

/-- The tabs of a navigator that is given no list. -/
def standard : List Item := [home, search, favorites, profile]

/-- The standard tabs and the settings. -/
def extended : List Item := standard ++ [settings]

end TabNavigator.Item
