import TabNavigator.Decimal.Single
import TabNavigator.Navigator

/-!
# Descriptions

The descriptions of items, tabs, styles and navigators that logs and reports show to
developers. Numbers are described in single precision, the precision that navigators
run on.
-/

namespace TabNavigator

open Text Decimal

def Item.describe (item : Item) : String :=
  describeRecord "TabItem"
    [("id", quoted item.id),
      ("title", describeOption (item.title.map quoted)),
      ("icon", quoted item.icon),
      ("route", quoted item.route),
      ("modal", describeOption (item.modal.map describeBool)),
      ("analytics", quoted item.analytics)]

def Tabs.describe (tabs : Tabs) : String :=
  describeRecord "TabBarState"
    [("items", describeList (tabs.items.map Item.describe)),
      ("selected", describeOption (tabs.selected.map Item.describe)),
      ("visibility", tabs.visibility.describe),
      ("observers", toString tabs.observers)]

def Search.describe (search : Search) : String :=
  describeRecord "SearchState"
    [("enabled", describeBool search.enabled),
      ("placeholder", quoted search.placeholder),
      ("query", quoted search.query),
      ("suggestions", describeList (search.suggestions.map quoted)),
      ("active", describeBool search.active)]

def Page.describe : Page → String
  | home => "Home"
  | search => "Search"
  | favorites => "Favorites"
  | profile => "Profile"
  | settings => "Settings"
  | generic => "Generic"

/-- A handle is described by its name. What it holds is the host's business. -/
def Controller.describe {κ : Type} (controller : Controller κ) : String :=
  describePartOf "ControllerHandle" [("name", quoted controller.name)]

def Content.describe {α μ κ : Type} : Content α μ κ → String
  | native controller => describeTagged "NativeController" controller.describe
  | declarative _ => "DeclarativeView(..)"
  | builtin page => describeTagged "Builtin" page.describe

def StyleKind.describe : StyleKind → String
  | standard => "Default"
  | compact => "Compact"
  | floating => "Floating"
  | minimal => "Minimal"
  | composable => "Composable"

def Fill.describe : Fill → String
  | solid => "Solid"
  | material => "Material"
  | clear => "Clear"

def ItemLayout.describe : ItemLayout → String
  | stacked => "Stacked"
  | inline => "Inline"

def Color.describe (color : Color Float32) : String :=
  describeRecord "Color"
    [("r", describeSingle color.red), ("g", describeSingle color.green),
      ("b", describeSingle color.blue), ("a", describeSingle color.alpha)]

def Pill.describe (pill : Pill Float32) : String :=
  describeRecord "Pill"
    [("corner_radius", describeSingle pill.cornerRadius),
      ("padding_horizontal", describeSingle pill.paddingHorizontal),
      ("padding_vertical", describeSingle pill.paddingVertical)]

def Metrics.describe (m : Metrics Float32) : String :=
  describeRecord "StyleMetrics"
    [("item_spacing", describeSingle m.itemSpacing),
      ("padding_horizontal", describeSingle m.paddingHorizontal),
      ("padding_vertical", describeSingle m.paddingVertical),
      ("corner_radius", describeSingle m.cornerRadius),
      ("background", m.fill.describe),
      ("separator", describeBool m.separator),
      ("border_width", describeSingle m.borderWidth),
      ("shadow", describeBool m.shadow),
      ("outer_padding_horizontal", describeSingle m.outerPaddingHorizontal),
      ("outer_padding_bottom", describeSingle m.outerPaddingBottom),
      ("icon_size", describeSingle m.iconSize),
      ("label_size", describeSingle m.labelSize),
      ("label_spacing", describeSingle m.labelSpacing),
      ("item_layout", m.itemLayout.describe),
      ("selected_pill", describeOption (m.selectedPill.map Pill.describe)),
      ("fill_items", describeBool m.fillItems)]

def Decorator.describe : Decorator Float32 → String
  | background color radius =>
      describeRecord "Background"
        [("color", color.describe), ("corner_radius", describeSingle radius)]
  | shadow s =>
      describeRecord "Shadow"
        [("color", s.color.describe), ("radius", describeSingle s.blur),
          ("offset", describeRecord "Vector"
            [("x", describeSingle s.x), ("y", describeSingle s.y)])]
  | padding horizontal vertical =>
      describeRecord "Padding"
        [("horizontal", describeSingle horizontal), ("vertical", describeSingle vertical)]
  | animation duration => describeRecord "Animation" [("duration", duration.describe)]

def Style.describe (style : Style Float32) : String :=
  describeRecord "TabBarStyle"
    [("base", style.base.describe),
      ("metrics", style.metrics.describe),
      ("decorators", describeList (style.decorators.map Decorator.describe))]

/-- A navigator is described without its palette, its fade and its collaborators. -/
def Navigator.describe {μ κ : Type} (n : Navigator Float32 μ κ) : String :=
  describePartOf "TabBarWidget"
    [("state", n.tabs.describe),
      ("style", n.style.describe),
      ("animated", describeBool n.animated),
      ("search", n.search.describe),
      ("has_data_source", describeBool n.source.isSome),
      ("has_delegate", describeBool n.delegate.isSome)]

end TabNavigator
