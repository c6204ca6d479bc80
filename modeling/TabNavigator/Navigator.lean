import TabNavigator.Configuration.Parameters
import TabNavigator.Content
import TabNavigator.Fade
import TabNavigator.Palette
import TabNavigator.Search
import TabNavigator.Style
import TabNavigator.Tabs

/-!
# Navigators

A navigator holds the tabs, the search field, the fade of the strip and all that
says how it looks, together with the collaborators that are attached to it and the
calls it has made to them.

Attaching a source takes its items at once. Everything else that is attached or
exchanged only takes effect when it is next needed.
-/

namespace TabNavigator

structure Navigator (α μ κ : Type) where
  tabs : Tabs
  style : Style α
  palette : Palette α
  animated : Bool
  fade : Fade α
  /-- The latest moment that the navigator knows of. -/
  clock : Moment
  search : Search
  source : Option (DataSource α μ κ) := none
  delegate : Option (Delegate α μ κ) := none
  /-- The calls made to collaborators so far. -/
  past : Past := []

namespace Navigator

variable {α μ κ : Type}

def withDelegate (n : Navigator α μ κ) (delegate : Delegate α μ κ) : Navigator α μ κ :=
  { n with delegate := some delegate }

def withStyle (n : Navigator α μ κ) (style : Style α) : Navigator α μ κ :=
  { n with style }

def withPalette (n : Navigator α μ κ) (palette : Palette α) : Navigator α μ κ :=
  { n with palette }

def subscribe (n : Navigator α μ κ) : Navigator α μ κ :=
  { n with tabs := n.tabs.subscribe }

/-- Puts a source in place without asking it anything. -/
def attachUnread (n : Navigator α μ κ) (source : DataSource α μ κ) : Navigator α μ κ :=
  { n with source := some source }

/-- Attaches a source and takes its items. -/
def attachSource (n : Navigator α μ κ) (source : DataSource α μ κ) :
    Navigator α μ κ × Journal :=
  let asked : Call := .askSource .items
  let update := n.tabs.replaceItems (source.items n.past)
  ({ n with tabs := update.tabs, source := some source, past := n.past ++ [asked] },
    .called asked :: update.journal)

/-- Attaches a source and takes its items. -/
def withDataSource (n : Navigator α μ κ) (source : DataSource α μ κ) : Navigator α μ κ :=
  (n.attachSource source).1

def items (n : Navigator α μ κ) : List Item := n.tabs.items

def selected (n : Navigator α μ κ) : Option Item := n.tabs.selected

def visibility (n : Navigator α μ κ) : Visibility := n.tabs.visibility

/-- The content of the selected item, if there is one, and the calls made to find it. -/
def resolveActive (n : Navigator α μ κ) : Option (Resolution (List Call) α μ κ) :=
  n.selected.map (resolveContent n.past n.source n.delegate)

def activeContent (n : Navigator α μ κ) : Option (Content α μ κ) :=
  n.resolveActive.map (·.content)

/-- The navigator after the calls that a resolution made. -/
def afterCalls (n : Navigator α μ κ) (calls : List Call) : Navigator α μ κ :=
  { n with past := n.past ++ calls }

def stripLayout [Scalar α] (n : Navigator α μ κ) : StripLayout α :=
  n.style.layout n.items n.selected n.visibility

/-- The opacity of the strip at the latest moment. -/
def opacity [Scalar α] (n : Navigator α μ κ) : α :=
  n.fade.opacity n.clock

/-- Whether the opacity of the strip still changes after the latest moment. -/
def isAnimating [Scalar α] (n : Navigator α μ κ) : Bool :=
  n.fade.isAnimating n.clock

def mount [Scalar α] (c : Configuration) (now : Moment) : Navigator α μ κ :=
  { tabs := .make c.items c.selected c.visibility
    style := .ofKind c.style
    palette := .ofDarkMode c.darkMode
    animated := c.animated
    fade := .settled c.visibility
    clock := now
    search := .ofOptions c.search }

def ofParameters [Scalar α] (parameters : Option Parameters) (now : Moment) :
    Read (Navigator α μ κ) :=
  (mount · now) <$> Configuration.ofParameters parameters

def ofJson [Scalar α] (text : String) (now : Moment) : Read (Navigator α μ κ) :=
  (mount · now) <$> Configuration.ofJson text

/-- The navigator that is told nothing. -/
def standard [Scalar α] (now : Moment) : Navigator α μ κ :=
  mount .standard now

end Navigator

end TabNavigator
