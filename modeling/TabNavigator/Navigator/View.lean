import TabNavigator.Element.Reading
import TabNavigator.Event
import TabNavigator.Navigator

/-!
# The view of a navigator

From top to bottom: the search field with its suggestions if there is one, the page
with the content of the selected tab, and the strip. The strip is left out while it
cannot be seen. While it fades out it is still drawn, but its buttons do nothing.

The host says how an event becomes one of its messages and how its own content is
mounted. Apart from that content, all buttons of a view send events.
-/

namespace TabNavigator

/-- The sign drawn for an icon. Icons without a sign of their own get a filled circle. -/
def iconGlyph (icon : String) : String :=
  (glyphs.lookup icon).getD "●"
where
  glyphs : List (String × String) :=
    [("house.fill", "⌂"), ("house", "⌂"), ("magnifyingglass", "⌕"), ("heart.fill", "♥"),
      ("heart", "♥"), ("person.fill", "☺"), ("person", "☺"), ("gearshape.fill", "⚙"),
      ("gearshape", "⚙"), ("star.fill", "★"), ("star", "★"), ("bell.fill", "♪"),
      ("bell", "♪"), ("envelope.fill", "✉"), ("envelope", "✉")]

structure PageTexts where
  title : String
  subtitle : String
  rows : List String

/-- The texts of a page, but for the generic one, which is about its item. -/
def Page.texts? : Page → Option PageTexts
  | home => some
      { title := "Welcome Home"
        subtitle := "This is your home dashboard with personalized content "
          ++ "and quick access to your most used features."
        rows := ["Quick Actions", "Recent Activity"] }
  | search => some
      { title := "Search"
        subtitle := "Find anything across your tabs."
        rows := ["Search Result 1", "Search Result 2", "Search Result 3"] }
  | favorites => some
      { title := "Favorites"
        subtitle := "This is one of your favorite items."
        rows := ["Favorite Item 1", "Favorite Item 2", "Favorite Item 3"] }
  | profile => some
      { title := "Profile"
        subtitle := "john.doe@example.com"
        rows := ["Edit Profile", "Notifications", "Privacy & Security", "Help & Support"] }
  | settings => some
      { title := "Settings"
        subtitle := "Preferences for this application."
        rows := ["Notifications", "Dark Mode", "Language", "Privacy Policy", "Data Usage",
          "Version", "Rate App"] }
  | generic => none

namespace View

variable {α μ κ : Type} [Scalar α]

open Scalar

/-! ## Pages -/

def pageTitleSize : α := ofNat 24

def pageBodySize : α := ofNat 14

def pageIconSize : α := ofNat 48

/-- A text in the colour of what is around it. -/
def plainText (content : String) (size : α) : Element α μ :=
  .text content size none

def coloredText (content : String) (size : α) (color : Color α) : Element α μ :=
  .text content size (some color)

def pageRow (palette : Palette α) (title : String) : Element α μ :=
  .box (.pill palette.field (ofNat 8)) (plainText title pageBodySize)

def fixedPage (page : PageTexts) (item : Item) (palette : Palette α) : Element α μ :=
  .column
    [coloredText (iconGlyph item.icon) pageIconSize palette.accent,
      plainText page.title pageTitleSize,
      coloredText page.subtitle pageBodySize palette.dimForeground,
      .column (page.rows.map (pageRow palette))]

def genericPage (item : Item) (palette : Palette α) : Element α μ :=
  .column
    [coloredText (iconGlyph item.icon) pageIconSize palette.accent,
      plainText item.label pageTitleSize,
      coloredText ("This is the content for " ++ item.label) pageBodySize
        palette.dimForeground,
      plainText "Deeplink Information" pageBodySize,
      coloredText ("Deeplink: " ++ item.route) pageBodySize palette.dimForeground]

def builtinPage (page : Page) (item : Item) (palette : Palette α) : Element α μ :=
  match page.texts? with
  | some texts => fixedPage texts item palette
  | none => genericPage item palette

/-- What is shown while no tab is selected. -/
def noTabs (palette : Palette α) : Element α μ :=
  .box .plain (coloredText "No tabs" defaultTextSize palette.dimForeground)

def shownContent (mount : Controller κ → Element α μ) (palette : Palette α) (item : Item) :
    Content α μ κ → Element α μ
  | .native controller => mount controller
  | .declarative view => view
  | .builtin page => builtinPage page item palette

/-- The part of the view between the search field and the strip. -/
def page (palette : Palette α) (content : Element α μ) : Element α μ :=
  .box
    { Look.plain with
      background := some palette.contentBackground, textColor := some palette.foreground }
    content

/-! ## Buttons -/

/-- How the buttons of a navigator look while nothing is pressed. -/
def idleLook (palette : Palette α) (hasMargin : Bool) : Look α :=
  { Look.plain with textColor := some palette.inactive, hasMargin := hasMargin }

/-- How a pressed button looks: half of the highlight of a selected item. -/
def pressedLook (palette : Palette α) (hasMargin : Bool) : Look α :=
  { idleLook palette hasMargin with
    background := some (palette.pill.scaled (ratio 1 2)) }

def button (palette : Palette α) (hasMargin : Bool) (message : Option μ)
    (child : Element α μ) : Element α μ :=
  .button (idleLook palette hasMargin) (pressedLook palette hasMargin) message child

/-! ## The strip -/

def itemBody (metrics : Metrics α) (palette : Palette α) (entry : StripEntry) :
    Element α μ :=
  let tint := if entry.isSelected then palette.accent else palette.inactive
  let parts :=
    [coloredText (iconGlyph entry.item.icon) metrics.iconSize tint,
      coloredText entry.item.label metrics.labelSize tint]
  match metrics.itemLayout with
  | .stacked => .column parts
  | .inline => .row parts

/-- Icon and label of an item, with the highlight if it is selected and has one. -/
def highlightedItem (metrics : Metrics α) (palette : Palette α) (entry : StripEntry) :
    Element α μ :=
  match metrics.selectedPill with
  | some pill =>
      if entry.isSelected then
        .box (.pill palette.pill pill.cornerRadius) (itemBody metrics palette entry)
      else itemBody metrics palette entry
  | none => itemBody metrics palette entry

/-- The button of an item. It ends where the item ends. -/
def itemButton (lift : Event → μ) (metrics : Metrics α) (palette : Palette α)
    (interactive : Bool) (entry : StripEntry) : Element α μ :=
  button palette false (if interactive then some (lift (.select entry.item.id)) else none)
    (.box .plain (highlightedItem metrics palette entry))

def fillColor (palette : Palette α) : Fill → Option (Color α)
  | .solid => some palette.background
  | .material => some palette.material
  | .clear => none

def barLook (metrics : Metrics α) (palette : Palette α) : Look α :=
  { background := fillColor palette metrics.fill
    border := ⟨palette.border, metrics.borderWidth, metrics.cornerRadius⟩
    shadow :=
      if metrics.shadow then ⟨palette.shadow, ofNat 0, ofNat 2, ofNat 8⟩ else .none
    textColor := none
    hasMargin := true }

/-- Wraps a decorator around a strip. Its colours fade with the strip. -/
def decorate (opacity : α) (inner : Element α μ) : Decorator α → Element α μ
  | .background color radius => .box (.rounded (color.scaled opacity) radius) inner
  | .shadow shadow =>
      .box
        { Look.plain with shadow := { shadow with color := shadow.color.scaled opacity } }
        inner
  | .padding horizontal _ =>
      .box { Look.plain with hasMargin := below zero horizontal } inner
  | .animation _ => inner

def undecoratedStrip (lift : Event → μ) (layout : StripLayout α) (palette : Palette α) :
    Element α μ :=
  let metrics := layout.metrics
  let interactive := layout.visibility.isVisible
  let bar : Element α μ :=
    .box (barLook metrics palette)
      (.row (layout.entries.map (itemButton lift metrics palette interactive)))
  let lined :=
    if metrics.separator then .column [.box (.filled palette.separator) .space, bar] else bar
  let centered := if metrics.fillItems then lined else .box .plain lined
  .box { Look.plain with hasMargin := below zero metrics.outerPaddingHorizontal } centered

/-- A strip in a palette that has already faded, at the opacity it has faded to. -/
def strip (lift : Event → μ) (layout : StripLayout α) (palette : Palette α) (opacity : α) :
    Element α μ :=
  layout.decorators.foldl (decorate opacity) (undecoratedStrip lift layout palette)

/-! ## The search field -/

def searchTextSize : α := ofNat 14

def searchInput (lift : Event → μ) (search : Search) (palette : Palette α) : Element α μ :=
  .field
    { placeholder := search.placeholder
      content := search.query
      size := searchTextSize
      contentColor := palette.foreground
      placeholderColor := palette.dimForeground
      background := palette.field
      border := .rounded (ofNat 10)
      onInput := fun text => lift (.searchChanged text)
      onSubmit := lift .searchSubmitted }

/-- The button that empties the field, if there is anything in it. -/
def clearButton (lift : Event → μ) (search : Search) (palette : Palette α) :
    List (Element α μ) :=
  if search.query.isEmpty then []
  else
    [button palette true (some (lift .searchCleared))
      (coloredText "✕" searchTextSize palette.inactive)]

def suggestionButton (lift : Event → μ) (palette : Palette α) (suggestion : String) :
    Element α μ :=
  button palette true (some (lift (.suggestionSelected suggestion)))
    (coloredText suggestion searchTextSize palette.foreground)

/-- The suggestions, while the search is active. -/
def suggestionButtons (lift : Event → μ) (search : Search) (palette : Palette α) :
    List (Element α μ) :=
  if search.active then search.suggestions.map (suggestionButton lift palette) else []

def searchBar (lift : Event → μ) (search : Search) (palette : Palette α) : Element α μ :=
  let glyph :=
    coloredText (iconGlyph "magnifyingglass") defaultTextSize palette.inactive
  let line : Element α μ :=
    .row (glyph :: searchInput lift search palette :: clearButton lift search palette)
  .box (.filled palette.background)
    (.column
      (.box { Look.plain with hasMargin := true } line
        :: suggestionButtons lift search palette))

end View

namespace Navigator

variable {α μ κ : Type} [Scalar α]

/-- Whether nothing of the strip is to be seen: it is transparent, or hidden for good. -/
def stripIsGone (n : Navigator α μ κ) : Bool :=
  !Scalar.below Scalar.zero n.opacity || (!n.visibility.isVisible && !n.isAnimating)

def stripView (n : Navigator α μ κ) (lift : Event → μ) : Element α μ :=
  if n.stripIsGone then .space
  else View.strip lift n.stripLayout (n.palette.faded n.opacity) n.opacity

def searchView (n : Navigator α μ κ) (lift : Event → μ) : List (Element α μ) :=
  if n.search.enabled then [View.searchBar lift n.search n.palette] else []

def contentView (n : Navigator α μ κ) (mount : Controller κ → Element α μ)
    (content : Option (Content α μ κ)) : Element α μ :=
  match n.selected, content with
  | some item, some content => View.shownContent mount n.palette item content
  | _, _ => View.noTabs n.palette

/-- All that is shown, and the journal of finding the content. -/
def view (n : Navigator α μ κ) (lift : Event → μ) (mount : Controller κ → Element α μ) :
    Element α μ × Journal :=
  let resolution := n.resolveActive
  let content := n.contentView mount (resolution.map (·.content))
  let element := .column
    (n.searchView lift ++ [View.page n.palette content, n.stripView lift])
  (element, (resolution.map (·.journal)).getD [])

end Navigator

end TabNavigator
