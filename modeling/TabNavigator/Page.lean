/-!
# Pages for routes

A route of the navigator's own scheme names one of its pages. The name ends at the
first of the marks that begin a query, a fragment or a path; what comes after it is
not looked at. Every other route has the generic page.
-/

namespace TabNavigator

/-- The pages that come with the navigator. -/
inductive Page where
  | home
  | search
  | favorites
  | profile
  | settings
  | generic
deriving DecidableEq

namespace Page

/-- What the routes of the navigator's pages begin with. -/
def scheme : String := "app://"

/-- Whether a page's name ends before this character. -/
def endsName (c : Char) : Bool :=
  c = '?' || c = '#' || c = '/'

/-- The pages that a route can name. -/
def table : List (String × Page) :=
  [("home", home), ("search", search), ("favorites", favorites), ("profile", profile),
    ("settings", settings)]

def ofName (name : String) : Page :=
  (table.lookup name).getD generic

/-- The name in a route, if the route has the scheme. -/
def nameIn? (route : String) : Option String :=
  (scheme.toList.isPrefixOf? route.toList).map fun rest =>
    String.ofList (rest.takeWhile fun c => !endsName c)

/-- The page that a route leads to. -/
def ofRoute (route : String) : Page :=
  match nameIn? route with
  | none => generic
  | some name => ofName name

end Page

end TabNavigator
