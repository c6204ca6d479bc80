import TabNavigator.Item
import TabNavigator.Text.Percent
import TabNavigator.Text.Substring

/-!
# Search

The search field holds a query and the titles it suggests. A title is suggested when
it contains the query, both in lower case, and the first few in the order of the
items are kept; items without a title are not found.

A search is active while it has something to suggest, and from the moment its query
is submitted until the query is next replaced or cleared.
-/

namespace TabNavigator

/-- Whether there is a search field and what an empty field shows. -/
structure SearchOptions where
  enabled : Bool := false
  placeholder : String := "Search tabs..."
deriving DecidableEq

structure Search where
  enabled : Bool
  placeholder : String
  query : String := ""
  suggestions : List String := []
  active : Bool := false
deriving DecidableEq

namespace Search

def maxSuggestions : Nat := 5

/-- Whether a title contains a query, regardless of case. -/
def finds (query title : String) : Bool :=
  Text.occursIn (Text.lower query.toList) (Text.lower title.toList)

def allMatches (items : List Item) (query : String) : List String :=
  (items.filterMap (·.title)).filter (finds query)

/-- The titles that are suggested for a query; an empty query has none. -/
def suggest (items : List Item) (query : String) : List String :=
  if query.isEmpty then [] else (allMatches items query).take maxSuggestions

/-- An empty search field. An empty placeholder stands for the usual one. -/
def ofOptions (options : SearchOptions) : Search :=
  { enabled := options.enabled
    placeholder :=
      if options.placeholder.isEmpty then ({} : SearchOptions).placeholder
      else options.placeholder }

/-- Replaces the query, and with it the suggestions. -/
def setQuery (search : Search) (query : String) (items : List Item) : Search :=
  let suggestions := suggest items query
  { search with query, suggestions, active := !suggestions.isEmpty }

def clear (search : Search) : Search :=
  { search with query := "", suggestions := [], active := false }

/-- Where a query leads. -/
def routeOf (query : String) : String :=
  "app://search?query=" ++ Text.Percent.encode query

/-- The item that stands for a submitted query. -/
def itemFor (query : String) : Item :=
  { id := "search", title := some "Search", icon := "magnifyingglass"
    route := routeOf query, modal := some false, analytics := "search_query:" ++ query }

/-- The item that submitting would report: nothing for an empty query. -/
def submission (search : Search) : Option Item :=
  if search.query.isEmpty then none else some (itemFor search.query)

def submit (search : Search) : Option Item × Search :=
  match search.submission with
  | none => (none, search)
  | some item => (some item, { search with active := true })

end Search

end TabNavigator
