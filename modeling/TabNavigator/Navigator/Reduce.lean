import TabNavigator.Event
import TabNavigator.Navigator

/-!
# Reducing events

Reducing an event gives the navigator afterwards, at most one effect, and the journal
of what was done on the way. An event that names a tab which does not exist, reloads
without a source, or submits an empty query is ignored, and an ignored event leaves
the navigator as it was.

The calls in the journal are added to the navigator's past in one place, after the
event. That is soon enough: an event asks at most one question, and asks it before it
tells anybody anything.
-/

namespace TabNavigator

/-- What came of an event. -/
structure Outcome (α μ κ : Type) where
  after : Navigator α μ κ
  effect : Option Effect
  journal : Journal

namespace Navigator

variable {α μ κ : Type}

/-- An event without effect on anything but the journal. -/
def ignoring (n : Navigator α μ κ) (journal : Journal) : Outcome α μ κ :=
  { after := n, effect := none, journal }

/-- Does something with the first item that has an identifier, if there is one. -/
def withTab (n : Navigator α μ κ) (id : String) (act : Item → Outcome α μ κ) :
    Outcome α μ κ :=
  match n.tabs.find? id with
  | some item => act item
  | none => n.ignoring [.logged (.unknownTab id)]

def select (n : Navigator α μ κ) (id : String) : Outcome α μ κ :=
  n.withTab id fun item =>
    let update := n.tabs.select item n.delegate
    { after := { n with tabs := update.tabs }
      effect := some (.selected id)
      journal := update.journal }

def performAction (n : Navigator α μ κ) (action : Action) (id : String) : Outcome α μ κ :=
  n.withTab id fun item =>
    { after := n
      effect := some (.actionPerformed action id)
      journal := Tabs.relay action item n.delegate }

/-- The action for an item: the source's choice, or else the one by the table. -/
def defaultAction (n : Navigator α μ κ) (item : Item) : Action :=
  (n.source.bind fun s => s.action n.past item).getD (.byTable item)

/-- Asking the source for the action of an item, if there is a source. -/
def askAction (n : Navigator α μ κ) (item : Item) : Journal :=
  match n.source with
  | none => []
  | some _ => [.called (.askSource (.action item))]

/-- Relays the action that fits a tab. -/
def performDefaultAction (n : Navigator α μ κ) (id : String) : Outcome α μ κ :=
  n.withTab id fun item =>
    let outcome := n.performAction (n.defaultAction item) id
    { outcome with journal := n.askAction item ++ outcome.journal }

/-- The search field for new items: a query that is there is asked again. -/
def refreshedSearch (search : Search) (items : List Item) : Search :=
  if search.query.isEmpty then search else search.setQuery search.query items

def updateItems (n : Navigator α μ κ) (items : List Item) : Outcome α μ κ :=
  let update := n.tabs.replaceItems items
  { after :=
      { n with tabs := update.tabs, search := refreshedSearch n.search update.tabs.items }
    effect := some (.itemsUpdated update.tabs.selectedId?)
    journal := update.journal }

def reloadItems (n : Navigator α μ κ) : Outcome α μ κ :=
  match n.source with
  | none => n.ignoring [.logged .reloadWithoutSource]
  | some source =>
      let outcome := n.updateItems (source.items n.past)
      { outcome with journal := .called (.askSource .items) :: outcome.journal }

/-- Submits the query. The delegate hears of it as a selection and as a search. -/
def submitSearch (n : Navigator α μ κ) : Outcome α μ κ :=
  match n.search.submit with
  | (none, _) => n.ignoring []
  | (some item, search) =>
      { after := { n with search }
        effect := some (.searched search.query)
        journal := .logged (.searchSubmitted item.route)
          :: (Delegate.tell n.delegate (.itemSelected item)
            ++ Delegate.tell n.delegate (.searched search.query)) }

def clearSearch (n : Navigator α μ κ) : Outcome α μ κ :=
  { after := { n with search := n.search.clear }
    effect := some .searchCleared
    journal := Delegate.tell n.delegate .searchCleared }

def selectSuggestion (n : Navigator α μ κ) (suggestion : String) : Outcome α μ κ :=
  let outcome := { n with search := n.search.setQuery suggestion n.items }.submitSearch
  match outcome.effect with
  | none => outcome
  | some _ =>
      { outcome with
        journal := outcome.journal
          ++ Delegate.tell n.delegate (.suggestionSelected suggestion) }

variable [Scalar α]

/-- Sets the visibility. Only a change of it starts a fade, from the latest moment. -/
def setVisibility (n : Navigator α μ κ) (visibility : Visibility) (now : Moment) :
    Outcome α μ κ :=
  let update := n.tabs.setVisibility visibility
  if n.visibility = visibility then
    { after := { n with tabs := update.tabs }, effect := none, journal := update.journal }
  else
    let clock := max n.clock now
    { after :=
        { n with
          tabs := update.tabs
          clock
          fade := n.fade.start visibility n.style.transition n.animated clock }
      effect := some (.visibilityChanged visibility)
      journal := update.journal }

/-- What an event does, apart from the navigator's memory of its calls. -/
def act (n : Navigator α μ κ) : Event → Outcome α μ κ
  | .select id => n.select id
  | .performAction action id => n.performAction action id
  | .performDefaultAction id => n.performDefaultAction id
  | .setVisibility visibility now => n.setVisibility visibility now
  | .toggleVisibility now => n.setVisibility n.visibility.toggled now
  | .updateItems items => n.updateItems items
  | .reloadItems => n.reloadItems
  | .searchChanged query =>
      { n with search := n.search.setQuery query n.items }.ignoring []
  | .searchSubmitted => n.submitSearch
  | .searchCleared => n.clearSearch
  | .suggestionSelected suggestion => n.selectSuggestion suggestion
  | .tick now => { n with clock := max n.clock now }.ignoring []

def reduce (n : Navigator α μ κ) (event : Event) : Outcome α μ κ :=
  let outcome := n.act event
  { outcome with after := outcome.after.afterCalls outcome.journal.calls }

def run (n : Navigator α μ κ) : List Event → Navigator α μ κ
  | [] => n
  | event :: rest => run (n.reduce event).after rest

def outcomes (n : Navigator α μ κ) : List Event → List (Outcome α μ κ)
  | [] => []
  | event :: rest => n.reduce event :: outcomes (n.reduce event).after rest

end Navigator

end TabNavigator
