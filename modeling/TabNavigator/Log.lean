import TabNavigator.Item
import TabNavigator.Text.Description
import TabNavigator.Visibility

/-!
# Log entries

What is worth noting while a navigator works. An entry says what happened; its level
and its wording follow from that.
-/

namespace TabNavigator

/-- The ways in which the content of a tab can be provided. -/
inductive ContentKind where
  | native
  | declarative
  | builtin
deriving DecidableEq

def ContentKind.name : ContentKind → String
  | native => "native-controller"
  | declarative => "declarative-view"
  | builtin => "builtin"

def Action.describe : Action → String
  | resetStack => "ResetNavigationStack"
  | present => "Present"
  | push => "Push"

def Visibility.describe : Visibility → String
  | visible => "Visible"
  | hidden => "Hidden"

inductive LogLevel where
  | debug
  | info
  | warning
deriving DecidableEq

/-- Something worth noting. -/
inductive LogEntry where
  /-- The item that was asked for as the selection is not among the items. -/
  | selectionNotFound (id : String)
  | itemsReplaced (count : Nat) (selected : Option String)
  | tabSelected (id : String)
  | visibilitySet (visibility : Visibility)
  | actionRelayed (action : Action) (id : String)
  /-- An event named a tab that does not exist. -/
  | unknownTab (id : String)
  | reloadWithoutSource
  | searchSubmitted (route : String)
  | contentResolved (kind : ContentKind) (id : String)
  /-- A delegate that logs was told of a selection. -/
  | toldSelected (label : String)
  | toldPerformed (action : Action) (label : String)
  | toldSearched (query : String)
  | toldSearchCleared
deriving DecidableEq

namespace LogEntry

def level : LogEntry → LogLevel
  | unknownTab _ | reloadWithoutSource => .warning
  | toldSelected _ | toldPerformed _ _ | toldSearched _ | toldSearchCleared => .info
  | _ => .debug

def message : LogEntry → String
  | selectionNotFound id =>
      "selected item " ++ id ++ " is not in the item list; falling back to the first item"
  | itemsReplaced count selected =>
      "tab bar items updated: " ++ toString count ++ " items, selection "
        ++ Text.describeOption (selected.map Text.quoted)
  | tabSelected id => "tab bar item selected: " ++ id
  | visibilitySet visibility => "tab bar visibility set to " ++ visibility.describe
  | actionRelayed action id => "tab bar action " ++ action.describe ++ " for " ++ id
  | unknownTab id => "tab bar ignored event for unknown item " ++ id
  | reloadWithoutSource => "tab bar reload requested without a data source"
  | searchSubmitted route => "tab bar search submitted: " ++ route
  | contentResolved kind id => "resolved " ++ kind.name ++ " content for tab " ++ id
  | toldSelected label => "tab bar selected item " ++ label
  | toldPerformed action label =>
      "tab bar performed " ++ action.describe ++ " for item " ++ label
  | toldSearched query => "tab bar search submitted: " ++ query
  | toldSearchCleared => "tab bar search cleared"

end LogEntry

end TabNavigator
