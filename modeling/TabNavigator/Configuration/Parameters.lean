import TabNavigator.Configuration
import TabNavigator.Json.Printer
import TabNavigator.Json.Reader
import TabNavigator.Log

/-!
# Configurations from parameters

A host describes a navigator by the members of a JSON object. Unknown members are
ignored. A member that is absent, or null, leaves the option at its usual value; one
that is there but has the wrong shape is refused, and of several the first in the
order of reading is named.

Reading an object is a sequence of small readers, one for each member, and each of
them looks at its own member only.
-/

namespace TabNavigator

/-- Why parameters are refused. -/
inductive ParameterError where
  /-- A member that must be there is absent or has no usable value. -/
  | missing (field : String)
  /-- A member has the wrong shape. -/
  | invalid (field : String)
  /-- A member has a value that is not one of those it can have. -/
  | unknownValue (field value : String)
  /-- The text is not a JSON document. -/
  | notJson
deriving DecidableEq

def ParameterError.message : ParameterError → String
  | missing field => "missing required parameter: " ++ field
  | invalid field => "invalid parameter: " ++ field
  | unknownValue field value =>
      "invalid value `" ++ value ++ "` for `" ++ field
        ++ "`; expected one of: default, compact, floating, minimal"
  | notJson => "tab bar parameters JSON failed"

/-- The members of an object that describes something. -/
abbrev Parameters := Json.Members

/-- What a reader of parameters gives. -/
abbrev Read (β : Type) := Except ParameterError β

namespace Parameters

/-- The value of a member that is there; null counts as absent. -/
def present? (parameters : Parameters) (key : String) : Option Json :=
  match parameters.get? key with
  | some .null => none
  | value => value

def optionalString (parameters : Parameters) (key : String) : Read (Option String) :=
  match parameters.present? key with
  | none => .ok none
  | some (.string s) => .ok (some s)
  | some _ => .error (.invalid key)

def optionalBool (parameters : Parameters) (key : String) : Read (Option Bool) :=
  match parameters.present? key with
  | none => .ok none
  | some (.bool b) => .ok (some b)
  | some _ => .error (.invalid key)

def boolOr (parameters : Parameters) (key : String) (default : Bool) : Read Bool :=
  return (← parameters.optionalBool key).getD default

/-- The identifier of a descriptor, which must be there. -/
def identifier (descriptor : Parameters) : Read String :=
  match descriptor.get? "identifier" with
  | some (.string id) => .ok id
  | _ => .error (.missing "identifier")

def item (descriptor : Parameters) : Read Item := do
  let id ← descriptor.identifier
  let title ← descriptor.optionalString "title"
  let icon ← descriptor.optionalString "icon"
  let route ← descriptor.optionalString "deeplink"
  let modal ← descriptor.optionalBool "modal"
  let analytics ← descriptor.optionalString "analytics"
  return { id, title, icon := icon.getD defaultIcon, route := route.getD "", modal
           analytics := analytics.getD "" }

def listedItem : Json → Read Item
  | .object descriptor => Parameters.item descriptor
  | _ => .error (.invalid "items")

/-- The listed items, or the standard ones. -/
def items (parameters : Parameters) : Read (List Item) :=
  match parameters.present? "items" with
  | none => .ok Item.standard
  | some (.array elements) => elements.mapM listedItem
  | some _ => .error (.invalid "items")

/-- The item that is asked for as the selection, if one is. -/
def requestedItem (parameters : Parameters) : Read (Option Item) :=
  match parameters.present? "selectedItem" with
  | none => .ok none
  | some (.object descriptor) => some <$> Parameters.item descriptor
  | some _ => .error (.invalid "selectedItem")

/-- The listed item that is the requested tab, or else the first one. -/
def resolveSelection (requested : Option Item) (items : List Item) : Option Item :=
  (requested.bind fun r => Item.find? items r.id).or items.head?

/-- Notes that the requested tab is not the one that gets selected. -/
def selectionLog (requested selected : Option Item) : List LogEntry :=
  match requested with
  | some r => if selected.map (·.id) = some r.id then [] else [.selectionNotFound r.id]
  | none => []

/-- The style asked for by its name. A value that is no text is named by its own text. -/
def style (parameters : Parameters) : Read StyleKind :=
  match parameters.present? "style" with
  | none => .ok .standard
  | some (.string name) =>
      match StyleKind.ofName? name with
      | some kind => .ok kind
      | none => .error (.unknownValue "style" name)
  | some value => .error (.unknownValue "style" value.compact)

end Parameters

namespace Configuration

/-- The configuration that an object describes, and what is worth noting about it. -/
def readLogged (parameters : Parameters) : Read (Configuration × List LogEntry) := do
  let items ← parameters.items
  let requested ← parameters.requestedItem
  let selected := Parameters.resolveSelection requested items
  let style ← parameters.style
  let animated ← parameters.boolOr "isAnimated" true
  let visible ← parameters.boolOr "showTabBar" true
  let darkMode ← parameters.boolOr "isDarkMode" false
  let enabled ← parameters.boolOr "searchEnabled" false
  let placeholder ← parameters.optionalString "searchPlaceholder"
  let search : SearchOptions :=
    { enabled, placeholder := placeholder.getD ({} : SearchOptions).placeholder }
  return ({ items, selected, style, animated, visible, darkMode, search },
    Parameters.selectionLog requested selected)

/-- The configuration for parameters that may not be given at all. -/
def ofParametersLogged : Option Parameters → Read (Configuration × List LogEntry)
  | none => .ok (standard, [])
  | some parameters => readLogged parameters

/-- The configuration that a JSON document describes: an object, or null for none. -/
def ofJsonLogged (text : String) : Read (Configuration × List LogEntry) :=
  match Json.read? text with
  | none => .error .notJson
  | some (.object parameters) => ofParametersLogged (some parameters)
  | some .null => ofParametersLogged none
  | some _ => .error (.invalid "parameters")

def ofParameters (parameters : Option Parameters) : Read Configuration :=
  Prod.fst <$> ofParametersLogged parameters

def ofJson (text : String) : Read Configuration :=
  Prod.fst <$> ofJsonLogged text

end Configuration

end TabNavigator
