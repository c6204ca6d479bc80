import TabNavigator.Element
import TabNavigator.Journal

/-!
# Collaborators

A source supplies the items and may supply content and actions for them. A delegate
is told what happens and may supply content where the source does not. Whatever a
collaborator is asked it may decline to answer, and one that is attached and always
declines makes no difference to what is shown.

Answers are functions of the calls made so far, to either collaborator and in
order, besides the item in question. What observers are told is not among these
calls: an observer only listens, and a host in which one changes what a source or a
delegate will answer is not covered. Otherwise an answer could come to depend on
the visibility, which no collaborator is told of.
-/

namespace TabNavigator

/-- Content that the host owns: a name to show, and something only the host can use. -/
structure Controller (κ : Type) where
  name : String
  payload : κ

/-- What answers depend on: the calls to collaborators so far, without what observers were
told. -/
abbrev Past := List Call

/-- Supplies the items. -/
structure DataSource (α μ κ : Type) where
  items : Past → List Item
  controller : Past → Item → Option (Controller κ) := fun _ _ => none
  view : Past → Item → Option (Element α μ) := fun _ _ => none
  action : Past → Item → Option Action := fun _ item => some (.byTable item)

/-- Is told what happens, and stands in where the source supplies no content. -/
structure Delegate (α μ κ : Type) where
  controller : Past → Item → Option (Controller κ) := fun _ _ => none
  view : Past → Item → Option (Element α μ) := fun _ _ => none
  /-- What the delegate logs when it is told something. -/
  log : Notice → List LogEntry := fun _ => []

variable {α μ κ : Type}

def DataSource.fixed (items : List Item) : DataSource α μ κ :=
  { items := fun _ => items }

namespace Delegate

/-- A delegate that keeps everything to itself. -/
def silent : Delegate α μ κ := {}

/-- What a logging delegate makes of a notice. -/
def logEntries : Notice → List LogEntry
  | .itemSelected item => [.toldSelected item.label]
  | .actionPerformed action item => [.toldPerformed action item.label]
  | .searched query => [.toldSearched query]
  | .searchCleared => [.toldSearchCleared]
  | .suggestionSelected _ => []

def logging : Delegate α μ κ := { log := logEntries }

/-- Telling a delegate something, if there is a delegate. -/
def tell (delegate : Option (Delegate α μ κ)) (notice : Notice) : Journal :=
  match delegate with
  | none => []
  | some delegate =>
      .called (.tellDelegate notice) :: (delegate.log notice).map .logged

end Delegate

end TabNavigator
