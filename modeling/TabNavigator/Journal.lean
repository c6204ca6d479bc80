import TabNavigator.Log

/-!
# The journal

Everything a navigator does towards the outside is written down in order: what it
asks and tells its collaborators, what it tells its observers, and what it logs. An
operation returns its journal next to its result, so who hears what, and when, is a
statement about data.

A collaborator may answer a question differently from one time to the next. It is
taken to go by what it has been asked and told before, and not by what observers
heard, so an answer is a function of the calls so far and the navigator keeps those
calls.
-/

namespace TabNavigator

/-- What a collaborator can be asked. Items and actions are for the source alone. -/
inductive Question where
  /-- Which items there are. -/
  | items
  | controller (item : Item)
  | view (item : Item)
  | action (item : Item)
deriving DecidableEq

/-- What a delegate is told. -/
inductive Notice where
  | itemSelected (item : Item)
  | actionPerformed (action : Action) (item : Item)
  | searched (query : String)
  | searchCleared
  | suggestionSelected (suggestion : String)
deriving DecidableEq

inductive Call where
  | askSource (question : Question)
  | askDelegate (question : Question)
  | tellDelegate (notice : Notice)
deriving DecidableEq

/-- What observers of the tabs are told. -/
inductive Change where
  | itemsUpdated (selectionChanged : Bool)
  | selected (item : Item)
  | visibilityChanged (visibility : Visibility)
deriving DecidableEq

/-- One thing that a navigator did towards the outside. -/
inductive JournalEntry where
  | called (call : Call)
  /-- Observers are numbered in the order in which they subscribed. -/
  | observed (observer : Nat) (change : Change)
  | logged (entry : LogEntry)
deriving DecidableEq

/-- What was done towards the outside, in order. -/
abbrev Journal := List JournalEntry

namespace JournalEntry

def call? : JournalEntry → Option Call
  | called call => some call
  | _ => none

def noted? : JournalEntry → Option LogEntry
  | logged entry => some entry
  | _ => none

def notice? : JournalEntry → Option Notice
  | called (.tellDelegate notice) => some notice
  | _ => none

/-- The change that one observer is told of. -/
def changeFor? (observer : Nat) : JournalEntry → Option Change
  | observed n change => if n = observer then some change else none
  | _ => none

end JournalEntry

namespace Journal

def calls (journal : Journal) : List Call :=
  journal.filterMap JournalEntry.call?

def log (journal : Journal) : List LogEntry :=
  journal.filterMap JournalEntry.noted?

def notices (journal : Journal) : List Notice :=
  journal.filterMap JournalEntry.notice?

def changesFor (journal : Journal) (observer : Nat) : List Change :=
  journal.filterMap (JournalEntry.changeFor? observer)

/-- One change, told to every observer in turn. -/
def tellObservers (count : Nat) (change : Change) : Journal :=
  (List.range count).map fun n => .observed n change

end Journal

end TabNavigator
