import TabNavigator.Text.Case

/-!
# Items

An item describes one tab. Its identifier is its identity: two items with the same
identifier are the same tab, whatever else they say, and an identifier is looked up
by the first item that carries it. Equality of items, in contrast, compares all they
say.
-/

namespace TabNavigator

/-- The icon of an item that names none. -/
def defaultIcon : String := "circle.fill"

/-- One tab: its identity, what it shows and where it leads. -/
structure Item where
  id : String
  title : Option String := none
  icon : String := defaultIcon
  route : String := ""
  modal : Option Bool := none
  analytics : String := ""
deriving DecidableEq

namespace Item

/-- Whether two items are the same tab. -/
def isSameTab (a b : Item) : Bool :=
  a.id == b.id

/-- What an item is called: its title, or its identifier with a capital. -/
def label (item : Item) : String :=
  match item.title with
  | some title => title
  | none => String.ofList (Text.capitalize item.id.toList)

/-- The first item with an identifier. -/
def find? (items : List Item) (id : String) : Option Item :=
  items.find? fun item => item.id == id

/-- Whether one of the items is the same tab. -/
def isAmong (item : Item) (items : List Item) : Bool :=
  items.any item.isSameTab

theorem isAmong_iff {item : Item} {items : List Item} :
    item.isAmong items = true ↔ ∃ i ∈ items, i.id = item.id := by
  rw [isAmong, List.any_eq_true]
  constructor
  · rintro ⟨i, hi, hsame⟩
    exact ⟨i, hi, (beq_iff_eq.mp hsame).symm⟩
  · rintro ⟨i, hi, hsame⟩
    exact ⟨i, hi, beq_iff_eq.mpr hsame.symm⟩

theorem mem_of_find? {items : List Item} {id : String} {item : Item}
    (hfound : find? items id = some item) : item ∈ items :=
  List.mem_of_find?_eq_some hfound

theorem exists_find?_of_mem {items : List Item} {item : Item} (hmem : item ∈ items) :
    ∃ first, find? items item.id = some first := by
  have h : (items.find? fun i => i.id == item.id).isSome = true :=
    List.find?_isSome.mpr ⟨item, hmem, beq_self_eq_true _⟩
  exact Option.isSome_iff_exists.mp h

theorem find?_eq_none_iff {items : List Item} {id : String} :
    find? items id = none ↔ id ∉ items.map (·.id) := by
  rw [find?, List.find?_eq_none, List.mem_map]
  constructor
  · rintro hnone ⟨item, hmem, rfl⟩
    exact hnone item hmem (beq_self_eq_true _)
  · intro habsent item hmem hsame
    exact habsent ⟨item, hmem, beq_iff_eq.mp hsame⟩

theorem id_of_find? {items : List Item} {id : String} {item : Item}
    (hfound : find? items id = some item) : item.id = id := by
  have h := List.find?_some hfound
  exact beq_iff_eq.mp h

end Item

/-- What a tab can ask of the navigation around it. -/
inductive Action where
  | resetStack
  | present
  | push
deriving DecidableEq

/-- The identifiers of the tabs that are presented unless a source says otherwise. -/
def presentedTabs : List String := ["search", "profile", "settings"]

/-- The action of an item when no source picks one. -/
def Action.byTable (item : Item) : Action :=
  if presentedTabs.contains item.id then .present else .push

end TabNavigator
