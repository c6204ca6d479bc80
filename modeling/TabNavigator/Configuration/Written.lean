import TabNavigator.Configuration.Parameters

/-!
# Configurations written as parameters

The parameters that describe a configuration, every option under its own key. An
item leaves out a title or a modal flag that it does not have, because an absent
member is how their absence is said. A selection that is not there is left out too.
-/

namespace TabNavigator

/-- Sets a member to a value if there is one. -/
def Parameters.setSome (parameters : Parameters) (key : String) (value : Option Json) :
    Parameters :=
  match value with
  | none => parameters
  | some value => Json.Members.insert key value parameters

/-- Members with different keys, and the values of those that are there. -/
def Parameters.ofOptional (members : List (String × Option Json)) : Parameters :=
  members.foldl (fun parameters member => parameters.setSome member.1 member.2) []

theorem Parameters.get?_setSome (parameters : Parameters) (key : String)
    (value : Option Json) (k : String) :
    (parameters.setSome key value).get? k =
      if k = key then value.or (parameters.get? k) else parameters.get? k := by
  cases value with
  | none => rw [setSome, Option.none_or, ite_self]
  | some v => rw [setSome, Json.Members.get?_insert, Option.some_or]

/-- With different keys, no member is in the way of another. -/
theorem Parameters.get?_foldl_setSome {members : List (String × Option Json)}
    (hdistinct : (members.map Prod.fst).Nodup) (parameters : Parameters) (k : String) :
    (members.foldl (fun p member => p.setSome member.1 member.2) parameters).get? k =
      (members.lookup k).join.or (parameters.get? k) := by
  induction members generalizing parameters with
  | nil => rfl
  | cons member rest ih =>
      obtain ⟨hnew, hdistinct⟩ := List.nodup_cons.mp hdistinct
      rw [List.foldl_cons, ih hdistinct, get?_setSome, List.lookup_cons]
      split
      · next hsame =>
          have habsent : rest.lookup k = none := by
            rw [List.lookup_eq_none_iff]
            intro other hmem
            rw [bne_iff_ne, hsame]
            intro heq
            exact hnew (heq ▸ List.mem_map_of_mem hmem)
          rw [habsent, beq_iff_eq.mpr hsame]
          rfl
      · next hdifferent => rw [beq_eq_false_iff_ne.mpr hdifferent]

theorem Parameters.get?_ofOptional {members : List (String × Option Json)}
    (hdistinct : (members.map Prod.fst).Nodup) (k : String) :
    (Parameters.ofOptional members).get? k = (members.lookup k).join :=
  (get?_foldl_setSome hdistinct [] k).trans Option.or_none

/-- The descriptor of an item. -/
def Item.written (item : Item) : Parameters :=
  .ofOptional
    [("identifier", some (.string item.id)),
      ("title", item.title.map .string),
      ("icon", some (.string item.icon)),
      ("deeplink", some (.string item.route)),
      ("modal", item.modal.map .bool),
      ("analytics", some (.string item.analytics))]

namespace Configuration

/-- The parameters that describe a configuration. -/
def written (c : Configuration) : Parameters :=
  .ofOptional
    [("items", some (.array (c.items.map fun item => .object item.written))),
      ("selectedItem", c.selected.map fun item => .object item.written),
      ("style", some (.string c.style.name)),
      ("isAnimated", some (.bool c.animated)),
      ("showTabBar", some (.bool c.visible)),
      ("isDarkMode", some (.bool c.darkMode)),
      ("searchEnabled", some (.bool c.search.enabled)),
      ("searchPlaceholder", some (.string c.search.placeholder))]

/-- A configuration that parameters can describe: its style has a name to ask for, and
its selection is the first item of its tab, or nothing if there are no items. -/
def WellFormed (c : Configuration) : Prop :=
  c.style ≠ .composable ∧
    match c.selected with
    | none => c.items = []
    | some item => Item.find? c.items item.id = some item

end Configuration

end TabNavigator
