import TabNavigator.Configuration.Written

/-!
# Writing a configuration and reading it again

Reading loses nothing of what parameters can say: the parameters that `written` makes of a
well-formed configuration read back as that configuration, item by item and field by field.
And what it produces is always well-formed, so that the well-formed configurations are
exactly those that parameters describe.

Two parts of this are not a matter of one member. A member that is left out is read as
absent, which is how an item without a title comes back without one. And the selection is
written as a descriptor but read as a tab: what comes back is the first item that carries
the identifier, so a selection that differs from that item would be lost. This is why a
well-formed configuration selects the first item of its tab.
-/

namespace TabNavigator

namespace Read

/-- A sequence of two readers succeeds if both do. -/
theorem bind_eq_ok {β γ : Type} {r : Read β} {f : β → Read γ} {c : γ}
    (h : r >>= f = .ok c) : ∃ b, r = .ok b ∧ f b = .ok c := by
  cases r with
  | error e => cases h
  | ok b => exact ⟨b, rfl, h⟩

end Read

/-! ## Styles -/

theorem StyleKind.mem_selectable_iff (kind : StyleKind) :
    kind ∈ selectable ↔ kind ≠ .composable := by
  cases kind <;> decide

theorem StyleKind.ne_composable_of_ofName? {name : String} {kind : StyleKind}
    (h : ofName? name = some kind) : kind ≠ .composable :=
  (mem_selectable_iff kind).mp (List.mem_of_find?_eq_some h)

theorem StyleKind.ofName?_name {kind : StyleKind} (h : kind ≠ .composable) :
    ofName? kind.name = some kind := by
  cases kind with
  | composable => exact absurd rfl h
  | _ => rfl

namespace Parameters

/-! ## One member -/

section Members

variable {parameters : Parameters} {key : String}

theorem optionalString_eq {value : Option String}
    (hthere : parameters.get? key = value.map .string) :
    parameters.optionalString key = .ok value := by
  cases value <;> rw [optionalString, present?, hthere] <;> rfl

theorem optionalBool_eq {value : Option Bool}
    (hthere : parameters.get? key = value.map .bool) :
    parameters.optionalBool key = .ok value := by
  cases value <;> rw [optionalBool, present?, hthere] <;> rfl

theorem boolOr_eq {value : Bool} (hthere : parameters.get? key = some (.bool value))
    (default : Bool) : parameters.boolOr key default = .ok value := by
  have hread : parameters.optionalBool key = .ok (some value) := optionalBool_eq hthere
  rw [boolOr, hread]
  rfl

theorem style_eq {kind : StyleKind} (hselectable : kind ≠ .composable)
    (hthere : parameters.get? "style" = some (.string kind.name)) :
    parameters.style = .ok kind := by
  rw [style, present?, hthere]
  simp only [StyleKind.ofName?_name hselectable]

theorem ne_composable_of_style {kind : StyleKind} (h : parameters.style = .ok kind) :
    kind ≠ .composable := by
  rw [style] at h
  split at h
  · cases h; decide
  · split at h
    · next hfound => cases h; exact StyleKind.ne_composable_of_ofName? hfound
    · cases h
  · cases h

end Members

/-! ## Items -/

/-- An item reads back from its descriptor. -/
theorem item_written (i : Item) : Parameters.item i.written = .ok i := by
  have hmember (key : String) : i.written.get? key = _ := get?_ofOptional (by simp) key
  have hid : i.written.identifier = .ok i.id := by
    rw [identifier, hmember]
    rfl
  have htitle : i.written.optionalString "title" = .ok i.title := optionalString_eq (hmember _)
  have hicon : i.written.optionalString "icon" = .ok (some i.icon) :=
    optionalString_eq (hmember _)
  have hroute : i.written.optionalString "deeplink" = .ok (some i.route) :=
    optionalString_eq (hmember _)
  have hmodal : i.written.optionalBool "modal" = .ok i.modal := optionalBool_eq (hmember _)
  have hanalytics : i.written.optionalString "analytics" = .ok (some i.analytics) :=
    optionalString_eq (hmember _)
  rw [item, hid, htitle, hicon, hroute, hmodal, hanalytics]
  rfl

theorem mapM_listedItem_written (items : List Item) :
    (items.map fun i => Json.object i.written).mapM listedItem = .ok items := by
  induction items with
  | nil => rfl
  | cons i rest ih =>
      rw [List.map_cons, List.mapM_cons, listedItem, item_written, ih]
      rfl

/-! ## The selection -/

/-- Whatever is asked for, what is selected is the first item of its tab. -/
theorem find?_of_resolveSelection {requested : Option Item} {items : List Item} {i : Item}
    (h : resolveSelection requested items = some i) : Item.find? items i.id = some i := by
  rw [resolveSelection] at h
  -- Either the requested tab was found, or the selection is the first item of all.
  cases hasked : requested.bind fun r => Item.find? items r.id with
  | some found =>
      rw [hasked, Option.some_or] at h
      cases h
      obtain ⟨r, -, hfound⟩ := Option.bind_eq_some_iff.mp hasked
      rw [Item.id_of_find? hfound]
      exact hfound
  | none =>
      rw [hasked, Option.none_or] at h
      obtain ⟨rest, rfl⟩ := List.head?_eq_some_iff.mp h
      rw [Item.find?]
      exact List.find?_cons_of_pos (beq_self_eq_true i.id)

theorem eq_nil_of_resolveSelection {requested : Option Item} {items : List Item}
    (h : resolveSelection requested items = none) : items = [] := by
  rw [resolveSelection, Option.or_eq_none_iff] at h
  exact List.head?_eq_none_iff.mp h.2

end Parameters

namespace Configuration

open Parameters

/-- A well-formed configuration asks for what it selects. -/
theorem WellFormed.resolveSelection_eq {c : Configuration} (h : c.WellFormed) :
    resolveSelection c.selected c.items = c.selected := by
  have hselection := h.2
  cases hsel : c.selected with
  | none =>
      rw [hsel] at hselection
      rw [show c.items = [] from hselection]
      rfl
  | some item =>
      rw [hsel] at hselection
      have hfirst : Item.find? c.items item.id = some item := hselection
      rw [resolveSelection, Option.bind_some, hfirst, Option.some_or]

/-! ## The whole configuration -/

/-- What parameters describe is well-formed. -/
theorem wellFormed_of_readLogged {parameters : Parameters} {c : Configuration}
    {log : List LogEntry} (h : readLogged parameters = .ok (c, log)) : c.WellFormed := by
  obtain ⟨items, -, h⟩ := Read.bind_eq_ok h
  obtain ⟨requested, -, h⟩ := Read.bind_eq_ok h
  obtain ⟨style, hstyle, h⟩ := Read.bind_eq_ok h
  obtain ⟨animated, -, h⟩ := Read.bind_eq_ok h
  obtain ⟨visible, -, h⟩ := Read.bind_eq_ok h
  obtain ⟨darkMode, -, h⟩ := Read.bind_eq_ok h
  obtain ⟨enabled, -, h⟩ := Read.bind_eq_ok h
  obtain ⟨placeholder, -, h⟩ := Read.bind_eq_ok h
  cases h
  refine ⟨ne_composable_of_style hstyle, ?_⟩
  cases hsel : resolveSelection requested items with
  | none => exact eq_nil_of_resolveSelection hsel
  | some item => exact find?_of_resolveSelection hsel

theorem standard_wellFormed : standard.WellFormed :=
  ⟨by decide, rfl⟩

theorem wellFormed_of_ofParameters {parameters : Option Parameters} {c : Configuration}
    (h : ofParameters parameters = .ok c) : c.WellFormed := by
  cases parameters with
  | none => cases h; exact standard_wellFormed
  | some parameters =>
      rw [ofParameters, ofParametersLogged] at h
      cases hread : readLogged parameters with
      | error e => rw [hread] at h; cases h
      | ok pair =>
          rw [hread] at h
          cases h
          exact wellFormed_of_readLogged hread

/-- A well-formed configuration reads back from the parameters it is written as. -/
theorem WellFormed.ofParameters_written {c : Configuration} (h : c.WellFormed) :
    ofParameters (some c.written) = .ok c := by
  have hmember (key : String) : c.written.get? key = _ := get?_ofOptional (by simp) key
  have hitems : c.written.items = .ok c.items := by
    rw [Parameters.items, present?, hmember]
    exact mapM_listedItem_written c.items
  -- What is read as the request is the selection itself, not yet looked up in the items.
  have hrequested : c.written.requestedItem = .ok c.selected := by
    rw [requestedItem, present?, hmember]
    cases c.selected with
    | none => rfl
    | some item =>
        show some <$> Parameters.item item.written = _
        rw [item_written]
        rfl
  have hstyle : c.written.style = .ok c.style := style_eq h.1 (hmember _)
  have hanimated : c.written.boolOr "isAnimated" true = .ok c.animated := boolOr_eq (hmember _) _
  have hvisible : c.written.boolOr "showTabBar" true = .ok c.visible := boolOr_eq (hmember _) _
  have hdarkMode : c.written.boolOr "isDarkMode" false = .ok c.darkMode := boolOr_eq (hmember _) _
  have henabled : c.written.boolOr "searchEnabled" false = .ok c.search.enabled :=
    boolOr_eq (hmember _) _
  have hplaceholder :
      c.written.optionalString "searchPlaceholder" = .ok (some c.search.placeholder) :=
    optionalString_eq (hmember _)
  rw [ofParameters, ofParametersLogged, readLogged, hitems, hrequested, hstyle, hanimated,
    hvisible, hdarkMode, henabled, hplaceholder]
  show Except.ok { c with selected := resolveSelection c.selected c.items } = _
  rw [h.resolveSelection_eq]

/-- A configuration is well-formed exactly if it reads back from the parameters it is
written as, and exactly if there are parameters that describe it. -/
theorem wellFormed_iff_described (c : Configuration) :
    (c.WellFormed ↔ ofParameters (some c.written) = .ok c) ∧
    (c.WellFormed ↔ ∃ parameters, ofParameters parameters = .ok c) := by
  constructor
  · exact ⟨fun h => h.ofParameters_written, wellFormed_of_ofParameters⟩
  · constructor
    · intro h
      exact ⟨some c.written, h.ofParameters_written⟩
    · rintro ⟨parameters, h⟩
      exact wellFormed_of_ofParameters h

/-- Of two items with one identifier the first can be the selection, and both are kept. -/
theorem repeated_tab_reads_back :
    let c : Configuration :=
      { standard with
        items := [{ id := "a", title := some "" }, { id := "a", modal := some false }]
        selected := some { id := "a", title := some "" } }
    c.WellFormed ∧ ofParameters (some c.written) = .ok c := by
  intro c
  have hwellFormed : c.WellFormed := ⟨by decide, rfl⟩
  exact ⟨hwellFormed, (wellFormed_iff_described c).1.mp hwellFormed⟩

end Configuration

end TabNavigator
