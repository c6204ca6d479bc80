import TabNavigator.Navigator.View
import TabNavigator.Proofs.Readings

/-!
# What a search bar says and sends

A search bar is a glyph, the field, a button that empties the field, and below them a
button for each suggestion. What it says and sends comes from the search alone, and the
palette has no part in it: this file writes it down for the buttons, the texts and the
field. The buttons send events that the search offers (`Search.offers`).
-/

namespace TabNavigator

/-- The events that the buttons of a search bar send, in their order. -/
def Search.offers (search : Search) : List Event :=
  (if search.query.isEmpty then [] else [.searchCleared])
    ++ (if search.active then search.suggestions.map .suggestionSelected else [])

/-- What a text field says and sends, apart from how it looks. -/
structure TextField.Wording (μ : Type) where
  placeholder : String
  content : String
  onInput : String → μ
  onSubmit : μ

def TextField.wording {α μ : Type} (field : TextField α μ) : TextField.Wording μ :=
  ⟨field.placeholder, field.content, field.onInput, field.onSubmit⟩

open Element View

variable {α μ β : Type} [Scalar α]

theorem Element.SeesThrough.searchBar {read : Element α μ → List β} {say : String → List β}
    (h : SeesThrough read say) (lift : Event → μ) (search : Search) (palette : Palette α) :
    read (searchBar lift search palette) =
      say (iconGlyph "magnifyingglass") ++ read (searchInput lift search palette)
        ++ (clearButton lift search palette).flatMap read
        ++ (suggestionButtons lift search palette).flatMap read := by
  simp only [View.searchBar, h.box, h.column, h.row, List.flatMap_cons, coloredText, h.text,
    List.append_assoc]

namespace View

theorem buttons_suggestionButtons (lift : Event → μ) (search : Search)
    (palette : Palette α) :
    (suggestionButtons lift search palette).flatMap buttons =
      (if search.active then search.suggestions.map .suggestionSelected else []).map
        fun event => some (lift event) := by
  rw [suggestionButtons]
  split
  · rw [List.flatMap_map, List.map_map]
    exact List.map_eq_flatMap.symm
  · rfl

theorem buttons_clearButton (lift : Event → μ) (search : Search) (palette : Palette α) :
    (clearButton lift search palette).flatMap buttons =
      (if search.query.isEmpty then [] else [.searchCleared]).map
        fun event => some (lift event) := by
  rw [clearButton]
  split <;> rfl

/-- The buttons of a search bar are there for what the search offers, and all of them can
be pressed. -/
theorem buttons_searchBar (lift : Event → μ) (search : Search) (palette : Palette α) :
    (searchBar lift search palette).buttons =
      search.offers.map fun event => some (lift event) := by
  have hfield : (searchInput lift search palette).buttons = [] := rfl
  rw [buttons_seesThrough.searchBar, hfield, buttons_clearButton, buttons_suggestionButtons,
    Search.offers, List.map_append]
  rfl

theorem texts_searchBar (lift : Event → μ) (search : Search) (palette : Palette α) :
    (searchBar lift search palette).texts =
      textUnder none (iconGlyph "magnifyingglass")
        ++ (if search.query.isEmpty then [] else textUnder (some (lift .searchCleared)) "✕")
        ++ (if search.active then
              search.suggestions.flatMap fun suggestion =>
                textUnder (some (lift (.suggestionSelected suggestion))) suggestion
            else []) := by
  have hfield : (searchInput lift search palette).textsUnder none = [] := rfl
  have hclear : (clearButton lift search palette).flatMap (textsUnder none) =
      if search.query.isEmpty then [] else textUnder (some (lift .searchCleared)) "✕" := by
    rw [clearButton]
    split <;> rfl
  have hsuggestions : (suggestionButtons lift search palette).flatMap (textsUnder none) =
      if search.active then
        search.suggestions.flatMap fun suggestion =>
          textUnder (some (lift (.suggestionSelected suggestion))) suggestion
      else [] := by
    rw [suggestionButtons]
    split
    · rw [List.flatMap_map]
      rfl
    · rfl
  rw [texts, (textsUnder_seesThrough none).searchBar, hfield, hclear, hsuggestions,
    List.append_nil]

theorem fields_searchBar (lift : Event → μ) (search : Search) (palette : Palette α) :
    (searchBar lift search palette).fields.map TextField.wording =
      [⟨search.placeholder, search.query, fun text => lift (.searchChanged text),
        lift .searchSubmitted⟩] := by
  have hfield : (searchInput lift search palette).fields.map TextField.wording =
      [⟨search.placeholder, search.query, fun text => lift (.searchChanged text),
        lift .searchSubmitted⟩] := rfl
  have hclear : (clearButton lift search palette).flatMap fields = [] := by
    rw [clearButton]
    split <;> rfl
  have hsuggestions : (suggestionButtons lift search palette).flatMap fields = [] := by
    rw [suggestionButtons]
    split
    · rw [List.flatMap_map]
      exact List.flatMap_eq_nil_iff.mpr fun _ _ => rfl
    · rfl
  rw [fields_seesThrough.searchBar, hclear, hsuggestions, List.append_nil, List.append_nil,
    List.nil_append, hfield]

end View

end TabNavigator
