import TabNavigator.Proofs.Lowering
import TabNavigator.Proofs.Suggestions

/-!
# Which titles a query finds

A title is found by a query that it contains, both in lower case, and the first five titles
that are found are suggested. Two questions come with typing a query: what becomes of the
suggestions when the query is narrowed, and whether a title is found by all that it contains.

A narrower query finds fewer titles, because containment is transitive. The cut after five
comes later, so it cannot lose a title that still fits: what is left of the five is the
beginning of the new suggestions, and behind it there is room for titles that were cut off
before. If nothing was cut off, nothing is added. A title is its own narrowest query, and a
suggestion that is pressed is therefore suggested again.

A query is contained in a title as it is typed, and found in lower case. The one does not
follow from the other, as `Proofs.Lowering` explains, and it does for exactly the queries
whose capital sigmas are settled. A title that contains such a query is suggested unless
earlier titles take all the places. Of any other query there is a title that contains it and
is not found, and typing that title letter by letter has it vanish on the way.
-/

namespace TabNavigator

namespace Search

theorem finds_iff {query title : String} :
    finds query title = true ↔ Text.lower query.toList <:+: Text.lower title.toList :=
  Text.occursIn_iff _ _

theorem finds_self (title : String) : finds title title = true :=
  finds_iff.mpr List.infix_rfl

theorem finds_trans {query narrower title : String} (hcontained : finds query narrower = true)
    (hfound : finds narrower title = true) : finds query title = true :=
  finds_iff.mpr ((finds_iff.mp hcontained).trans (finds_iff.mp hfound))

/-! ## Narrower queries -/

theorem filter_allMatches {query narrower : String} (hcontained : finds query narrower = true)
    (items : List Item) :
    (allMatches items query).filter (finds narrower) = allMatches items narrower := by
  rw [allMatches, allMatches, List.filter_filter]
  refine List.filter_congr fun title _ => ?_
  rw [Bool.eq_iff_iff, Bool.and_eq_true]
  constructor
  · intro hboth
    exact hboth.1
  · intro hfound
    exact ⟨hfound, finds_trans hcontained hfound⟩

theorem filter_suggest_isPrefix {query narrower : String} (hne : query ≠ "")
    (hcontained : finds query narrower = true) (items : List Item) :
    (suggest items query).filter (finds narrower) <+: suggest items narrower := by
  have hnarrower : narrower ≠ "" := ne_empty_of_finds hne hcontained
  rw [suggest_of_nonempty hne, suggest_of_nonempty hnarrower,
    List.prefix_take_iff]
  constructor
  · rw [← filter_allMatches hcontained items]
    exact (List.take_prefix _ _).filter _
  · calc (((allMatches items query).take maxSuggestions).filter (finds narrower)).length
        ≤ ((allMatches items query).take maxSuggestions).length := List.length_filter_le _ _
      _ ≤ maxSuggestions := List.length_take_le _ _

theorem filter_suggest_of_short {query narrower : String} (hne : query ≠ "")
    (hcontained : finds query narrower = true) {items : List Item}
    (hshort : (suggest items query).length < maxSuggestions) :
    (suggest items query).filter (finds narrower) = suggest items narrower := by
  have hnarrower : narrower ≠ "" := ne_empty_of_finds hne hcontained
  rw [suggest_of_nonempty hne, List.length_take] at hshort
  have hall : (allMatches items query).length ≤ maxSuggestions := by omega
  have hfewer : (allMatches items narrower).length ≤ maxSuggestions := by
    rw [← filter_allMatches hcontained items]
    exact (List.length_filter_le _ _).trans hall
  rw [suggest_of_nonempty hne, suggest_of_nonempty hnarrower,
    List.take_of_length_le hall, List.take_of_length_le hfewer, filter_allMatches hcontained]

theorem mem_suggest_self {items : List Item} {query title : String}
    (hmem : title ∈ suggest items query) : title ∈ suggest items title := by
  obtain ⟨hne, -, hfound⟩ := of_mem_suggest hmem
  have hkept : title ∈ (suggest items query).filter (finds title) :=
    List.mem_filter.mpr ⟨hmem, finds_self title⟩
  exact (filter_suggest_isPrefix hne hfound items).mem hkept

end Search

namespace Navigator

variable {α μ κ : Type} [Scalar α]

/-- Pressing a title submits it as the query. -/
theorem search_of_suggestionSelected (n : Navigator α μ κ) {title : String}
    (hne : title ≠ "") :
    (n.reduce (.suggestionSelected title)).after.search =
      { n.search.setQuery title n.items with active := true } := by
  rw [reduce, (Step.suggestionSubmitted hne).eq_act]
  rfl

theorem suggested_when_pressed {n : Navigator α μ κ} {query title : String}
    (hmem : title ∈ Search.suggest n.items query) :
    let after := (n.reduce (.suggestionSelected title)).after
    after.search.active = true ∧ title ∈ after.search.suggestions := by
  intro after
  have hsearch : after.search = { n.search.setQuery title n.items with active := true } :=
    n.search_of_suggestionSelected (Search.ne_empty_of_mem_suggest hmem)
  rw [hsearch]
  exact ⟨rfl, Search.mem_suggest_self hmem⟩

/-- A query is narrowed, regardless of case. What is left of its suggestions is, in order, the
beginning of those of the narrower query, and all of them if it had fewer than five. Every
title that is suggested is suggested for itself; and if it is pressed, in a navigator with
these items, the search is then active and the title is still listed. In particular this is so
of every suggestion that is shown by a navigator which was mounted and fitted out in whatever
way, after any events. -/
theorem suggestions_of_narrower_query (items : List Item) {query narrower : String}
    (hne : query ≠ "")
    (hcontained : Text.lower query.toList <:+: Text.lower narrower.toList) :
    let kept := (Search.suggest items query).filter (Search.finds narrower)
    kept <+: Search.suggest items narrower ∧
    ((Search.suggest items query).length < 5 → kept = Search.suggest items narrower) ∧
    (∀ title ∈ Search.suggest items query, title ∈ Search.suggest items title ∧
      ∀ n : Navigator α μ κ, n.items = items →
        let after := (n.reduce (.suggestionSelected title)).after
        after.search.active = true ∧ title ∈ after.search.suggestions) ∧
    ∀ n : Navigator α μ κ, Fitted n → ∀ events,
      let shown := n.run events
      ∀ title ∈ shown.search.suggestions,
        let after := (shown.reduce (.suggestionSelected title)).after
        after.search.active = true ∧ title ∈ after.search.suggestions := by
  intro kept
  have hfound : Search.finds query narrower = true := Search.finds_iff.mpr hcontained
  refine ⟨?beginning, ?all, ?offered, ?shown⟩
  case beginning => exact Search.filter_suggest_isPrefix hne hfound items
  case all => exact Search.filter_suggest_of_short hne hfound
  case offered =>
    intro title hmem
    refine ⟨Search.mem_suggest_self hmem, ?_⟩
    rintro n rfl
    exact suggested_when_pressed hmem
  case shown =>
    intro n hfitted events shown title hmem
    have hnow : shown.search.UpToDate shown.items := hfitted.run_search_upToDate events
    rw [hnow.suggested] at hmem
    exact suggested_when_pressed hmem

/-- A query that finds more titles than are suggested gains one when it is narrowed, and one
that finds fewer gains none. The last of the suggestions stays when it is pressed. -/
theorem suggestions_of_narrower_query_of_six :
    let titles := ["Tab 1", "Tab 2", "Tab 3", "Tab 4", "Tab 12", "Tab 13"]
    let items : List Item := titles.map fun title => { id := title, title := some title }
    let n : Navigator Rat Unit Unit := mount { Configuration.standard with items } 0
    let pressed := ((n.run [.searchChanged "tab"]).reduce (.suggestionSelected "Tab 12")).after
    (Search.suggest items "tab").filter (Search.finds "TAB 1") = ["Tab 1", "Tab 12"] ∧
    ["Tab 1", "Tab 12"] <+: Search.suggest items "TAB 1" ∧
    "Tab 13" ∈ Search.suggest items "TAB 1" ∧
    (Search.suggest items "TAB 1").filter (Search.finds "tab 13") =
      Search.suggest items "tab 13" ∧
    Fitted n ∧ pressed.search.active = true ∧ "Tab 12" ∈ pressed.search.suggestions := by
  intro titles items n pressed
  have hfitted : Fitted n := .mounted (.configuration _ _)
  have hkept : (Search.suggest items "tab").filter (Search.finds "TAB 1") =
      ["Tab 1", "Tab 12"] := by decide +kernel
  have hshown : "Tab 12" ∈ (n.run [.searchChanged "tab"]).search.suggestions := by
    decide +kernel
  have hwide : "tab" ≠ "" := by decide
  have hnarrow : "TAB 1" ≠ "" := by decide
  obtain ⟨hbeginning, -, -, hpress⟩ := suggestions_of_narrower_query (α := Rat) (μ := Unit)
    (κ := Unit) items hwide (by decide +kernel : _ <:+: Text.lower "TAB 1".toList)
  obtain ⟨-, hall, -, -⟩ := suggestions_of_narrower_query (α := Rat) (μ := Unit)
    (κ := Unit) items hnarrow (by decide +kernel : _ <:+: Text.lower "tab 13".toList)
  rw [hkept] at hbeginning
  exact ⟨hkept, hbeginning, by decide +kernel, hall (by decide +kernel), hfitted,
    hpress n hfitted [.searchChanged "tab"] "Tab 12" hshown⟩

end Navigator

/-! ## Titles that contain the query -/

namespace Search

theorem allMatches_append (earlier later : List Item) (query : String) :
    allMatches (earlier ++ later) query = allMatches earlier query ++ allMatches later query := by
  rw [allMatches, List.filterMap_append, List.filter_append]
  rfl

theorem allMatches_cons_of_finds {item : Item} {title query : String}
    (htitled : item.title = some title) (hfound : finds query title = true)
    (later : List Item) :
    allMatches (item :: later) query = title :: allMatches later query := by
  rw [allMatches, List.filterMap_cons_some htitled, List.filter_cons_of_pos hfound]
  rfl

/-- A title that is found is suggested unless five earlier ones are. -/
theorem mem_suggest_or_full {query title : String} (hne : query ≠ "")
    (hfound : finds query title = true) {item : Item} (htitled : item.title = some title)
    (earlier later : List Item) :
    title ∈ suggest (earlier ++ item :: later) query ∨
      (maxSuggestions ≤ (allMatches earlier query).length ∧
        suggest (earlier ++ item :: later) query =
          (allMatches earlier query).take maxSuggestions) := by
  rw [suggest_of_nonempty hne, allMatches_append, allMatches_cons_of_finds htitled hfound]
  rcases Nat.lt_or_ge (allMatches earlier query).length maxSuggestions with hroom | hfull
  · left
    rw [List.take_append, List.mem_append]
    obtain ⟨free, hmore⟩ := Nat.exists_eq_add_of_lt hroom
    have hplaces : maxSuggestions - (allMatches earlier query).length = free + 1 := by omega
    rw [hplaces, List.take_succ_cons]
    exact Or.inr List.mem_cons_self
  · right
    exact ⟨hfull, List.take_append_of_le_length hfull⟩

/-- A query is settled if it has no capital sigma. The titles that contain a query as it is
typed are suggested, each of them unless five titles of earlier items that are found too take
all the places, exactly if the query is settled. -/
theorem containing_titles_suggested_iff {query : String} (hne : query ≠ "") :
    ('Σ' ∉ query.toList → Text.isSettled query.toList = true) ∧
    (Text.isSettled query.toList = true ↔
      ∀ (earlier later : List Item) (item : Item) (title : String),
        item.title = some title → query.toList <:+: title.toList →
          title ∈ suggest (earlier ++ item :: later) query ∨
            (5 ≤ (allMatches earlier query).length ∧
              suggest (earlier ++ item :: later) query =
                (allMatches earlier query).take 5)) := by
  refine ⟨fun hnone => Text.isSettledAfter_of_not_mem hnone [], ?_⟩
  constructor
  · intro hsettled earlier later item title htitled hcontained
    have hfound : finds query title = true :=
      finds_iff.mpr (Text.lower_infix_of_settled hsettled hcontained)
    exact mem_suggest_or_full hne hfound htitled earlier later
  · intro halways
    rw [Text.isSettled_iff]
    intro whole hcontained
    -- The title alone: there are no earlier ones to take its place.
    let title := String.ofList whole
    have hinTitle : query.toList <:+: title.toList := by
      rw [String.toList_ofList]
      exact hcontained
    let item : Item := { id := "", title := some title }
    rcases halways [] [] item title rfl hinTitle with hmem | ⟨hfull, -⟩
    · have hfound := finds_iff.mp (of_mem_suggest hmem).2.2
      rwa [String.toList_ofList] at hfound
    · cases hfull

/-- A sigma before a letter is settled, and the title is found although its last sigma is
another. -/
theorem containing_titles_suggested_before_letter :
    let item : Item := { id := "epic", title := some "ΟΔΥΣΣΕΑΣ" }
    Text.isSettled "ΣΕ".toList = true ∧ "ΣΕ".toList <:+: "ΟΔΥΣΣΕΑΣ".toList ∧
    "ΟΔΥΣΣΕΑΣ" ∈ suggest [Item.home, item, Item.search] "ΣΕ" := by
  intro item
  have hsettled : Text.isSettled "ΣΕ".toList = true := by decide +kernel
  have hcontained : "ΣΕ".toList <:+: "ΟΔΥΣΣΕΑΣ".toList := by decide +kernel
  refine ⟨hsettled, hcontained, ?_⟩
  have hne : "ΣΕ" ≠ "" := by decide
  obtain ⟨-, hiff⟩ := containing_titles_suggested_iff hne
  rcases hiff.mp hsettled [Item.home] [Item.search] item _ rfl hcontained with hmem | ⟨hfull, -⟩
  · exact hmem
  · exact absurd hfull (by decide +kernel)

/-- A title that is typed letter by letter: it is suggested for its first letter, not for its
first two, where the sigma has the form for the end of a word, and again for all three. -/
theorem title_not_suggested_at_sigma :
    let item : Item := { id := "a", title := some "ΑΣΑ" }
    "ΑΣ".toList <:+: "ΑΣΑ".toList ∧ Text.isSettled "ΑΣ".toList = false ∧
    suggest [item] "Α" = ["ΑΣΑ"] ∧ suggest [item] "ΑΣ" = [] ∧
    suggest [item] "ΑΣΑ" = ["ΑΣΑ"] := by
  decide +kernel

end Search

end TabNavigator
