import Mathlib.Data.List.Basic
import TabNavigator.Page

/-!
# The shape of the routes that lead to a page

A route has three parts: the scheme, a name, and a remainder that is not looked at. The
remainder is nothing, or it begins with one of the marks that end a name (`Tail`), and a name
holds none of them, so the parts can be read off the route (`nameIn?_eq_some_iff`).

The page is then a matter of the name alone, and a name is compared character by character
with those of the pages. One that only begins with the name of a page is another name, and so
is one that differs from it in the case of a letter. All other routes have the generic page,
which no name leads to.
-/

namespace TabNavigator.Page

/-- Nothing, or a text that begins with a mark that ends a name. -/
def Tail (rest : String) : Prop :=
  ∀ c ∈ rest.toList.head?, c = '?' ∨ c = '#' ∨ c = '/'

/-- A text without the marks that end a name. -/
def Unbroken (cs : List Char) : Prop :=
  ∀ c ∈ cs, endsName c = false

theorem endsName_iff {c : Char} : endsName c = true ↔ c = '?' ∨ c = '#' ∨ c = '/' := by
  rw [endsName, Bool.or_eq_true, Bool.or_eq_true, decide_eq_true_eq, decide_eq_true_eq,
    decide_eq_true_eq, or_assoc]

theorem tail_iff {rest : String} : Tail rest ↔ rest.toList.head?.all endsName = true := by
  rw [Option.all_eq_true]
  exact forall₂_congr fun _ _ => endsName_iff.symm

theorem unbroken_iff {cs : List Char} : Unbroken cs ↔ cs.all (!endsName ·) = true := by
  simp only [Unbroken, List.all_eq_true, Bool.not_eq_true']

-- Both are looked at here through a list: all of `Char` is finite too, and is a long way round.
instance decidableTail (rest : String) : Decidable (Tail rest) :=
  decidable_of_iff _ tail_iff.symm

instance decidableUnbroken (cs : List Char) : Decidable (Unbroken cs) :=
  decidable_of_iff _ unbroken_iff.symm

/-! ## The name in a route -/

/-- What comes behind the first mark has no part in the name. -/
theorem takeWhile_append_tail (head : List Char) {rest : String} (htail : Tail rest) :
    (head ++ rest.toList).takeWhile (fun c => !endsName c) =
      head.takeWhile fun c => !endsName c := by
  have hnone : rest.toList.takeWhile (fun c => !endsName c) = [] := by
    cases h : rest.toList with
    | nil => rfl
    | cons c cs =>
        have hends : endsName c = true := endsName_iff.mpr (htail c (by rw [h]; rfl))
        rw [List.takeWhile_cons, hends]
        rfl
  rw [List.takeWhile_append, hnone, List.append_nil]
  split
  · next hwhole => exact (List.takeWhile_prefix _).eq_of_length hwhole |>.symm
  · rfl

theorem takeWhile_unbroken {cs : List Char} (hunbroken : Unbroken cs) :
    cs.takeWhile (fun c => !endsName c) = cs := by
  have hnamed : ∀ c ∈ cs, (!endsName c) = true := by
    intro c hmem
    rw [hunbroken c hmem]
    rfl
  have h : (cs ++ []).takeWhile (fun c => !endsName c) = cs ++ [] :=
    List.takeWhile_append_of_pos hnamed
  rwa [List.append_nil] at h

theorem nameIn?_append (head : String) {rest : String} (htail : Tail rest) :
    nameIn? (scheme ++ head ++ rest) =
      some (String.ofList (head.toList.takeWhile fun c => !endsName c)) := by
  have hparts : (scheme ++ head ++ rest).toList =
      scheme.toList ++ (head.toList ++ rest.toList) := by
    rw [String.toList_append, String.toList_append, List.append_assoc]
  rw [nameIn?, List.isPrefixOf?_eq_some_iff_append_eq.mpr hparts.symm, Option.map_some,
    takeWhile_append_tail _ htail]

theorem nameIn?_eq_some_iff {route name : String} :
    nameIn? route = some name ↔
      Unbroken name.toList ∧ ∃ rest, Tail rest ∧ route = scheme ++ name ++ rest := by
  constructor
  · intro h
    obtain ⟨cs, hstarts, rfl⟩ := Option.map_eq_some_iff.mp h
    have hparts : scheme.toList ++ cs = route.toList :=
      List.isPrefixOf?_eq_some_iff_append_eq.mp hstarts
    refine ⟨?_, String.ofList (cs.dropWhile fun c => !endsName c), ?_, ?_⟩
    · intro c hmem
      rw [String.toList_ofList] at hmem
      have hkept := List.all_eq_true.mp List.all_takeWhile c hmem
      rwa [Bool.not_eq_true'] at hkept
    · intro c hfirst
      rw [String.toList_ofList] at hfirst
      have hstop := List.head?_dropWhile_not (fun c => !endsName c) cs
      rw [Option.mem_def.mp hfirst] at hstop
      have hends : (!endsName c) = false := hstop
      rwa [Bool.not_eq_false', endsName_iff] at hends
    · rw [← String.toList_inj, ← hparts, String.toList_append, String.toList_append,
        String.toList_ofList, String.toList_ofList, List.append_assoc,
        List.takeWhile_append_dropWhile]
  · rintro ⟨hunbroken, rest, htail, rfl⟩
    rw [nameIn?_append name htail, takeWhile_unbroken hunbroken, String.ofList_toList]

/-! ## The page of a name -/

theorem unbroken_of_mem_table : ∀ entry ∈ table, Unbroken entry.1.toList := by
  decide

theorem ne_generic_of_mem_table : ∀ entry ∈ table, entry.2 ≠ generic := by
  decide

theorem ofName_of_mem_table : ∀ entry ∈ table, ofName entry.1 = entry.2 := by
  decide

theorem eq_of_mem_table :
    ∀ entry ∈ table, ∀ other ∈ table, entry.2 = other.2 → entry = other := by
  decide

theorem mem_table_of_ofName {name : String} (hknown : ofName name ≠ generic) :
    (name, ofName name) ∈ table := by
  rw [ofName] at hknown ⊢
  cases hfound : table.lookup name with
  | none =>
      rw [hfound] at hknown
      exact absurd rfl hknown
  | some page =>
      obtain ⟨before, after, hsplit, -⟩ := List.lookup_eq_some_iff.mp hfound
      rw [hsplit]
      exact List.mem_append_right before List.mem_cons_self

theorem ofName_eq_iff {name : String} {page : Page} (hmem : (name, page) ∈ table)
    {other : String} : ofName other = page ↔ other = name := by
  constructor
  · intro hsame
    have hknown : ofName other ≠ generic := hsame ▸ ne_generic_of_mem_table _ hmem
    have hentries := eq_of_mem_table _ (mem_table_of_ofName hknown) _ hmem hsame
    exact congrArg Prod.fst hentries
  · rintro rfl
    exact ofName_of_mem_table _ hmem

/-! ## The page of a route -/

/-- A page of the table has the routes of its name. -/
theorem ofRoute_eq_iff {name : String} {page : Page} (hmem : (name, page) ∈ table)
    {route : String} :
    ofRoute route = page ↔ ∃ rest, Tail rest ∧ route = scheme ++ name ++ rest := by
  have hnamed : nameIn? route = some name ↔
      ∃ rest, Tail rest ∧ route = scheme ++ name ++ rest := by
    rw [nameIn?_eq_some_iff, and_iff_right (unbroken_of_mem_table _ hmem)]
  rw [← hnamed, ofRoute]
  cases nameIn? route with
  | none => exact iff_of_false (Ne.symm (ne_generic_of_mem_table _ hmem)) nofun
  | some other => exact (ofName_eq_iff hmem).trans Option.some_inj.symm

/-- A route that does not lead to the generic page is that of a name in the table. -/
theorem exists_of_ofRoute_ne_generic {route : String} (hknown : ofRoute route ≠ generic) :
    ∃ entry ∈ table, ∃ rest, Tail rest ∧ route = scheme ++ entry.1 ++ rest := by
  obtain ⟨name, hmem⟩ : ∃ name, (name, ofRoute route) ∈ table := by
    rw [ofRoute] at hknown ⊢
    split at hknown
    · exact absurd rfl hknown
    · next name _ => exact ⟨name, mem_table_of_ofName hknown⟩
  exact ⟨_, hmem, (ofRoute_eq_iff hmem).mp rfl⟩

theorem ofRoute_eq_generic {route : String}
    (hother : ∀ entry ∈ table, ¬ ∃ rest, Tail rest ∧ route = scheme ++ entry.1 ++ rest) :
    ofRoute route = generic := by
  refine Decidable.byContradiction fun hknown => ?_
  obtain ⟨entry, hmem, hshape⟩ := exists_of_ofRoute_ne_generic hknown
  exact hother entry hmem hshape

theorem ofRoute_append_tail (head : String) {rest rest' : String} (htail : Tail rest)
    (htail' : Tail rest') :
    ofRoute (scheme ++ head ++ rest) = ofRoute (scheme ++ head ++ rest') := by
  rw [ofRoute, ofRoute, nameIn?_append head htail, nameIn?_append head htail']

/-! ## Near misses -/

/-- What the routes of an entry of the table begin with. -/
def opening (entry : String × Page) : List Char :=
  scheme.toList ++ entry.1.toList

/-- No name of the table begins with another. -/
theorem eq_of_opening_begins : ∀ entry ∈ table, ∀ other ∈ table,
    opening entry <+: opening other → entry = other := by
  decide

theorem map_toLower_opening :
    ∀ entry ∈ table, (opening entry).map Char.toLower = opening entry := by
  decide

theorem eq_of_opening_append {entry other : String × Page} (hmem : entry ∈ table)
    (hmem' : other ∈ table) {cs cs' : List Char}
    (hsame : opening entry ++ cs = opening other ++ cs') : entry = other := by
  have hstarts : opening entry <+: opening other ++ cs' := ⟨cs, hsame⟩
  rcases List.prefix_or_prefix_of_prefix hstarts (List.prefix_append _ _) with h | h
  · exact eq_of_opening_begins entry hmem other hmem' h
  · exact (eq_of_opening_begins other hmem' entry hmem h).symm

theorem exists_opening_of_ofRoute_ne_generic {route : String} (hknown : ofRoute route ≠ generic) :
    ∃ entry ∈ table, ∃ rest, Tail rest ∧ route.toList = opening entry ++ rest.toList := by
  obtain ⟨entry, hmem, rest, htail, rfl⟩ := exists_of_ofRoute_ne_generic hknown
  refine ⟨entry, hmem, rest, htail, ?_⟩
  rw [String.toList_append, String.toList_append, opening]

theorem ofRoute_of_longer_name {entry : String × Page} (hmem : entry ∈ table) {more : String}
    (hlonger : ¬ Tail more) : ofRoute (scheme ++ entry.1 ++ more) = generic := by
  refine Decidable.byContradiction fun hknown => ?_
  obtain ⟨other, hmem', rest, htail, hparts⟩ := exists_opening_of_ofRoute_ne_generic hknown
  rw [String.toList_append, String.toList_append, ← opening] at hparts
  obtain rfl := eq_of_opening_append hmem hmem' hparts
  have hsame : more = rest := String.toList_inj.mp (List.append_cancel_left hparts)
  exact hlonger (hsame ▸ htail)

/-- A text that differs from the beginning of a route in the case of letters is not the
beginning of any. -/
theorem ofRoute_of_other_case {entry : String × Page} (hmem : entry ∈ table) {head : String}
    (hletters : head.toList.map Char.toLower = opening entry)
    (hdiffers : head.toList ≠ opening entry) (rest : String) :
    ofRoute (head ++ rest) = generic := by
  refine Decidable.byContradiction fun hknown => ?_
  obtain ⟨other, hmem', rest', -, hparts⟩ := exists_opening_of_ofRoute_ne_generic hknown
  rw [String.toList_append] at hparts
  -- In small letters the text is the beginning of a route, and the route is one already.
  have hsmall := congrArg (List.map Char.toLower) hparts
  rw [List.map_append, List.map_append, hletters, map_toLower_opening other hmem'] at hsmall
  obtain rfl := eq_of_opening_append hmem hmem' hsmall
  have hlong : head.toList.length = (opening entry).length := by
    rw [← hletters, List.length_map]
  exact hdiffers (List.append_inj_left hparts hlong)

theorem ofRoute_of_no_scheme {route : String} (habsent : ¬ scheme.toList <+: route.toList) :
    ofRoute route = generic := by
  refine Decidable.byContradiction fun hknown => ?_
  obtain ⟨entry, -, rest, -, hparts⟩ := exists_opening_of_ofRoute_ne_generic hknown
  rw [opening, List.append_assoc] at hparts
  exact habsent ⟨_, hparts.symm⟩

/-- A route leads to one of the five pages exactly if it is the scheme, the name of the page,
and nothing or a text that begins with one of the three marks; all other routes lead to the
generic page. What comes behind the first mark after the scheme makes no difference. A name
that goes on behind that of a page leads to the generic page, whatever follows, and so does
a beginning that is that of a page but for the case of its letters, and a text that does not
begin with the scheme, wherever else it has it. -/
theorem page_of_route :
    let named : List (String × Page) :=
      [("home", home), ("search", search), ("favorites", favorites), ("profile", profile),
        ("settings", settings)]
    (∀ route : String,
      (∀ entry ∈ named, (ofRoute route = entry.2 ↔
        ∃ rest, Tail rest ∧ route = "app://" ++ entry.1 ++ rest)) ∧
      ((∀ entry ∈ named, ¬ ∃ rest, Tail rest ∧ route = "app://" ++ entry.1 ++ rest) →
        ofRoute route = generic)) ∧
    (∀ head rest rest' : String, Tail rest → Tail rest' →
      ofRoute ("app://" ++ head ++ rest) = ofRoute ("app://" ++ head ++ rest')) ∧
    (∀ entry ∈ named, ∀ more : String, ¬ Tail more →
      ofRoute ("app://" ++ entry.1 ++ more) = generic) ∧
    (∀ entry ∈ named, ∀ head rest : String,
      head.toList.map Char.toLower = ("app://" ++ entry.1).toList →
        head ≠ "app://" ++ entry.1 → ofRoute (head ++ rest) = generic) ∧
    (∀ route : String, ¬ "app://".toList <+: route.toList → ofRoute route = generic) := by
  intro named
  refine ⟨?shape, ?marks, ?longer, ?letters, ?scheme⟩
  case shape => exact fun route => ⟨fun entry hmem => ofRoute_eq_iff hmem, ofRoute_eq_generic⟩
  case marks => exact fun head rest rest' htail htail' => ofRoute_append_tail head htail htail'
  case longer => exact fun entry hmem more hlonger => ofRoute_of_longer_name hmem hlonger
  case letters =>
    intro entry hmem head rest hletters hdiffers
    have hparts : ("app://" ++ entry.1).toList = opening entry := String.toList_append
    refine ofRoute_of_other_case hmem (hletters.trans hparts) ?_ rest
    rw [← hparts]
    exact fun hsame => hdiffers (String.toList_inj.mp hsame)
  case scheme => exact fun route => ofRoute_of_no_scheme

/-- A route inside another does not count, and neither does a page whose name goes on, or
whose scheme is in capitals. -/
theorem page_of_nested_route :
    Tail "/edit?next=app://home" ∧
    ofRoute "app://profile/edit?next=app://home" = profile ∧
    ofRoute "app://profile/edit?next=app://home" = ofRoute "app://profile#app://search" ∧
    ofRoute "app://settings2" = generic ∧ ofRoute "App://Home?tab=1" = generic ∧
    ofRoute "go:app://home" = generic := by
  obtain ⟨hshape, hmarks, hlonger, hletters, hscheme⟩ := page_of_route
  have htail : Tail "/edit?next=app://home" := by decide
  have htail' : Tail "#app://search" := by decide
  have hgoesOn : ¬ Tail "2" := by decide
  refine ⟨htail, ?profile, hmarks "profile" _ _ htail htail', ?longer, ?letters,
    hscheme _ (by decide)⟩
  case profile => exact ((hshape _).1 ("profile", profile) (by decide)).mpr ⟨_, htail, rfl⟩
  case longer => exact hlonger ("settings", settings) (by decide) "2" hgoesOn
  case letters =>
    exact hletters ("home", home) (by decide) "App://Home" "?tab=1" (by decide) (by decide)

end TabNavigator.Page
