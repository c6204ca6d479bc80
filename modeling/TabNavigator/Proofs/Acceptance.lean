import TabNavigator.Configuration.Parameters

/-!
# Which parameters are accepted, and why others are not

The reading of parameters stops at the first thing that is wrong, so what it says of an
object with several faults depends on the order in which it looks. Here both are written
down without any reading. `Acceptable` is the shape that parameters must have, member by
member. `checks` is the list of everything that is looked at, in order, each with the
reason for which parameters are refused that fail it; the checks of a list of items are
those of its elements in turn. `FirstFailing` picks the reason out of such a list.

What ties a reader to its checks is `Follows`: it succeeds if all of them hold and
otherwise refuses for the reason of the first that does not. This goes through sequences
of readers, because the checks of the second are never asked for unless those of the first
hold, and through reading a list.
-/

namespace TabNavigator

/-! ## Shapes -/

namespace Json

def IsBool (v : Json) : Prop := ∃ b, v = .bool b

def IsString (v : Json) : Prop := ∃ s, v = .string s

def IsArray (v : Json) : Prop := ∃ elements, v = .array elements

def IsObject (v : Json) : Prop := ∃ members, v = .object members

end Json

namespace Parameters

open Json (IsBool IsString IsArray IsObject)

/-- A member that may be left out, or be null, and fits if it is there. -/
def Optional (parameters : Parameters) (key : String) (fits : Json → Prop) : Prop :=
  parameters.get? key = none ∨ parameters.get? key = some .null ∨
    ∃ v, parameters.get? key = some v ∧ fits v

/-- The descriptors that describe an item. -/
structure IsDescriptor (descriptor : Parameters) : Prop where
  identifier : ∃ id, descriptor.get? "identifier" = some (.string id)
  title : descriptor.Optional "title" IsString
  icon : descriptor.Optional "icon" IsString
  deeplink : descriptor.Optional "deeplink" IsString
  modal : descriptor.Optional "modal" IsBool
  analytics : descriptor.Optional "analytics" IsString

end Parameters

def Json.DescribesItem (v : Json) : Prop :=
  ∃ descriptor : Parameters, v = .object descriptor ∧ descriptor.IsDescriptor

namespace Parameters

open Json (IsBool IsString IsArray IsObject)

/-- The parameters that describe a configuration. -/
structure Acceptable (parameters : Parameters) : Prop where
  items : parameters.Optional "items" fun v =>
    ∃ elements, v = .array elements ∧ ∀ element ∈ elements, element.DescribesItem
  selectedItem : parameters.Optional "selectedItem" Json.DescribesItem
  style : parameters.Optional "style" fun v =>
    ∃ name, v = .string name ∧ name ∈ ["default", "compact", "floating", "minimal"]
  isAnimated : parameters.Optional "isAnimated" IsBool
  showTabBar : parameters.Optional "showTabBar" IsBool
  isDarkMode : parameters.Optional "isDarkMode" IsBool
  searchEnabled : parameters.Optional "searchEnabled" IsBool
  searchPlaceholder : parameters.Optional "searchPlaceholder" IsString

end Parameters

/-! ## Checks -/

/-- Something that is looked at, and the reason for a refusal if it does not hold. -/
structure Check where
  holds : Prop
  refusal : ParameterError

/-- The reason of the first check that fails. -/
inductive FirstFailing : List Check → ParameterError → Prop where
  | here {check : Check} {rest : List Check} (hfails : ¬ check.holds) :
      FirstFailing (check :: rest) check.refusal
  | later {check : Check} {rest : List Check} {e : ParameterError} (hholds : check.holds) :
      FirstFailing rest e → FirstFailing (check :: rest) e

namespace Parameters

open Json (IsBool IsString IsArray IsObject)

/-- A member that may be left out is looked at. -/
def check (parameters : Parameters) (key : String) (fits : Json → Prop) : Check :=
  ⟨parameters.Optional key fits, .invalid key⟩

def descriptorChecks (descriptor : Parameters) : List Check :=
  [⟨∃ id, descriptor.get? "identifier" = some (.string id), .missing "identifier"⟩,
    descriptor.check "title" IsString,
    descriptor.check "icon" IsString,
    descriptor.check "deeplink" IsString,
    descriptor.check "modal" IsBool,
    descriptor.check "analytics" IsString]

/-- The checks inside a value that ought to be an object. -/
def memberChecks : Json → List Check
  | .object descriptor => descriptorChecks descriptor
  | _ => []

/-- An element of the list of items must be an object, and then a descriptor. -/
def elementChecks (element : Json) : List Check :=
  ⟨element.IsObject, .invalid "items"⟩ :: memberChecks element

/-- The checks inside a value that ought to be a list of items. -/
def listChecks : Json → List Check
  | .array elements => elements.flatMap elementChecks
  | _ => []

/-- The checks inside a member, if it is there. -/
def checksInside (parameters : Parameters) (key : String) (inside : Json → List Check) :
    List Check :=
  (parameters.get? key).elim [] inside

/-- What a refused style is called: its name, or the text of a value that is no name. -/
def styleText (parameters : Parameters) : String :=
  match parameters.get? "style" with
  | none => ""
  | some (.string name) => name
  | some v => v.compact

def styleCheck (parameters : Parameters) : Check :=
  ⟨parameters.Optional "style" fun v =>
      ∃ name, v = .string name ∧ name ∈ ["default", "compact", "floating", "minimal"],
    .unknownValue "style" parameters.styleText⟩

/-- All that is looked at, in order. -/
def checks (parameters : Parameters) : List Check :=
  parameters.check "items" IsArray
    :: (parameters.checksInside "items" listChecks
      ++ parameters.check "selectedItem" IsObject
        :: (parameters.checksInside "selectedItem" memberChecks
          ++ [parameters.styleCheck,
            parameters.check "isAnimated" IsBool,
            parameters.check "showTabBar" IsBool,
            parameters.check "isDarkMode" IsBool,
            parameters.check "searchEnabled" IsBool,
            parameters.check "searchPlaceholder" IsString]))

end Parameters

/-! ## The first check that fails -/

theorem FirstFailing.not_forall {checks : List Check} {e : ParameterError}
    (h : FirstFailing checks e) : ¬ ∀ c ∈ checks, c.holds := by
  induction h with
  | here hfails => exact fun hall => hfails (hall _ List.mem_cons_self)
  | later _ _ ih => exact fun hall => ih fun c hc => hall c (List.mem_cons_of_mem _ hc)

theorem FirstFailing.unique {checks : List Check} {e e' : ParameterError}
    (h : FirstFailing checks e) (h' : FirstFailing checks e') : e = e' := by
  induction h with
  | here hfails =>
      cases h' with
      | here => rfl
      | later hholds _ => exact absurd hholds hfails
  | later hholds _ ih =>
      cases h' with
      | here hfails => exact absurd hholds hfails
      | later _ h' => exact ih h'

theorem FirstFailing.append_left {checks : List Check} {e : ParameterError}
    (h : FirstFailing checks e) (more : List Check) : FirstFailing (checks ++ more) e := by
  induction h with
  | here hfails => exact .here hfails
  | later hholds _ ih => exact .later hholds ih

theorem FirstFailing.append_right {checks more : List Check} {e : ParameterError}
    (hall : ∀ c ∈ checks, c.holds) (h : FirstFailing more e) :
    FirstFailing (checks ++ more) e := by
  induction checks with
  | nil => exact h
  | cons c rest ih =>
      rw [List.forall_mem_cons] at hall
      exact .later hall.1 (ih hall.2)

/-! ## Readers that follow their checks -/

/-- A reader succeeds if its checks hold, and otherwise refuses for the reason of the first
that does not. -/
def Follows {β : Type} (checks : List Check) : Read β → Prop
  | .ok _ => ∀ c ∈ checks, c.holds
  | .error e => FirstFailing checks e

section Follows

variable {β γ : Type} {checks more : List Check}

theorem Follows.ok_iff {r : Read β} (h : Follows checks r) :
    (∃ a, r = .ok a) ↔ ∀ c ∈ checks, c.holds := by
  cases r with
  | ok a => exact ⟨fun _ => h, fun _ => ⟨a, rfl⟩⟩
  | error e =>
      have hfails := FirstFailing.not_forall h
      constructor
      · rintro ⟨a, h⟩; cases h
      · intro hall; exact absurd hall hfails

theorem Follows.error_iff {r : Read β} (h : Follows checks r) (e : ParameterError) :
    r = .error e ↔ FirstFailing checks e := by
  cases r with
  | ok a =>
      constructor
      · intro hsame; cases hsame
      · intro hfails; exact absurd h hfails.not_forall
  | error e' =>
      constructor
      · intro hsame; cases hsame; exact h
      · intro hfails; rw [FirstFailing.unique h hfails]

theorem follows_ok (a : β) : Follows [] (.ok a : Read β) :=
  fun _ habsent => nomatch habsent

/-- Of two readers, the checks of the second come behind those of the first. -/
theorem Follows.bind {r : Read β} {f : β → Read γ} (hfirst : Follows checks r)
    (hsecond : ∀ a, r = .ok a → Follows more (f a)) : Follows (checks ++ more) (r >>= f) := by
  cases r with
  | error e => exact FirstFailing.append_left hfirst more
  | ok a =>
      have hsecond : Follows more (f a) := hsecond a rfl
      show Follows (checks ++ more) (f a)
      cases h : f a with
      | ok b =>
          rw [h] at hsecond
          exact List.forall_mem_append.mpr ⟨hfirst, hsecond⟩
      | error e =>
          rw [h] at hsecond
          exact FirstFailing.append_right hfirst hsecond

/-- A reader with one check, and another one. -/
theorem Follows.bind_cons {check : Check} {r : Read β} {f : β → Read γ}
    (hfirst : Follows [check] r) (hsecond : ∀ a, r = .ok a → Follows more (f a)) :
    Follows (check :: more) (r >>= f) :=
  hfirst.bind hsecond

theorem follows_of_holds {P : Prop} (hholds : P) (refusal : ParameterError) (a : β) :
    Follows [⟨P, refusal⟩] (.ok a : Read β) := by
  intro c hc
  rw [List.mem_singleton.mp hc]
  exact hholds

/-- A check that holds in front of others. -/
theorem Follows.cons {P : Prop} {refusal : ParameterError} {r : Read β}
    (h : Follows checks r) (hholds : P) : Follows (⟨P, refusal⟩ :: checks) r :=
  (follows_of_holds hholds refusal ()).bind_cons fun _ _ => h

theorem Follows.map {r : Read β} (h : Follows checks r) (f : β → γ) :
    Follows checks (f <$> r) := by
  cases r with
  | ok a => exact h
  | error e => exact h

/-- Reading a list checks its elements in turn. -/
theorem follows_mapM {f : β → Read γ} {checksOf : β → List Check}
    (heach : ∀ a, Follows (checksOf a) (f a)) (elements : List β) :
    Follows (elements.flatMap checksOf) (elements.mapM f) := by
  induction elements with
  | nil => exact follows_ok []
  | cons a rest ih =>
      rw [List.mapM_cons, List.flatMap_cons]
      refine (heach a).bind fun b _ => ?_
      exact ih.map (b :: ·)

end Follows

/-! ## The readers -/

namespace Parameters

open Json (IsBool IsString IsArray IsObject)

section Members

variable {parameters : Parameters} {key : String} {fits : Json → Prop}

theorem get?_of_present {v : Json} (h : parameters.present? key = some v) :
    parameters.get? key = some v := by
  rw [present?] at h
  split at h
  · cases h
  · exact h

theorem get?_of_absent (h : parameters.present? key = none) :
    parameters.get? key = none ∨ parameters.get? key = some .null := by
  rw [present?] at h
  split at h
  · next hnull => exact .inr hnull
  · exact .inl h

theorem optional_of_absent (h : parameters.present? key = none) :
    parameters.Optional key fits :=
  (get?_of_absent h).imp_right .inl

theorem optional_iff_of_present {v : Json} (h : parameters.present? key = some v) :
    parameters.Optional key fits ↔ fits v := by
  have hthere := get?_of_present h
  constructor
  · rintro (habsent | hnull | ⟨w, hw, hfits⟩)
    · rw [hthere] at habsent; cases habsent
    · rw [present?, hnull] at h; cases h
    · rw [hthere] at hw; cases hw; exact hfits
  · intro hfits
    exact .inr (.inr ⟨v, hthere, hfits⟩)

theorem checksInside_of_absent {inside : Json → List Check}
    (h : parameters.present? key = none) (hnothing : inside .null = []) :
    parameters.checksInside key inside = [] := by
  rw [checksInside]
  rcases get?_of_absent h with hthere | hthere <;> rw [hthere]
  · rfl
  · exact hnothing

theorem checksInside_of_present {inside : Json → List Check} {v : Json}
    (h : parameters.present? key = some v) :
    parameters.checksInside key inside = inside v := by
  rw [checksInside, get?_of_present h, Option.elim_some]

end Members

/-- A reader that goes by one member, and is content if there is none. -/
theorem follows_member {β : Type} {parameters : Parameters} {key : String}
    {fits : Json → Prop} {refusal : ParameterError} {inside : Json → List Check}
    {r : Read β} (hnothing : inside .null = [])
    (habsent : parameters.present? key = none → ∃ a, r = .ok a)
    (hpresent : ∀ v, parameters.present? key = some v →
      Follows (⟨fits v, refusal⟩ :: inside v) r) :
    Follows (⟨parameters.Optional key fits, refusal⟩ :: parameters.checksInside key inside)
      r := by
  -- Null is absent to the reader but not to the checks, which find nothing in it.
  cases h : parameters.present? key with
  | none =>
      obtain ⟨a, rfl⟩ := habsent h
      rw [checksInside_of_absent h hnothing]
      exact follows_of_holds (optional_of_absent h) refusal a
  | some v =>
      rw [checksInside_of_present h, propext (optional_iff_of_present h)]
      exact hpresent v h

/-- The same for a member in which there is nothing else to check. -/
theorem follows_plain_member {β : Type} {parameters : Parameters} {key : String}
    {fits : Json → Prop} {refusal : ParameterError} {r : Read β}
    (habsent : parameters.present? key = none → ∃ a, r = .ok a)
    (hpresent : ∀ v, parameters.present? key = some v → Follows [⟨fits v, refusal⟩] r) :
    Follows [⟨parameters.Optional key fits, refusal⟩] r := by
  have h : Follows (_ :: parameters.checksInside key fun _ => []) r :=
    follows_member rfl habsent hpresent
  have hnone : parameters.checksInside key (fun _ => []) = [] := by
    rw [checksInside]
    cases parameters.get? key <;> rfl
  rw [hnone] at h
  exact h

theorem follows_optionalString (parameters : Parameters) (key : String) :
    Follows [parameters.check key IsString] (parameters.optionalString key) := by
  refine follows_plain_member (fun h => ⟨none, by rw [optionalString, h]⟩) fun v h => ?_
  rw [optionalString, h]
  cases v with
  | string s => exact follows_of_holds ⟨s, rfl⟩ _ _
  | _ => exact .here (by rintro ⟨s, ⟨⟩⟩)

theorem follows_optionalBool (parameters : Parameters) (key : String) :
    Follows [parameters.check key IsBool] (parameters.optionalBool key) := by
  refine follows_plain_member (fun h => ⟨none, by rw [optionalBool, h]⟩) fun v h => ?_
  rw [optionalBool, h]
  cases v with
  | bool b => exact follows_of_holds ⟨b, rfl⟩ _ _
  | _ => exact .here (by rintro ⟨b, ⟨⟩⟩)

theorem follows_boolOr (parameters : Parameters) (key : String) (default : Bool) :
    Follows [parameters.check key IsBool] (parameters.boolOr key default) :=
  (parameters.follows_optionalBool key).map (·.getD default)

theorem follows_identifier (descriptor : Parameters) :
    Follows [⟨∃ id, descriptor.get? "identifier" = some (.string id), .missing "identifier"⟩]
      descriptor.identifier := by
  rw [identifier]
  split
  · next id h => exact follows_of_holds ⟨id, h⟩ _ id
  · next hother =>
      refine .here ?_
      rintro ⟨id, h⟩
      exact hother id h

theorem follows_item (descriptor : Parameters) :
    Follows descriptor.descriptorChecks descriptor.item := by
  rw [item, descriptorChecks]
  refine descriptor.follows_identifier.bind_cons fun id _ => ?_
  refine (descriptor.follows_optionalString "title").bind_cons fun title _ => ?_
  refine (descriptor.follows_optionalString "icon").bind_cons fun icon _ => ?_
  refine (descriptor.follows_optionalString "deeplink").bind_cons fun route _ => ?_
  refine (descriptor.follows_optionalBool "modal").bind_cons fun modal _ => ?_
  exact (descriptor.follows_optionalString "analytics").map _

theorem follows_listedItem (element : Json) :
    Follows (elementChecks element) (listedItem element) := by
  cases element with
  | object descriptor => exact (follows_item descriptor).cons ⟨descriptor, rfl⟩
  | _ => exact .here (by rintro ⟨members, ⟨⟩⟩)

theorem follows_items (parameters : Parameters) :
    Follows (parameters.check "items" IsArray :: parameters.checksInside "items" listChecks)
      parameters.items := by
  refine follows_member rfl (fun h => ⟨Item.standard, by rw [items, h]⟩) fun v h => ?_
  rw [items, h]
  cases v with
  | array elements => exact (follows_mapM follows_listedItem elements).cons ⟨elements, rfl⟩
  | _ => exact .here (by rintro ⟨elements, ⟨⟩⟩)

theorem follows_requestedItem (parameters : Parameters) :
    Follows (parameters.check "selectedItem" IsObject
      :: parameters.checksInside "selectedItem" memberChecks) parameters.requestedItem := by
  refine follows_member rfl (fun h => ⟨none, by rw [requestedItem, h]⟩) fun v h => ?_
  rw [requestedItem, h]
  cases v with
  | object descriptor => exact ((follows_item descriptor).map some).cons ⟨descriptor, rfl⟩
  | _ => exact .here (by rintro ⟨members, ⟨⟩⟩)

/-- The names that are understood are those of the styles that can be asked for. -/
theorem ofName?_isSome_iff (name : String) :
    (StyleKind.ofName? name).isSome ↔ name ∈ ["default", "compact", "floating", "minimal"] := by
  rw [StyleKind.ofName?, List.find?_isSome]
  have hnames : StyleKind.selectable.map StyleKind.name =
      ["default", "compact", "floating", "minimal"] := rfl
  rw [← hnames, List.mem_map]
  simp only [beq_iff_eq]

theorem follows_style (parameters : Parameters) :
    Follows [parameters.styleCheck] parameters.style := by
  refine follows_plain_member (fun h => ⟨.standard, by rw [style, h]⟩) fun v h => ?_
  rw [style, h, styleText, get?_of_present h]
  cases v with
  | string name =>
      have hknown := ofName?_isSome_iff name
      cases hkind : StyleKind.ofName? name with
      | some kind =>
          rw [hkind] at hknown
          simp only [hkind]
          exact follows_of_holds ⟨name, rfl, hknown.mp rfl⟩ _ kind
      | none =>
          rw [hkind] at hknown
          simp only [hkind]
          refine .here ?_
          rintro ⟨_, ⟨⟩, hmem⟩
          exact Bool.false_ne_true (hknown.mpr hmem)
  | _ => exact .here (by rintro ⟨name, ⟨⟩, _⟩)

theorem follows_readLogged (parameters : Parameters) :
    Follows parameters.checks (Configuration.readLogged parameters) := by
  rw [Configuration.readLogged, checks]
  refine (follows_items parameters).bind fun items _ => ?_
  refine (follows_requestedItem parameters).bind fun requested _ => ?_
  refine (follows_style parameters).bind_cons fun style _ => ?_
  refine (follows_boolOr parameters "isAnimated" true).bind_cons fun animated _ => ?_
  refine (follows_boolOr parameters "showTabBar" true).bind_cons fun visible _ => ?_
  refine (follows_boolOr parameters "isDarkMode" false).bind_cons fun darkMode _ => ?_
  refine (follows_boolOr parameters "searchEnabled" false).bind_cons fun enabled _ => ?_
  exact (follows_optionalString parameters "searchPlaceholder").map _

theorem follows_ofParameters (parameters : Parameters) :
    Follows parameters.checks (Configuration.ofParameters (some parameters)) :=
  (follows_readLogged parameters).map Prod.fst

/-! ## What all checks together ask for -/

theorem descriptorChecks_hold_iff (descriptor : Parameters) :
    (∀ c ∈ descriptor.descriptorChecks, c.holds) ↔ descriptor.IsDescriptor := by
  simp only [descriptorChecks, check, List.forall_mem_cons, List.not_mem_nil, false_imp_iff,
    implies_true, and_true]
  constructor
  · rintro ⟨hidentifier, htitle, hicon, hdeeplink, hmodal, hanalytics⟩
    exact ⟨hidentifier, htitle, hicon, hdeeplink, hmodal, hanalytics⟩
  · rintro ⟨hidentifier, htitle, hicon, hdeeplink, hmodal, hanalytics⟩
    exact ⟨hidentifier, htitle, hicon, hdeeplink, hmodal, hanalytics⟩

theorem describesItem_iff (v : Json) :
    v.DescribesItem ↔ v.IsObject ∧ ∀ c ∈ memberChecks v, c.holds := by
  cases v with
  | object descriptor =>
      rw [memberChecks, descriptorChecks_hold_iff]
      constructor
      · rintro ⟨_, ⟨⟩, hgood⟩
        exact ⟨⟨descriptor, rfl⟩, hgood⟩
      · rintro ⟨_, hgood⟩
        exact ⟨descriptor, rfl, hgood⟩
  | _ =>
      constructor
      · rintro ⟨_, ⟨⟩, _⟩
      · rintro ⟨⟨_, ⟨⟩⟩, _⟩

theorem listsItems_iff (v : Json) :
    (∃ elements, v = .array elements ∧ ∀ element ∈ elements, element.DescribesItem) ↔
      v.IsArray ∧ ∀ c ∈ listChecks v, c.holds := by
  cases v with
  | array elements =>
      rw [listChecks, List.forall_mem_flatMap]
      simp only [elementChecks, List.forall_mem_cons, ← describesItem_iff]
      constructor
      · rintro ⟨_, ⟨⟩, hgood⟩
        exact ⟨⟨elements, rfl⟩, hgood⟩
      · rintro ⟨_, hgood⟩
        exact ⟨elements, rfl, hgood⟩
  | _ =>
      constructor
      · rintro ⟨_, ⟨⟩, _⟩
      · rintro ⟨⟨_, ⟨⟩⟩, _⟩

/-- What a member must be and what must hold inside it, in one. -/
theorem optional_and_inside_iff {parameters : Parameters} {key : String}
    {whole fits : Json → Prop} {inside : Json → List Check} (hnothing : inside .null = [])
    (hparts : ∀ v, whole v ↔ fits v ∧ ∀ c ∈ inside v, c.holds) :
    parameters.Optional key whole ↔
      parameters.Optional key fits ∧ ∀ c ∈ parameters.checksInside key inside, c.holds := by
  cases h : parameters.present? key with
  | none =>
      rw [checksInside_of_absent h hnothing]
      exact iff_of_true (optional_of_absent h)
        ⟨optional_of_absent h, fun _ habsent => nomatch habsent⟩
  | some v =>
      rw [checksInside_of_present h, optional_iff_of_present h, optional_iff_of_present h]
      exact hparts v

/-- The checks hold of exactly those parameters that have the shape they must have. -/
theorem checks_hold_iff (parameters : Parameters) :
    (∀ c ∈ parameters.checks, c.holds) ↔ parameters.Acceptable := by
  have hitems : parameters.Optional "items" _ ↔ _ := optional_and_inside_iff rfl listsItems_iff
  have hselected : parameters.Optional "selectedItem" _ ↔ _ :=
    optional_and_inside_iff rfl describesItem_iff
  simp only [checks, check, styleCheck, List.forall_mem_cons, List.forall_mem_append,
    List.not_mem_nil, false_imp_iff, implies_true, and_true]
  constructor
  · rintro ⟨hlist, helements, hobject, hmembers, hstyle, hanimated, hshown, hdark, henabled,
      htext⟩
    exact ⟨hitems.mpr ⟨hlist, helements⟩, hselected.mpr ⟨hobject, hmembers⟩, hstyle, hanimated,
      hshown, hdark, henabled, htext⟩
  · rintro ⟨hlisted, hasked, hstyle, hanimated, hshown, hdark, henabled, htext⟩
    obtain ⟨hlist, helements⟩ := hitems.mp hlisted
    obtain ⟨hobject, hmembers⟩ := hselected.mp hasked
    exact ⟨hlist, helements, hobject, hmembers, hstyle, hanimated, hshown, hdark, henabled, htext⟩

/-- Parameters describe a configuration exactly if they have the shape they must have, and
are otherwise refused for the reason of the first check that fails. -/
theorem verdict_on_parameters (parameters : Parameters) :
    ((∃ c, Configuration.ofParameters (some parameters) = .ok c) ↔ parameters.Acceptable) ∧
    ∀ e, Configuration.ofParameters (some parameters) = .error e ↔
      FirstFailing parameters.checks e := by
  have hfollows := follows_ofParameters parameters
  exact ⟨hfollows.ok_iff.trans (checks_hold_iff parameters), hfollows.error_iff⟩

/-- Of two faults the one that is looked at first is named, here in the second element of
the list and before the style. -/
example :
    Configuration.ofParameters (some
      [("items", .array [.object [("identifier", .string "a")],
          .object [("modal", .string "no"), ("identifier", .string "b"), ("icon", .bool true)]]),
        ("style", .string "none")]) = .error (.invalid "icon") :=
  rfl

end Parameters

end TabNavigator
