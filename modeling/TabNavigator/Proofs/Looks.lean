import TabNavigator.Proofs.Fading
import TabNavigator.Proofs.SearchBar

/-!
# Looks never change behaviour

Style, palette and animation reach into everything that is drawn, and one of them reaches
into an event: the style says how long a fade takes, and whether there is a fade at all is
up to the animation. So two navigators that look different do not stay equal. What they
stay is `Alike`: equal in everything but the style, the palette, the animation and the fade
that these have led to. An event that finds alike navigators does the same in both, tells
the same to the same collaborators, and leaves them alike (`Alike.reduce`).

Two navigators that are alike show the same search bar and the same page but for colours
(`wording_searchView`, `wording_page`). While they fade, one strip can be there already and
the other not yet, but when both are there they read the same (`Alike.strips`). At rest both
are there or neither is. That a strip at rest is there when it is visible is a matter of
numbers: its opacity is where the fade began and the way from there to one, added up, and
that has to be above zero (`Fade.EndsInSight`). In exact numbers it is one, and this is
proved. In single precision it is a sum of rounded numbers, and that it is above zero is
assumed.
-/

namespace TabNavigator

/-! ## What is said, apart from how it looks -/

/-- What an element says and sends: its texts with what clicking them sends, its buttons,
and its fields. -/
structure Element.Wording (μ : Type) where
  texts : List (Element.TextReading μ)
  buttons : List (Option μ)
  fields : List (TextField.Wording μ)

def Element.wording {α μ : Type} (e : Element α μ) : Element.Wording μ :=
  ⟨e.texts, e.buttons, e.fields.map TextField.wording⟩

/-- The texts of one of the navigator's own pages. -/
def Page.contents (page : Page) (item : Item) : List String :=
  match page.texts? with
  | some texts => [iconGlyph item.icon, texts.title, texts.subtitle] ++ texts.rows
  | none =>
      [iconGlyph item.icon, item.label, "This is the content for " ++ item.label,
        "Deeplink Information", "Deeplink: " ++ item.route]

namespace View

open Element

variable {α μ κ β : Type} [Scalar α]

omit [Scalar α] in
/-- Elements that no reading can tell apart that sees through boxes have one wording. -/
theorem wording_congr {e f : Element α μ}
    (hsame : ∀ {β : Type} {read : Element α μ → List β} {say : String → List β},
      SeesThrough read say → read e = read f) : e.wording = f.wording := by
  rw [wording, wording, texts, texts, hsame (textsUnder_seesThrough none),
    hsame buttons_seesThrough, hsame fields_seesThrough]

theorem wording_searchBar (lift : Event → μ) (search : Search) (p q : Palette α) :
    (searchBar lift search p).wording = (searchBar lift search q).wording := by
  rw [wording, texts_searchBar, buttons_searchBar, fields_searchBar, wording,
    texts_searchBar, buttons_searchBar, fields_searchBar]

variable {read : Element α μ → List β} {say : String → List β}

theorem read_builtinPage (h : SeesThrough read say) (page : Page) (item : Item)
    (palette : Palette α) :
    read (builtinPage page item palette) = (page.contents item).flatMap say := by
  rw [builtinPage, Page.contents]
  cases page.texts? with
  | none =>
      simp only [genericPage, coloredText, plainText, h.column, h.text, List.flatMap_cons,
        List.flatMap_nil]
  | some texts =>
      have hrow : ∀ title, read (pageRow palette title) = say title := by
        intro title
        rw [pageRow, h.box, plainText, h.text]
      simp only [fixedPage, coloredText, plainText, h.column, h.text, List.flatMap_cons,
        List.flatMap_nil, List.flatMap_append, List.flatMap_map, hrow, List.append_nil,
        List.append_assoc]

theorem read_shownContent (h : SeesThrough read say) (mount : Controller κ → Element α μ)
    (item : Item) (content : Content α μ κ) (p q : Palette α) :
    read (shownContent mount p item content) = read (shownContent mount q item content) := by
  cases content with
  | native | declarative => rfl
  | builtin page =>
      rw [shownContent, shownContent, read_builtinPage h, read_builtinPage h]

theorem read_noTabs (h : SeesThrough read say) (palette : Palette α) :
    read (noTabs palette) = say "No tabs" := by
  rw [noTabs, h.box, coloredText, h.text]

end View

/-! ## Numbers in which a strip comes to light -/

namespace Fade

open Scalar

variable {α : Type} [Scalar α]

/-- The opacities at which fades get to be: where they rest, and where a fade is at some
moment that began at such an opacity. -/
inductive Attained : α → Prop where
  | resting (v : Visibility) : Attained (restingOpacity v)
  | underWay {fade : Fade α} {v : Visibility} (now : Moment) :
      fade.target = restingOpacity v → Attained fade.origin → Attained (fade.opacity now)

/-- Whether, in these numbers, a strip that has faded in can be seen, wherever the fade
began. This is shown for exact numbers only (`endsInSight_rat`); for single precision it is
an assumption. -/
def EndsInSight (α : Type) [Scalar α] : Prop :=
  ∀ origin : α, Attained origin → below zero (origin + (one - origin) * ease one) = true

theorem endsInSight_rat : EndsInSight Rat := by
  intro origin _
  have hend : origin + (one - origin) * ease one = 1 := by
    rw [one_rat, ease_one]
    show origin + (1 - origin) * 1 = 1
    ring
  rw [hend]
  rfl

theorem start_attained {fade : Fade α} {v : Visibility} (hheads : fade.target = restingOpacity v)
    (hattained : Attained fade.origin) (w : Visibility) (duration : Duration)
    (animated : Bool) (now : Moment) : Attained (fade.start w duration animated now).origin := by
  rw [start]
  split
  · exact .resting w
  · exact .underWay now hheads hattained

/-- A fade that is over is complete, in whatever numbers. -/
theorem progress_of_not_animating {fade : Fade α} {now : Moment}
    (hrest : fade.isAnimating now = false) : fade.progress now = one := by
  rw [isAnimating] at hrest
  cases hstarted : fade.started with
  | none => rw [progress, hstarted]
  | some start =>
      rw [hstarted, Option.isSome_some, Bool.true_and] at hrest
      rw [progress, hstarted] at hrest ⊢
      simp only [capAtOne] at hrest ⊢
      split at hrest
      · next hbelow => rw [hbelow] at hrest; cases hrest
      · next habove => rw [if_neg habove]

end Fade

namespace Navigator

variable {α μ κ : Type}

/-! ## Navigators that differ in how they look -/

/-- Navigators that differ at most in the style, the palette, the animation and the fade. -/
structure Alike (n m : Navigator α μ κ) : Prop where
  tabs : n.tabs = m.tabs
  clock : n.clock = m.clock
  search : n.search = m.search
  source : n.source = m.source
  delegate : n.delegate = m.delegate
  past : n.past = m.past

/-- A navigator with the look of another, and the fade that the other's look has led to. -/
def inLookOf (n w : Navigator α μ κ) : Navigator α μ κ :=
  { n with style := w.style, palette := w.palette, animated := w.animated, fade := w.fade }

theorem Alike.eq_inLookOf {n m : Navigator α μ κ} (h : n.Alike m) : m = n.inLookOf m := by
  rw [inLookOf, h.tabs, h.clock, h.search, h.source, h.delegate, h.past]

theorem inLookOf_alike (n w : Navigator α μ κ) : n.Alike (n.inLookOf w) :=
  ⟨rfl, rfl, rfl, rfl, rfl, rfl⟩

theorem Alike.afterCalls {n m : Navigator α μ κ} (h : n.Alike m) (calls : List Call) :
    (n.afterCalls calls).Alike (m.afterCalls calls) where
  tabs := h.tabs
  clock := h.clock
  search := h.search
  source := h.source
  delegate := h.delegate
  past := congrArg (· ++ calls) h.past

variable [Scalar α]

/-- What an event can do, it can do in another look, and it does the same but for the
fade. -/
theorem Step.inLookOf {n : Navigator α μ κ} {event : Event} {o : Outcome α μ κ}
    (h : Step n event o) (w : Navigator α μ κ) :
    ∃ w', Step (n.inLookOf w) event { o with after := o.after.inLookOf w' } := by
  cases h with
  | unknownTab hnames habsent => exact ⟨w, .unknownTab hnames habsent⟩
  | selected hfound => exact ⟨w, .selected hfound⟩
  | performed hfound => exact ⟨w, .performed hfound⟩
  | performedDefault hfound => exact ⟨w, .performedDefault hfound⟩
  | visibilityKept => exact ⟨w, .visibilityKept⟩
  | @visibilityChanged _ v now hasked hchanges =>
      -- The fade is the one of the other look, started by the other style.
      let fade := w.fade.start v w.style.transition w.animated (max n.clock now)
      exact ⟨{ w with fade }, .visibilityChanged hasked hchanges⟩
  | itemsReplaced hbrought => exact ⟨w, .itemsReplaced hbrought⟩
  | noSource habsent => exact ⟨w, .noSource habsent⟩
  | queryChanged => exact ⟨w, .queryChanged⟩
  | nothingToSubmit hempty => exact ⟨w, .nothingToSubmit hempty⟩
  | submitted hne => exact ⟨w, .submitted hne⟩
  | searchCleared => exact ⟨w, .searchCleared⟩
  | emptySuggestion => exact ⟨w, .emptySuggestion⟩
  | suggestionSubmitted hne => exact ⟨w, .suggestionSubmitted hne⟩
  | ticked => exact ⟨w, .ticked⟩

/-- An event does the same in navigators that are alike, and leaves them alike. -/
theorem Alike.reduce {n m : Navigator α μ κ} (h : n.Alike m) (event : Event) :
    (n.reduce event).effect = (m.reduce event).effect ∧
    (n.reduce event).journal = (m.reduce event).journal ∧
    (n.reduce event).after.Alike (m.reduce event).after := by
  obtain ⟨w, hstep⟩ := (n.act_step event).inLookOf m
  have hact := hstep.eq_act
  rw [← h.eq_inLookOf] at hact
  rw [Navigator.reduce, Navigator.reduce, hact]
  exact ⟨rfl, rfl, (inLookOf_alike _ w).afterCalls _⟩

theorem Alike.run {n m : Navigator α μ κ} (h : n.Alike m) (events : List Event) :
    (n.run events).Alike (m.run events) := by
  induction events generalizing n m with
  | nil => exact h
  | cons event rest ih => exact ih (h.reduce event).2.2

theorem Alike.outcomes {n m : Navigator α μ κ} (h : n.Alike m) (events : List Event) :
    (n.outcomes events).map (fun o => (o.effect, o.journal)) =
      (m.outcomes events).map fun o => (o.effect, o.journal) := by
  induction events generalizing n m with
  | nil => rfl
  | cons event rest ih =>
      obtain ⟨heffect, hjournal, hafter⟩ := h.reduce event
      rw [Navigator.outcomes, Navigator.outcomes, List.map_cons, List.map_cons, heffect,
        hjournal, ih hafter]

/-! ## What they show -/

theorem Alike.wording_searchView {n m : Navigator α μ κ} (h : n.Alike m)
    (lift : Event → μ) :
    (n.searchView lift).map Element.wording = (m.searchView lift).map Element.wording := by
  rw [searchView, searchView, h.search]
  split
  · rw [List.map_singleton, List.map_singleton, View.wording_searchBar]
  · rfl

omit [Scalar α] in
theorem Alike.resolveActive {n m : Navigator α μ κ} (h : n.Alike m) :
    n.resolveActive = m.resolveActive := by
  rw [Navigator.resolveActive, Navigator.resolveActive, selected, selected, h.tabs, h.past,
    h.source, h.delegate]

theorem Alike.wording_page {n m : Navigator α μ κ} (h : n.Alike m)
    (mount : Controller κ → Element α μ) (content : Option (Content α μ κ)) :
    (View.page n.palette (n.contentView mount content)).wording =
      (View.page m.palette (m.contentView mount content)).wording := by
  refine View.wording_congr fun hreads => ?_
  have hselected : n.selected = m.selected := congrArg Tabs.selected h.tabs
  rw [View.page, View.page, hreads.box, hreads.box]
  unfold contentView
  rw [hselected]
  split
  · exact View.read_shownContent hreads mount _ _ n.palette m.palette
  · rw [View.read_noTabs hreads, View.read_noTabs hreads]

/-! ## The strips, at rest -/

theorem Step.origin_attained {n : Navigator α μ κ} {event : Event} {o : Outcome α μ κ}
    (h : Step n event o) (hheads : n.fade.target = Fade.restingOpacity n.visibility)
    (hbefore : Fade.Attained n.fade.origin) : Fade.Attained o.after.fade.origin := by
  cases h with
  | visibilityChanged => exact Fade.start_attained hheads hbefore _ _ _ _
  | _ => exact hbefore

theorem Reachable.origin_attained {n : Navigator α μ κ} (h : Reachable n) :
    Fade.Attained n.fade.origin := by
  induction h with
  | mounted hm =>
      obtain ⟨c, now, rfl⟩ := hm.exists_configuration
      exact .resting c.visibility
  | @reduce n event hreach ih =>
      exact (n.act_step event).origin_attained hreach.fade_serves.heads ih
  | style | palette | delegate | source | subscribe | calls => assumption

/-- In numbers in which fades end in sight, a strip that is visible at rest is drawn. -/
theorem Reachable.stripIsGone_of_visible {n : Navigator α μ κ} (h : Reachable n)
    (hsight : Fade.EndsInSight α) (hrest : n.isAnimating = false)
    (hvisible : n.visibility = .visible) : n.stripIsGone = false := by
  have htarget : n.fade.target = Scalar.one := by
    rw [h.fade_serves.heads, hvisible]
    rfl
  have hopacity : n.opacity =
      n.fade.origin + (Scalar.one - n.fade.origin) * Fade.ease Scalar.one := by
    rw [opacity, Fade.opacity, Fade.progress_of_not_animating hrest, htarget]
  rw [stripIsGone, hopacity, hsight _ h.origin_attained, hvisible]
  rfl

theorem Alike.strips {n m : Navigator α μ κ} (h : n.Alike m)
    (hgone : n.stripIsGone = m.stripIsGone) (lift : Event → μ) :
    (n.stripView lift).texts.map (·.content) = (m.stripView lift).texts.map (·.content) ∧
      (n.stripView lift).buttons = (m.stripView lift).buttons := by
  have hitems : n.items = m.items := congrArg Tabs.items h.tabs
  have hvisibility : n.visibility = m.visibility := congrArg Tabs.visibility h.tabs
  rw [contents_stripView, contents_stripView, buttons_stripView, buttons_stripView, hgone,
    hitems, hvisibility]
  exact ⟨rfl, rfl⟩

/-- Two navigators that differ at most in how they look reduce the same events. Each event
has the same effect in both and the same journal, so observers, delegate and source hear
the same in the same order. After every number of events the tabs and the search are the
same, the fades head for the same opacity, and the search bars and the pages have the same
wording and are found by the same calls. Strips that are both drawn have the same texts and
the same buttons in the same order. Where neither animates, they are both drawn if they are
visible, which is a matter of numbers, and both left out if they are hidden. -/
theorem behaviour_of_alike {n m : Navigator α μ κ} (hn : Reachable n) (hm : Reachable m)
    (halike : n.Alike m) (events : List Event) :
    (n.outcomes events).map (fun o => (o.effect, o.journal)) =
      (m.outcomes events).map (fun o => (o.effect, o.journal)) ∧
    ∀ k,
      let a := n.run (events.take k)
      let b := m.run (events.take k)
      a.tabs = b.tabs ∧ a.search = b.search ∧ a.fade.target = b.fade.target ∧
      ∀ (lift : Event → μ) (mount : Controller κ → Element α μ),
        (a.searchView lift).map Element.wording =
          (b.searchView lift).map Element.wording ∧
        (View.page a.palette (a.contentView mount a.activeContent)).wording =
          (View.page b.palette (b.contentView mount b.activeContent)).wording ∧
        (a.view lift mount).2 = (b.view lift mount).2 ∧
        (a.stripIsGone = b.stripIsGone →
          (a.stripView lift).texts.map (·.content) =
            (b.stripView lift).texts.map (·.content) ∧
          (a.stripView lift).buttons = (b.stripView lift).buttons) ∧
        (a.isAnimating = false → b.isAnimating = false →
          (a.visibility = .hidden → a.stripView lift = .space ∧ b.stripView lift = .space) ∧
          (a.visibility = .visible → Fade.EndsInSight α →
            a.stripIsGone = false ∧ b.stripIsGone = false)) := by
  refine ⟨halike.outcomes events, fun k => ?_⟩
  intro a b
  have hsame : a.Alike b := halike.run (events.take k)
  have ha : Reachable a := hn.run (events.take k)
  have hb : Reachable b := hm.run (events.take k)
  have hvisibility : a.visibility = b.visibility := congrArg Tabs.visibility hsame.tabs
  refine ⟨hsame.tabs, hsame.search, ?target, fun lift mount => ⟨hsame.wording_searchView lift,
    ?page, ?journal, fun hgone => hsame.strips hgone lift,
    fun hrestA hrestB => ⟨?hidden, ?visible⟩⟩⟩
  case target => rw [ha.fade_serves.heads, hb.fade_serves.heads, hvisibility]
  case page =>
    rw [activeContent, activeContent, hsame.resolveActive]
    exact hsame.wording_page mount _
  case journal => rw [Navigator.view, Navigator.view, hsame.resolveActive]
  case hidden =>
    intro hhidden
    exact ⟨stripView_of_hidden hrestA hhidden lift,
      stripView_of_hidden hrestB (hvisibility ▸ hhidden) lift⟩
  case visible =>
    intro hvisible hsight
    exact ⟨ha.stripIsGone_of_visible hsight hrestA hvisible,
      hb.stripIsGone_of_visible hsight hrestB (hvisibility ▸ hvisible)⟩

/-- A strip that fades and one that never does, once the first has had its time: shown again
half-way through hiding, with a tab selected in between. -/
theorem behaviour_of_still_strip :
    let c : Configuration := { Configuration.standard with search := { enabled := true } }
    let fading : Navigator Rat Event Unit :=
      (mount c 0).withStyle ((Style.ofKind .compact).decorate (.padding 4 4))
    let still : Navigator Rat Event Unit :=
      mount { c with style := .minimal, animated := false, darkMode := true } 0
    let events : List Event :=
      [.toggleVisibility 0, .searchChanged "o", .select "profile",
        .toggleVisibility 150000000, .tick 450000000]
    let a := fading.run events
    let b := still.run events
    Reachable fading ∧ Reachable still ∧ fading.Alike still ∧
    a.fade.started = some 150000000 ∧ b.fade.started = none ∧
    a.isAnimating = false ∧ b.isAnimating = false ∧
    a.stripIsGone = false ∧ b.stripIsGone = false ∧
    (fading.outcomes events).map (fun o => (o.effect, o.journal)) =
      (still.outcomes events).map (fun o => (o.effect, o.journal)) ∧
    a.fade.target = b.fade.target ∧
    (a.searchView id).map Element.wording = (b.searchView id).map Element.wording ∧
    (a.stripView id).texts.map (·.content) = (b.stripView id).texts.map (·.content) ∧
    (a.stripView id).buttons = (b.stripView id).buttons := by
  intro c fading still events a b
  have hfading : Reachable fading := (Reachable.mounted (.configuration c 0)).style _
  have hstill : Reachable still := .mounted (.configuration _ 0)
  have halike : fading.Alike still := ⟨rfl, rfl, rfl, rfl, rfl, rfl⟩
  obtain ⟨houtcomes, hviews⟩ := behaviour_of_alike hfading hstill halike events
  obtain ⟨-, -, htarget, hshown⟩ := hviews 5
  obtain ⟨hsearch, -, -, hstrips, hrest⟩ := hshown id fun _ => .space
  have hrestA : a.isAnimating = false := by decide +kernel
  have hrestB : b.isAnimating = false := by decide +kernel
  obtain ⟨hdrawnA, hdrawnB⟩ := (hrest hrestA hrestB).2 rfl Fade.endsInSight_rat
  obtain ⟨htexts, hbuttons⟩ := hstrips (hdrawnA.trans hdrawnB.symm)
  exact ⟨hfading, hstill, halike, rfl, rfl, hrestA, hrestB, hdrawnA, hdrawnB, houtcomes, htarget,
    hsearch, htexts, hbuttons⟩

end Navigator

end TabNavigator
