import TabNavigator.Proofs.Notices

/-!
# Strip and content do not interfere

Some events are about the strip: they ask for a visibility or let time pass. All others are
about the content: the items, the selection, the search, and what collaborators hear of
them. Two sequences of events, one of each kind, may come in any order between them, and it
makes no difference: the navigator ends the same, and each event does what it would have
done if only those of its own kind had come.

This is so because each kind works on fields of its own. `withStripOf` cuts a navigator in
two along that line: the strip of one navigator, all else of another. A content event
neither reads nor writes the strip, so it acts on the other half alone
(`Step.beside_strip`). A strip event writes nothing but the strip, and of all else it reads
what no event ever changes: the style, the animation, and the number of observers
(`Step.beside_content`). What each half does in a run is then what it does alone.

Collaborators could still join the two halves, since the content depends on what they
answer. They do not, because their answers may change with the calls made to them (`Past`)
but not with what observers are told, and strip events make no calls. An observer that hears
of a visibility and has the source answer differently would break this, and is left out.
-/

namespace TabNavigator

/-! ## Merging two lists -/

/-- `Merged xs ys zs`: the elements of `xs` and of `ys`, each in their own order, make up
`zs`. -/
inductive Merged {ε : Type} : List ε → List ε → List ε → Prop where
  | nil : Merged [] [] []
  | left {x : ε} {xs ys zs : List ε} : Merged xs ys zs → Merged (x :: xs) ys (x :: zs)
  | right {y : ε} {xs ys zs : List ε} : Merged xs ys zs → Merged xs (y :: ys) (y :: zs)

theorem filter_of_forall {β : Type} {p : β → Bool} {bs : List β}
    (h : ∀ b ∈ bs, p b = true) : bs.filter p = bs ∧ bs.filter (!p ·) = [] := by
  refine ⟨List.filter_eq_self.mpr h, List.filter_eq_nil_iff.mpr fun b hb => ?_⟩
  rw [h b hb]
  exact Bool.false_ne_true

/-- Where a test tells what is read off one list from what is read off the other, it sorts
what is read off the merged list into the two. -/
theorem Merged.filter_flatMap {ε β : Type} {xs ys zs : List ε} (h : Merged xs ys zs)
    {f : ε → List β} {p : β → Bool} (hxs : ∀ x ∈ xs, ∀ b ∈ f x, p b = true)
    (hys : ∀ y ∈ ys, ∀ b ∈ f y, p b = false) :
    (zs.flatMap f).filter p = xs.flatMap f ∧
      (zs.flatMap f).filter (!p ·) = ys.flatMap f := by
  induction h with
  | nil => exact ⟨rfl, rfl⟩
  | left _ ih =>
      rw [List.forall_mem_cons] at hxs
      obtain ⟨hall, hnone⟩ := filter_of_forall hxs.1
      obtain ⟨hleft, hright⟩ := ih hxs.2 hys
      rw [List.flatMap_cons, List.filter_append, List.filter_append, hall, hnone, hleft,
        hright, List.flatMap_cons]
      exact ⟨rfl, rfl⟩
  | @right y _ _ _ _ ih =>
      rw [List.forall_mem_cons] at hys
      have hfails : ∀ b ∈ f y, (!p b) = true := fun b hb => by rw [hys.1 b hb, Bool.not_false]
      obtain ⟨hall, hnone⟩ := filter_of_forall hfails
      simp only [Bool.not_not] at hnone
      obtain ⟨hleft, hright⟩ := ih hxs hys.2
      rw [List.flatMap_cons, List.filter_append, List.filter_append, hall, hnone, hleft,
        hright, List.flatMap_cons]
      exact ⟨rfl, rfl⟩

/-! ## The two kinds of events -/

/-- Whether an event asks for a visibility or lets time pass. -/
def Event.isAboutStrip : Event → Bool
  | .setVisibility _ _ => true
  | .toggleVisibility _ => true
  | .tick _ => true
  | _ => false

/-- Whether a change that observers are told of is one of the visibility. -/
def Change.isAboutStrip : Change → Bool
  | .visibilityChanged _ => true
  | _ => false

/-- What an event of a run led to, as it is seen from outside. -/
structure Report where
  event : Event
  effect : Option Effect
  journal : Journal
deriving DecidableEq

namespace Navigator

variable {α μ κ : Type}

/-- A navigator with the strip of another: its visibility, its fade, and its clock. -/
def withStripOf (n w : Navigator α μ κ) : Navigator α μ κ :=
  { n with tabs := { n.tabs with visibility := w.visibility }, fade := w.fade, clock := w.clock }

/-- Equal in what no event changes and strip events read. -/
structure SameSetup (n w : Navigator α μ κ) : Prop where
  style : n.style = w.style
  animated : n.animated = w.animated
  observers : n.tabs.observers = w.tabs.observers

theorem SameSetup.symm {n w : Navigator α μ κ} (h : SameSetup n w) : SameSetup w n :=
  ⟨h.style.symm, h.animated.symm, h.observers.symm⟩

theorem SameSetup.trans {n w v : Navigator α μ κ} (h : SameSetup n w) (hk : SameSetup w v) :
    SameSetup n v :=
  ⟨h.style.trans hk.style, h.animated.trans hk.animated, h.observers.trans hk.observers⟩

theorem isAboutStrip_of_visibilityAsked? {n : Navigator α μ κ} {event : Event}
    {v : Visibility} {now : Moment} (hasked : n.visibilityAsked? event = some (v, now)) :
    event.isAboutStrip = true := by
  cases event with
  | setVisibility | toggleVisibility => rfl
  | _ => cases hasked

theorem isAboutStrip_of_itemsBrought? {n : Navigator α μ κ} {event : Event}
    {items : List Item} {asked : Journal}
    (hbrought : n.itemsBrought? event = some (items, asked)) :
    event.isAboutStrip = false := by
  cases event with
  | updateItems | reloadItems => rfl
  | _ => cases hbrought

theorem isAboutStrip_of_tab? {event : Event} {id : String} (hnames : event.tab? = some id) :
    event.isAboutStrip = false := by
  cases event with
  | select | performAction | performDefaultAction => rfl
  | _ => cases hnames

/-- The changes that observers are owed for an event are of its kind. -/
theorem isAboutStrip_of_changeOwed? {n : Navigator α μ κ} {event : Event} {change : Change}
    (howed : n.changeOwed? event = some change) :
    change.isAboutStrip = event.isAboutStrip := by
  cases event with
  | select id =>
      obtain ⟨item, -, rfl⟩ := Option.map_eq_some_iff.mp howed
      rfl
  | reloadItems =>
      obtain ⟨source, -, rfl⟩ := Option.map_eq_some_iff.mp howed
      rfl
  | setVisibility | toggleVisibility | updateItems => cases howed; rfl
  | _ => cases howed

variable [Scalar α]

theorem Step.sameSetup {n : Navigator α μ κ} {event : Event} {o : Outcome α μ κ}
    (h : Step n event o) : SameSetup o.after n := by
  cases h <;> exact ⟨rfl, rfl, rfl⟩

theorem reduce_sameSetup (n : Navigator α μ κ) (event : Event) :
    SameSetup (n.reduce event).after n :=
  have hsame := (n.act_step event).sameSetup
  ⟨hsame.style, hsame.animated, hsame.observers⟩

/-! ## Each kind in its half -/

/-- A content event does the same beside any strip, and leaves the strip alone. -/
theorem Step.beside_strip {n : Navigator α μ κ} {event : Event} {o : Outcome α μ κ}
    (h : Step n event o) (hcontent : event.isAboutStrip = false) (w : Navigator α μ κ) :
    Step (n.withStripOf w) event { o with after := o.after.withStripOf w } := by
  cases h with
  | unknownTab hnames habsent => exact .unknownTab hnames habsent
  | selected hfound => exact .selected hfound
  | performed hfound => exact .performed hfound
  | performedDefault hfound => exact .performedDefault hfound
  | visibilityKept => cases hcontent
  | visibilityChanged hasked =>
      rw [isAboutStrip_of_visibilityAsked? hasked] at hcontent
      cases hcontent
  | itemsReplaced hbrought => exact .itemsReplaced hbrought
  | noSource habsent => exact .noSource habsent
  | queryChanged => exact .queryChanged
  | nothingToSubmit hempty => exact .nothingToSubmit hempty
  | submitted hne => exact .submitted hne
  | searchCleared => exact .searchCleared
  | emptySuggestion => exact .emptySuggestion
  | suggestionSubmitted hne => exact .suggestionSubmitted hne
  | ticked => cases hcontent

/-- A strip event does the same beside any content, leaves the content alone, and calls
nobody. -/
theorem Step.beside_content {w : Navigator α μ κ} {event : Event} {o : Outcome α μ κ}
    (h : Step w event o) (hstrip : event.isAboutStrip = true) {n : Navigator α μ κ}
    (hsetup : SameSetup n w) :
    Step (n.withStripOf w) event { o with after := n.withStripOf o.after } ∧
      o.journal.calls = [] := by
  have htold : ∀ v, ((n.withStripOf w).tabs.setVisibility v).journal =
      (w.tabs.setVisibility v).journal := by
    intro v
    show JournalEntry.logged (.visibilitySet v)
      :: Journal.tellObservers n.tabs.observers (.visibilityChanged v) = _
    rw [hsetup.observers]
    rfl
  have hquiet : ∀ v, (w.tabs.setVisibility v).journal.calls = [] := by
    intro v
    rw [Tabs.setVisibility, Journal.calls_logged, Tabs.tellObservers,
      Journal.calls_tellObservers]
  cases h with
  | @visibilityKept now =>
      have hstep : Step (n.withStripOf w) (.setVisibility w.visibility now) _ :=
        .visibilityKept
      rw [show (n.withStripOf w).visibility = w.visibility from rfl, htold] at hstep
      exact ⟨hstep, hquiet w.visibility⟩
  | @visibilityChanged _ v now hasked hchanges =>
      have hstep : Step (n.withStripOf w) event _ := .visibilityChanged hasked hchanges
      rw [htold] at hstep
      have hfade : (n.withStripOf w).fade.start v (n.withStripOf w).style.transition
          (n.withStripOf w).animated (max (n.withStripOf w).clock now) =
          w.fade.start v w.style.transition w.animated (max w.clock now) := by
        show w.fade.start v n.style.transition n.animated (max w.clock now) = _
        rw [hsetup.style, hsetup.animated]
      rw [hfade] at hstep
      exact ⟨hstep, hquiet v⟩
  | ticked => exact ⟨.ticked, rfl⟩
  | unknownTab hnames =>
      rw [isAboutStrip_of_tab? hnames] at hstrip
      cases hstrip
  | itemsReplaced hbrought =>
      rw [isAboutStrip_of_itemsBrought? hbrought] at hstrip
      cases hstrip
  | _ => cases hstrip

theorem reduce_beside_strip (n w : Navigator α μ κ) {event : Event}
    (hcontent : event.isAboutStrip = false) :
    (n.withStripOf w).reduce event =
      { n.reduce event with after := (n.reduce event).after.withStripOf w } := by
  have hact := ((n.act_step event).beside_strip hcontent w).eq_act
  rw [reduce, hact]
  rfl

theorem reduce_beside_content {n w : Navigator α μ κ} (hsetup : SameSetup n w)
    {event : Event} (hstrip : event.isAboutStrip = true) :
    (n.withStripOf w).reduce event =
      { w.reduce event with after := n.withStripOf (w.reduce event).after } := by
  obtain ⟨hstep, hquiet⟩ := (w.act_step event).beside_content hstrip hsetup
  rw [reduce, reduce, hstep.eq_act]
  -- No calls are made, so the past stays as it is in the other half.
  have hpast : n.past ++ (w.act event).journal.calls = n.past := by
    rw [hquiet, List.append_nil]
  simp only [afterCalls, withStripOf, hpast]
  rfl

/-! ## Runs -/

def reports (n : Navigator α μ κ) (events : List Event) : List Report :=
  (n.moments events).map fun m => ⟨m.2, (m.1.reduce m.2).effect, (m.1.reduce m.2).journal⟩

theorem reports_cons (n : Navigator α μ κ) (event : Event) (rest : List Event) :
    n.reports (event :: rest) =
      ⟨event, (n.reduce event).effect, (n.reduce event).journal⟩
        :: (n.reduce event).after.reports rest := rfl

/-- A merged run is the two runs, each in its half, and its reports are theirs, merged in
the same way. -/
theorem run_withStripOf {vs cs es : List Event} (hmerged : Merged vs cs es)
    (hstrip : ∀ e ∈ vs, e.isAboutStrip = true) (hcontent : ∀ e ∈ cs, e.isAboutStrip = false)
    {n w : Navigator α μ κ} (hsetup : SameSetup n w) :
    (n.withStripOf w).run es = (n.run cs).withStripOf (w.run vs) ∧
      Merged (w.reports vs) (n.reports cs) ((n.withStripOf w).reports es) := by
  induction hmerged generalizing n w with
  | nil => exact ⟨rfl, .nil⟩
  | @left event vs cs es _ ih =>
      rw [List.forall_mem_cons] at hstrip
      have hreduce := reduce_beside_content hsetup hstrip.1
      have hsetup' := hsetup.trans (w.reduce_sameSetup event).symm
      obtain ⟨hrun, hreports⟩ := ih hstrip.2 hcontent hsetup'
      rw [Navigator.run, reports_cons, reports_cons, hreduce]
      exact ⟨hrun, hreports.left⟩
  | @right event vs cs es _ ih =>
      rw [List.forall_mem_cons] at hcontent
      have hreduce := reduce_beside_strip n w hcontent.1
      have hsetup' := (n.reduce_sameSetup event).trans hsetup
      obtain ⟨hrun, hreports⟩ := ih hstrip hcontent.2 hsetup'
      rw [Navigator.run, reports_cons, reports_cons, hreduce]
      exact ⟨hrun, hreports.right⟩

theorem event_of_mem_reports {n : Navigator α μ κ} {events : List Event} {r : Report}
    (hmem : r ∈ n.reports events) : r.event ∈ events := by
  induction events generalizing n with
  | nil => cases hmem
  | cons event rest ih =>
      rw [reports_cons] at hmem
      rcases List.mem_cons.mp hmem with rfl | hlater
      · exact List.mem_cons_self
      · exact List.mem_cons_of_mem event (ih hlater)

theorem observers_of_moment {n : Navigator α μ κ} {events : List Event}
    {m : Navigator α μ κ × Event} (hm : m ∈ n.moments events) :
    m.1.tabs.observers = n.tabs.observers :=
  mem_moments_of_step (P := fun m => m.tabs.observers = n.tabs.observers)
    (fun m event h => (m.act_step event).observers.trans h) rfl hm

/-- What an observer is told in a run comes of events of its kind. -/
theorem isAboutStrip_of_mem_changes {n : Navigator α μ κ} {events : List Event}
    {observer : Nat} (hsubscribed : observer < n.tabs.observers) {r : Report}
    (hmem : r ∈ n.reports events) {change : Change}
    (htold : change ∈ r.journal.changesFor observer) :
    change.isAboutStrip = r.event.isAboutStrip := by
  obtain ⟨m, hm, rfl⟩ := List.mem_map.mp hmem
  have hsub : observer < m.1.tabs.observers := observers_of_moment hm ▸ hsubscribed
  have howed := (m.1.act_step m.2).changesFor hsub
  have htold' : change ∈ (m.1.act m.2).journal.changesFor observer := htold
  rw [howed, Option.mem_toList] at htold'
  exact isAboutStrip_of_changeOwed? htold'

/-- Strip events and content events come in some order, each kind in its own. The navigator
ends with the strip that the strip events alone lead to, and with all else as the content
events alone leave it, so the order between the kinds makes no difference. Each event has
the effect and the journal that it has among those of its kind alone. And of the changes
that an observer is told of, those of the visibility are the ones it is told when only the
strip events come, and the others the ones it is told when only the content events come. -/
theorem run_of_merged (n : Navigator α μ κ) {vs cs es : List Event}
    (hmerged : Merged vs cs es) (hstrip : ∀ e ∈ vs, e.isAboutStrip = true)
    (hcontent : ∀ e ∈ cs, e.isAboutStrip = false) :
    n.run es = (n.run cs).withStripOf (n.run vs) ∧
    (∀ other, Merged vs cs other → n.run other = n.run es) ∧
    (n.reports es).filter (·.event.isAboutStrip) = n.reports vs ∧
    (n.reports es).filter (!·.event.isAboutStrip) = n.reports cs ∧
    ∀ observer < n.tabs.observers,
      ((n.reports es).flatMap (·.journal.changesFor observer)).filter (·.isAboutStrip) =
        (n.reports vs).flatMap (·.journal.changesFor observer) ∧
      ((n.reports es).flatMap (·.journal.changesFor observer)).filter (!·.isAboutStrip) =
        (n.reports cs).flatMap (·.journal.changesFor observer) := by
  have hsetup : SameSetup n n := ⟨rfl, rfl, rfl⟩
  obtain ⟨hrun, hreports⟩ := run_withStripOf hmerged hstrip hcontent hsetup
  -- A navigator has its own strip, so a merged run of its halves is a run of its own.
  change n.run es = _ at hrun
  change Merged (n.reports vs) (n.reports cs) (n.reports es) at hreports
  have hofStrip : ∀ r ∈ n.reports vs, r.event.isAboutStrip = true :=
    fun r hmem => hstrip r.event (event_of_mem_reports hmem)
  have hofContent : ∀ r ∈ n.reports cs, r.event.isAboutStrip = false :=
    fun r hmem => hcontent r.event (event_of_mem_reports hmem)
  have hsorted := hreports.filter_flatMap (f := fun r => [r]) (p := (·.event.isAboutStrip))
    (fun r hmem b hb => by rw [List.mem_singleton.mp hb]; exact hofStrip r hmem)
    (fun r hmem b hb => by rw [List.mem_singleton.mp hb]; exact hofContent r hmem)
  simp only [List.flatMap_singleton'] at hsorted
  refine ⟨hrun, fun other hmerged' => ?_, hsorted.1, hsorted.2, fun observer hsubscribed => ?_⟩
  · exact (run_withStripOf hmerged' hstrip hcontent hsetup).1.trans hrun.symm
  · refine hreports.filter_flatMap (fun r hmem change htold => ?_) fun r hmem change htold => ?_
    · rw [isAboutStrip_of_mem_changes hsubscribed hmem htold]
      exact hofStrip r hmem
    · rw [isAboutStrip_of_mem_changes hsubscribed hmem htold]
      exact hofContent r hmem

/-- The strip is hidden and shown again while a tab is selected, a query typed and the items
taken again from a source that has others by then. -/
theorem run_of_merged_halves :
    let source : DataSource Rat Unit Unit :=
      { items := fun past => if past = [] then [Item.profile, Item.home] else [Item.home] }
    let n : Navigator Rat Unit Unit := ((standard 0).withDataSource source).subscribe
    let vs : List Event :=
      [.toggleVisibility 0, .tick 100000000, .setVisibility .visible 100000000]
    let cs : List Event := [.select "home", .searchChanged "o", .reloadItems]
    let es : List Event :=
      [.toggleVisibility 0, .select "home", .searchChanged "o", .tick 100000000, .reloadItems,
        .setVisibility .visible 100000000]
    Merged vs cs es ∧ (∀ e ∈ vs, e.isAboutStrip = true) ∧
    (∀ e ∈ cs, e.isAboutStrip = false) ∧ 0 < n.tabs.observers ∧
    n.run es = (n.run cs).withStripOf (n.run vs) ∧
    n.items = [Item.profile, Item.home] ∧ (n.run es).items = [Item.home] ∧
    (n.run es).search.suggestions = ["Home"] ∧
    ((n.reports es).filter (·.event.isAboutStrip)).map (·.effect) =
      [some (.visibilityChanged .hidden), none, some (.visibilityChanged .visible)] ∧
    ((n.reports es).flatMap (·.journal.changesFor 0)).filter (!·.isAboutStrip) =
      [.selected Item.home, .itemsUpdated false] := by
  intro source n vs cs es
  have hmerged : Merged vs cs es := .left (.right (.right (.left (.right (.left .nil)))))
  have hstrip : ∀ e ∈ vs, e.isAboutStrip = true := by decide
  have hcontent : ∀ e ∈ cs, e.isAboutStrip = false := by decide
  obtain ⟨hrun, -, heffects, -, htold⟩ := n.run_of_merged hmerged hstrip hcontent
  have hitems : (n.run es).items = [Item.home] := by
    rw [hrun]
    rfl
  have hsuggestions : (n.run es).search.suggestions = ["Home"] := by
    rw [hrun]
    decide
  refine ⟨hmerged, hstrip, hcontent, by decide, hrun, rfl, hitems, hsuggestions, ?_,
    (htold 0 (by decide)).2.trans rfl⟩
  rw [heffects]
  rfl

end Navigator

end TabNavigator
