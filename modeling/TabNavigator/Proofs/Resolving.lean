import TabNavigator.Content
import TabNavigator.Item.Standard

/-!
# The first answer is taken, and nobody is asked in vain

A chain is compared with what its links would say if all of them were asked, one after the
other, whatever the earlier ones had said (`answersInTurn`). The answer of the chain is the
first of these answers, and the links that it asks are those up to the one that gave it.
Links may have a state, so the second half is more than an economy: a link that is asked
although somebody has answered can change what comes after. Which links are asked is read
off a chain whose links write down their numbers as they are asked (`watched`); the writing
changes neither the answer nor the state.

For the standard chain the links are questions to the collaborators that are there. The
four questions have a fixed order (`questions`), and a resolution asks them from the front
up to the first reply (`resolveContent_eq`). All replies may hang on all calls made so far.
Only the last statement needs more: that a collaborator which declines everything might as
well not be there supposes that the other one does not answer differently because somebody
else was asked (`GoesByOwnCalls`).
-/

namespace TabNavigator

variable {α μ κ σ : Type}

/-! ## Chains -/

namespace Chain

/-- What the links say, and the states they leave, if all of them are asked in turn. -/
def answersInTurn (item : Item) : Chain σ α μ κ → σ → List (Option (Content α μ κ) × σ)
  | [], _ => []
  | next :: rest, s => next item s :: answersInTurn item rest (next item s).2

/-- The place of the first link that answers; behind the last link if none does. -/
def firstToAnswer (item : Item) (chain : Chain σ α μ κ) (s : σ) : Nat :=
  (chain.answersInTurn item s).findIdx fun answer => answer.1.isSome

/-- A link that also writes down a number when it is asked. -/
def noting (i : Nat) (next : Link σ α μ κ) : Link (List Nat × σ) α μ κ :=
  fun item made => ((next item made.2).1, (made.1 ++ [i], (next item made.2).2))

def watchedFrom : Nat → Chain σ α μ κ → Chain (List Nat × σ) α μ κ
  | _, [] => []
  | i, next :: rest => noting i next :: watchedFrom (i + 1) rest

def watched (chain : Chain σ α μ κ) : Chain (List Nat × σ) α μ κ :=
  chain.watchedFrom 0

theorem foldl_link (chain links : Chain σ α μ κ) :
    links.foldl link chain = chain ++ links := by
  induction links generalizing chain with
  | nil => rw [List.foldl_nil, List.append_nil]
  | cons next rest ih => rw [List.foldl_cons, ih, link, List.append_assoc, List.singleton_append]

theorem tryResolve_cons_answered {next : Link σ α μ κ} {item : Item} {s : σ}
    {content : Content α μ κ} (hanswers : (next item s).1 = some content)
    (rest : Chain σ α μ κ) :
    tryResolve item (next :: rest) s = (some content, (next item s).2) := by
  rw [tryResolve]
  split
  · next c s' h => rw [h] at hanswers ⊢; cases hanswers; rfl
  · next s' h => rw [h] at hanswers; cases hanswers

theorem tryResolve_cons_declined {next : Link σ α μ κ} {item : Item} {s : σ}
    (hdeclines : (next item s).1 = none) (rest : Chain σ α μ κ) :
    tryResolve item (next :: rest) s = tryResolve item rest (next item s).2 := by
  rw [tryResolve]
  split
  · next c s' h => rw [h] at hdeclines; cases hdeclines
  · next s' h => rw [h]

/-- The answer of a chain is the first that any link would give. -/
theorem tryResolve_fst (item : Item) (chain : Chain σ α μ κ) (s : σ) :
    (chain.tryResolve item s).1 = (chain.answersInTurn item s).findSome? (·.1) := by
  induction chain generalizing s with
  | nil => rfl
  | cons next rest ih =>
      rw [answersInTurn, List.findSome?_cons]
      cases h : (next item s).1 with
      | some content => rw [tryResolve_cons_answered h]
      | none => rw [tryResolve_cons_declined h, ih]

theorem firstToAnswer_cons (item : Item) (next : Link σ α μ κ) (rest : Chain σ α μ κ)
    (s : σ) :
    firstToAnswer item (next :: rest) s =
      if (next item s).1.isSome then 0 else firstToAnswer item rest (next item s).2 + 1 := by
  rw [firstToAnswer, answersInTurn, List.findIdx_cons, firstToAnswer]
  cases (next item s).1.isSome <;> rfl

/-- Being watched changes nothing, and what is written down are the numbers of the links up
to the first that answers, in order and each once. -/
theorem tryResolve_watchedFrom (item : Item) (chain : Chain σ α μ κ) (i : Nat)
    (asked : List Nat) (s : σ) :
    (chain.watchedFrom i).tryResolve item (asked, s) =
      ((chain.tryResolve item s).1,
        (asked ++ (List.range' i chain.length).take (chain.firstToAnswer item s + 1),
          (chain.tryResolve item s).2)) := by
  induction chain generalizing i asked s with
  | nil => simp [watchedFrom, tryResolve]
  | cons next rest ih =>
      rw [watchedFrom, firstToAnswer_cons, List.length_cons, List.range'_succ]
      cases h : (next item s).1 with
      | some content =>
          have hnoted : (noting i next item (asked, s)).1 = some content := h
          rw [tryResolve_cons_answered h, tryResolve_cons_answered hnoted]
          simp [noting]
      | none =>
          have hnoted : (noting i next item (asked, s)).1 = none := h
          rw [tryResolve_cons_declined h, tryResolve_cons_declined hnoted, noting, ih]
          simp

theorem tryResolve_watched (item : Item) (chain : Chain σ α μ κ) (s : σ) :
    chain.watched.tryResolve item ([], s) =
      ((chain.tryResolve item s).1,
        ((List.range chain.length).take (chain.firstToAnswer item s + 1),
          (chain.tryResolve item s).2)) := by
  rw [watched, tryResolve_watchedFrom, List.nil_append, List.range_eq_range']

end Chain

/-! ## Questions and replies -/

namespace Call

def isToSource : Call → Bool
  | askSource _ => true
  | askDelegate _ | tellDelegate _ => false

def isToDelegate : Call → Bool
  | askSource _ => false
  | askDelegate _ | tellDelegate _ => true

end Call

/-- What there is to ask about the content of an item, in order, if everybody is there. -/
def allQuestions (item : Item) : List Call :=
  [.askSource (.controller item), .askDelegate (.controller item), .askSource (.view item),
    .askDelegate (.view item)]

section Questions

variable (source : Option (DataSource α μ κ)) (delegate : Option (Delegate α μ κ))

def questions (item : Item) : List Call :=
  (allQuestions item).filter fun call =>
    (call.isToSource && source.isSome) || (call.isToDelegate && delegate.isSome)

/-- What is replied to a question about content after some calls. -/
def reply (past : Past) : Call → Option (Content α μ κ)
  | .askSource (.controller item) => source.bind fun s => (s.controller past item).map .native
  | .askDelegate (.controller item) =>
      delegate.bind fun d => (d.controller past item).map .native
  | .askSource (.view item) => source.bind fun s => (s.view past item).map .declarative
  | .askDelegate (.view item) => delegate.bind fun d => (d.view past item).map .declarative
  | _ => none

/-- What is replied if a list of questions is asked to its end. -/
def repliesInTurn : Past → List Call → List (Option (Content α μ κ))
  | _, [] => []
  | past, call :: rest =>
      reply source delegate past call :: repliesInTurn (past ++ [call]) rest

/-- The questions of a list that are asked if asking ends with the first reply. -/
def askedOf (past : Past) (calls : List Call) : List Call :=
  calls.take ((repliesInTurn source delegate past calls).findIdx Option.isSome + 1)

/-- What a link does that asks a question, after the calls made before it. -/
def inquiry (past : Past) (call : Call) (made : List Call) :
    Option (Content α μ κ) × List Call :=
  (reply source delegate (past ++ made) call, made ++ [call])

theorem standard_map (past : Past) (item : Item) :
    (Chain.standard past source delegate).map (fun next => next item) =
      (questions source delegate item).map (inquiry source delegate past) := by
  cases source <;> cases delegate <;> rfl

theorem askedOf_cons (past : Past) (call : Call) (rest : List Call) :
    askedOf source delegate past (call :: rest) =
      call :: if (reply source delegate past call).isSome then []
        else askedOf source delegate (past ++ [call]) rest := by
  rw [askedOf, repliesInTurn, List.findIdx_cons, List.take_succ_cons, askedOf]
  cases (reply source delegate past call).isSome with
  | true => rfl
  | false => rfl

/-- A chain whose links are questions asks them up to the first reply. -/
theorem tryResolve_of_map {past : Past} {item : Item} {chain : Chain (List Call) α μ κ}
    {calls : List Call}
    (hasking : chain.map (fun next => next item) =
      calls.map (inquiry source delegate past))
    (made : List Call) :
    chain.tryResolve item made =
      ((repliesInTurn source delegate (past ++ made) calls).findSome? id,
        made ++ askedOf source delegate (past ++ made) calls) := by
  induction calls generalizing chain made with
  | nil =>
      have : chain = [] := List.map_eq_nil_iff.mp hasking
      subst this
      rw [Chain.tryResolve, repliesInTurn, askedOf]
      simp
  | cons call rest ih =>
      obtain ⟨next, others, rfl, hnext, hothers⟩ := List.map_eq_cons_iff.mp hasking
      have hmade : next item made =
          (reply source delegate (past ++ made) call, made ++ [call]) :=
        congrFun hnext made
      rw [repliesInTurn, askedOf_cons, List.findSome?_cons]
      cases h : reply source delegate (past ++ made) call with
      | some content =>
          rw [h] at hmade
          have hanswered : (next item made).1 = some content := congrArg Prod.fst hmade
          rw [Chain.tryResolve_cons_answered hanswered, hmade]
          rfl
      | none =>
          rw [h] at hmade
          have hdeclined : (next item made).1 = none := congrArg Prod.fst hmade
          rw [Chain.tryResolve_cons_declined hdeclined, hmade, ih hothers]
          simp

/-- A resolution asks the questions to those who are there up to the first reply, takes
it, and logs that once. -/
theorem resolveContent_eq (past : Past) (item : Item) :
    resolveContent past source delegate item =
      let replies := repliesInTurn source delegate past (questions source delegate item)
      let content := (replies.findSome? id).getD (.builtin (.ofRoute item.route))
      { content
        state := askedOf source delegate past (questions source delegate item)
        log := [.contentResolved content.kind item.id] } := by
  have h := tryResolve_of_map source delegate (standard_map source delegate past item) []
  rw [List.append_nil, List.nil_append] at h
  rw [resolveContent, Chain.resolve, h]

/-- What stands in front of a question that is asked was declined. -/
theorem reply_of_asked_later {past : Past} {earlier later : List Call} {call asked : Call}
    (honce : (earlier ++ call :: later).Nodup) (hbehind : asked ∈ later)
    (h : asked ∈ askedOf source delegate past (earlier ++ call :: later)) :
    reply source delegate (past ++ earlier) call = none := by
  induction earlier generalizing past with
  | nil =>
      rw [List.nil_append, List.nodup_cons] at honce
      rw [List.nil_append, askedOf_cons] at h
      rw [List.append_nil]
      have hother : asked ≠ call := fun hsame => honce.1 (hsame ▸ hbehind)
      cases hreply : reply source delegate past call with
      | none => rfl
      | some content =>
          rw [hreply] at h
          exact absurd (List.mem_singleton.mp h) hother
  | cons first rest ih =>
      rw [List.cons_append, List.nodup_cons] at honce
      rw [List.cons_append, askedOf_cons] at h
      have hmem : asked ∈ rest ++ call :: later :=
        List.mem_append_right rest (List.mem_cons_of_mem call hbehind)
      have hother : asked ≠ first := fun hsame => honce.1 (hsame ▸ hmem)
      have hlater := (List.mem_cons.mp h).resolve_left hother
      split at hlater
      · cases hlater
      · rw [List.append_cons]
        exact ih honce.2 hlater

theorem mem_questions_of_mem_askedOf {past : Past} {calls : List Call} {asked : Call}
    (h : asked ∈ askedOf source delegate past calls) : asked ∈ calls :=
  List.mem_of_mem_take h

theorem nodup_questions (item : Item) : (questions source delegate item).Nodup := by
  have hall : (allQuestions item).Nodup := by simp [allQuestions]
  exact hall.filter _

end Questions

/-! ## Controllers before views

The questions for a view stand behind all questions for a controller, and what stands in
front of a question that is asked was declined.
-/

def Call.isForView : Call → Bool
  | askSource (.view _) | askDelegate (.view _) => true
  | _ => false

/-- The question for a controller to the source, if there is one. -/
def sourceAsked (source : Option (DataSource α μ κ)) (item : Item) : List Call :=
  source.toList.map fun _ => .askSource (.controller item)

theorem declined_of_viewAsked {past : Past} {source : Option (DataSource α μ κ)}
    {delegate : Option (Delegate α μ κ)} {item : Item} {earlier later : List Call}
    {call asked : Call} (hsplit : questions source delegate item = earlier ++ call :: later)
    (hcontrollers : ∀ c ∈ earlier ++ [call], c.isForView = false) (hview : asked.isForView = true)
    (h : asked ∈ (resolveContent past source delegate item).state) :
    reply source delegate (past ++ earlier) call = none := by
  rw [resolveContent_eq] at h
  have honce := nodup_questions source delegate item
  have hmem := mem_questions_of_mem_askedOf _ _ h
  rw [hsplit] at h honce hmem
  have hbehind : asked ∈ later := by
    rw [List.append_cons] at hmem
    rcases List.mem_append.mp hmem with hbefore | hbehind
    · rw [hcontrollers asked hbefore] at hview
      cases hview
    · exact hbehind
  exact reply_of_asked_later source delegate honce hbehind h

theorem source_declined_of_viewAsked {past : Past} {source : DataSource α μ κ}
    {delegate : Option (Delegate α μ κ)} {item : Item} {asked : Call}
    (hview : asked.isForView = true)
    (h : asked ∈ (resolveContent past (some source) delegate item).state) :
    source.controller past item = none := by
  have hsplit : ∃ later, questions (some source) delegate item =
      [] ++ .askSource (.controller item) :: later := ⟨_, rfl⟩
  obtain ⟨later, hsplit⟩ := hsplit
  have hdeclined := declined_of_viewAsked hsplit (by simp [Call.isForView]) hview h
  rw [List.append_nil] at hdeclined
  exact Option.map_eq_none_iff.mp hdeclined

theorem delegate_declined_of_viewAsked {past : Past} {source : Option (DataSource α μ κ)}
    {delegate : Delegate α μ κ} {item : Item} {asked : Call}
    (hview : asked.isForView = true)
    (h : asked ∈ (resolveContent past source (some delegate) item).state) :
    delegate.controller (past ++ sourceAsked source item) item = none := by
  have hsplit : ∃ later, questions source (some delegate) item =
      sourceAsked source item ++ .askDelegate (.controller item) :: later := by
    cases source with
    | none => exact ⟨_, rfl⟩
    | some s => exact ⟨_, rfl⟩
  obtain ⟨later, hsplit⟩ := hsplit
  have hcontrollers : ∀ c ∈ sourceAsked source item ++ [.askDelegate (.controller item)],
      c.isForView = false := by
    intro c hmem
    rcases List.mem_append.mp hmem with hfirst | hlast
    · obtain ⟨_, _, rfl⟩ := List.mem_map.mp hfirst
      rfl
    · rw [List.mem_singleton.mp hlast]
      rfl
  exact Option.map_eq_none_iff.mp (declined_of_viewAsked hsplit hcontrollers hview h)

/-! ## Who declines everything might as well not be there -/

def DataSource.Declines (source : DataSource α μ κ) : Prop :=
  ∀ past item, source.controller past item = none ∧ source.view past item = none

def Delegate.Declines (delegate : Delegate α μ κ) : Prop :=
  ∀ past item, delegate.controller past item = none ∧ delegate.view past item = none

/-- A source that answers by the calls made to itself, whatever others were asked. -/
def DataSource.GoesByOwnCalls (source : DataSource α μ κ) : Prop :=
  ∀ p q : Past, p.filter Call.isToSource = q.filter Call.isToSource →
    source.controller p = source.controller q ∧ source.view p = source.view q

/-- A delegate that answers by the calls made to itself, whatever others were asked. -/
def Delegate.GoesByOwnCalls (delegate : Delegate α μ κ) : Prop :=
  ∀ p q : Past, p.filter Call.isToDelegate = q.filter Call.isToDelegate →
    delegate.controller p = delegate.controller q ∧ delegate.view p = delegate.view q

/-- Questions that are never replied to can be left out, if they make no difference to
the replies to the others. -/
theorem findSome?_repliesInTurn_filter {source source' : Option (DataSource α μ κ)}
    {delegate delegate' : Option (Delegate α μ κ)} {heard : Call → Bool}
    (hsilent : ∀ p call, heard call = false → reply source delegate p call = none)
    (hsame : ∀ p q call, heard call = true → p.filter heard = q.filter heard →
      reply source delegate p call = reply source' delegate' q call)
    {p q : Past} (halike : p.filter heard = q.filter heard) (calls : List Call) :
    (repliesInTurn source delegate p calls).findSome? id =
      (repliesInTurn source' delegate' q (calls.filter heard)).findSome? id := by
  induction calls generalizing p q with
  | nil => rfl
  | cons call rest ih =>
      rw [repliesInTurn, List.findSome?_cons]
      -- What is not heard leaves the past of the others as it was, so only it is left out.
      cases h : heard call with
      | false =>
          have hunheard : (p ++ [call]).filter heard = q.filter heard := by
            rw [List.filter_append, List.filter_cons_of_neg (by simp [h]), List.filter_nil,
              List.append_nil, halike]
          rw [hsilent p call h, List.filter_cons_of_neg (by simp [h]), ← ih hunheard]
          rfl
      | true =>
          have hheard' : (p ++ [call]).filter heard = (q ++ [call]).filter heard := by
            rw [List.filter_append, List.filter_append, halike]
          rw [List.filter_cons_of_pos h, repliesInTurn, List.findSome?_cons,
            hsame p q call h halike, ih hheard']

theorem reply_of_declining_source {source : DataSource α μ κ} (hdeclines : source.Declines)
    (delegate : Option (Delegate α μ κ)) (p : Past) (call : Call)
    (hnotOther : call.isToDelegate = false) : reply (some source) delegate p call = none := by
  match call with
  | .askSource (.controller i) => simp [reply, (hdeclines p i).1]
  | .askSource (.view i) => simp [reply, (hdeclines p i).2]
  | .askSource .items | .askSource (.action _) => rfl
  | .askDelegate _ | .tellDelegate _ => cases hnotOther

theorem reply_of_declining_delegate {delegate : Delegate α μ κ}
    (hdeclines : delegate.Declines) (source : Option (DataSource α μ κ)) (p : Past)
    (call : Call) (hnotOther : call.isToSource = false) :
    reply source (some delegate) p call = none := by
  match call with
  | .askDelegate (.controller i) => simp [reply, (hdeclines p i).1]
  | .askDelegate (.view i) => simp [reply, (hdeclines p i).2]
  | .askDelegate .items | .askDelegate (.action _) | .tellDelegate _ => rfl
  | .askSource _ => cases hnotOther

theorem reply_of_own_delegate {delegate : Option (Delegate α μ κ)}
    (hown : ∀ d ∈ delegate, d.GoesByOwnCalls) (source source' : Option (DataSource α μ κ))
    (p q : Past) (call : Call) (hother : call.isToDelegate = true)
    (halike : p.filter Call.isToDelegate = q.filter Call.isToDelegate) :
    reply source delegate p call = reply source' delegate q call := by
  cases delegate with
  | none =>
      match call with
      | .askDelegate (.controller _) | .askDelegate (.view _) | .askDelegate .items
      | .askDelegate (.action _) | .tellDelegate _ => rfl
  | some d =>
      obtain ⟨hcontroller, hview⟩ := hown d rfl p q halike
      match call with
      | .askDelegate (.controller _) => simp [reply, hcontroller]
      | .askDelegate (.view _) => simp [reply, hview]
      | .askDelegate .items | .askDelegate (.action _) | .tellDelegate _ => rfl

theorem reply_of_own_source {source : Option (DataSource α μ κ)}
    (hown : ∀ s ∈ source, s.GoesByOwnCalls) (delegate delegate' : Option (Delegate α μ κ))
    (p q : Past) (call : Call) (hother : call.isToSource = true)
    (halike : p.filter Call.isToSource = q.filter Call.isToSource) :
    reply source delegate p call = reply source delegate' q call := by
  cases source with
  | none =>
      match call with
      | .askSource (.controller _) | .askSource (.view _) | .askSource .items
      | .askSource (.action _) => rfl
  | some s =>
      obtain ⟨hcontroller, hview⟩ := hown s rfl p q halike
      match call with
      | .askSource (.controller _) => simp [reply, hcontroller]
      | .askSource (.view _) => simp [reply, hview]
      | .askSource .items | .askSource (.action _) => rfl

theorem content_of_declining_source {source : DataSource α μ κ} (hdeclines : source.Declines)
    {delegate : Option (Delegate α μ κ)} (hown : ∀ d ∈ delegate, d.GoesByOwnCalls)
    (past : Past) (item : Item) :
    (resolveContent past (some source) delegate item).content =
      (resolveContent past none delegate item).content := by
  have hothers : questions none delegate item =
      (questions (some source) delegate item).filter Call.isToDelegate := by
    cases delegate <;> rfl
  rw [resolveContent_eq, resolveContent_eq, hothers]
  simp only [findSome?_repliesInTurn_filter (reply_of_declining_source hdeclines delegate)
    (reply_of_own_delegate hown (some source) none) (p := past) rfl]

theorem content_of_declining_delegate {delegate : Delegate α μ κ}
    (hdeclines : delegate.Declines) {source : Option (DataSource α μ κ)}
    (hown : ∀ s ∈ source, s.GoesByOwnCalls) (past : Past) (item : Item) :
    (resolveContent past source (some delegate) item).content =
      (resolveContent past source none item).content := by
  have hothers : questions source none item =
      (questions source (some delegate) item).filter Call.isToSource := by
    cases source <;> rfl
  rw [resolveContent_eq, resolveContent_eq, hothers]
  simp only [findSome?_repliesInTurn_filter (reply_of_declining_delegate hdeclines source)
    (reply_of_own_source hown (some delegate) none) (p := past) rfl]

/-! ## Resolving -/

/-- What a chain does with an item: it takes the first answer, asks the links up to the one
that gives it, and logs once what came of it. -/
structure Chain.TakesFirst (chain : Chain σ α μ κ) (item : Item) (s : σ) : Prop where
  /-- The answer is the first of those that the links would give in turn. -/
  answer : (chain.tryResolve item s).1 = (chain.answersInTurn item s).findSome? (·.1)
  /-- The links asked are those up to the first that answers, in order and each once; all of
  them if none answers. Writing this down changes neither the answer nor the state. -/
  asked : chain.watched.tryResolve item ([], s) =
    ((chain.tryResolve item s).1,
      ((List.range chain.length).take (chain.firstToAnswer item s + 1),
        (chain.tryResolve item s).2))
  /-- Without an answer, the route of the item picks a page. -/
  content : (chain.resolve item s).content =
    (chain.tryResolve item s).1.getD (.builtin (.ofRoute item.route))
  state : (chain.resolve item s).state = (chain.tryResolve item s).2
  log : (chain.resolve item s).log =
    [.contentResolved (chain.resolve item s).content.kind item.id]

/-- What finding the content of an item does with the collaborators that are there. -/
structure TakesFirstReply (past : Past) (source : Option (DataSource α μ κ))
    (delegate : Option (Delegate α μ κ)) (item : Item) : Prop where
  /-- The calls are the first of the questions. -/
  isPrefix : (resolveContent past source delegate item).state <+: questions source delegate item
  /-- The last call is the first that gets a reply; all questions are asked if none does. -/
  asked : (resolveContent past source delegate item).state =
    (questions source delegate item).take
      ((repliesInTurn source delegate past (questions source delegate item)).findIdx
        Option.isSome + 1)
  content : (resolveContent past source delegate item).content =
    ((repliesInTurn source delegate past (questions source delegate item)).findSome? id).getD
      (.builtin (.ofRoute item.route))
  /-- The calls come first, and then one record of what came of them. -/
  journal : (resolveContent past source delegate item).journal =
    (resolveContent past source delegate item).state.map .called
      ++ [.logged
        (.contentResolved (resolveContent past source delegate item).content.kind item.id)]
  /-- A view is asked for only after all who are there declined to give a controller. -/
  controllersFirst : ∀ call ∈ (resolveContent past source delegate item).state,
    call.isForView = true →
      (∀ s ∈ source, s.controller past item = none) ∧
      ∀ d ∈ delegate, d.controller (past ++ sourceAsked source item) item = none
  /-- A source that declines everything might as well not be there. -/
  withoutSource : ∀ s ∈ source, s.Declines → (∀ d ∈ delegate, d.GoesByOwnCalls) →
    (resolveContent past source delegate item).content =
      (resolveContent past none delegate item).content
  /-- A delegate that declines everything might as well not be there. -/
  withoutDelegate : ∀ d ∈ delegate, d.Declines → (∀ s ∈ source, s.GoesByOwnCalls) →
    (resolveContent past source delegate item).content =
      (resolveContent past source none item).content

theorem Chain.takesFirst (chain : Chain σ α μ κ) (item : Item) (s : σ) :
    chain.TakesFirst item s where
  answer := tryResolve_fst item chain s
  asked := tryResolve_watched item chain s
  content := rfl
  state := rfl
  log := rfl

theorem takesFirstReply (past : Past) (source : Option (DataSource α μ κ))
    (delegate : Option (Delegate α μ κ)) (item : Item) :
    TakesFirstReply past source delegate item where
  isPrefix := by
    rw [resolveContent_eq]
    exact List.take_prefix _ _
  asked := by rw [resolveContent_eq]; rfl
  content := by rw [resolveContent_eq]
  journal := rfl
  controllersFirst := by
    intro call hasked hview
    constructor
    · rintro s ⟨⟩
      exact source_declined_of_viewAsked hview hasked
    · rintro d ⟨⟩
      exact delegate_declined_of_viewAsked hview hasked
  withoutSource := by
    rintro s ⟨⟩ hdeclines hown
    exact content_of_declining_source hdeclines hown past item
  withoutDelegate := by
    rintro d ⟨⟩ hdeclines hown
    exact content_of_declining_delegate hdeclines hown past item

/-- A chain that is made link by link consists of these links. It takes the first answer
and asks nobody behind the link that gives it, and so does finding content, whoever is
there to be asked. -/
theorem resolution_takes_first (links : List (Link σ α μ κ)) (item : Item) (s : σ)
    (past : Past) (source : Option (DataSource α μ κ)) (delegate : Option (Delegate α μ κ)) :
    links.foldl Chain.link [] = links ∧ Chain.TakesFirst links item s ∧
      TakesFirstReply past source delegate item :=
  ⟨Chain.foldl_link [] links, Chain.takesFirst links item s,
    takesFirstReply past source delegate item⟩

/-- A delegate that gives a controller when it is asked for the second time, behind a
source without content: the source is asked and might as well not be there. -/
theorem resolution_of_second_asking :
    let source : DataSource Rat Unit Unit := .fixed [Item.home]
    let question : Call := .askDelegate (.controller Item.home)
    let delegate : Delegate Rat Unit Unit :=
      { controller := fun past item =>
          if .askDelegate (.controller item) ∈ past then some ⟨item.id, ()⟩ else none }
    source.Declines ∧ delegate.GoesByOwnCalls ∧
      (resolveContent [question] (some source) (some delegate) Item.home).state =
        [.askSource (.controller Item.home), question] ∧
      (resolveContent [question] (some source) (some delegate) Item.home).content =
        (resolveContent [question] none (some delegate) Item.home).content := by
  intro source question delegate
  have hdeclines : source.Declines := fun _ _ => ⟨rfl, rfl⟩
  have hown : delegate.GoesByOwnCalls := by
    intro p q halike
    refine ⟨?_, rfl⟩
    funext item
    have hsame : .askDelegate (.controller item) ∈ p ↔ .askDelegate (.controller item) ∈ q := by
      have h : ∀ past : Past, .askDelegate (.controller item) ∈ past.filter Call.isToDelegate ↔
          .askDelegate (.controller item) ∈ past := by
        intro past
        rw [List.mem_filter]
        exact and_iff_left rfl
      rw [← h p, halike, h q]
    simp only [delegate, hsame]
  have h := (resolution_takes_first ([] : Chain Unit Rat Unit Unit) Item.home ()
    [question] (some source) (some delegate)).2.2
  have hasked : (resolveContent [question] (some source) (some delegate) Item.home).state =
      [.askSource (.controller Item.home), question] := h.asked.trans (by decide)
  exact ⟨hdeclines, hown, hasked,
    h.withoutSource source rfl hdeclines fun d hd => Option.some.inj hd ▸ hown⟩

end TabNavigator
