import Mathlib.Data.List.Chain
import TabNavigator.Proofs.Step

/-!
# A host can follow a navigator by its effects

A host that keeps a selection and a visibility of its own, and changes them only as the
effects say, always has those of the navigator (`hearAll_effects`). So no event changes
either without an effect that says so, and no effect says it of a change that did not
happen or came out differently.

For the visibility there is more to it. A wish for the visibility that there is already
has no effect, so an effect that reports a visibility reports a new one. There are only
two, and the reports of a run therefore alternate, beginning with the one that the
navigator did not have at the start.
-/

namespace TabNavigator

theorem Visibility.toggled_ne (v : Visibility) : v.toggled ≠ v := by
  cases v <;> decide

theorem Visibility.eq_toggled_of_ne {v w : Visibility} (h : v ≠ w) : w = v.toggled := by
  cases v <;> cases w <;> first | rfl | exact absurd rfl h

/-- The visibility that an effect reports. -/
def Effect.visibility? : Effect → Option Visibility
  | .visibilityChanged v => some v
  | _ => none

/-- What a host knows that only listens to effects. -/
structure Follower where
  selectedId : Option String
  visibility : Visibility
deriving DecidableEq

namespace Follower

variable {α μ κ : Type}

/-- One that knows what there is to know. -/
def of (n : Navigator α μ κ) : Follower :=
  ⟨n.tabs.selectedId?, n.visibility⟩

def hear (f : Follower) : Effect → Follower
  | .selected id => { f with selectedId := some id }
  | .itemsUpdated selected => { f with selectedId := selected }
  | .visibilityChanged v => { f with visibility := v }
  | .actionPerformed _ _ => f
  | .searched _ => f
  | .searchCleared => f

/-- Hears one effect after the other. -/
def hearAll (f : Follower) (effects : List Effect) : Follower :=
  effects.foldl hear f

theorem hearAll_append (f : Follower) (earlier later : List Effect) :
    f.hearAll (earlier ++ later) = (f.hearAll earlier).hearAll later :=
  List.foldl_append

/-- In a list of effects that reports the two visibilities by turns, every report is of
the visibility that a follower does not know by then. -/
theorem report_of_isChain {f : Follower} {earlier later : List Effect} {v : Visibility}
    (hturns : List.IsChain (fun v w => w = v.toggled)
      (f.visibility ::
        (earlier ++ .visibilityChanged v :: later).filterMap Effect.visibility?)) :
    v = (f.hearAll earlier).visibility.toggled := by
  induction earlier generalizing f with
  | nil => exact (List.isChain_cons_cons.mp hturns).1
  | cons effect rest ih =>
      cases effect with
      | visibilityChanged w => exact ih (List.isChain_cons_cons.mp hturns).2
      | selected | itemsUpdated | actionPerformed | searched | searchCleared =>
          exact ih hturns

end Follower

namespace Navigator

open Follower (of)

variable {α μ κ : Type} [Scalar α]

/-- The effects of a run. -/
def effects (n : Navigator α μ κ) (events : List Event) : List Effect :=
  (n.outcomes events).filterMap (·.effect)

theorem Step.follower {n : Navigator α μ κ} {event : Event} {o : Outcome α μ κ}
    (h : Step n event o) : (of n).hearAll o.effect.toList = of o.after := by
  cases h with
  | @selected id item hfound =>
      have hsame : item.id = id := Item.id_of_find? hfound
      show (⟨some id, n.visibility⟩ : Follower) = ⟨some item.id, n.visibility⟩
      rw [hsame]
  | _ => rfl

/-- Either nothing is reported of the visibility and it stays, or the other one is
reported and it is the one from then on. -/
theorem Step.reported {n : Navigator α μ κ} {event : Event} {o : Outcome α μ κ}
    (h : Step n event o) :
    (o.effect.toList.filterMap Effect.visibility? = [] ∧
      o.after.visibility = n.visibility) ∨
    (o.effect.toList.filterMap Effect.visibility? = [n.visibility.toggled] ∧
      o.after.visibility = n.visibility.toggled) := by
  cases h with
  | @visibilityChanged _ v _ _ hchanges =>
      have hv : v = n.visibility.toggled := Visibility.eq_toggled_of_ne hchanges
      exact Or.inr ⟨congrArg (fun w => [w]) hv, hv⟩
  | _ => exact Or.inl ⟨rfl, rfl⟩

theorem effects_cons (n : Navigator α μ κ) (event : Event) (rest : List Event) :
    n.effects (event :: rest) =
      (n.reduce event).effect.toList ++ (n.reduce event).after.effects rest := by
  rw [effects, outcomes, List.filterMap_cons]
  cases h : (n.reduce event).effect with
  | none => rfl
  | some effect => rfl

/-- After a run, what a follower knows is what there is to know. -/
theorem hearAll_effects (n : Navigator α μ κ) (events : List Event) :
    (of n).hearAll (n.effects events) = of (n.run events) := by
  induction events generalizing n with
  | nil => rfl
  | cons event rest ih =>
      have hstep := (n.act_step event).follower
      rw [effects_cons, Follower.hearAll_append, reduce_effect, hstep]
      exact ih (n.reduce event).after

theorem isChain_reports (n : Navigator α μ κ) (events : List Event) :
    List.IsChain (fun v w => w = v.toggled)
      (n.visibility :: (n.effects events).filterMap Effect.visibility?) := by
  induction events generalizing n with
  | nil => exact List.isChain_singleton _
  | cons event rest ih =>
      have hrest := ih (n.reduce event).after
      rw [effects_cons, List.filterMap_append]
      rcases (n.act_step event).reported with ⟨hnone, hkept⟩ | ⟨hone, hchanged⟩
      · rw [reduce_effect, hnone, List.nil_append, ← hkept]
        exact hrest
      · rw [reduce_effect, hone, List.singleton_append, List.isChain_cons_cons, ← hchanged]
        exact ⟨rfl, hrest⟩

/-- A follower that starts with what there is to know and hears the effects of a run, and
nothing else, knows what there is to know after every event of it. A report of a
visibility is always news to it, and the reports alternate. -/
theorem follower_of_run (n : Navigator α μ κ) (events : List Event) :
    (∀ k, (of n).hearAll (((n.outcomes events).take k).filterMap (·.effect)) =
      of (n.run (events.take k))) ∧
    (∀ earlier v later, n.effects events = earlier ++ .visibilityChanged v :: later →
      v ≠ ((of n).hearAll earlier).visibility) ∧
    List.IsChain (fun v w => w = v.toggled)
      (n.visibility :: (n.effects events).filterMap Effect.visibility?) := by
  have hturns := n.isChain_reports events
  refine ⟨?_, ?_, hturns⟩
  · intro k
    rw [outcomes_take]
    exact n.hearAll_effects (events.take k)
  · intro earlier v later hsplit
    rw [hsplit] at hturns
    have hv : v = ((of n).hearAll earlier).visibility.toggled :=
      Follower.report_of_isChain hturns
    rw [hv]
    exact Visibility.toggled_ne _

/-- Asked for twice, the same visibility is reported once. -/
theorem follower_of_repeated_wish :
    let n : Navigator Rat Unit Unit := standard 0
    let events : List Event :=
      [.setVisibility .hidden 1, .setVisibility .hidden 2, .select "profile",
        .toggleVisibility 3]
    n.effects events =
      [.visibilityChanged .hidden] ++ .selected "profile" :: [.visibilityChanged .visible] ∧
    (∀ k, (of n).hearAll (((n.outcomes events).take k).filterMap (·.effect)) =
      of (n.run (events.take k))) ∧
    Visibility.visible ≠
      ((of n).hearAll [.visibilityChanged .hidden, .selected "profile"]).visibility := by
  intro n events
  have heffects : n.effects events =
      [.visibilityChanged .hidden, .selected "profile"] ++ .visibilityChanged .visible :: [] :=
    rfl
  have h := n.follower_of_run events
  exact ⟨heffects, h.1, h.2.1 _ _ _ heffects⟩

end Navigator

end TabNavigator
