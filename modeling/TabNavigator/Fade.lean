import TabNavigator.Time
import TabNavigator.Visibility

/-!
# Fades

A fade takes the opacity of the strip from where it is to where the visibility wants
it. It follows a curve that is level at both ends, and a fade that is started while
another is under way begins at the opacity that the other has reached.

A fade at rest has no start. It reads as a fade that has run its course, so nothing
needs to be said about when it ended.
-/

namespace TabNavigator

/-- The course of the opacity of a strip. -/
structure Fade (α : Type) where
  origin : α
  target : α
  started : Option Moment
  duration : Duration

namespace Fade

variable {α : Type} [Scalar α]

open Scalar

/-- The opacity at which a visibility rests. -/
def restingOpacity : Visibility → α
  | .visible => one
  | .hidden => zero

/-- How far along its way the opacity is, after this part of the time. -/
def ease (t : α) : α :=
  t * t * (ofNat 3 - ofNat 2 * t)

/-- A fade at rest. -/
def settled (v : Visibility) : Fade α :=
  { origin := restingOpacity v, target := restingOpacity v, started := none, duration := 0 }

/-- The part of a fade's time that has passed, never more than all of it. -/
def progress (fade : Fade α) (now : Moment) : α :=
  match fade.started with
  | none => one
  | some start => capAtOne ((Duration.between start now).seconds / fade.duration.seconds)

/-- The opacity at a moment. -/
def opacity (fade : Fade α) (now : Moment) : α :=
  fade.origin + (fade.target - fade.origin) * ease (fade.progress now)

/-- Whether the opacity still changes after a moment. -/
def isAnimating (fade : Fade α) (now : Moment) : Bool :=
  fade.started.isSome && below (fade.progress now) one

/-- Heads for a visibility. Without animation, or with no time for it, the fade is at
rest there at once. -/
def start (fade : Fade α) (v : Visibility) (duration : Duration) (animated : Bool)
    (now : Moment) : Fade α :=
  if !animated || duration == 0 then settled v
  else
    { origin := fade.opacity now, target := restingOpacity v
      started := some now, duration := duration }

end Fade

end TabNavigator
