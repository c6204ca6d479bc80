import TabNavigator.Scalar

/-!
# Colours
-/

namespace TabNavigator

/-- Red, green, blue and opacity, each between zero and one. -/
structure Color (α : Type) where
  red : α
  green : α
  blue : α
  alpha : α

namespace Color

variable {α : Type} [Scalar α]

/-- A colour from its channels in steps of one in two hundred and fifty-five. -/
def rgba (red green blue : Nat) (alpha : α) : Color α :=
  ⟨Scalar.ratio red 255, Scalar.ratio green 255, Scalar.ratio blue 255, alpha⟩

/-- An opaque colour. -/
def rgb (red green blue : Nat) : Color α :=
  rgba red green blue Scalar.one

def transparent : Color α := ⟨Scalar.zero, Scalar.zero, Scalar.zero, Scalar.zero⟩

def black : Color α := ⟨Scalar.zero, Scalar.zero, Scalar.zero, Scalar.one⟩

def white : Color α := ⟨Scalar.one, Scalar.one, Scalar.one, Scalar.one⟩

/-- The colour with its opacity scaled. -/
def scaled (color : Color α) (opacity : α) : Color α :=
  { color with alpha := color.alpha * opacity }

end Color

end TabNavigator
