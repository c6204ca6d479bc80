import TabNavigator.Color

/-!
# Elements

What is shown is a tree of elements. It says what is drawn and in which order, what
it looks like, and which message each part that reacts sends. It does not say where
on the screen anything is, but for one thing: whether a box or a button ends where
its content ends. A text can have no width, and at the end of a row it then stands on
the very edge.

The messages belong to whoever shows the tree, so their type is a parameter.
-/

namespace TabNavigator

/-- The line around a rectangle, with one radius for its corners. -/
structure Border (α : Type) where
  color : Color α
  width : α
  radius : α

/-- The shadow under a rectangle. -/
structure Shadow (α : Type) where
  color : Color α
  x : α
  y : α
  blur : α

/-- How a box or a button looks, and the colour it gives to the texts inside. -/
structure Look (α : Type) where
  background : Option (Color α)
  border : Border α
  shadow : Shadow α
  textColor : Option (Color α)
  /-- Whether there is room between the content and the sides. -/
  hasMargin : Bool

variable {α : Type} [Scalar α]

def Border.none : Border α := ⟨.transparent, Scalar.zero, Scalar.zero⟩

/-- No line, but round corners. -/
def Border.rounded (radius : α) : Border α := ⟨.transparent, Scalar.zero, radius⟩

def Shadow.none : Shadow α := ⟨.transparent, Scalar.zero, Scalar.zero, Scalar.zero⟩

/-- A look that draws nothing. -/
def Look.plain : Look α := ⟨Option.none, .none, .none, Option.none, false⟩

def Look.filled (color : Color α) : Look α :=
  { Look.plain with background := some color }

def Look.rounded (color : Color α) (radius : α) : Look α :=
  { Look.plain with background := some color, border := .rounded radius }

/-- A filled rectangle with round corners that is larger than its content. -/
def Look.pill (color : Color α) (radius : α) : Look α :=
  { Look.rounded color radius with hasMargin := true }

structure TextField (α μ : Type) where
  placeholder : String
  content : String
  size : α
  contentColor : Color α
  placeholderColor : Color α
  background : Color α
  border : Border α
  /-- The message for new content. -/
  onInput : String → μ
  /-- The message for the return key. -/
  onSubmit : μ

inductive Element (α μ : Type) where
  | space
  | text (content : String) (size : α) (color : Option (Color α))
  | box (look : Look α) (child : Element α μ)
  | column (children : List (Element α μ))
  | row (children : List (Element α μ))
  /-- A button without a message is disabled and never looks pressed. -/
  | button (idle pressed : Look α) (message : Option μ) (child : Element α μ)
  | field (content : TextField α μ)

/-- The size of a text that sets none. -/
def defaultTextSize : α := Scalar.ofNat 16

end TabNavigator
