import TabNavigator.Element
import TabNavigator.Text.Lines

/-!
# Reading an element

Readings of a tree, each in the order of the tree with a parent before its children:
the texts with the messages that clicking them sends, the texts as they are drawn,
the text fields, the messages of the buttons, and the rectangles.

A text is clicked and held at its middle, and what is clicked or pressed is the button
that this point lies on. That is the button around the text, unless the text has no
width and stands on the side of the button. Besides, an empty text is nothing to click.

Rows and columns draw no part without width, while a box or a button always draws what
it holds.

A held text is named by its place in the first reading. The reading of the rectangles
carries that place along and counts it down by the texts that it passes.
-/

namespace TabNavigator.Element

variable {α μ : Type}

/-- Whether an element is a text of no width. -/
def isWidthless : Element α μ → Bool
  | .text content _ _ => !Text.hasWidth content
  | _ => false

mutual

/-- Whether an element ends with a text of no width on its right side. The side itself is
no longer part of the element. The parts of a column stand in the middle of its width. -/
def endsOnSide : Element α μ → Bool
  | .space => false
  | .text content _ _ => !Text.hasWidth content
  | .box look child => !look.hasMargin && endsOnSide child
  | .column _ => false
  | .row children => endsOnSideLast children
  | .button idle _ _ child => !idle.hasMargin && endsOnSide child
  | .field _ => false

def endsOnSideLast : List (Element α μ) → Bool
  | [] => false
  | [child] => endsOnSide child
  | _ :: rest => endsOnSideLast rest

end

structure TextReading (μ : Type) where
  content : String
  message : Option μ

/-- The same texts, but clicking the last one sends nothing. -/
def silenceLast (readings : List (TextReading μ)) : List (TextReading μ) :=
  readings.modify (readings.length - 1) fun reading => { reading with message := none }

mutual

/-- The texts of an element inside a button with the given message. -/
def textsUnder (message : Option μ) : Element α μ → List (TextReading μ)
  | .space => []
  | .text content _ _ => [⟨content, if content.isEmpty then none else message⟩]
  | .box _ child => textsUnder message child
  | .column children => textsUnderAll message children
  | .row children => textsUnderAll message children
  | .button idle _ own child =>
      let readings := textsUnder own child
      if !idle.hasMargin && endsOnSide child then silenceLast readings else readings
  | .field _ => []

def textsUnderAll (message : Option μ) : List (Element α μ) → List (TextReading μ)
  | [] => []
  | child :: rest => textsUnder message child ++ textsUnderAll message rest

end

/-- The texts of an element and what clicking them sends. -/
def texts (e : Element α μ) : List (TextReading μ) :=
  e.textsUnder none

structure DrawnText (α : Type) where
  content : String
  size : α
  color : Color α

/-- What is drawn of a text: its lines. -/
def drawText (content : String) (size : α) (color : Color α) : DrawnText α :=
  ⟨Text.drawnLines content, size, color⟩

/-- What a text field shows: its content, or its placeholder. -/
def drawField (field : TextField α μ) : DrawnText α :=
  if field.content.isEmpty then drawText field.placeholder field.size field.placeholderColor
  else drawText field.content field.size field.contentColor

mutual

/-- The drawn texts of an element. A text without a colour takes the one around it. -/
def drawnIn (color : Color α) : Element α μ → List (DrawnText α)
  | .space => []
  | .text content size own => [drawText content size (own.getD color)]
  | .box look child => drawnIn (look.textColor.getD color) child
  | .column children => drawnInAll color children
  | .row children => drawnInAll color children
  | .button idle _ _ child => drawnIn (idle.textColor.getD color) child
  | .field f => [drawField f]

def drawnInAll (color : Color α) : List (Element α μ) → List (DrawnText α)
  | [] => []
  | child :: rest =>
      (if child.isWidthless then [] else drawnIn color child) ++ drawnInAll color rest

end

mutual

def fields : Element α μ → List (TextField α μ)
  | .space => []
  | .text _ _ _ => []
  | .box _ child => fields child
  | .column children => fieldsAll children
  | .row children => fieldsAll children
  | .button _ _ _ child => fields child
  | .field f => [f]

def fieldsAll : List (Element α μ) → List (TextField α μ)
  | [] => []
  | child :: rest => fields child ++ fieldsAll rest

end

mutual

/-- The messages of the enabled buttons of an element. -/
def buttonMessages : Element α μ → List μ
  | .space => []
  | .text _ _ _ => []
  | .box _ child => buttonMessages child
  | .column children => buttonMessagesAll children
  | .row children => buttonMessagesAll children
  | .button _ _ message child => message.toList ++ buttonMessages child
  | .field _ => []

def buttonMessagesAll : List (Element α μ) → List μ
  | [] => []
  | child :: rest => buttonMessages child ++ buttonMessagesAll rest

end

structure Quad (α : Type) where
  background : Color α
  border : Border α
  shadow : Shadow α

variable [Scalar α]

def drawn (e : Element α μ) : List (DrawnText α) :=
  e.drawnIn .black

/-- The rectangle of a look: only if there is a fill, a line or a shadow to see. -/
def quadOf (look : Look α) : List (Quad α) :=
  if look.background.isSome || Scalar.below Scalar.zero look.border.width
      || Scalar.below Scalar.zero look.shadow.color.alpha then
    [⟨look.background.getD .transparent, look.border, look.shadow⟩]
  else []

/-- The place of a text, counted from behind the first `passed` texts. -/
def placeAfter (passed : Nat) (held : Option Nat) : Option Nat :=
  held.bind fun place => if passed ≤ place then some (place - passed) else none

/-- Whether the held text has its middle on an element. -/
def isHeldOn (held : Option Nat) (e : Element α μ) : Bool :=
  let count := e.texts.length
  held.any fun place => place < count && !(place + 1 == count && e.endsOnSide)

mutual

/-- The rectangles of an element while the mouse button is held down over one of its
texts. -/
def quadsHeld (held : Option Nat) : Element α μ → List (Quad α)
  | .space => []
  | .text _ _ _ => []
  | .box look child => quadOf look ++ quadsHeld held child
  | .column children => quadsHeldAll held children
  | .row children => quadsHeldAll held children
  | .button idle pressed message child =>
      let isPressed := message.isSome && isHeldOn held (.button idle pressed message child)
      quadOf (if isPressed then pressed else idle) ++ quadsHeld held child
  | .field f => [⟨f.background, f.border, .none⟩]

def quadsHeldAll (held : Option Nat) : List (Element α μ) → List (Quad α)
  | [] => []
  | child :: rest =>
      quadsHeld held child ++ quadsHeldAll (placeAfter child.texts.length held) rest

end

def quads (e : Element α μ) : List (Quad α) :=
  e.quadsHeld none

end TabNavigator.Element
