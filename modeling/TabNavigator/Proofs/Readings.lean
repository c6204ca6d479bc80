import TabNavigator.Element.Reading

/-!
# Readings that see through boxes

Most of what is built around a button or a text only says how it looks: boxes, columns,
rows, sizes and colours. A reading that is about something else does not see them. It
`SeesThrough` them: it reads a box as what the box holds, a column or a row as what its
children read one after the other, and a text by its content alone. What such a reading
makes of a part of the view is then said once for all readings of the kind.

There are three that matter. The texts, each with what clicking it sends; the buttons,
disabled ones included; and the fields.
-/

namespace TabNavigator.Element

variable {α μ : Type}

mutual

/-- The buttons of an element, each with the message that it sends. A disabled one sends
none. -/
def buttons : Element α μ → List (Option μ)
  | .space => []
  | .text _ _ _ => []
  | .box _ child => buttons child
  | .column children => buttonsAll children
  | .row children => buttonsAll children
  | .button _ _ message child => message :: buttons child
  | .field _ => []

def buttonsAll : List (Element α μ) → List (Option μ)
  | [] => []
  | child :: rest => buttons child ++ buttonsAll rest

end

mutual

theorem buttonMessages_eq : ∀ e : Element α μ, e.buttonMessages = e.buttons.filterMap id
  | .space => rfl
  | .text _ _ _ => rfl
  | .box _ child => by rw [buttonMessages, buttons, buttonMessages_eq child]
  | .column children => by rw [buttonMessages, buttons, buttonMessagesAll_eq children]
  | .row children => by rw [buttonMessages, buttons, buttonMessagesAll_eq children]
  | .button _ _ none child => by
      rw [buttonMessages, buttons, buttonMessages_eq child]
      rfl
  | .button _ _ (some _) child => by
      rw [buttonMessages, buttons, buttonMessages_eq child]
      rfl
  | .field _ => rfl

theorem buttonMessagesAll_eq : ∀ children : List (Element α μ),
    buttonMessagesAll children = (buttonsAll children).filterMap id
  | [] => rfl
  | child :: rest => by
      rw [buttonMessagesAll, buttonsAll, List.filterMap_append, buttonMessages_eq child,
        buttonMessagesAll_eq rest]

end

/-- A reading that sees neither the boxes around a part nor the size and colour of a text.
What it makes of a text is what `say` makes of the content. -/
structure SeesThrough {β : Type} (read : Element α μ → List β) (say : String → List β) :
    Prop where
  space : read .space = []
  text : ∀ content size color, read (.text content size color) = say content
  box : ∀ look child, read (.box look child) = read child
  column : ∀ children, read (.column children) = children.flatMap read
  row : ∀ children, read (.row children) = children.flatMap read

theorem SeesThrough.map {β γ : Type} {read : Element α μ → List β} {say : String → List β}
    (h : SeesThrough read say) (f : β → γ) :
    SeesThrough (fun e => (read e).map f) (fun content => (say content).map f) where
  space := by rw [h.space, List.map_nil]
  text content size color := by rw [h.text]
  box look child := by rw [h.box]
  column children := by rw [h.column, List.map_flatMap]
  row children := by rw [h.row, List.map_flatMap]

theorem buttonsAll_eq (children : List (Element α μ)) :
    buttonsAll children = children.flatMap buttons := by
  induction children with
  | nil => rw [buttonsAll, List.flatMap_nil]
  | cons child rest ih => rw [buttonsAll, List.flatMap_cons, ih]

theorem buttons_seesThrough :
    SeesThrough (buttons : Element α μ → List (Option μ)) fun _ => [] where
  space := rfl
  text _ _ _ := rfl
  box _ _ := rfl
  column children := buttonsAll_eq children
  row children := buttonsAll_eq children

theorem fieldsAll_eq (children : List (Element α μ)) :
    fieldsAll children = children.flatMap fields := by
  induction children with
  | nil => rw [fieldsAll, List.flatMap_nil]
  | cons child rest ih => rw [fieldsAll, List.flatMap_cons, ih]

theorem fields_seesThrough :
    SeesThrough (fields : Element α μ → List (TextField α μ)) fun _ => [] where
  space := rfl
  text _ _ _ := rfl
  box _ _ := rfl
  column children := fieldsAll_eq children
  row children := fieldsAll_eq children

theorem textsUnderAll_eq (message : Option μ) (children : List (Element α μ)) :
    textsUnderAll message children = children.flatMap (textsUnder message) := by
  induction children with
  | nil => rw [textsUnderAll, List.flatMap_nil]
  | cons child rest ih => rw [textsUnderAll, List.flatMap_cons, ih]

/-- How a text reads that stands under a message. -/
def textUnder (message : Option μ) (content : String) : List (TextReading μ) :=
  [⟨content, if content.isEmpty then none else message⟩]

theorem textsUnder_seesThrough (message : Option μ) :
    SeesThrough (textsUnder message : Element α μ → List (TextReading μ))
      (textUnder message) where
  space := rfl
  text _ _ _ := rfl
  box _ _ := rfl
  column children := textsUnderAll_eq message children
  row children := textsUnderAll_eq message children

theorem contents_silenceLast (readings : List (TextReading μ)) :
    (silenceLast readings).map (·.content) = readings.map (·.content) := by
  rw [silenceLast]
  refine List.ext_getElem? fun i => ?_
  rw [List.getElem?_map, List.getElem?_map, List.getElem?_modify]
  cases readings[i]? with
  | none => rfl
  | some reading =>
      rw [Option.map_eq_map, Option.map_some, Option.map_some]
      split <;> rfl

/-- Whatever a button does to the messages of its texts, their contents stay. -/
theorem contents_textsUnder_button (message own : Option μ) (idle pressed : Look α)
    (child : Element α μ) :
    (textsUnder message (.button idle pressed own child)).map (·.content) =
      (textsUnder own child).map (·.content) := by
  rw [textsUnder]
  split
  · exact contents_silenceLast _
  · rfl

end TabNavigator.Element
