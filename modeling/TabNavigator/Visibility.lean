/-!
# Visibility of the strip
-/

namespace TabNavigator

/-- Whether the strip is shown. -/
inductive Visibility where
  | visible
  | hidden
deriving DecidableEq

namespace Visibility

def isVisible : Visibility → Bool
  | visible => true
  | hidden => false

def ofBool (shown : Bool) : Visibility :=
  if shown then visible else hidden

/-- The other visibility. -/
def toggled (v : Visibility) : Visibility :=
  ofBool !v.isVisible

end Visibility

end TabNavigator
