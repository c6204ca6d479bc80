import TabNavigator.Element
import TabNavigator.Item
import TabNavigator.Time
import TabNavigator.Visibility

/-!
# Styles

A style is data: one of a few kinds, which fixes the measures of the strip, and a
list of decorators that are wrapped around it in turn. Styles say how a strip looks
and never how it behaves; what a strip offers is laid out from the items and the
selection alone.
-/

namespace TabNavigator

/-- The kinds of strips. -/
inductive StyleKind where
  | standard
  | compact
  | floating
  | minimal
  /-- A strip with decorators. -/
  | composable
deriving DecidableEq

namespace StyleKind

def name : StyleKind → String
  | standard => "default"
  | compact => "compact"
  | floating => "floating"
  | minimal => "minimal"
  | composable => "composable"

/-- The kinds that can be asked for by name. -/
def selectable : List StyleKind := [standard, compact, floating, minimal]

def ofName? (name : String) : Option StyleKind :=
  selectable.find? fun kind => kind.name == name

end StyleKind

/-- How the bar of a strip is filled. -/
inductive Fill where
  | solid
  /-- Translucent, with a thin line around it. -/
  | material
  | clear
deriving DecidableEq

/-- How icon and label of an item stand to each other. -/
inductive ItemLayout where
  /-- The icon above the label. -/
  | stacked
  /-- The icon beside the label. -/
  | inline
deriving DecidableEq

/-- The highlight behind a selected item. -/
structure Pill (α : Type) where
  cornerRadius : α
  paddingHorizontal : α
  paddingVertical : α

structure Metrics (α : Type) where
  itemSpacing : α
  paddingHorizontal : α
  paddingVertical : α
  cornerRadius : α
  fill : Fill
  /-- Whether a thin line runs along the top. -/
  separator : Bool
  borderWidth : α
  /-- Whether the strip throws a shadow. -/
  shadow : Bool
  outerPaddingHorizontal : α
  outerPaddingBottom : α
  iconSize : α
  labelSize : α
  labelSpacing : α
  itemLayout : ItemLayout
  selectedPill : Option (Pill α)
  /-- Whether the items share the width of the strip. -/
  fillItems : Bool

/-- What is wrapped around a strip. -/
inductive Decorator (α : Type) where
  | background (color : Color α) (cornerRadius : α)
  | shadow (shadow : Shadow α)
  | padding (horizontal vertical : α)
  | animation (duration : Duration)

namespace Metrics

variable {α : Type} [Scalar α]

open Scalar

/-- The measures of a kind. Decorators change none of them. -/
def ofKind : StyleKind → Metrics α
  | .standard | .composable =>
      { itemSpacing := ofNat 0, paddingHorizontal := ofNat 16, paddingVertical := ofNat 8
        cornerRadius := ofNat 0, fill := .solid, separator := true, borderWidth := ofNat 0
        shadow := false, outerPaddingHorizontal := ofNat 0, outerPaddingBottom := ofNat 0
        iconSize := ofNat 20, labelSize := ofNat 11, labelSpacing := ofNat 4
        itemLayout := .stacked, selectedPill := none, fillItems := true }
  | .compact =>
      { itemSpacing := ofNat 12, paddingHorizontal := ofNat 20, paddingVertical := ofNat 12
        cornerRadius := ofNat 25, fill := .solid, separator := false
        borderWidth := ofNat 0, shadow := true, outerPaddingHorizontal := ofNat 0
        outerPaddingBottom := ofNat 0, iconSize := ofNat 16, labelSize := ofNat 12
        labelSpacing := ofNat 6, itemLayout := .inline
        selectedPill := some ⟨ofNat 16, ofNat 12, ofNat 8⟩, fillItems := false }
  | .floating =>
      { itemSpacing := ofNat 0, paddingHorizontal := ofNat 16, paddingVertical := ofNat 12
        cornerRadius := ofNat 20, fill := .material, separator := false
        borderWidth := ratio 1 2, shadow := false, outerPaddingHorizontal := ofNat 16
        outerPaddingBottom := ofNat 34, iconSize := ofNat 18, labelSize := ofNat 11
        labelSpacing := ofNat 4, itemLayout := .stacked, selectedPill := none
        fillItems := true }
  | .minimal =>
      { itemSpacing := ofNat 0, paddingHorizontal := ofNat 8, paddingVertical := ofNat 4
        cornerRadius := ofNat 0, fill := .clear, separator := false
        borderWidth := ofNat 0, shadow := false, outerPaddingHorizontal := ofNat 0
        outerPaddingBottom := ofNat 0, iconSize := ofNat 16, labelSize := ofNat 11
        labelSpacing := ofNat 2, itemLayout := .stacked, selectedPill := none
        fillItems := true }

end Metrics

/-- A kind of strip and the decorators around it, the innermost first. -/
structure Style (α : Type) where
  base : StyleKind
  decorators : List (Decorator α)

structure StripEntry where
  item : Item
  isSelected : Bool
deriving DecidableEq

/-- What a strip shows. -/
structure StripLayout (α : Type) where
  metrics : Metrics α
  entries : List StripEntry
  decorators : List (Decorator α)
  visibility : Visibility

namespace Style

variable {α : Type}

/-- A style without decorators. -/
def ofKind (kind : StyleKind) : Style α := ⟨kind, []⟩

def decorate (style : Style α) (decorator : Decorator α) : Style α :=
  { style with decorators := style.decorators ++ [decorator] }

def isPlain (style : Style α) : Bool := style.decorators.isEmpty

/-- The kind of a style; with decorators it is composable whatever it started from. -/
def kind (style : Style α) : StyleKind :=
  if style.isPlain then style.base else .composable

/-- How long a fade takes unless a decorator says otherwise. -/
def defaultTransition : Duration := .milliseconds 300

def animationOf? : Decorator α → Option Duration
  | .animation duration => some duration
  | _ => none

/-- How long a fade takes: the last decorator that says so counts. -/
def transition (style : Style α) : Duration :=
  (style.decorators.filterMap animationOf?).getLast?.getD defaultTransition

def isSelected (selected : Option Item) (item : Item) : Bool :=
  selected.any item.isSameTab

def metrics [Scalar α] (style : Style α) : Metrics α := .ofKind style.base

def layout [Scalar α] (style : Style α) (items : List Item) (selected : Option Item)
    (visibility : Visibility) : StripLayout α :=
  { metrics := style.metrics
    entries := items.map fun item => ⟨item, isSelected selected item⟩
    decorators := style.decorators
    visibility }

end Style

namespace StripLayout

variable {α : Type}

def isEmpty (layout : StripLayout α) : Bool := layout.entries.isEmpty

/-- The item of the first entry that is marked as selected. -/
def selected? (layout : StripLayout α) : Option Item :=
  (layout.entries.find? (·.isSelected)).map (·.item)

end StripLayout

end TabNavigator
