import TabNavigator.Color

/-!
# Palettes

A palette names the colours of the strip, the search field and the pages. When the
strip fades, its own colours fade with it and the colours of the pages stay.
-/

namespace TabNavigator

/-- The colours that a navigator is painted with. -/
structure Palette (α : Type) where
  background : Color α
  material : Color α
  separator : Color α
  border : Color α
  shadow : Color α
  accent : Color α
  inactive : Color α
  pill : Color α
  contentBackground : Color α
  foreground : Color α
  dimForeground : Color α
  field : Color α

namespace Palette

variable {α : Type} [Scalar α]

open Color Scalar

def light : Palette α where
  background := rgb 0xF9 0xF9 0xF9
  material := rgba 0xF2 0xF2 0xF7 (ratio 85 100)
  separator := rgb 0xC6 0xC6 0xC8
  border := rgba 0x3C 0x3C 0x43 (ratio 18 100)
  shadow := rgba 0x00 0x00 0x00 (ratio 10 100)
  accent := rgb 0x00 0x7A 0xFF
  inactive := rgb 0x8E 0x8E 0x93
  pill := rgba 0x00 0x7A 0xFF (ratio 12 100)
  contentBackground := white
  foreground := rgb 0x1C 0x1C 0x1E
  dimForeground := rgb 0x6B 0x72 0x80
  field := rgb 0xE5 0xE5 0xEA

def dark : Palette α where
  background := rgb 0x16 0x18 0x22
  material := rgba 0x23 0x25 0x30 (ratio 85 100)
  separator := rgb 0x2C 0x2F 0x3A
  border := rgba 0xC0 0xC5 0xCE (ratio 18 100)
  shadow := rgba 0x00 0x00 0x00 (ratio 40 100)
  accent := rgb 0x4F 0xA6 0xED
  inactive := rgb 0x6B 0x72 0x80
  pill := rgba 0x4F 0xA6 0xED (ratio 20 100)
  contentBackground := rgb 0x0F 0x11 0x15
  foreground := rgb 0xC0 0xC5 0xCE
  dimForeground := rgb 0x6C 0x73 0x85
  field := rgb 0x23 0x25 0x30

def ofDarkMode (darkMode : Bool) : Palette α :=
  if darkMode then dark else light

/-- The palette of a strip that is drawn at an opacity. -/
def faded (palette : Palette α) (opacity : α) : Palette α :=
  let opacity := toUnit opacity
  { palette with
    background := palette.background.scaled opacity
    material := palette.material.scaled opacity
    separator := palette.separator.scaled opacity
    border := palette.border.scaled opacity
    shadow := palette.shadow.scaled opacity
    accent := palette.accent.scaled opacity
    inactive := palette.inactive.scaled opacity
    pill := palette.pill.scaled opacity
    field := palette.field.scaled opacity }

end Palette

end TabNavigator
