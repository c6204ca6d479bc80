import TabNavigator.Text.Ranges

/-!
# Lines and width of a drawn text

A line ends with a line feed or a carriage return, or with both, in either order.
What is drawn are lines, and no longer says in which way they ended: between two of
them stands one line feed.

All other characters take room beside each other, except those that only say
something about their neighbours and the marks that stand above or below them. A
text without any other character is drawn, if at all, with no width.
-/

namespace TabNavigator.Text

/-- A text with a line feed for every line end. -/
def unifyLineEnds : List Char → List Char
  | [] => []
  | '\r' :: '\n' :: rest => '\n' :: unifyLineEnds rest
  | '\n' :: '\r' :: rest => '\n' :: unifyLineEnds rest
  | '\r' :: rest => '\n' :: unifyLineEnds rest
  | c :: rest => c :: unifyLineEnds rest

/-- Closed ranges of the code points that take no room of their own. -/
def widthlessRanges : List (Nat × Nat) := [
    (0x00AD, 0x00AD), (0x0300, 0x036F), (0x061C, 0x061C), (0x17B4, 0x17B5),
    (0x180B, 0x180F), (0x200B, 0x200F), (0x202A, 0x202E), (0x2060, 0x206F),
    (0xFE00, 0xFE0F), (0xFEFF, 0xFEFF), (0xFFF0, 0xFFF8), (0x1D173, 0x1D17A),
    (0xE0000, 0xE0FFF)]

/-- Whether a character is a line end or takes no room in its line. -/
def isWidthless (c : Char) : Bool :=
  c = '\n' || c = '\r' || inRanges widthlessRanges c

/-- The lines of a text as they are drawn. -/
def drawnLines (s : String) : String :=
  String.ofList (unifyLineEnds s.toList)

/-- Whether one of the lines of a text has a width. -/
def hasWidth (s : String) : Bool :=
  s.toList.any fun c => !isWidthless c

end TabNavigator.Text
