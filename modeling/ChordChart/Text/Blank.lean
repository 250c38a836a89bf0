/-
  File:      ChordChart/Text/Blank.lean
  Subject:   Blank characters and trimming.

  Names typed by a user are trimmed at both ends of every character with
  the Unicode property White_Space.
-/
import ChordChart.Text.CodeRange

namespace ChordChart.Text

/-- The ranges of the property White_Space. -/
def blankRanges : List CodeRange :=
  [⟨0x9, 0xD⟩, ⟨0x20, 0x20⟩, ⟨0x85, 0x85⟩, ⟨0xA0, 0xA0⟩, ⟨0x1680, 0x1680⟩, ⟨0x2000, 0x200A⟩,
    ⟨0x2028, 0x2029⟩, ⟨0x202F, 0x202F⟩, ⟨0x205F, 0x205F⟩, ⟨0x3000, 0x3000⟩]

/-- A space, tab, line break or other blank. -/
def isBlank (c : Char) : Bool := CodeRange.covers blankRanges c.toNat

/-- The text without the blanks at its two ends. -/
def trimmed (text : List Char) : List Char :=
  ((text.dropWhile isBlank).reverse.dropWhile isBlank).reverse

end ChordChart.Text
