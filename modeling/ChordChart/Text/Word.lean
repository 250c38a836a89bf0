/-
  File:      ChordChart/Text/Word.lean
  Subject:   Word characters, in the two senses that bound a chord.

  A chord may begin only where no word is going on, and it counts only if
  no word goes on behind it.  The two sides use different classes.  In
  front, a word character is alphabetic, a mark, a decimal digit, a
  connector such as the underscore, or a joiner.  Behind, what goes on is
  alphabetic or a number of any kind; marks do not count there.
-/
import ChordChart.Text.Alphabetic
import ChordChart.Text.Mark
import ChordChart.Text.Number

namespace ChordChart.Text

/-- The ranges of the general category Connector Punctuation. -/
def connectorRanges : List CodeRange :=
  [⟨0x5F, 0x5F⟩, ⟨0x203F, 0x2040⟩, ⟨0x2054, 0x2054⟩, ⟨0xFE33, 0xFE34⟩, ⟨0xFE4D, 0xFE4F⟩,
    ⟨0xFF3F, 0xFF3F⟩]

/-- Punctuation that joins two words into one. -/
def isConnector (c : Char) : Bool := CodeRange.covers connectorRanges c.toNat

/-- The zero-width joiner and non-joiner. -/
def isJoinControl (c : Char) : Bool := c == '\u200C' || c == '\u200D'

/-- A character that belongs to a word when looking back. -/
def isWordChar (c : Char) : Bool :=
  isAlphabetic c || isMark c || isDecimalDigit c || isConnector c || isJoinControl c

/-- A letter or a number of any kind. -/
def isAlphanumeric (c : Char) : Bool :=
  isAlphabetic c || isDecimalDigit c || isOtherNumber c

end ChordChart.Text
