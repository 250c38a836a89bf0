/-
  File:      ChordChart/Text/Size.lean
  Subject:   The size of a text in UTF-8 bytes.

  Positions in a line are counted in bytes, so that an editor can cut the
  encoded line at them.
-/

namespace ChordChart.Text

/-- How many bytes the text takes when written in UTF-8. -/
def byteSize : List Char → Nat
  | [] => 0
  | c :: rest => c.utf8Size + byteSize rest

@[simp]
theorem byteSize_append (s t : List Char) : byteSize (s ++ t) = byteSize s + byteSize t := by
  induction s with
  | nil => simp [byteSize]
  | cons c s ih => simp [byteSize, ih, Nat.add_assoc]

end ChordChart.Text
