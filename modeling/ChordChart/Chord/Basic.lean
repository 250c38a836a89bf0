/-
  File:      ChordChart/Chord/Basic.lean
  Subject:   Chord symbols: a root with its quality, and an optional bass.

  The quality is whatever is written behind the root.  It is never
  interpreted, only copied, so it is kept as text.
-/
import ChordChart.Pitch.Note

namespace ChordChart

/-- A root with the text behind it, such as `C#` with `m7b5`. -/
structure Part where
  root : Note
  quality : List Char
  deriving DecidableEq, Repr

/-- A part as it is written. -/
def Part.text (p : Part) : List Char := p.root.text ++ p.quality

/-- A chord symbol, such as `Am7` or `D/F#`. -/
structure Chord where
  main : Part
  bass : Option Part
  deriving DecidableEq, Repr

/-- A chord as it is written; a slash stands before the bass. -/
def Chord.text (c : Chord) : List Char :=
  match c.bass with
  | none => c.main.text
  | some bass => c.main.text ++ '/' :: bass.text

end ChordChart
