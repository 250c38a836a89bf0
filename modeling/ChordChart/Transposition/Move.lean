/-
  File:      ChordChart/Transposition/Move.lean
  Subject:   Moving a single note.

  A moved note is always spelled anew from the scales, never by adding a
  sign to its old name.  With a target key the key decides between sharps
  and flats; without one the note's own sign does.
-/
import ChordChart.Key.Basic

namespace ChordChart

/-- How far notes go, and the key they arrive in if one is known. -/
structure Move where
  steps : Steps
  target : Option Key
  deriving DecidableEq, Repr

/-- The accidentals in which a moved note is written. -/
def Move.preference (m : Move) (n : Note) : Preference :=
  match m.target with
  | some key => key.preference
  | none => n.accidental.preference

/-- The moved note, `none` for a note that is not canonical. -/
def Note.transposed? (m : Move) (n : Note) : Option Note :=
  n.pitchClass?.map fun p => (p.shift m.steps).spelled (m.preference n)

end ChordChart
