/-
  File:      ChordChart/Pitch/Class.lean
  Subject:   Pitch classes: the twelve semitones of the octave.

  A pitch class forgets the octave, so arithmetic on it is arithmetic
  modulo twelve.  A sum is taken only after the distance is reduced, hence
  no intermediate result leaves the 32-bit word.
-/
import ChordChart.Pitch.Note
import ChordChart.Pitch.Steps

namespace ChordChart

/-- A semitone of the octave, counted upwards from C. -/
structure PitchClass where
  index : Fin 12
  deriving DecidableEq, Repr

namespace PitchClass

/-- The pitch class a distance above C. -/
def above (n : Steps) : PitchClass := ⟨Fin.ofNat 12 n.inOctave.toInt.toNat⟩

/-- The distance of a pitch class above the C below it. -/
def steps (p : PitchClass) : Steps := Int32.ofNat p.index.val

/-- The pitch class a distance away from another. -/
def shift (p : PitchClass) (n : Steps) : PitchClass := above (p.steps + n.inOctave)

theorem index_above (n : Steps) : ((above n).index.val : Int) = n.toInt % 12 := by
  simp only [above, Fin.val_ofNat, Steps.toInt_inOctave]
  omega

theorem toInt_steps (p : PitchClass) : p.steps.toInt = p.index.val := by
  have := p.index.isLt
  rw [steps, Int32.toInt_ofNat_of_lt]
  omega

/-- A pitch class is raised by a distance in the octave inside the word. -/
theorem toInt_steps_add (p : PitchClass) (n : Steps) :
    (p.steps + n.inOctave).toInt = p.index.val + n.toInt % 12 := by
  have := p.index.isLt
  rw [Int32.toInt_add, toInt_steps, Steps.toInt_inOctave, Int.bmod_eq_of_le] <;> omega

/-- Shifting is addition modulo twelve of unbounded integers. -/
theorem index_shift (p : PitchClass) (n : Steps) :
    ((p.shift n).index.val : Int) = (p.index.val + n.toInt) % 12 := by
  rw [shift, index_above, toInt_steps_add, Int.add_emod_emod]

end PitchClass

/-- The pitch class of a letter without accidental. -/
def Letter.pitchClass : Letter → PitchClass
  | .c => ⟨0⟩
  | .d => ⟨2⟩
  | .e => ⟨4⟩
  | .f => ⟨5⟩
  | .g => ⟨7⟩
  | .a => ⟨9⟩
  | .b => ⟨11⟩

/-- The distance by which an accidental moves a letter. -/
def Accidental.steps : Accidental → Steps
  | .natural => 0
  | .sharp => 1
  | .flat => -1

/-- The pitch class that a note sounds, however it is spelled. -/
def Note.sounding (n : Note) : PitchClass := n.letter.pitchClass.shift n.accidental.steps

end ChordChart
