/-
  File:      ChordChart/Key/Basic.lean
  Subject:   Keys: a tonic with a mode, and the accidentals a key prefers.

  The preference is that of the key signature.  A key without a usual
  signature (the majors on `D#`, `G#`, `A#` and the minors on `Db`, `Gb`,
  `Cb`) prefers sharps.
-/
import ChordChart.Key.Tonic
import ChordChart.Pitch.Spelling

namespace ChordChart

/-- The two modes of a key. -/
inductive Mode where
  | major | minor
  deriving DecidableEq, Repr

/-- A key, such as `Bb` major or `F#` minor. -/
structure Key where
  tonic : Tonic
  mode : Mode
  deriving DecidableEq, Repr

namespace Key

/-- The pitch class of the tonic. -/
def root (k : Key) : PitchClass := k.tonic.pitchClass

/-- The name of a key: the tonic, followed by an `m` for minor. -/
def name (k : Key) : List Char :=
  match k.mode with
  | .major => k.tonic.spelling
  | .minor => k.tonic.spelling ++ ['m']

/-- The accidentals in which a key's black keys are written. -/
def preference (k : Key) : Preference :=
  match k.mode, k.tonic with
  | .major, .f | .major, .bFlat | .major, .eFlat | .major, .aFlat | .major, .dFlat
  | .major, .gFlat | .major, .cFlat => .flat
  | .minor, .d | .minor, .g | .minor, .c | .minor, .f | .minor, .bFlat | .minor, .eFlat
  | .minor, .aFlat => .flat
  | _, _ => .sharp

/-- The distance from one key's tonic to another's, signed and not reduced: C to B is `+11`. -/
def stepsTo (source target : Key) : Steps := target.root.steps - source.root.steps

/-- Every major key, then every minor key. -/
def all : List Key := Tonic.all.map (⟨·, .major⟩) ++ Tonic.all.map (⟨·, .minor⟩)

end Key

end ChordChart
