/-
  File:      ChordChart/Pitch/Spelling.lean
  Subject:   Two names for each pitch class, one with sharps and one with flats.

  Every note written by this library comes from one of the two scales
  below, so it carries at most one accidental.  A note that is in neither
  of them (`Cb`, `Fb`, `E#`, `B#`) is not canonical and has no pitch class
  here, although it sounds like one.
-/
import ChordChart.Pitch.Class

namespace ChordChart

/-- Whether the black keys are written with sharps or with flats. -/
inductive Preference where
  | sharp | flat
  deriving DecidableEq, Repr

/-- Sharps, where nothing speaks for flats. -/
instance : Inhabited Preference := ⟨.sharp⟩

/-- The preference that a note's own accidental shows: flat for a flat, otherwise sharp. -/
def Accidental.preference : Accidental → Preference
  | .flat => .flat
  | .natural | .sharp => .sharp

namespace PitchClass

/-- The name of a pitch class in the scale with sharps. -/
def sharpName (p : PitchClass) : Note :=
  match p.index with
  | 0 => ⟨.c, .natural⟩
  | 1 => ⟨.c, .sharp⟩
  | 2 => ⟨.d, .natural⟩
  | 3 => ⟨.d, .sharp⟩
  | 4 => ⟨.e, .natural⟩
  | 5 => ⟨.f, .natural⟩
  | 6 => ⟨.f, .sharp⟩
  | 7 => ⟨.g, .natural⟩
  | 8 => ⟨.g, .sharp⟩
  | 9 => ⟨.a, .natural⟩
  | 10 => ⟨.a, .sharp⟩
  | 11 => ⟨.b, .natural⟩

/-- The name of a pitch class in the scale with flats. -/
def flatName (p : PitchClass) : Note :=
  match p.index with
  | 0 => ⟨.c, .natural⟩
  | 1 => ⟨.d, .flat⟩
  | 2 => ⟨.d, .natural⟩
  | 3 => ⟨.e, .flat⟩
  | 4 => ⟨.e, .natural⟩
  | 5 => ⟨.f, .natural⟩
  | 6 => ⟨.g, .flat⟩
  | 7 => ⟨.g, .natural⟩
  | 8 => ⟨.a, .flat⟩
  | 9 => ⟨.a, .natural⟩
  | 10 => ⟨.b, .flat⟩
  | 11 => ⟨.b, .natural⟩

/-- A white key: both scales give it the same name. -/
def isNatural (p : PitchClass) : Bool := p.sharpName == p.flatName

/-- The name of a pitch class under a preference. -/
def spelled (p : PitchClass) : Preference → Note
  | .sharp => p.sharpName
  | .flat => p.flatName

/-- All pitch classes, upwards from C. -/
def all : List PitchClass := (List.finRange 12).map PitchClass.mk

end PitchClass

/-- The pitch class of a canonical note, `none` for a note that neither scale holds. -/
def Note.pitchClass? (n : Note) : Option PitchClass :=
  PitchClass.all.find? fun p => p.sharpName == n || p.flatName == n

end ChordChart
