/-
  File:      ChordChart/Pitch/Interval.lean
  Subject:   The named intervals from unison to octave.

  A name is accepted in any case and with blanks around it.  Lower-casing
  is that of the whole of Unicode, then the name has to agree exactly.
-/
import ChordChart.Pitch.Steps
import ChordChart.Text.Blank
import ChordChart.Text.Lowercase

namespace ChordChart

/-- An interval of the octave by its name. -/
inductive Interval where
  | unison | minorSecond | majorSecond | minorThird | majorThird | perfectFourth | tritone
  | perfectFifth | minorSixth | majorSixth | minorSeventh | majorSeventh | octave
  deriving DecidableEq, Repr

namespace Interval

/-- All intervals, from the smallest to the largest. -/
def all : List Interval :=
  [.unison, .minorSecond, .majorSecond, .minorThird, .majorThird, .perfectFourth, .tritone,
    .perfectFifth, .minorSixth, .majorSixth, .minorSeventh, .majorSeventh, .octave]

/-- The size of an interval, `0 .. 12`. -/
def steps : Interval → Steps
  | .unison => 0
  | .minorSecond => 1
  | .majorSecond => 2
  | .minorThird => 3
  | .majorThird => 4
  | .perfectFourth => 5
  | .tritone => 6
  | .perfectFifth => 7
  | .minorSixth => 8
  | .majorSixth => 9
  | .minorSeventh => 10
  | .majorSeventh => 11
  | .octave => 12

/-- The written name of an interval. -/
def name : Interval → String
  | .unison => "unison"
  | .minorSecond => "minor2nd"
  | .majorSecond => "major2nd"
  | .minorThird => "minor3rd"
  | .majorThird => "major3rd"
  | .perfectFourth => "perfect4th"
  | .tritone => "tritone"
  | .perfectFifth => "perfect5th"
  | .minorSixth => "minor6th"
  | .majorSixth => "major6th"
  | .minorSeventh => "minor7th"
  | .majorSeventh => "major7th"
  | .octave => "octave"

/-- The interval that a user's text names, blanks at the ends and case aside. -/
def ofName? (text : String) : Option Interval :=
  let lowered := Text.lowercase (Text.trimmed text.toList)
  all.find? fun interval => interval.name.toList == lowered

end Interval

end ChordChart
