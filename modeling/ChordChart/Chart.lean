/-
  File:      ChordChart/Chart.lean
  Subject:   The operations on a line of a chord chart, as strings.

  This is what a program that uses the library calls.  Each operation is
  the one on characters, wrapped in strings.
-/
import ChordChart.Line.Spans
import ChordChart.Transposition

namespace ChordChart.Chart

/-- The chords of a line with their places. -/
def chords (line : String) : List Span := Line.spans line.toList

/-- Whether a line has a chord at all. -/
def hasChords (line : String) : Bool := Line.hasChords line.toList

/-- The line after a transposition, unchanged if it cannot be carried out. -/
def transpose (t : Transposition) (line : String) : Logged String :=
  String.ofList <$> t.apply line.toList

/-- The line after a transposition, or why it cannot be carried out. -/
def transpose? (t : Transposition) (line : String) : Except Failure (Logged String) :=
  (t.attempt line.toList).map fun moved => String.ofList <$> moved

/-- The lines that arise when transpositions are applied in turn, none of which fails. -/
def session (ts : List Transposition) (line : String) : Logged (List String) :=
  List.map String.ofList <$> Transposition.session line.toList ts

/-- Makes the library ready, which the journal notes. -/
def start : Logged Unit := ⟨(), [.started]⟩

end ChordChart.Chart
