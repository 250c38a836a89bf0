/-
  File:      ChordChart/Transposition/Line.lean
  Subject:   Transposing the chords of a line.

  Each chord is rewritten where it stands and everything between the
  chords is copied, so lyrics, bar lines and spacing survive.
-/
import ChordChart.Line.Pieces
import ChordChart.Transposition.Token

namespace ChordChart

/-- A piece after a move: only chords change. -/
def Piece.transposed (m : Move) : Piece → Logged (List Char)
  | .copied copy => pure copy
  | .chord symbol => Token.transposed m symbol.text

/-- A line after a move. -/
def Line.transposed (m : Move) (line : List Char) : Logged (List Char) :=
  Logged.flatMap (Piece.transposed m) (Line.pieces line)

end ChordChart
