/-
  File:      ChordChart/Line/Spans.lean
  Subject:   Where the chords of a line stand.

  A span gives the text of a chord with its place in the line, counted in
  UTF-8 bytes.
-/
import ChordChart.Line.Pieces
import ChordChart.Text.Size

namespace ChordChart

/-- A chord's text with its place in a line, in bytes. -/
structure Span where
  text : String
  offset : Nat
  length : Nat
  deriving DecidableEq, Repr

/-- The place right behind a span. -/
def Span.stop (s : Span) : Nat := s.offset + s.length

/-- The span of a text that stands at a place. -/
def Span.ofText (text : List Char) (offset : Nat) : Span :=
  ⟨String.ofList text, offset, Text.byteSize text⟩

namespace Line

/-- The spans of the chords among pieces of which the first stands at `offset`. -/
def spansFrom (offset : Nat) : List Piece → List Span
  | [] => []
  | .copied copy :: rest => spansFrom (offset + Text.byteSize copy) rest
  | .chord symbol :: rest =>
    Span.ofText symbol.text offset :: spansFrom (offset + Text.byteSize symbol.text) rest

/-- The chords of a line with their places. -/
def spans (line : List Char) : List Span := spansFrom 0 (pieces line)

/-- The chords of a line. -/
def chords (line : List Char) : List Chord :=
  (pieces line).filterMap Piece.chord?

/-- Whether a line has a chord at all. -/
def hasChords (line : List Char) : Bool := !(chords line).isEmpty

end Line

end ChordChart
