/-
  File:      ChordChart/Line/Pieces.lean
  Subject:   Cutting a line into chords and the text between them.

  The line is read from left to right.  Where no word is going on, the
  longest chord is taken; it counts only if no letter, number or
  underscore stands right behind it, and otherwise the whole of it is
  passed over (`Bridge` holds no `B`).  Everything else goes character by
  character.  The pieces put together again are the line.
-/
import ChordChart.Chord.Reader
import ChordChart.Text.Word

namespace ChordChart

/-- A stretch of a line. -/
inductive Piece where
  /-- Text that is no chord. -/
  | copied (copy : List Char)
  /-- A chord that stands by itself. -/
  | chord (symbol : Chord)
  deriving DecidableEq, Repr

/-- A piece as it stands in the line. -/
def Piece.text : Piece → List Char
  | .copied copy => copy
  | .chord symbol => symbol.text

/-- The chord of a piece that is one. -/
def Piece.chord? : Piece → Option Chord
  | .copied _ => none
  | .chord symbol => some symbol

namespace Line

/-- Whether a word goes on at the head of the text. -/
def runsOn : List Char → Bool
  | [] => false
  | c :: _ => Text.isAlphanumeric c || c == '_'

/-- Whether the text ends inside a word. -/
def endsInWord (text : List Char) : Bool := text.getLast?.any Text.isWordChar

/-- The pieces of a text; `inWord` tells whether a word leads up to it. -/
def cut (inWord : Bool) (text : List Char) : List Piece :=
  match text with
  | [] => []
  | c :: rest =>
    if inWord then .copied [c] :: cut (Text.isWordChar c) rest
    else
      match h : Chord.read? (c :: rest) with
      | none => .copied [c] :: cut (Text.isWordChar c) rest
      | some (chord, after) =>
        have : after.length < rest.length + 1 := Chord.length_lt_of_read? h
        (if runsOn after then .copied chord.text else .chord chord)
          :: cut (endsInWord chord.text) after
termination_by text.length

/-- The pieces of a line. -/
def pieces (line : List Char) : List Piece := cut false line

/-- The pieces put together again are the text. -/
theorem flatMap_text_cut (inWord : Bool) (text : List Char) :
    (cut inWord text).flatMap Piece.text = text := by
  fun_induction cut inWord text with
  | case1 => rfl
  | case2 c rest ih => simp [Piece.text, ih]
  | case3 _ c rest _ h ih => simp [Piece.text, ih]
  | case4 _ c rest _ chord after h _ ih =>
    rw [List.flatMap_cons, ih, ← Chord.text_append_of_read? h]
    split <;> rfl

/-- The pieces of a line put together again are the line. -/
theorem flatMap_text_pieces (line : List Char) : (pieces line).flatMap Piece.text = line :=
  flatMap_text_cut false line

end Line

end ChordChart
