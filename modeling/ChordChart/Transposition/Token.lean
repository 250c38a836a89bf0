/-
  File:      ChordChart/Transposition/Token.lean
  Subject:   Transposing one chord.

  Of a plain chord only the root is rewritten; it fails if the root is not
  canonical.  A chord with a bass does not fail: its main part and its
  bare bass root are moved one after the other, and each stays as it is if
  it cannot be moved.  Texts that no reader has checked are split first.
-/
import ChordChart.Chord.Split
import ChordChart.Journal.Logged
import ChordChart.Transposition.Move

namespace ChordChart

/-! ## 1. Parts -/

/-- The part with its root moved. -/
def Part.transposed? (m : Move) (part : Part) : Except Failure (Logged Part) :=
  match part.root.transposed? m with
  | none => .error (.foreignRoot part.text)
  | some root =>
    let moved : Part := ⟨root, part.quality⟩
    .ok ⟨moved, [.respelled part.text m.steps moved.text]⟩

/-- The part with its root moved, or as it was if that fails. -/
def Part.transposed (m : Move) (part : Part) : Logged Part :=
  match part.transposed? m with
  | .ok moved => moved
  | .error cause => ⟨part, [.tokenKept cause]⟩

/-! ## 2. Chords -/

/-- The chord with its roots moved. -/
def Chord.transposed? (m : Move) (chord : Chord) : Except Failure (Logged Chord) :=
  match chord.bass with
  | none => (chord.main.transposed? m).map fun moved => (⟨·, none⟩) <$> moved
  | some bass => .ok do
    let main ← chord.main.transposed m
    let bare ← Part.transposed m ⟨bass.root, []⟩
    return ⟨main, some ⟨bare.root, bass.quality⟩⟩

/-! ## 3. Any text -/

/-- The text of a chord with its roots moved. -/
def Token.transposed? (m : Move) (token : List Char) : Except Failure (Logged (List Char)) :=
  match Chord.split? token with
  | none => .error (.notAChord token)
  | some chord => (chord.transposed? m).map fun moved => Chord.text <$> moved

/-- The text of a chord with its roots moved, or the text itself if that fails. -/
def Token.transposed (m : Move) (token : List Char) : Logged (List Char) :=
  match Token.transposed? m token with
  | .ok moved => moved
  | .error cause => ⟨token, [.tokenKept cause]⟩

end ChordChart
