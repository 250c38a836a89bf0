/-
  File:      ChordChart/Chord/Split.lean
  Subject:   Taking any text for a chord.

  Where the reader stops at the first character that no chord continues
  with, a split takes the whole text: it asks for a root at the start and
  leaves the rest as quality.  The first slash divides the text if a root
  stands right behind it; then what follows that root belongs to the bass.
-/
import ChordChart.Chord.Basic

namespace ChordChart.Chord

/-- The text before the first slash, and the text behind it if there is one. -/
def atSlash : List Char → List Char × Option (List Char)
  | [] => ([], none)
  | c :: rest =>
    if c = '/' then ([], some rest)
    else (c :: (atSlash rest).1, (atSlash rest).2)

/-- The whole text as a chord, `none` if it does not start with a root letter. -/
def split? (text : List Char) : Option Chord :=
  (Note.read? text).map fun (root, rest) =>
    let (quality, behind) := atSlash rest
    match behind.bind Note.read? with
    | some (bass, after) => ⟨⟨root, quality⟩, some ⟨bass, after⟩⟩
    | none => ⟨⟨root, rest⟩, none⟩

theorem atSlash_none {text : List Char} (h : (atSlash text).2 = none) :
    (atSlash text).1 = text := by
  fun_induction atSlash text <;> simp_all

theorem atSlash_some {text rest : List Char} (h : (atSlash text).2 = some rest) :
    (atSlash text).1 ++ '/' :: rest = text := by
  fun_induction atSlash text <;> simp_all

/-- Splitting loses nothing. -/
theorem text_of_split? {text : List Char} {chord : Chord}
    (h : split? text = some chord) : chord.text = text := by
  obtain ⟨⟨root, rest⟩, hroot, heq⟩ := Option.map_eq_some_iff.mp h
  rw [← Note.text_append_of_read? hroot]
  dsimp only at heq
  split at heq
  · next bass after hbass =>
    obtain ⟨tail, htail, hread⟩ := Option.bind_eq_some_iff.mp hbass
    have hrest : (atSlash rest).1 ++ '/' :: (bass.text ++ after) = rest := by
      rw [Note.text_append_of_read? hread, atSlash_some htail]
    rw [← heq, ← hrest]
    simp [Chord.text, Part.text, hrest]
  · rw [← heq]
    rfl

end ChordChart.Chord
