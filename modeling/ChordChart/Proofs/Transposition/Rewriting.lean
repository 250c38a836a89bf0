/-
  File:      ChordChart/Proofs/Transposition/Rewriting.lean
  Subject:   Transposing a line is replacing the roots of its chords.

  A chord is written as text, split and put together again.  What this does is said once here:

  * `Token.value_transposed`: a written chord after a move is the chord with its roots moved.
  * `Line.value_transposed`: a line after a move is the line with its roots moved.
-/
import ChordChart.Transposition.Line
import ChordChart.Proofs.Chord.Splitting
import ChordChart.Proofs.Line.Replacement
import ChordChart.Proofs.Pitch.Moving
import Mathlib.Data.List.Basic

namespace ChordChart

/-! ## 1. Moving chords -/

theorem Part.value_transposed (m : Move) (p : Part) :
    (p.transposed m).value = p.mapRoot (Note.moved m) := by
  cases h : p.root.transposed? m <;>
    simp [Part.transposed, Part.transposed?, h, mapRoot, Note.moved]

/-- A chord that can be moved has its roots moved; where it cannot, no root would move. -/
theorem Chord.transposed?_cases (m : Move) (c : Chord) :
    (∃ moved, c.transposed? m = .ok moved ∧ moved.value = c.mapRoots (Note.moved m)) ∨
    (∃ cause, c.transposed? m = .error cause ∧ c.mapRoots (Note.moved m) = c) := by
  obtain ⟨main, bass⟩ := c
  cases bass with
  | none =>
    cases hm : main.root.transposed? m with
    | none =>
      have hroot : main.root.moved m = main.root := by rw [Note.moved, hm]; rfl
      refine Or.inr ⟨.foreignRoot main.text, ?_, ?_⟩
      · simp only [Chord.transposed?, Part.transposed?, hm, Except.map]
      · simp only [Chord.mapRoots, Part.mapRoot, hroot, Option.map_none]
    | some root =>
      have hroot : main.root.moved m = root := by rw [Note.moved, hm]; rfl
      refine Or.inl ⟨_, by simp only [Chord.transposed?, Part.transposed?, hm, Except.map]; rfl, ?_⟩
      simp only [Chord.mapRoots, Part.mapRoot, hroot, Option.map_none, Logged.value_map]
  | some bass =>
    refine Or.inl ⟨_, rfl, ?_⟩
    simp only [Logged.value_bind, Logged.value_pure, Part.value_transposed, Part.mapRoot,
      Chord.mapRoots, Option.map_some]

/-- **A written chord after a move is the chord with its roots moved**, whichever of its parts
    cannot be moved. -/
theorem Token.value_transposed (m : Move) {token : List Char} {c : Chord}
    (h : Chord.split? token = some c) :
    (Token.transposed m token).value = (c.mapRoots (Note.moved m)).text := by
  rcases c.transposed?_cases m with ⟨moved, hok, hvalue⟩ | ⟨cause, herror, hsame⟩
  · have htoken : Token.transposed? m token = .ok (Chord.text <$> moved) := by
      simp only [Token.transposed?, h, hok, Except.map]
    rw [Token.transposed, htoken, ← hvalue]
    exact Logged.value_map Chord.text moved
  · have htoken : Token.transposed? m token = .error cause := by
      simp only [Token.transposed?, h, herror, Except.map]
    rw [Token.transposed, htoken, hsame]
    exact (Chord.text_of_split? h).symm

/-! ## 2. Moving lines -/

theorem Line.split?_text_of_mem {line : List Char} {c : Chord} (h : c ∈ Line.chords line) :
    Chord.split? c.text = some c := by
  obtain ⟨behind, ho⟩ := Line.mem_chords_iff.mp h
  exact Chord.split?_text_of_read? (Line.read?_of_mem_occurrences ho).1

/-- **A transposed line is the line with every root moved.** -/
theorem Line.value_transposed (m : Move) (line : List Char) :
    (Line.transposed m line).value = Line.withRoots (Note.moved m) line := by
  rw [Line.transposed, Logged.value_flatMap, Line.withRoots, List.flatMap_map]
  refine List.flatMap_congr fun piece hpiece => ?_
  cases piece with
  | copied copy => rfl
  | chord symbol =>
    exact Token.value_transposed m (Line.split?_text_of_mem (Line.mem_chords_of_mem_pieces hpiece))

end ChordChart
