/-
  File:      ChordChart/Proofs/Line/Completeness.lean
  Subject:   No chord is missed.

  A text of the chord grammar that stands by itself in a line is one of the chords of the line,
  whatever stands before it: other chords, candidates that are passed over and end right before
  it (`F#` in `F#C`), or text in any script.

  * **`Line.span_mem_of_matches`**: the chord is found, with its text and its place.
-/
import ChordChart.Proofs.Line.Boundary
import ChordChart.Proofs.Line.Places

namespace ChordChart

namespace Line

theorem wordAfter_of_last {front : List Char}
    (h : ∀ x ∈ front.getLast?, Text.isWordChar x = false) : wordAfter false front = false :=
  wordAfter_eq_false_iff.mpr h

theorem exists_letter_of_matches {s : List Char} (h : Grammar.chord.Matches s) :
    ∃ x tail, s = x :: tail ∧ (Letter.ofChar? x).isSome := by
  obtain ⟨c, after, hread, -⟩ := Chord.exists_read?_of_matches h []
  rw [List.append_nil] at hread
  cases s with
  | nil => cases hread
  | cons x tail =>
    refine ⟨x, tail, rfl, ?_⟩
    cases hx : Letter.ofChar? x with
    | none =>
      rw [Chord.read?_eq_none_iff.mpr hx] at hread
      cases hread
    | some letter => rfl

/-- **No chord is missed**: a text of the grammar is found with its place, if no word and no slash
    leads up to it and no word, sharp or slash follows it. -/
theorem span_mem_of_matches {front chord back : List Char} (hchord : Grammar.chord.Matches chord)
    (hfront : ∀ x ∈ front.getLast?, Text.isWordChar x = false ∧ x ≠ '/')
    (hback : ∀ x ∈ back.head?, Text.isAlphanumeric x = false ∧ x ≠ '_' ∧ x ≠ '#' ∧ x ≠ '/') :
    Span.ofText chord (Text.byteSize front) ∈ spans (front ++ chord ++ back) := by
  obtain ⟨c, hread, rfl⟩ := Chord.read?_of_matches hchord fun x hx =>
    Grammar.admits_eq_false (hback x hx).1 (hback x hx).2.2.1 (hback x hx).2.2.2
  have hruns : runsOn back = false := by
    cases back with
    | nil => rfl
    | cons x back =>
      obtain ⟨halpha, hunderscore, -, -⟩ := hback x rfl
      simp [runsOn, halpha, hunderscore]
  have hapart : Apart front (c.text ++ back) := by
    obtain ⟨x, tail, htext, hx⟩ := exists_letter_of_matches hchord
    rw [htext]
    exact apart_of_letter hx fun hlast => (hfront '/' hlast).2 rfl
  obtain ⟨ps, hcut, htext, -⟩ := cut_append false hapart
  rw [wordAfter_of_last fun x hx => (hfront x hx).1, cut_of_read? hread, hruns] at hcut
  rw [List.append_assoc, spans, pieces, hcut, spansFrom_append, htext, Nat.zero_add]
  exact List.mem_append_right _ List.mem_cons_self

/-- `Bbmaj7sus4add9b5#11/F#m`, a chord with every group of the grammar. -/
def richChord : Chord :=
  ⟨⟨⟨.b, .flat⟩, "maj7sus4add9b5#11".toList⟩, some ⟨⟨.f, .sharp⟩, ['m']⟩⟩

/-- It is found behind a candidate that is passed over, and before a mark of another script. -/
theorem span_mem_of_matches_richChord :
    Grammar.chord.Matches richChord.text ∧
    (∀ x ∈ "♪ Bridge: C/F#".toList.getLast?, Text.isWordChar x = false ∧ x ≠ '/') ∧
    (∀ x ∈ "、é".toList.head?, Text.isAlphanumeric x = false ∧ x ≠ '_' ∧ x ≠ '#' ∧ x ≠ '/') ∧
    Span.ofText richChord.text (Text.byteSize "♪ Bridge: C/F#".toList)
      ∈ spans ("♪ Bridge: C/F#".toList ++ richChord.text ++ "、é".toList) :=
  have hread : Chord.read? richChord.text = some (richChord, []) := by decide +kernel
  have hfront : ∀ x ∈ "♪ Bridge: C/F#".toList.getLast?, Text.isWordChar x = false ∧ x ≠ '/' := by
    intro x hx
    have hlast : "♪ Bridge: C/F#".toList.getLast? = some '#' := by decide
    rw [hlast] at hx
    cases hx
    decide
  have hback : ∀ x ∈ "、é".toList.head?,
      Text.isAlphanumeric x = false ∧ x ≠ '_' ∧ x ≠ '#' ∧ x ≠ '/' := by
    intro x hx
    have hhead : "、é".toList.head? = some '、' := by decide
    rw [hhead] at hx
    cases hx
    decide +kernel
  have hchord := Chord.matches_of_read? hread
  ⟨hchord, hfront, hback, span_mem_of_matches hchord hfront hback⟩

end Line

end ChordChart
