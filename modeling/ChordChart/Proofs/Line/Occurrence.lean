/-
  File:      ChordChart/Proofs/Line/Occurrence.lean
  Subject:   Every chord that is found stands by itself in the line.

  Places are counted in bytes, and the text between two places is there only if both lie between
  characters, in this order (`Text.slice?`).

  * `Span.StandsIn`: what a span has to be a chord of its own -- its text is a slice of the line
    and a chord of the grammar, no word touches it on either side, and no longer text of the
    grammar begins at its place.
  * `Line.wordAfter_of_cut`: no word leads up to a chord, by induction on the cut.
  * `Line.text_ne_nil_of_cut`: some text stands between two chords, since the second begins with a
    letter and no word goes on behind the first.
  * **`Line.spans_stand_apart`**: the spans of a line come in order with text in between, and each
    of them stands by itself.
-/
import ChordChart.Proofs.Line.Boundary
import ChordChart.Proofs.Line.Places

namespace ChordChart

/-! ## 1. Spans that stand by themselves -/

/-- One span lies before another, with some text of the line in between. -/
structure Span.Precedes (line : List Char) (a b : Span) : Prop where
  offset : a.offset < b.offset
  separated : ∃ between, Text.slice? line a.stop b.offset = some between ∧ between ≠ []

/-- A span that is a chord of its own in a line. -/
structure Span.StandsIn (line : List Char) (s : Span) : Prop where
  length : s.length = Text.byteSize s.text.toList
  slice : Text.slice? line s.offset s.stop = some s.text.toList
  chord : Grammar.chord.Matches s.text.toList
  /-- No word leads up to it. -/
  before : ∃ front, Text.slice? line 0 s.offset = some front ∧
    ∀ x ∈ front.getLast?, Text.isWordChar x = false
  /-- No word goes on behind it. -/
  behind : ∃ back, Text.slice? line s.stop (Text.byteSize line) = some back ∧
    ∀ x ∈ back.head?, Text.isAlphanumeric x = false ∧ x ≠ '_'
  /-- Nothing in the grammar that begins where it begins is longer. -/
  longest : ∃ rest, Text.slice? line s.offset (Text.byteSize line) = some rest ∧
    ∀ longer, longer <+: rest → Grammar.chord.Matches longer →
      longer.length ≤ s.text.toList.length

namespace Line

/-! ## 2. Around the chords of a cut -/

/-- **No word leads up to a chord of a cut text.** -/
theorem wordAfter_of_cut {inWord : Bool} {text : List Char} {before after : List Piece} {c : Chord}
    (h : cut inWord text = before ++ .chord c :: after) :
    wordAfter inWord (before.flatMap Piece.text) = false := by
  fun_induction cut inWord text generalizing before with
  | case1 => simp at h
  | case2 d rest ih =>
    cases before with
    | nil => cases h
    | cons p before =>
      obtain ⟨rfl, htail⟩ := List.cons.inj h
      exact ih htail
  | case3 _ d rest _ _ ih =>
    cases before with
    | nil => cases h
    | cons p before =>
      obtain ⟨rfl, htail⟩ := List.cons.inj h
      exact ih htail
  | case4 inWord d rest hword symbol behind hread _ ih =>
    obtain rfl : inWord = false := Bool.eq_false_iff.mpr hword
    cases before with
    | nil => rfl
    | cons p before =>
      obtain ⟨hp, htail⟩ := List.cons.inj h
      -- taken or passed over, the candidate is what stands before the rest
      have htext : p.text = symbol.text := by
        rw [← hp]
        split <;> rfl
      rw [List.flatMap_cons, htext, wordAfter_append, wordAfter_of_ne_nil symbol.text_ne_nil]
      exact ih htail

/-- What stands behind a chord of a cut text, and that the chord is read in front of it. -/
theorem read?_of_cut {inWord : Bool} {text : List Char} {before after : List Piece} {c : Chord}
    (h : cut inWord text = before ++ .chord c :: after) :
    Chord.read? (c.text ++ after.flatMap Piece.text) = some (c, after.flatMap Piece.text) ∧
      runsOn (after.flatMap Piece.text) = false := by
  have ho : (c, after.flatMap Piece.text) ∈ occurrences (cut inWord text) := by
    rw [h, occurrences_append]
    exact List.mem_append_right _ List.mem_cons_self
  exact read?_of_mem_occurrences ho

/-- **Some text stands between two chords of a cut text.** -/
theorem text_ne_nil_of_cut {inWord : Bool} {text : List Char} {before between after : List Piece}
    {c d : Chord} (h : cut inWord text = before ++ .chord c :: (between ++ .chord d :: after)) :
    between.flatMap Piece.text ≠ [] := by
  intro hnil
  have hruns := (read?_of_cut h).2
  rw [List.flatMap_append, hnil, List.nil_append, List.flatMap_cons] at hruns
  rw [Piece.text, runsOn_text_append] at hruns
  cases hruns

theorem runsOn_eq_false_iff {text : List Char} :
    runsOn text = false ↔ ∀ x ∈ text.head?, Text.isAlphanumeric x = false ∧ x ≠ '_' := by
  cases text <;> simp [runsOn]

/-! ## 3. Around the spans of a line -/

/-- A relation between the spans of any two chords, the first before the second, holds in order. -/
theorem pairwise_spansFrom {R : Span → Span → Prop} {offset : Nat} {ps : List Piece}
    (h : ∀ before c between d after, ps = before ++ .chord c :: (between ++ .chord d :: after) →
      R (Span.ofText c.text (offset + Text.byteSize (before.flatMap Piece.text)))
        (Span.ofText d.text (offset + Text.byteSize (before.flatMap Piece.text)
          + Text.byteSize c.text + Text.byteSize (between.flatMap Piece.text)))) :
    (spansFrom offset ps).Pairwise R := by
  induction ps generalizing offset with
  | nil => exact List.Pairwise.nil
  | cons p ps ih =>
    have hrest : (spansFrom (offset + Text.byteSize p.text) ps).Pairwise R := by
      refine ih fun before c between d after hps => ?_
      have hp := h (p :: before) c between d after (by rw [hps]; rfl)
      rwa [List.flatMap_cons, Text.byteSize_append, ← Nat.add_assoc] at hp
    cases p with
    | copied copy => exact hrest
    | chord symbol =>
      refine List.pairwise_cons.mpr ⟨fun s hs => ?_, hrest⟩
      obtain ⟨between, d, after, hps, rfl⟩ := mem_spansFrom_iff.mp hs
      exact h [] symbol between d after (by rw [hps]; rfl)

/-- The text before a chord, the chord and the text behind it are the line. -/
theorem eq_append_of_pieces {line : List Char} {before after : List Piece} {c : Chord}
    (h : pieces line = before ++ .chord c :: after) :
    line = before.flatMap Piece.text ++ (c.text ++ after.flatMap Piece.text) := by
  rw [← flatMap_text_pieces line, h, List.flatMap_append, List.flatMap_cons]
  rfl

theorem standsIn_of_pieces {line : List Char} {before after : List Piece} {c : Chord}
    (h : pieces line = before ++ .chord c :: after) :
    (Span.ofText c.text (Text.byteSize (before.flatMap Piece.text))).StandsIn line := by
  have hline := eq_append_of_pieces h
  have hword := wordAfter_eq_false_iff.mp (wordAfter_of_cut h)
  obtain ⟨hread, hruns⟩ := read?_of_cut h
  have hruns := runsOn_eq_false_iff.mp hruns
  generalize before.flatMap Piece.text = front at *
  generalize after.flatMap Piece.text = back at *
  have htext : (Span.ofText c.text (Text.byteSize front)).text.toList = c.text :=
    String.toList_ofList
  refine ⟨?_, ?_, ?_, ⟨front, ?_, hword⟩, ⟨back, ?_, hruns⟩, ⟨c.text ++ back, ?_, ?_⟩⟩
  · rw [htext]
    rfl
  · rw [htext]
    exact Text.slice?_eq_some_iff.mpr ⟨front, back, hline, rfl, rfl⟩
  · rw [htext]
    exact Chord.matches_of_read? hread
  · exact Text.slice?_eq_some_iff.mpr ⟨[], c.text ++ back, hline, rfl, (Nat.zero_add _).symm⟩
  · exact Text.slice?_behind hline
  · refine Text.slice?_eq_some_iff.mpr ⟨front, [], ?_, rfl, ?_⟩
    · rw [hline, List.append_nil]
    · rw [hline, Text.byteSize_append]
      rfl
  · intro longer hstarts hmatches
    rw [htext]
    exact (Chord.prefix_of_read? hread hmatches hstarts).length_le

theorem precedes_of_pieces {line : List Char} {before between after : List Piece} {c d : Chord}
    (h : pieces line = before ++ .chord c :: (between ++ .chord d :: after)) :
    (Span.ofText c.text (Text.byteSize (before.flatMap Piece.text))).Precedes line
      (Span.ofText d.text (Text.byteSize (before.flatMap Piece.text) + Text.byteSize c.text
        + Text.byteSize (between.flatMap Piece.text))) := by
  have hline := eq_append_of_pieces h
  have hne := text_ne_nil_of_cut h
  have hpos := Text.byteSize_pos hne
  rw [List.flatMap_append, List.flatMap_cons] at hline
  refine ⟨?_, between.flatMap Piece.text, ?_, hne⟩
  · show Text.byteSize (before.flatMap Piece.text) < Text.byteSize (before.flatMap Piece.text)
      + Text.byteSize c.text + Text.byteSize (between.flatMap Piece.text)
    omega
  · refine Text.slice?_eq_some_iff.mpr ⟨before.flatMap Piece.text ++ c.text,
      d.text ++ after.flatMap Piece.text, ?_, ?_, rfl⟩
    · rw [List.append_assoc]
      exact hline
    · rw [Text.byteSize_append]
      rfl

/-- **Every chord that is found is a separate occurrence**: the spans of a line come in order, with
    text between any two of them, and each is a chord of its own that could not be longer. -/
theorem spans_stand_apart (line : List Char) :
    (spans line).Pairwise (Span.Precedes line) ∧ ∀ s ∈ spans line, s.StandsIn line := by
  constructor
  · refine pairwise_spansFrom fun before c between d after h => ?_
    rw [Nat.zero_add]
    exact precedes_of_pieces h
  · intro s hs
    obtain ⟨before, c, after, h, rfl⟩ := mem_spansFrom_iff.mp hs
    rw [Nat.zero_add]
    exact standsIn_of_pieces h

/-- A slash chord behind a candidate that is passed over, with a sharp behind it that it does not
    take. -/
theorem spans_stand_apart_slashChord :
    (⟨"D/F#m7b5", 9, 8⟩ : Span) ∈ spans "♪ F#C (D/F#m7b5#、é".toList ∧
    (spans "♪ F#C (D/F#m7b5#、é".toList).Pairwise
      (Span.Precedes "♪ F#C (D/F#m7b5#、é".toList) ∧
    (⟨"D/F#m7b5", 9, 8⟩ : Span).StandsIn "♪ F#C (D/F#m7b5#、é".toList :=
  have hspan : (⟨"D/F#m7b5", 9, 8⟩ : Span) ∈ spans "♪ F#C (D/F#m7b5#、é".toList := by
    decide +kernel
  have hstand := spans_stand_apart "♪ F#C (D/F#m7b5#、é".toList
  ⟨hspan, hstand.1, hstand.2 _ hspan⟩

end Line

end ChordChart
