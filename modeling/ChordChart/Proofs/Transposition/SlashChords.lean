/-
  File:      ChordChart/Proofs/Transposition/SlashChords.lean
  Subject:   The halves of a slash chord move as they do by themselves.

  A slash chord is one chord of its line: it is found as a whole, only the bare root behind its
  slash is moved, and the quality of the bass is put back behind that.  A bass that stands alone is
  a chord like any other, with a quality that a move leaves where it is.  For lines that are a chord
  of the grammar and nothing else the two come to the same.

  * `Line.exists_pieces_slash`: the parts that are read with the slash are those that are read
    without it, one line each.
  * `Line.withRoots_slash`: so the roots of both halves are replaced independently.
  * **`Transposition.apply_slash`**: every request moves the halves independently, whichever of them
    it can move.
-/
import ChordChart.Proofs.Chord.Longest
import ChordChart.Proofs.Transposition.Requests

namespace ChordChart

/-! ## 1. Lines that are one chord -/

theorem Grammar.part_of_chord {s : List Char} (h : chord.Matches s) (hslash : '/' ∉ s) :
    part.Matches s := by
  rcases Chord.matches_cases h with hpart | ⟨main, bass, rfl, -, -⟩
  · exact hpart
  · exact absurd (List.mem_append_right main List.mem_cons_self) hslash

namespace Line

theorem pieces_of_read? {line : List Char} {c : Chord} (h : Chord.read? line = some (c, [])) :
    pieces line = [.chord c] := by
  rw [pieces, cut_of_read? h, runsOn, if_neg Bool.false_ne_true, cut]

/-- The one chord of a line that has nothing else is the whole of it. -/
theorem spans_of_pieces {line : List Char} {c : Chord} (h : pieces line = [.chord c]) :
    spans line = [Span.ofText line 0] := by
  have htext := flatMap_text_pieces line
  rw [h, List.flatMap_singleton] at htext
  rw [spans, h, ← htext]
  rfl

section Slash

variable {main bass : List Char}
  (hmain : Grammar.chord.Matches main) (hmainSlash : '/' ∉ main)
  (hbass : Grammar.chord.Matches bass) (hbassSlash : '/' ∉ bass)

include hmain hmainSlash hbass hbassSlash

/-- **The parts of a slash chord are those of its halves.** -/
theorem exists_pieces_slash :
    ∃ p b : Part, pieces main = [.chord ⟨p, none⟩] ∧ pieces bass = [.chord ⟨b, none⟩] ∧
      pieces (main ++ '/' :: bass) = [.chord ⟨p, some b⟩] := by
  obtain ⟨p, -, hp⟩ := Part.read?_of_matches (Grammar.part_of_chord hmain hmainSlash)
  obtain ⟨b, -, hb⟩ := Part.read?_of_matches (Grammar.part_of_chord hbass hbassSlash)
  -- the main part ends at the slash where it ends in a line of its own, so it is one and the same
  have hmainAlone := hp [] fun x hx => nomatch hx
  have hbassAlone := hb [] fun x hx => nomatch hx
  have hmainBefore := hp ('/' :: bass) fun x hx => (Option.some.inj hx).symm
  rw [List.append_nil] at hmainAlone hbassAlone
  exact ⟨p, b, pieces_of_read? (Chord.read?_plain hmainAlone rfl),
    pieces_of_read? (Chord.read?_plain hbassAlone rfl),
    pieces_of_read? (Chord.read?_slash hmainBefore hbassAlone)⟩

theorem withRoots_slash (f : Note → Note) :
    withRoots f (main ++ '/' :: bass) = withRoots f main ++ '/' :: withRoots f bass := by
  obtain ⟨p, b, hp, hb, hwhole⟩ := exists_pieces_slash hmain hmainSlash hbass hbassSlash
  simp only [withRoots, hp, hb, hwhole, List.map_singleton, List.flatMap_singleton]
  rfl

end Slash

end Line

namespace Transposition

/-! ## 2. Transposing half by half -/

/-- **The halves of a slash chord are transposed independently.**  With the slash the line is one
    chord and without it two, each in a line of its own, and every request gives the same text,
    also if it cannot be resolved, and whether or not the root of either half can be moved. -/
theorem apply_slash {main bass : List Char}
    (hmain : Grammar.chord.Matches main) (hmainSlash : '/' ∉ main)
    (hbass : Grammar.chord.Matches bass) (hbassSlash : '/' ∉ bass) :
    Line.spans (main ++ '/' :: bass) = [Span.ofText (main ++ '/' :: bass) 0] ∧
    Line.spans main = [Span.ofText main 0] ∧
    Line.spans bass = [Span.ofText bass 0] ∧
    ∀ t : Transposition,
      (t.apply (main ++ '/' :: bass)).value
        = (t.apply main).value ++ '/' :: (t.apply bass).value := by
  obtain ⟨p, b, hp, hb, hwhole⟩ := Line.exists_pieces_slash hmain hmainSlash hbass hbassSlash
  refine ⟨Line.spans_of_pieces hwhole, Line.spans_of_pieces hp, Line.spans_of_pieces hb,
    fun t => ?_⟩
  rw [value_apply, value_apply, value_apply,
    Line.withRoots_slash hmain hmainSlash hbass hbassSlash]

/-- A main part that cannot be moved, and a bass with a quality of its own; in the last case the key
    is not known. -/
theorem apply_slash_foreignMain :
    Grammar.chord.Matches "E#m7b5".toList ∧ Grammar.chord.Matches "Bbsus4#11".toList ∧
    Line.spans "E#m7b5/Bbsus4#11".toList = [Span.ofText "E#m7b5/Bbsus4#11".toList 0] ∧
    (apply (steps 2147483647) "E#m7b5/Bbsus4#11".toList).value
      = (apply (steps 2147483647) "E#m7b5".toList).value
        ++ '/' :: (apply (steps 2147483647) "Bbsus4#11".toList).value ∧
    (apply (keys "C" "H") "E#m7b5/Bbsus4#11".toList).value
      = (apply (keys "C" "H") "E#m7b5".toList).value
        ++ '/' :: (apply (keys "C" "H") "Bbsus4#11".toList).value := by
  have hreadMain : Chord.read? "E#m7b5".toList
      = some (⟨⟨⟨.e, .sharp⟩, "m7b5".toList⟩, none⟩, []) := by decide +kernel
  have hreadBass : Chord.read? "Bbsus4#11".toList
      = some (⟨⟨⟨.b, .flat⟩, "sus4#11".toList⟩, none⟩, []) := by decide +kernel
  have hmain : Grammar.chord.Matches "E#m7b5".toList := Chord.matches_of_read? hreadMain
  have hbass : Grammar.chord.Matches "Bbsus4#11".toList := Chord.matches_of_read? hreadBass
  obtain ⟨hspan, -, -, hmoved⟩ := apply_slash hmain (by decide) hbass (by decide)
  exact ⟨hmain, hbass, hspan, hmoved _, hmoved _⟩

end Transposition

end ChordChart
