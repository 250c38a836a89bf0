/-
  File:      ChordChart/Proofs/Transposition/Separators.lean
  Subject:   Separators divide a line into parts that know nothing of each other.

  * `Line.pieces_separated`: the pieces of a line with a separator are those of the text before it,
    the separator, and those of the text behind it.
  * `Line.withRoots_separated`, `Line.spans_separated`: so are its roots replaced, and its chords
    found, on each side by itself.
  * **`Transposition.apply_separated`**: a chart may be transposed as a whole or line by line.
-/
import ChordChart.Proofs.Line.Boundary
import ChordChart.Proofs.Line.Places
import ChordChart.Proofs.Transposition.Requests

namespace ChordChart

namespace Line

/-! ## 1. A separator in a line -/

/-- A character that neither belongs to a word, in either sense, nor occurs in a chord. -/
structure Separator (s : Char) : Prop where
  noWordChar : Text.isWordChar s = false
  notAlphanumeric : Text.isAlphanumeric s = false
  noSharp : s ≠ '#'
  noSlash : s ≠ '/'

variable {s : Char}

theorem Separator.admits (h : Separator s) : Grammar.chord.admits s = false :=
  Grammar.admits_eq_false h.notAlphanumeric h.noSharp h.noSlash

theorem Separator.runsOn (h : Separator s) (back : List Char) : runsOn (s :: back) = false := by
  have hunderscore : s ≠ '_' := by
    rintro rfl
    have hword : Text.isWordChar '_' = true := by decide
    rw [h.noWordChar] at hword
    cases hword
  simp [Line.runsOn, h.notAlphanumeric, hunderscore]

/-- **The pieces of a line with a separator.** -/
theorem pieces_separated (h : Separator s) (front back : List Char) :
    pieces (front ++ s :: back) = pieces front ++ .copied [s] :: pieces back := by
  have hruns := h.runsOn back
  obtain ⟨ps, hcut, -, hps⟩ := cut_append false (apart_of_admits front h.admits)
  rw [hps hruns, cut_of_ofChar?_none _ _ (ofChar?_of_not_runsOn hruns), h.noWordChar] at hcut
  exact hcut

theorem withRoots_separated (h : Separator s) (f : Note → Note) (front back : List Char) :
    withRoots f (front ++ s :: back) = withRoots f front ++ s :: withRoots f back := by
  rw [withRoots, pieces_separated h, List.map_append, List.flatMap_append]
  rfl

theorem spans_separated (h : Separator s) (front back : List Char) :
    spans (front ++ s :: back)
      = spans front ++ (spans back).map (Span.later (Text.byteSize (front ++ [s]))) := by
  rw [spans, pieces_separated h, spansFrom_append, flatMap_text_pieces]
  show _ ++ spansFrom (0 + Text.byteSize front + Text.byteSize [s]) (pieces back) = _
  rw [Nat.add_assoc, ← Text.byteSize_append, spansFrom_add]
  rfl

end Line

namespace Transposition

/-! ## 2. Transposing part by part -/

theorem value_apply_separated {s : Char} (h : Line.Separator s) (t : Transposition)
    (front back : List Char) :
    (t.apply (front ++ s :: back)).value = (t.apply front).value ++ s :: (t.apply back).value := by
  rw [value_apply, value_apply, value_apply, Line.withRoots_separated h]

/-- A chart is transposed line by line, by induction on its lines. -/
theorem value_apply_intercalate {s : Char} (h : Line.Separator s) (t : Transposition) :
    (lines : List (List Char)) →
      (t.apply ([s].intercalate lines)).value
        = [s].intercalate (lines.map fun line => (t.apply line).value)
  | [] => by
    have hnil : Line.pieces [] = [] := by rw [Line.pieces, Line.cut]
    rw [value_apply, List.intercalate_nil, Line.withRoots, hnil]
    rfl
  | [line] => by simp
  | line :: next :: rest => by
    have hrest := value_apply_intercalate h t (next :: rest)
    rw [List.intercalate_cons_cons, List.append_assoc, List.singleton_append,
      value_apply_separated h, hrest]
    simp

/-- **Transposing distributes over separators**: what stands on the two sides of one is transposed
    and searched for chords by itself, so a whole chart may be transposed at once or line by
    line. -/
theorem apply_separated {s : Char} (h : Line.Separator s) :
    (∀ (t : Transposition) (front back : List Char),
      (t.apply (front ++ s :: back)).value
        = (t.apply front).value ++ s :: (t.apply back).value) ∧
    (∀ front back : List Char,
      Line.spans (front ++ s :: back)
        = Line.spans front
          ++ (Line.spans back).map (Span.later (Text.byteSize (front ++ [s])))) ∧
    (∀ (t : Transposition) (lines : List (List Char)),
      (t.apply ([s].intercalate lines)).value
        = [s].intercalate (lines.map fun line => (t.apply line).value)) :=
  ⟨value_apply_separated h, Line.spans_separated h, value_apply_intercalate h⟩

/-- A line that ends inside a slash chord, before one that begins with a root. -/
theorem apply_separated_newline :
    Line.Separator '\n' ∧
    (apply (keys "C" "Ebmin") ("♪ Am7 C/".toList ++ '\n' :: "F#C Bb/D".toList)).value
      = (apply (keys "C" "Ebmin") "♪ Am7 C/".toList).value
        ++ '\n' :: (apply (keys "C" "Ebmin") "F#C Bb/D".toList).value ∧
    Line.spans ("♪ Am7 C/".toList ++ '\n' :: "F#C Bb/D".toList)
      = Line.spans "♪ Am7 C/".toList ++ (Line.spans "F#C Bb/D".toList).map
          (Span.later (Text.byteSize ("♪ Am7 C/".toList ++ ['\n']))) ∧
    (apply (steps (-7)) (['\n'].intercalate ["G/".toList, [], "B7".toList])).value
      = ['\n'].intercalate
          (["G/".toList, [], "B7".toList].map fun line => (apply (steps (-7)) line).value) :=
  have hnewline : Line.Separator '\n' := ⟨by decide, by decide, by decide, by decide⟩
  have hapart := apply_separated hnewline
  ⟨hnewline, hapart.1 _ _ _, hapart.2.1 _ _, hapart.2.2 _ _⟩

end Transposition

end ChordChart
