/-
  File:      ChordChart/Proofs/Transposition/Octaves.lean
  Subject:   Distances count modulo an octave.

  A distance is reduced twice, in two ways: to the nearest one before a line is moved, and into the
  octave when a note is.  Whole octaves are lost both times, and nothing else is.

  * `Steps.isNearest_iff`, `Steps.natAbs_nearest_le`: the nearest distance is the only one of its
    range that leads to the same place, and none that does so is smaller.
  * `PitchClass.ShiftsInWord`: the sums that a shift takes, none of which leaves the word.
  * **`Transposition.steps_modulo_octave`**: so texts and lines are moved alike by distances that
    differ by whole octaves, and a line by steps as its chords are by the steps as they are given.
-/
import ChordChart.Proofs.Transposition.Spelling

namespace ChordChart

/-! ## 1. The nearest distance -/

/-- An integer from the octave around zero that leads where a distance leads, up to whole
    octaves. -/
structure Steps.IsNearest (n : Steps) (k : Int) : Prop where
  low : -5 ≤ k
  high : k ≤ 6
  congruent : k ≡ n.toInt [ZMOD 12]

/-- **There is one such integer**, and it is the nearest distance. -/
theorem Steps.isNearest_iff {n : Steps} {k : Int} : n.IsNearest k ↔ k = n.nearest.toInt := by
  constructor
  · intro ⟨hlow, hhigh, hcongruent⟩
    have hmod : k % 12 = n.toInt % 12 := hcongruent
    rw [toInt_nearest]
    split <;> omega
  · intro hk
    have hmod := Transposition.toInt_nearest_modEq n
    rw [← hk] at hmod
    rw [toInt_nearest] at hk
    refine ⟨?_, ?_, hmod⟩ <;> split at hk <;> omega

/-- The nearest distance is the shortest way; only the tritone has a second one, downwards. -/
theorem Steps.natAbs_nearest_le {n : Steps} {k : Int} (h : k ≡ n.toInt [ZMOD 12]) :
    n.nearest.toInt.natAbs ≤ k.natAbs := by
  have hmod : k % 12 = n.toInt % 12 := h
  rw [toInt_nearest]
  split <;> omega

/-! ## 2. Sums inside the word -/

/-- What the reduction of a distance and the shift of a pitch class by it add up.  Each sum of words
    is the sum of the integers, so nothing overflows on the way. -/
structure PitchClass.ShiftsInWord (p : PitchClass) (n : Steps) : Prop where
  /-- A remainder below zero is raised by an octave. -/
  raised : (n % 12 + 12).toInt = n.toInt.tmod 12 + 12
  /-- A distance in the upper half of the octave is lowered by one. -/
  lowered : (n.inOctave - 12).toInt = n.toInt % 12 - 12
  /-- The pitch class and the distance in the octave are added. -/
  added : (p.steps + n.inOctave).toInt = p.index.val + n.toInt % 12
  /-- What comes out is the sum of the pitch class and the distance as it was given. -/
  index : ((p.shift n).index.val : Int) = (p.index.val + n.toInt) % 12

theorem PitchClass.shiftsInWord (p : PitchClass) (n : Steps) : p.ShiftsInWord n where
  raised := n.toInt_remainder_add
  lowered := n.toInt_inOctave_sub
  added := p.toInt_steps_add n
  index := p.index_shift n

/-! ## 3. Texts and lines -/

/-- Moves into one key, or into none, by distances that differ by whole octaves are the same. -/
theorem Note.moved_congr {s t : Steps} (h : s.toInt ≡ t.toInt [ZMOD 12]) (target : Option Key) :
    Note.moved ⟨s, target⟩ = Note.moved ⟨t, target⟩ := by
  funext n
  exact (Note.moved_eq_iff h n).mpr fun _ _ _ => rfl

theorem Token.value_transposed_of_split?_none (m : Move) {token : List Char}
    (h : Chord.split? token = none) : (Token.transposed m token).value = token := by
  rw [Token.transposed, Token.transposed?, h]

theorem Token.value_transposed_congr {s t : Steps} (h : s.toInt ≡ t.toInt [ZMOD 12])
    (target : Option Key) (token : List Char) :
    (Token.transposed ⟨s, target⟩ token).value = (Token.transposed ⟨t, target⟩ token).value := by
  cases hsplit : Chord.split? token with
  | none =>
    rw [value_transposed_of_split?_none _ hsplit, value_transposed_of_split?_none _ hsplit]
  | some c =>
    rw [value_transposed _ hsplit, value_transposed _ hsplit, Note.moved_congr h]

namespace Transposition

/-- A line is moved by steps as its chords are by the distance that is asked for. -/
theorem value_apply_steps_unreduced (n : Steps) (line : List Char) :
    (apply (steps n) line).value = (Line.transposed ⟨n, none⟩ line).value := by
  rw [value_apply_steps, Line.value_transposed, moveBy, Note.moved_congr (toInt_nearest_modEq n)]

/-- **Only the number of steps modulo twelve matters.**  It is reduced to the one distance between
    -5 and 6 that is congruent to it, and none that is congruent to it is shorter.  No sum on the
    way leaves the word, and the roots of any text, on both sides of a slash, end up where the sum
    of unbounded integers puts them.  So congruent numbers of steps make the same of every text,
    into any key or none, and of every line; and of a line they make what the steps as they are
    given make of its chords. -/
theorem steps_modulo_octave (s : Steps) :
    (∀ k : Int, s.IsNearest k ↔ k = s.nearest.toInt) ∧
    (∀ k : Int, k ≡ s.toInt [ZMOD 12] → s.nearest.toInt.natAbs ≤ k.natAbs) ∧
    (∀ p : PitchClass, p.ShiftsInWord s) ∧
    (∀ (target : Option Key) (token : List Char) (c : Chord), Chord.split? token = some c →
      Token.Moved s.toInt token (Token.transposed ⟨s, target⟩ token).value) ∧
    (∀ t : Steps, s.toInt ≡ t.toInt [ZMOD 12] →
      (∀ (target : Option Key) (token : List Char),
        (Token.transposed ⟨s, target⟩ token).value = (Token.transposed ⟨t, target⟩ token).value) ∧
      ∀ line : List Char, (apply (steps s) line).value = (apply (steps t) line).value) ∧
    ∀ line : List Char, (apply (steps s) line).value
      = Line.interleave (Line.gaps line) ((Line.spans line).map fun found =>
          (Token.transposed ⟨s, none⟩ found.text.toList).value) := by
  refine ⟨fun k => Steps.isNearest_iff, fun k hk => Steps.natAbs_nearest_le hk,
    fun p => p.shiftsInWord s, fun target token c hsplit => ?_, fun t h => ⟨?_, ?_⟩, fun line => ?_⟩
  · exact Token.moved_transposed (Int.ModEq.refl _) hsplit
  · intro target token
    exact Token.value_transposed_congr h target token
  · intro line
    rw [value_apply_steps_unreduced, value_apply_steps_unreduced, Line.value_transposed,
      Line.value_transposed, Note.moved_congr h]
  · rw [Line.interleave_transposed, value_apply_steps_unreduced]

/-- The lowest word, which is four steps up, and a slash chord with a bass that is no canonical
    note. -/
theorem steps_modulo_octave_lowest :
    (-2147483648 : Steps).nearest.toInt = 4 ∧
    (-2147483648 : Steps).nearest.toInt.natAbs ≤ (-8 : Int).natAbs ∧
    (⟨11⟩ : PitchClass).ShiftsInWord (-2147483648) ∧
    Token.Moved (-2147483648) "Bm7b5/E#sus\n/G".toList
      (Token.transposed ⟨-2147483648, some ⟨.eFlat, .minor⟩⟩ "Bm7b5/E#sus\n/G".toList).value ∧
    (Token.transposed ⟨-2147483648, some ⟨.eFlat, .minor⟩⟩ "Bm7b5/E#sus\n/G".toList).value
      = (Token.transposed ⟨2147483644, some ⟨.eFlat, .minor⟩⟩ "Bm7b5/E#sus\n/G".toList).value ∧
    (apply (steps (-2147483648)) "♪ Bb7, Am/Gb".toList).value
      = (apply (steps 4) "♪ Bb7, Am/Gb".toList).value := by
  obtain ⟨hnearest, hshortest, hword, htoken, hcongruent, -⟩ := steps_modulo_octave (-2147483648)
  have hfour : (-2147483648 : Steps).IsNearest 4 := ⟨by decide, by decide, by decide⟩
  have hsplit : Chord.split? "Bm7b5/E#sus\n/G".toList
      = some ⟨⟨⟨.b, .natural⟩, "m7b5".toList⟩, some ⟨⟨.e, .sharp⟩, "sus\n/G".toList⟩⟩ := by decide
  refine ⟨((hnearest 4).mp hfour).symm, hshortest (-8) (by decide), hword _,
    htoken _ _ _ hsplit, (hcongruent 2147483644 (by decide)).1 _ _,
    (hcongruent 4 (by decide)).2 _⟩

end Transposition

end ChordChart
