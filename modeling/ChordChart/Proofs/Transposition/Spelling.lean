/-
  File:      ChordChart/Proofs/Transposition/Spelling.lean
  Subject:   Requests by the same distance differ only in how black keys are spelled.

  * **`Transposition.apply_eq_self_iff`**: without keys a line stays as it was if whole octaves are
    asked for, and, unless it has no canonical root, only then.
  * `Transposition.apply_keys_eq_apply_steps_iff`, **`Transposition.apply_keys_apply_steps`**: a
    change between keys and steps by the same distance give lines that differ in nothing but the
    names of black keys, and exactly where a root's own sign is not what the key asks for.
  * **`Transposition.apply_keys_same_tonic`**: a change between keys on one tonic respells a line
    in place, and a second one finds nothing left to do.
-/
import ChordChart.Proofs.Line.Renaming
import ChordChart.Proofs.Transposition.Frame
import ChordChart.Proofs.Transposition.Session

namespace ChordChart

/-! ## 1. Lines that stay as they were -/

theorem Interval.dvd_steps_iff (i : Interval) :
    (12 : Int) ∣ i.steps.toInt ↔ i = .unison ∨ i = .octave := by
  cases i <;> decide

namespace Transposition

/-- Steps leave a line as it was exactly if they are whole octaves or find nothing to move. -/
theorem apply_steps_eq_self_iff (n : Steps) (line : List Char) :
    (apply (steps n) line).value = line ↔
      (12 : Int) ∣ n.toInt ∨ ∀ p ∈ Line.parts line, p.root.pitchClass? = none := by
  rw [value_apply_steps, Line.withRoots_eq_self_iff, ← (toInt_nearest_modEq n).dvd_iff]
  constructor
  · intro h
    by_cases hdvd : (12 : Int) ∣ n.nearest.toInt
    · exact Or.inl hdvd
    · right
      intro p hp
      exact ((Note.moved_eq_self_iff _ _).mp (h p hp)).resolve_left hdvd
  · intro h p hp
    exact (Note.moved_eq_self_iff _ _).mpr (h.imp_right (· p hp))

/-- **Whole octaves are the identity on every line**, by steps as by the name of an interval, and
    any other distance changes each line that has a canonical root. -/
theorem apply_eq_self_iff (line : List Char) :
    (∀ n : Steps, (apply (steps n) line).value = line ↔
      (12 : Int) ∣ n.toInt ∨ ∀ p ∈ Line.parts line, p.root.pitchClass? = none) ∧
    (∀ (name : String) (i : Interval), Interval.ofName? name = some i →
      ((apply (interval name) line).value = line ↔
        i = .unison ∨ i = .octave ∨ ∀ p ∈ Line.parts line, p.root.pitchClass? = none)) := by
  constructor
  · intro n
    exact apply_steps_eq_self_iff n line
  · intro name i h
    rw [value_apply_interval h, apply_steps_eq_self_iff, i.dvd_steps_iff, or_assoc]

/-- A line with roots that are not canonical, a double accidental, slashes in a row and characters
    of several bytes. -/
def foreignLine : List Char := "♪ Cb F##5 E#/Bb (D/F#/Ab) Gb7é B♭".toList

theorem apply_eq_self_iff_foreignLine :
    Interval.ofName? "\tOctave " = some .octave ∧ Interval.ofName? "tritone" = some .tritone ∧
    (apply (interval "\tOctave ") foreignLine).value = foreignLine ∧
    (apply (steps (-2147483640)) foreignLine).value = foreignLine ∧
    (apply (interval "tritone") foreignLine).value ≠ foreignLine := by
  have hoctave : Interval.ofName? "\tOctave " = some .octave := by decide +kernel
  have htritone : Interval.ofName? "tritone" = some .tritone := by decide +kernel
  have hself := apply_eq_self_iff foreignLine
  have hcanonical : ¬ ∀ p ∈ Line.parts foreignLine, p.root.pitchClass? = none := by decide +kernel
  refine ⟨hoctave, htritone, ?_, ?_, ?_⟩
  · exact (hself.2 _ _ hoctave).mpr (Or.inr (Or.inl rfl))
  · exact (hself.1 _).mpr (Or.inl (by decide))
  · intro heq
    rcases (hself.2 _ _ htritone).mp heq with h | h | h
    · cases h
    · cases h
    · exact hcanonical h

end Transposition

/-! ## 2. Keys and steps -/

/-- What a chord's text has become after a move by a distance: the text of the chord with its roots
    that much higher. -/
def Token.Moved (n : Int) (before after : List Char) : Prop :=
  ∃ c d : Chord, Chord.split? before = some c ∧ after = d.text ∧ c.Moved n d

theorem Token.moved_transposed {m : Move} {n : Int} (h : m.steps.toInt ≡ n [ZMOD 12])
    {token : List Char} {c : Chord} (hsplit : Chord.split? token = some c) :
    Token.Moved n token (Token.transposed m token).value :=
  ⟨c, c.mapRoots (Note.moved m), hsplit, Token.value_transposed m hsplit,
    c.moved_mapRoots ((Note.movesBy_moved m).congr h)⟩

theorem Line.moved_transposed {line : List Char} {m : Move} {n : Int}
    (h : m.steps.toInt ≡ n [ZMOD 12]) {s : Span} (hs : s ∈ spans line) :
    Token.Moved n s.text.toList (Token.transposed m s.text.toList).value := by
  obtain ⟨c, hc, htext⟩ := exists_chord_of_mem_spans hs
  rw [← htext]
  exact Token.moved_transposed h (split?_text_of_mem hc)

namespace Transposition

/-- Keys and steps by the same distance lead to moves by the same distance. -/
theorem toInt_moveBetween_modEq {source target : Key} {n : Steps}
    (hn : n.toInt ≡ (source.stepsTo target).toInt [ZMOD 12]) :
    (moveBetween source target).steps.toInt ≡ (moveBy n).steps.toInt [ZMOD 12] :=
  hn.symm.trans (toInt_nearest_modEq n).symm

section Keys

variable {x y : String} {source target : Key} (hx : Key.ofName x = .ok source)
  (hy : Key.ofName y = .ok target)

include hx hy

/-- **A change between keys and steps by the same distance agree** exactly if each root that becomes
    a black key has the sign already that the target key prefers. -/
theorem apply_keys_eq_apply_steps_iff {n : Steps}
    (hn : n.toInt ≡ (source.stepsTo target).toInt [ZMOD 12]) (line : List Char) :
    (apply (keys x y) line).value = (apply (steps n) line).value ↔
      ∀ p ∈ Line.parts line, ∀ k : PitchClass, p.root.pitchClass? = some k →
        (k.shift n).isNatural = false → p.root.accidental.preference = target.preference := by
  rw [value_apply_keys hx hy, value_apply_steps, Line.withRoots_eq_iff]
  refine forall₂_congr fun p _ => ?_
  rw [Note.moved_eq_iff (toInt_moveBetween_modEq hn)]
  refine forall₂_congr fun k _ => ?_
  have hshift : k.shift (moveBetween source target).steps = k.shift n := k.shift_congr hn.symm
  rw [hshift]
  exact forall_congr' fun _ => eq_comm

/-- **Keys and steps by the same distance give the same line up to the names of black keys**: it has
    the same size, the same text between the chords, and there chords with the same qualities and
    with roots of the same pitch class.  The names are the same exactly if each root that becomes a
    black key has the sign already that the target key prefers. -/
theorem apply_keys_apply_steps {n : Steps}
    (hn : n.toInt ≡ (source.stepsTo target).toInt [ZMOD 12]) (line : List Char) :
    Text.byteSize (apply (keys x y) line).value = Text.byteSize (apply (steps n) line).value ∧
    (apply (keys x y) line).value
      = Line.interleave (Line.gaps line) ((Line.spans line).map fun s =>
          (Token.transposed (moveBetween source target) s.text.toList).value) ∧
    (apply (steps n) line).value
      = Line.interleave (Line.gaps line) ((Line.spans line).map fun s =>
          (Token.transposed (moveBy n) s.text.toList).value) ∧
    (∀ s ∈ Line.spans line,
      Token.Moved (source.stepsTo target).toInt s.text.toList
        (Token.transposed (moveBetween source target) s.text.toList).value ∧
      Token.Moved (source.stepsTo target).toInt s.text.toList
        (Token.transposed (moveBy n) s.text.toList).value) ∧
    ((apply (keys x y) line).value = (apply (steps n) line).value ↔
      ∀ p ∈ Line.parts line, ∀ k : PitchClass, p.root.pitchClass? = some k →
        (k.shift n).isNatural = false → p.root.accidental.preference = target.preference) := by
  have hsame := toInt_moveBetween_modEq hn
  refine ⟨?_, ?_, ?_, ?_, apply_keys_eq_apply_steps_iff hx hy hn line⟩
  · rw [value_apply_keys hx hy, value_apply_steps]
    exact Line.byteSize_withRoots (Note.sameSigns_moved hsame) line
  · rw [Line.interleave_transposed, Line.value_transposed, value_apply_keys hx hy]
  · rw [Line.interleave_transposed, Line.value_transposed, value_apply_steps]
  · intro s hs
    have hkeys : (moveBetween source target).steps.toInt
        ≡ (source.stepsTo target).toInt [ZMOD 12] := Int.ModEq.refl _
    exact ⟨Line.moved_transposed hkeys hs, Line.moved_transposed (hsame.symm.trans hkeys) hs⟩

end Keys

/-- A slash chord whose main root and bass go by different signs, and a root that is not
    canonical. -/
theorem apply_keys_apply_steps_slashChord :
    Key.ofName "C" = .ok ⟨.c, .major⟩ ∧ Key.ofName " ebMIN" = .ok ⟨.eFlat, .minor⟩ ∧
    (2147483643 : Steps).toInt
      ≡ ((⟨.c, .major⟩ : Key).stepsTo ⟨.eFlat, .minor⟩).toInt [ZMOD 12] ∧
    (⟨"F#m7b5/Eb", 4, 9⟩ : Span) ∈ Line.spans "♪ F#m7b5/Eb, E# C".toList ∧
    Token.Moved ((⟨.c, .major⟩ : Key).stepsTo ⟨.eFlat, .minor⟩).toInt "F#m7b5/Eb".toList
      (Token.transposed (moveBy 2147483643) "F#m7b5/Eb".toList).value ∧
    Text.byteSize (apply (keys "C" " ebMIN") "♪ F#m7b5/Eb, E# C".toList).value
      = Text.byteSize (apply (steps 2147483643) "♪ F#m7b5/Eb, E# C".toList).value ∧
    (apply (keys "C" " ebMIN") "♪ F#m7b5/Eb, E# C".toList).value
      ≠ (apply (steps 2147483643) "♪ F#m7b5/Eb, E# C".toList).value ∧
    (apply (keys "C" " ebMIN") "♪ F#m7b5/Eb, E#".toList).value
      = (apply (steps 2147483643) "♪ F#m7b5/Eb, E#".toList).value := by
  have hx : Key.ofName "C" = .ok ⟨.c, .major⟩ := by decide +kernel
  have hy : Key.ofName " ebMIN" = .ok ⟨.eFlat, .minor⟩ := by decide +kernel
  have hn : (2147483643 : Steps).toInt
      ≡ ((⟨.c, .major⟩ : Key).stepsTo ⟨.eFlat, .minor⟩).toInt [ZMOD 12] := by decide
  have hspan : (⟨"F#m7b5/Eb", 4, 9⟩ : Span) ∈ Line.spans "♪ F#m7b5/Eb, E# C".toList := by
    decide +kernel
  obtain ⟨hsize, -, -, hmoved, hiff⟩ := apply_keys_apply_steps hx hy hn "♪ F#m7b5/Eb, E# C".toList
  have hsame := (apply_keys_apply_steps hx hy hn "♪ F#m7b5/Eb, E#".toList).2.2.2.2
  refine ⟨hx, hy, hn, hspan, (hmoved _ hspan).2, hsize, fun heq => ?_, hsame.mpr ?_⟩
  · have hsign := hiff.mp heq ⟨⟨.c, .natural⟩, []⟩ (by decide +kernel) ⟨0⟩ (by decide) (by decide)
    cases hsign
  · have hwhite : ∀ p ∈ Line.parts "♪ F#m7b5/Eb, E#".toList, ∀ k ∈ p.root.pitchClass?,
        (k.shift 2147483643).isNatural = false → p.root.accidental.preference = .flat := by
      decide +kernel
    exact hwhite

/-! ## 3. Keys on one tonic -/

/-- **A change between keys on one tonic respells in place**: the chords stay where they are, a
    second change does nothing more, and the first does nothing exactly if each canonical root with
    a sign has the one that the second key prefers. -/
theorem apply_keys_same_tonic {x y : String} {source target : Key}
    (hx : Key.ofName x = .ok source) (hy : Key.ofName y = .ok target)
    (hroot : source.root = target.root) (line : List Char) :
    (Line.spans (apply (keys x y) line).value).map Span.place
      = (Line.spans line).map Span.place ∧
    (apply (keys x y) (apply (keys x y) line).value).value = (apply (keys x y) line).value ∧
    ((apply (keys x y) line).value = line ↔
      ∀ p ∈ Line.parts line, p.root.pitchClass?.isSome → p.root.accidental ≠ .natural →
        p.root.accidental.preference = target.preference) := by
  have hzero : (moveBetween source target).steps.toInt ≡ 0 [ZMOD 12] :=
    Key.toInt_stepsTo_of_root_eq hroot
  have hsigns := Note.sameSigns_moved_id hzero
  rw [value_apply_keys hx hy, value_apply_keys hx hy]
  refine ⟨Line.places_withRoots hsigns line, ?_, ?_⟩
  · -- into the same key twice is into it once, by the sum of two distances that are none
    have hsum := hzero.trans (hzero.add hzero).symm
    rw [Line.withRoots_comp _ (Line.pieces_withRoots_of_sameSigns hsigns line)]
    exact Line.withRoots_congr fun p _ =>
      Note.moved_target (Note.movesBy_moved _) target hsum p.root
  · rw [Line.withRoots_eq_self_iff]
    exact forall₂_congr fun p _ => Note.moved_eq_self_iff_of_octaves hzero p.root

/-- A sharp before an alteration, sharps directly behind chords, a candidate that is passed over
    and a root that is not canonical; with two names of one tonic of which neither is a black
    key's. -/
def inPlaceLine : List Char := "♪ C#b5# F#C G#m/Bb, F## E#b9".toList

theorem apply_keys_same_tonic_inPlaceLine :
    Key.ofName "b" = .ok ⟨.b, .major⟩ ∧ Key.ofName " cbMAJ" = .ok ⟨.cFlat, .major⟩ ∧
    (⟨.b, .major⟩ : Key).root = (⟨.cFlat, .major⟩ : Key).root ∧
    (Line.spans (apply (keys "b" " cbMAJ") inPlaceLine).value).map Span.place
      = (Line.spans inPlaceLine).map Span.place ∧
    (apply (keys "b" " cbMAJ") (apply (keys "b" " cbMAJ") inPlaceLine).value).value
      = (apply (keys "b" " cbMAJ") inPlaceLine).value ∧
    (apply (keys "b" " cbMAJ") inPlaceLine).value ≠ inPlaceLine := by
  have hx : Key.ofName "b" = .ok ⟨.b, .major⟩ := by decide +kernel
  have hy : Key.ofName " cbMAJ" = .ok ⟨.cFlat, .major⟩ := by decide +kernel
  have hroot : (⟨.b, .major⟩ : Key).root = (⟨.cFlat, .major⟩ : Key).root := by decide
  obtain ⟨hplaces, htwice, hself⟩ := apply_keys_same_tonic hx hy hroot inPlaceLine
  refine ⟨hx, hy, hroot, hplaces, htwice, fun heq => ?_⟩
  have hsign := hself.mp heq ⟨⟨.c, .sharp⟩, ['b', '5']⟩ (by decide +kernel) (by decide) (by decide)
  cases hsign

end Transposition

end ChordChart
