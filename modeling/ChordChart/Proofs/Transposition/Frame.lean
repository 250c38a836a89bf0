/-
  File:      ChordChart/Proofs/Transposition/Frame.lean
  Subject:   What a move leaves alone.

  * `Token.DiffersInRoots`: a chord's text and one in which at most its two roots are different.
    A moved chord differs from the chord in this way (`Chord.differsInRoots_mapRoots`).
  * **`Line.transposed_frame`**: a line is its gaps with its chords in between, and the moved line
    is the same gaps with the moved chords in between.  The gaps are slices of the line that are
    all there, and a line without chords stays as it is.
-/
import ChordChart.Proofs.Line.Places
import ChordChart.Proofs.Transposition.Requests

namespace ChordChart

/-! ## 1. Texts that differ in their roots -/

/-- A chord's text and another with a new root at the head and, if a slash stands in the chord
    with a root right behind it, a new root there.  Everything else is the same. -/
inductive Token.DiffersInRoots (token : List Char) : List Char → Prop where
  | plain {root : Note} {quality : List Char} (new : Note)
      (hroot : Note.read? token = some (root, quality)) (hslash : '/' ∉ quality) :
      DiffersInRoots token (new.text ++ quality)
  | slash {root bass : Note} {quality behind rest : List Char} (new newBass : Note)
      (hroot : Note.read? token = some (root, quality ++ '/' :: behind)) (hslash : '/' ∉ quality)
      (hbass : Note.read? behind = some (bass, rest)) :
      DiffersInRoots token (new.text ++ (quality ++ '/' :: (newBass.text ++ rest)))

theorem Part.read?_root_of_read? {text rest : List Char} {p : Part}
    (h : Part.read? text = some (p, rest)) (behind : List Char)
    (hb : Quality.opensWithSign behind = false) :
    Note.read? (p.text ++ behind) = some (p.root, p.quality ++ behind) := by
  have hread := p.read?_text behind hb
  rwa [Part.reread_of_read? h] at hread

/-- A part that was read is read again from its text. -/
theorem Part.read?_text_of_read? {text rest : List Char} {p : Part}
    (h : Part.read? text = some (p, rest)) : Note.read? p.text = some (p.root, p.quality) := by
  have hroot := Part.read?_root_of_read? h [] rfl
  rwa [List.append_nil, List.append_nil] at hroot

/-- **A chord with other roots differs in its roots.** -/
theorem Chord.differsInRoots_mapRoots {text rest : List Char} {c : Chord}
    (h : Chord.read? text = some (c, rest)) (f : Note → Note) :
    Token.DiffersInRoots c.text (c.mapRoots f).text := by
  have hslash := Chord.slash_notMem_of_read? h
  rcases Chord.read?_cases h with ⟨p, rfl, hmain, -⟩ | ⟨p, b, rfl, hmain, hbass⟩
  · exact .plain (f p.root) (Part.read?_text_of_read? hmain) hslash
  · have hroot := Part.read?_root_of_read? hmain ('/' :: b.text) rfl
    have hbassRoot := Part.read?_text_of_read? hbass
    have hdiffers := Token.DiffersInRoots.slash (f p.root) (f b.root) hroot hslash hbassRoot
    rw [← List.append_assoc] at hdiffers
    exact hdiffers

namespace Line

/-! ## 2. Gaps and chords -/

theorem length_gapsFrom (front : List Char) (ps : List Piece) :
    (gapsFrom front ps).length = (ps.filterMap Piece.chord?).length + 1 := by
  induction ps generalizing front with
  | nil => rfl
  | cons p ps ih =>
    cases p with
    | copied copy => exact ih (front ++ copy)
    | chord symbol => exact congrArg (· + 1) (ih [])

theorem length_spans (line : List Char) : (spans line).length = (chords line).length := by
  have hlength := congrArg List.length (map_text_spans line)
  rwa [List.length_map, List.length_map] at hlength

/-- The gaps of a line with new chords in between are the line with the new chords. -/
theorem interleave_withRoots (f : Note → Note) (line : List Char) :
    interleave (gaps line) ((chords line).map fun c => (c.mapRoots f).text) = withRoots f line := by
  have hinterleave := interleave_gapsFrom [] ((pieces line).map (Piece.mapRoots f))
  rwa [gapsFrom_mapRoots, chords_mapRoots, List.map_map] at hinterleave

theorem withRoots_of_no_chords {line : List Char} (h : chords line = []) (f : Note → Note) :
    withRoots f line = line := by
  have hparts : parts line = [] := by
    rw [parts, h]
    rfl
  have hsame : withRoots f line = withRoots id line := by
    refine withRoots_congr fun p hp => ?_
    rw [hparts] at hp
    cases hp
  rw [hsame, withRoots_id]

theorem exists_chord_of_mem_spans {line : List Char} {s : Span} (h : s ∈ spans line) :
    ∃ c ∈ chords line, c.text = s.text.toList := by
  have hmem : s.text.toList ∈ (spans line).map fun s => s.text.toList := List.mem_map_of_mem h
  rw [map_text_spans] at hmem
  exact List.mem_map.mp hmem

/-! ## 3. The frame -/

/-- The moved chords of a line in their gaps are the moved line. -/
theorem interleave_transposed (line : List Char) (m : Move) :
    interleave (gaps line) ((spans line).map fun s => (Token.transposed m s.text.toList).value)
      = (Line.transposed m line).value := by
  have htexts : ((spans line).map fun s => (Token.transposed m s.text.toList).value)
      = (chords line).map fun c => (c.mapRoots (Note.moved m)).text := by
    have hmap := congrArg (List.map fun text => (Token.transposed m text).value)
      (map_text_spans line)
    rw [List.map_map, List.map_map] at hmap
    refine hmap.trans (List.map_congr_left fun c hc => ?_)
    exact Token.value_transposed m (split?_text_of_mem hc)
  rw [htexts, interleave_withRoots, value_transposed]

/-- A moved chord of a line differs from the chord in its roots. -/
theorem differsInRoots_transposed {line : List Char} (m : Move) {s : Span} (h : s ∈ spans line) :
    Token.DiffersInRoots s.text.toList (Token.transposed m s.text.toList).value := by
  obtain ⟨c, hc, htext⟩ := exists_chord_of_mem_spans h
  obtain ⟨behind, ho⟩ := mem_chords_iff.mp hc
  rw [← htext, Token.value_transposed m (split?_text_of_mem hc)]
  exact Chord.differsInRoots_mapRoots (read?_of_mem_occurrences ho).1 _

/-- **Nothing outside the roots of chords is touched or lost**: a line is gaps and chords in turn,
    and a moved line the same gaps and the moved chords, each of which differs from its chord in
    the roots.  The gaps are the slices from one chord's end to the next one's beginning, all of
    which are there.  A line without chords is left as it is by every request. -/
theorem transposed_frame (line : List Char) (m : Move) :
    (gaps line).length = (spans line).length + 1 ∧
    interleave (gaps line) ((spans line).map fun s => s.text.toList) = line ∧
    interleave (gaps line) ((spans line).map fun s => (Token.transposed m s.text.toList).value)
      = (Line.transposed m line).value ∧
    (∀ s ∈ spans line,
      Token.DiffersInRoots s.text.toList (Token.transposed m s.text.toList).value) ∧
    slices? line = some (gaps line) ∧
    (spans line = [] → ∀ t : Transposition, (t.apply line).value = line) := by
  refine ⟨?_, ?_, interleave_transposed line m, fun s hs => differsInRoots_transposed m hs,
    slices?_eq_gaps line, ?_⟩
  · rw [length_spans]
    exact length_gapsFrom [] (pieces line)
  · rw [map_text_spans, interleave_gaps]
  · intro hspans t
    have hchords : chords line = [] := by
      rw [← List.length_eq_zero_iff, ← length_spans, hspans]
      rfl
    rw [Transposition.value_apply, withRoots_of_no_chords hchords]

/-- A slash chord between characters of several bytes, and a line whose one candidate is passed
    over. -/
theorem transposed_frame_slashChord :
    (⟨"Am7/G", 4, 5⟩ : Span) ∈ spans "♪ Am7/G, é".toList ∧
    slices? "♪ Am7/G, é".toList = some (gaps "♪ Am7/G, é".toList) ∧
    Token.DiffersInRoots "Am7/G".toList
      (Token.transposed ⟨3, some ⟨.eFlat, .minor⟩⟩ "Am7/G".toList).value ∧
    spans "Bridge".toList = [] ∧
    ((Transposition.keys "C" "D").apply "Bridge".toList).value = "Bridge".toList :=
  have hspan : (⟨"Am7/G", 4, 5⟩ : Span) ∈ spans "♪ Am7/G, é".toList := by decide +kernel
  have hnone : spans "Bridge".toList = [] := by decide +kernel
  have hframe := transposed_frame "♪ Am7/G, é".toList ⟨3, some ⟨.eFlat, .minor⟩⟩
  have hbare := transposed_frame "Bridge".toList ⟨3, none⟩
  ⟨hspan, hframe.2.2.2.2.1, hframe.2.2.2.1 _ hspan, hnone, hbare.2.2.2.2.2 hnone _⟩

end Line

end ChordChart
