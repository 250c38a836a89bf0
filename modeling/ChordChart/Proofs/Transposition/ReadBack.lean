/-
  File:      ChordChart/Proofs/Transposition/ReadBack.lean
  Subject:   When a moved chord can be read back from its text.

  A moved chord is written as its new root with the old quality behind it.  If the root had a
  sign, has none any more, and the quality opens with one, then the text says something else:
  `C#` with `b5` a semitone higher is written `Db5`, which is `Db` with `5`.

  * `Part.moved_reread_iff`: a part is read back as the moved part unless this happens to it.
  * **`Chord.split?_transposed_iff`**: the exact condition for a whole chord, for its main part
    and for its bass apart.
-/
import ChordChart.Proofs.Transposition.Session

namespace ChordChart

/-- The part's root loses its sign by the shift, and its quality begins with a sign, which the
    bare letter then takes. -/
def Part.Merges (steps : Steps) (p : Part) : Prop :=
  p.root.accidental ≠ .natural ∧ Quality.opensWithSign p.quality = true ∧
    ∃ k : PitchClass, p.root.pitchClass? = some k ∧ (k.shift steps).isNatural = true

theorem Part.merges_iff {m : Move} {p : Part}
    (hp : p.root.accidental = .natural → Quality.opensWithSign p.quality = false) :
    p.Merges m.steps ↔
      (p.root.moved m).accidental = .natural ∧ Quality.opensWithSign p.quality = true := by
  constructor
  · intro ⟨_, hsign, k, hk, hnatural⟩
    refine ⟨?_, hsign⟩
    rw [Note.moved_of_canonical m hk]
    exact (PitchClass.accidental_spelled_iff _ _).mpr hnatural
  · intro ⟨hmoved, hsign⟩
    have hacc : p.root.accidental ≠ .natural := by
      intro hn
      rw [hp hn] at hsign
      cases hsign
    refine ⟨hacc, hsign, ?_⟩
    cases hk : p.root.pitchClass? with
    | none =>
      rw [Note.moved_of_foreign m hk] at hmoved
      exact absurd hmoved hacc
    | some k =>
      rw [Note.moved_of_canonical m hk] at hmoved
      exact ⟨k, rfl, (PitchClass.accidental_spelled_iff _ _).mp hmoved⟩

/-- **A part is read back as the moved part exactly if its new root takes no sign.** -/
theorem Part.moved_reread_iff {m : Move} {p : Part}
    (hp : p.root.accidental = .natural → Quality.opensWithSign p.quality = false) :
    p.Moved m.steps.toInt (p.mapRoot (Note.moved m)).reread ↔ ¬ p.Merges m.steps := by
  rw [Part.merges_iff hp]
  constructor
  · intro hmoved ⟨hnatural, hsign⟩
    have hne : (p.mapRoot (Note.moved m)).reread.quality ≠ p.quality :=
      Part.reread_quality_ne hnatural hsign
    exact hne hmoved.quality
  · intro hmerges
    have hself : (p.mapRoot (Note.moved m)).reread = p.mapRoot (Note.moved m) :=
      Part.reread_eq_self fun hnatural =>
        Bool.eq_false_iff.mpr fun hsign => hmerges ⟨hnatural, hsign⟩
    rw [hself]
    exact p.moved_mapRoot (Note.movesBy_moved m)

/-- **A moved chord of a line, split again, has the moved parts exactly where no root takes a
    sign of its quality**; it is always split into a main part, and a bass if it had one. -/
theorem Chord.split?_transposed_iff {line : List Char} {c : Chord} (hc : c ∈ Line.chords line)
    (m : Move) :
    ∃ d : Chord, Chord.split? (Token.transposed m c.text).value = some d ∧
      (c.main.Moved m.steps.toInt d.main ↔ ¬ c.main.Merges m.steps) ∧
      Option.Rel (fun b e => b.Moved m.steps.toInt e ↔ ¬ b.Merges m.steps) c.bass d.bass := by
  obtain ⟨behind, ho⟩ := Line.mem_chords_iff.mp hc
  have hread := (Line.read?_of_mem_occurrences ho).1
  have hslash : '/' ∉ (c.mapRoots (Note.moved m)).main.quality := by
    show '/' ∉ c.main.quality
    exact Chord.slash_notMem_of_read? hread
  have hsplit := Chord.split?_text hslash
  rw [← Token.value_transposed m (Line.split?_text_of_mem hc)] at hsplit
  refine ⟨_, hsplit, ?_⟩
  rcases Chord.read?_cases hread with ⟨p, rfl, hmain, -⟩ | ⟨p, b, rfl, hmain, hbass⟩
  · exact ⟨Part.moved_reread_iff (Part.opensWithSign_of_read? hmain), .none⟩
  · exact ⟨Part.moved_reread_iff (Part.opensWithSign_of_read? hmain),
      .some (Part.moved_reread_iff (Part.opensWithSign_of_read? hbass))⟩

/-- A chord of which the main part takes a sign a semitone higher, and the bass does not. -/
def mergingChord : Chord := ⟨⟨⟨.c, .sharp⟩, ['b', '5']⟩, some ⟨⟨.g, .sharp⟩, ['m']⟩⟩

theorem Chord.split?_transposed_iff_mergingChord :
    mergingChord ∈ Line.chords "C#b5/G#m".toList ∧
    ∃ d : Chord, Chord.split? (Token.transposed ⟨1, none⟩ mergingChord.text).value = some d ∧
      (mergingChord.main.Moved 1 d.main ↔ ¬ mergingChord.main.Merges 1) ∧
      Option.Rel (fun b e => b.Moved 1 e ↔ ¬ b.Merges 1) mergingChord.bass d.bass :=
  have hmem : mergingChord ∈ Line.chords "C#b5/G#m".toList := by decide +kernel
  ⟨hmem, Chord.split?_transposed_iff hmem ⟨1, none⟩⟩

/-- Not every chord with a canonical root is read back as the moved chord. -/
theorem Chord.not_all_read_back :
    ¬ ∀ (line : List Char) (c : Chord) (m : Move), c ∈ Line.chords line →
      c.main.root.pitchClass?.isSome →
      ∃ d : Chord, Chord.split? (Token.transposed m c.text).value = some d ∧
        c.main.Moved m.steps.toInt d.main := by
  intro hall
  have hmem : mergingChord ∈ Line.chords "C#b5/G#m".toList := by decide +kernel
  obtain ⟨d, hd, hmoved⟩ := hall _ _ ⟨1, none⟩ hmem (by decide)
  have hsplit : Chord.split? (Token.transposed ⟨1, none⟩ mergingChord.text).value
      = some ⟨⟨⟨.d, .flat⟩, ['5']⟩, some ⟨⟨.a, .natural⟩, ['m']⟩⟩ := by decide +kernel
  rw [hsplit] at hd
  cases hd
  have hquality : ['5'] = ['b', '5'] := hmoved.quality
  revert hquality
  decide

end ChordChart
