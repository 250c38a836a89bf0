/-
  File:      ChordChart/Proofs/Chord/Splitting.lean
  Subject:   A written chord split again.

  * `Part.reread`, `Chord.split?_text`: the parts that a split finds in a written chord.  They
    are the chord's own unless a natural root stands before a quality that opens with a sign.
  * `Chord.split?_text_of_read?`: what a reader has taken is split into the same parts, so such a
    chord is known from its text.
-/
import ChordChart.Chord.Split
import ChordChart.Proofs.Chord.Reading

namespace ChordChart

/-! ## 1. A part read back -/

/-- A part as it is read back from its text: a natural root takes a sign that stands behind it. -/
def Part.reread (p : Part) : Part :=
  match p.root.accidental, p.quality with
  | .natural, s :: rest =>
    match Accidental.ofChar? s with
    | some accidental => ⟨⟨p.root.letter, accidental⟩, rest⟩
    | none => p
  | _, _ => p

theorem Part.reread_eq_self {p : Part}
    (h : p.root.accidental = .natural → Quality.opensWithSign p.quality = false) :
    p.reread = p := by
  unfold reread
  split
  · next s rest hn hq =>
    have hs : Quality.opensWithSign (s :: rest) = false := hq ▸ h hn
    rw [Accidental.ofChar?_eq_none hs]
  · rfl

/-- A natural root that takes a sign leaves a shorter quality. -/
theorem Part.reread_quality_ne {p : Part} (hn : p.root.accidental = .natural)
    (hq : Quality.opensWithSign p.quality = true) : p.reread.quality ≠ p.quality := by
  obtain ⟨⟨letter, accidental⟩, quality⟩ := p
  obtain rfl : accidental = .natural := hn
  cases quality with
  | nil => cases hq
  | cons s rest =>
    cases hs : Accidental.ofChar? s with
    | none =>
      have hsign : Quality.isSign s = true := hq
      rw [Accidental.isSign_of_ofChar? hs] at hsign
      cases hsign
    | some accidental =>
      simp only [reread, hs]
      exact fun h => List.cons_ne_self s rest h.symm

theorem Part.reread_quality_suffix (p : Part) : p.reread.quality <:+ p.quality := by
  unfold reread
  split
  · next s rest _ hq =>
    split
    · rw [hq]
      exact List.suffix_cons s rest
    · exact List.suffix_refl _
  · exact List.suffix_refl _

/-- What is read at the head of a part's text, whatever stands behind it but a sign. -/
theorem Part.read?_text (p : Part) (behind : List Char)
    (hb : Quality.opensWithSign behind = false) :
    Note.read? (p.text ++ behind) = some (p.reread.root, p.reread.quality ++ behind) := by
  by_cases h : p.root.accidental = .natural → Quality.opensWithSign p.quality = false
  · rw [Part.reread_eq_self h, Part.text, List.append_assoc]
    exact Note.read?_text_append _ _ fun hn => Quality.opensWithSign_append (h hn) hb
  · obtain ⟨⟨letter, accidental⟩, quality⟩ := p
    obtain ⟨hn, hq⟩ := Classical.not_imp.mp h
    obtain rfl : accidental = .natural := hn
    cases quality with
    | nil => exact absurd rfl hq
    | cons s rest =>
      cases hs : Accidental.ofChar? s with
      | none => exact absurd (Accidental.isSign_of_ofChar? hs) hq
      | some accidental =>
        simp [Part.text, Note.text, Accidental.sign, Note.read?, Letter.ofChar?_char, hs, reread]

/-! ## 2. A chord split again -/

namespace Chord

theorem atSlash_append_front {front : List Char} (h : '/' ∉ front) (rest : List Char) :
    atSlash (front ++ rest) = (front ++ (atSlash rest).1, (atSlash rest).2) := by
  induction front with
  | nil => rfl
  | cons c front ih =>
    obtain ⟨hc, hfront⟩ := not_or.mp (mt List.mem_cons.mpr h)
    rw [List.cons_append, atSlash, if_neg (Ne.symm hc), ih hfront]
    rfl

theorem atSlash_of_notMem {text : List Char} (h : '/' ∉ text) : atSlash text = (text, none) := by
  have hfront := atSlash_append_front h []
  rwa [atSlash, List.append_nil] at hfront

theorem atSlash_append {text : List Char} (h : '/' ∉ text) (rest : List Char) :
    atSlash (text ++ '/' :: rest) = (text, some rest) := by
  rw [atSlash_append_front h, atSlash, if_pos rfl, List.append_nil]

/-- **What a split finds in a written chord**: its parts as they are read back. -/
theorem split?_text {c : Chord} (h : '/' ∉ c.main.quality) :
    split? c.text = some ⟨c.main.reread, c.bass.map Part.reread⟩ := by
  obtain ⟨p, bass⟩ := c
  have hslash : '/' ∉ p.reread.quality := fun hmem => h (p.reread_quality_suffix.subset hmem)
  cases bass with
  | none =>
    have hread := p.read?_text [] rfl
    rw [List.append_nil, List.append_nil] at hread
    rw [Chord.text, split?, hread, Option.map_some]
    dsimp only
    rw [atSlash_of_notMem hslash]
    rfl
  | some b =>
    have hread := p.read?_text ('/' :: b.text) rfl
    have hbass := b.read?_text [] rfl
    rw [List.append_nil, List.append_nil] at hbass
    rw [Chord.text, split?, hread, Option.map_some]
    dsimp only
    rw [atSlash_append hslash, Option.bind_some, hbass]
    rfl

end Chord

/-! ## 3. Chords that a reader has taken -/

theorem Part.opensWithSign_of_read? {text rest : List Char} {p : Part}
    (h : Part.read? text = some (p, rest)) (hn : p.root.accidental = .natural) :
    Quality.opensWithSign p.quality = false := by
  have hsign := Note.opensWithSign_of_read? (Part.read?_cases h).1 hn
  cases hq : p.quality with
  | nil => rfl
  | cons s tail =>
    rw [hq] at hsign
    exact hsign

theorem Part.reread_of_read? {text rest : List Char} {p : Part}
    (h : Part.read? text = some (p, rest)) : p.reread = p :=
  Part.reread_eq_self (Part.opensWithSign_of_read? h)

theorem Part.slash_notMem_of_read? {text rest : List Char} {p : Part}
    (h : Part.read? text = some (p, rest)) : '/' ∉ p.quality := by
  have hslash := Quality.slash_notMem_take (p.quality ++ rest)
  rwa [(Part.read?_cases h).2] at hslash

theorem Chord.slash_notMem_of_read? {text rest : List Char} {c : Chord}
    (h : Chord.read? text = some (c, rest)) : '/' ∉ c.main.quality := by
  rcases Chord.read?_cases h with ⟨p, rfl, hmain, -⟩ | ⟨p, b, rfl, hmain, -⟩
  · exact Part.slash_notMem_of_read? hmain
  · exact Part.slash_notMem_of_read? hmain

/-- **A chord that a reader takes from a text is what a split finds in it.** -/
theorem Chord.split?_text_of_read? {text rest : List Char} {c : Chord}
    (h : Chord.read? text = some (c, rest)) : Chord.split? c.text = some c := by
  rw [Chord.split?_text (Chord.slash_notMem_of_read? h)]
  rcases Chord.read?_cases h with ⟨p, rfl, hmain, -⟩ | ⟨p, b, rfl, hmain, hbass⟩
  · rw [Part.reread_of_read? hmain]
    rfl
  · rw [Part.reread_of_read? hmain, Option.map_some, Part.reread_of_read? hbass]

end ChordChart
