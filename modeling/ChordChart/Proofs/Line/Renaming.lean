/-
  File:      ChordChart/Proofs/Line/Renaming.lean
  Subject:   Lines that differ in the names of their roots.

  * **`Line.withRoots_eq_iff`**: two functions on notes make the same text of a line only if they
    agree on every root of it.  A sign that one of them leaves out cannot be made up for by the
    text behind the root, since up to the next root letter that text is the same
    (`AgreeToRoot.not_cons`).
  * `Line.byteSize_withRoots`, `Line.places_mapRoots`: functions that put a sign to the same notes
    (`Note.SameSigns`) make texts of the same size, with the chords at the same places.
  * `Line.pieces_withRoots_of_sameSigns`: a line whose roots keep their signs is cut at the same
    places, whatever stands around its chords.
-/
import ChordChart.Proofs.Line.Places
import ChordChart.Proofs.Pitch.Moving

namespace ChordChart

/-! ## 1. Telling names apart -/

/-- A text does not agree with itself behind one more character, unless that is a root letter. -/
theorem AgreeToRoot.not_cons {c : Char} (hc : Letter.ofChar? c = none) {s : List Char} :
    ¬ AgreeToRoot s (c :: s) := by
  intro h
  induction s with
  | nil => cases h
  | cons d s ih =>
    cases h with
    | same _ hrest => exact ih hrest
    | root _ right =>
      rw [hc] at right
      cases right

/-- A sign is not made up for by the text behind it. -/
theorem Accidental.eq_natural_of_append {sign : Accidental} {s t : List Char}
    (h : sign.sign ++ s = t) (hagree : AgreeToRoot s t) : sign = .natural := by
  subst h
  cases sign with
  | natural => rfl
  | sharp => exact (AgreeToRoot.not_cons rfl hagree).elim
  | flat => exact (AgreeToRoot.not_cons rfl hagree).elim

theorem Accidental.sign_append_inj {left right : Accidental} {s t : List Char}
    (h : left.sign ++ s = right.sign ++ t) (hagree : AgreeToRoot s t) : left = right := by
  cases left with
  | natural => exact (eq_natural_of_append h.symm hagree.symm).symm
  | sharp =>
    cases right with
    | natural => exact eq_natural_of_append h hagree
    | sharp => rfl
    | flat => cases h
  | flat =>
    cases right with
    | natural => exact eq_natural_of_append h hagree
    | sharp => cases h
    | flat => rfl

theorem Letter.char_inj {left right : Letter} (h : left.char = right.char) : left = right := by
  have hread := left.ofChar?_char
  rw [h, right.ofChar?_char] at hread
  exact (Option.some.inj hread).symm

theorem Note.text_append_inj {m n : Note} {s t : List Char} (h : m.text ++ s = n.text ++ t)
    (hagree : AgreeToRoot s t) : m = n ∧ s = t := by
  obtain ⟨hchar, hsigns⟩ := List.cons.inj h
  have hletter := Letter.char_inj hchar
  have haccidental := Accidental.sign_append_inj hsigns hagree
  obtain ⟨letter, accidental⟩ := m
  obtain ⟨letter', accidental'⟩ := n
  obtain rfl : letter = letter' := hletter
  obtain rfl : accidental = accidental' := haccidental
  exact ⟨rfl, List.append_cancel_left hsigns⟩

theorem Part.root_eq_of_text_append {f g : Note → Note} {p : Part} {s t : List Char}
    (h : (p.mapRoot f).text ++ s = (p.mapRoot g).text ++ t) (hagree : AgreeToRoot s t) :
    f p.root = g p.root ∧ s = t := by
  rw [Part.text, Part.text, List.append_assoc, List.append_assoc] at h
  obtain ⟨hroot, hrest⟩ := Note.text_append_inj h (hagree.append_left p.quality)
  exact ⟨hroot, List.append_cancel_left hrest⟩

theorem Chord.roots_eq_of_text_append {f g : Note → Note} {c : Chord} {s t : List Char}
    (h : (c.mapRoots f).text ++ s = (c.mapRoots g).text ++ t) (hagree : AgreeToRoot s t) :
    (∀ p ∈ c.parts, f p.root = g p.root) ∧ s = t := by
  obtain ⟨p, bass⟩ := c
  cases bass with
  | none =>
    obtain ⟨hmain, hrest⟩ := Part.root_eq_of_text_append (p := p) h hagree
    refine ⟨fun q hq => ?_, hrest⟩
    rw [List.mem_singleton.mp hq]
    exact hmain
  | some b =>
    have hbehind : AgreeToRoot ('/' :: ((b.mapRoot f).text ++ s))
        ('/' :: ((b.mapRoot g).text ++ t)) :=
      .same '/' ((b.mapRoot f).agree_text (b.mapRoot g) s t)
    have htexts : (p.mapRoot f).text ++ '/' :: ((b.mapRoot f).text ++ s)
        = (p.mapRoot g).text ++ '/' :: ((b.mapRoot g).text ++ t) := by
      simpa [Chord.text, Chord.mapRoots] using h
    obtain ⟨hmain, hslash⟩ := Part.root_eq_of_text_append htexts hbehind
    obtain ⟨hbass, hrest⟩ := Part.root_eq_of_text_append (List.cons.inj hslash).2 hagree
    refine ⟨fun q hq => ?_, hrest⟩
    rcases List.mem_cons.mp hq with rfl | hq
    · exact hmain
    · rw [List.mem_singleton.mp hq]
      exact hbass

namespace Line

theorem agree_mapRoots (f g : Note → Note) (ps : List Piece) :
    AgreeToRoot ((ps.map (Piece.mapRoots f)).flatMap Piece.text)
      ((ps.map (Piece.mapRoots g)).flatMap Piece.text) := by
  induction ps with
  | nil => exact .nil
  | cons p ps ih =>
    cases p with
    | copied copy => exact ih.append_left copy
    | chord symbol => exact (symbol.mapRoots f).agree_text (symbol.mapRoots g) _ _

theorem roots_eq_of_text_eq {f g : Note → Note} {ps : List Piece}
    (h : (ps.map (Piece.mapRoots f)).flatMap Piece.text
      = (ps.map (Piece.mapRoots g)).flatMap Piece.text) :
    ∀ c ∈ ps.filterMap Piece.chord?, ∀ p ∈ c.parts, f p.root = g p.root := by
  induction ps with
  | nil =>
    intro c hc
    cases hc
  | cons p ps ih =>
    cases p with
    | copied copy => exact ih (List.append_cancel_left h)
    | chord symbol =>
      obtain ⟨hroots, hrest⟩ := Chord.roots_eq_of_text_append h (agree_mapRoots f g ps)
      intro c hc
      rcases List.mem_cons.mp hc with rfl | hc
      · exact hroots
      · exact ih hrest c hc

/-- **A line shows every root**: two texts made of a line by replacing its roots are the same only
    if all the new roots are. -/
theorem withRoots_eq_iff {f g : Note → Note} {line : List Char} :
    withRoots f line = withRoots g line ↔ ∀ p ∈ parts line, f p.root = g p.root := by
  constructor
  · intro h p hp
    obtain ⟨c, hc, hpc⟩ := List.mem_flatMap.mp hp
    exact roots_eq_of_text_eq h c hc p hpc
  · exact withRoots_congr

theorem withRoots_eq_self_iff {f : Note → Note} {line : List Char} :
    withRoots f line = line ↔ ∀ p ∈ parts line, f p.root = p.root := by
  have h : withRoots f line = withRoots id line ↔ _ := withRoots_eq_iff
  rwa [withRoots_id] at h

end Line

/-! ## 2. Names of the same size -/

theorem Note.byteSize_text (n : Note) :
    Text.byteSize n.text = if n.accidental = .natural then 1 else 2 := by
  obtain ⟨letter, accidental⟩ := n
  cases letter <;> cases accidental <;> rfl

section SameSize

variable {f g : Note → Note} (h : Note.SameSigns f g)

include h

theorem Part.byteSize_mapRoot (p : Part) :
    Text.byteSize (p.mapRoot f).text = Text.byteSize (p.mapRoot g).text := by
  have hroot : Text.byteSize (f p.root).text = Text.byteSize (g p.root).text := by
    rw [Note.byteSize_text, Note.byteSize_text]
    exact if_congr (h p.root) rfl rfl
  show Text.byteSize ((f p.root).text ++ p.quality) = Text.byteSize ((g p.root).text ++ p.quality)
  rw [Text.byteSize_append, Text.byteSize_append, hroot]

theorem Chord.byteSize_mapRoots (c : Chord) :
    Text.byteSize (c.mapRoots f).text = Text.byteSize (c.mapRoots g).text := by
  obtain ⟨p, bass⟩ := c
  cases bass with
  | none => exact p.byteSize_mapRoot h
  | some b =>
    show Text.byteSize ((p.mapRoot f).text ++ '/' :: (b.mapRoot f).text)
      = Text.byteSize ((p.mapRoot g).text ++ '/' :: (b.mapRoot g).text)
    rw [Text.byteSize_append, Text.byteSize_append, p.byteSize_mapRoot h, Text.byteSize,
      Text.byteSize, b.byteSize_mapRoot h]

/-- Lines with other roots have the same size if the same roots have a sign. -/
theorem Line.byteSize_withRoots (line : List Char) :
    Text.byteSize (withRoots f line) = Text.byteSize (withRoots g line) := by
  unfold withRoots
  induction pieces line with
  | nil => rfl
  | cons p ps ih =>
    simp only [List.map_cons, List.flatMap_cons, Text.byteSize_append, ih]
    cases p with
    | copied copy => rfl
    | chord symbol => exact congrArg (· + _) (symbol.byteSize_mapRoots h)

/-- Their chords stand at the same places. -/
theorem Line.places_mapRoots (offset : Nat) (ps : List Piece) :
    (spansFrom offset (ps.map (Piece.mapRoots f))).map Span.place
      = (spansFrom offset (ps.map (Piece.mapRoots g))).map Span.place := by
  induction ps generalizing offset with
  | nil => rfl
  | cons p ps ih =>
    cases p with
    | copied copy => exact ih _
    | chord symbol =>
      have hsize := symbol.byteSize_mapRoots h
      show (offset, Text.byteSize (symbol.mapRoots f).text) :: _
        = (offset, Text.byteSize (symbol.mapRoots g).text) :: _
      rw [hsize, ih]

end SameSize

/-! ## 3. Lines whose roots keep their signs -/

theorem Part.replaces_mapRoot {f : Note → Note} (h : Note.SameSigns f id) (behind : List Char)
    (p : Part) : (p.mapRoot f).Replaces behind p :=
  ⟨rfl, fun hn => Or.inl ((h p.root).mp hn)⟩

theorem Chord.replaces_mapRoots {f : Note → Note} (h : Note.SameSigns f id) (behind : List Char)
    (c : Chord) : (c.mapRoots f).Replaces behind c := by
  obtain ⟨p, bass⟩ := c
  cases bass with
  | none => exact .plain (p.replaces_mapRoot h behind)
  | some b => exact .slash (p.replaces_mapRoot h _) (b.replaces_mapRoot h behind)

namespace Line

/-- **A line whose roots keep their signs is cut at the same places**, also where a chord stands
    before a sharp or a root before a second sign. -/
theorem pieces_withRoots_of_sameSigns {f : Note → Note} (h : Note.SameSigns f id)
    (line : List Char) : pieces (withRoots f line) = (pieces line).map (Piece.mapRoots f) :=
  cut_of_replaced (replaced_mapRoots fun o _ => o.1.replaces_mapRoots h o.2)

/-- The chords of such a line stand where they stood. -/
theorem places_withRoots {f : Note → Note} (h : Note.SameSigns f id) (line : List Char) :
    (spans (withRoots f line)).map Span.place = (spans line).map Span.place := by
  have hid : Piece.mapRoots id = id := funext Piece.mapRoots_id
  rw [spans, pieces_withRoots_of_sameSigns h, places_mapRoots h, hid, List.map_id, spans]

end Line

end ChordChart
