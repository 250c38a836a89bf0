/-
  File:      ChordChart/Proofs/Transposition/Enharmony.lean
  Subject:   With a target key it does not matter how the black keys of a line were spelled.

  * `Note.enharmonic`: the other name of a black key.  It sounds the same and has a sign too.
  * `Line.Respelled`: a line in which some roots of chords, any of them, have their other name.
    It is cut at the same places (`Line.Respelled.pieces`), since no root gains or loses a sign.
  * **`Transposition.apply_keys_respelled`**: both lines are moved between keys to the same text.
-/
import ChordChart.Proofs.Transposition.Requests
import Mathlib.Data.List.Forall2

namespace ChordChart

/-! ## 1. The other name of a note -/

/-- The other name of a black key; a note that is none has no other name. -/
def Note.enharmonic : Note → Note
  | ⟨.c, .sharp⟩ => ⟨.d, .flat⟩
  | ⟨.d, .flat⟩ => ⟨.c, .sharp⟩
  | ⟨.d, .sharp⟩ => ⟨.e, .flat⟩
  | ⟨.e, .flat⟩ => ⟨.d, .sharp⟩
  | ⟨.f, .sharp⟩ => ⟨.g, .flat⟩
  | ⟨.g, .flat⟩ => ⟨.f, .sharp⟩
  | ⟨.g, .sharp⟩ => ⟨.a, .flat⟩
  | ⟨.a, .flat⟩ => ⟨.g, .sharp⟩
  | ⟨.a, .sharp⟩ => ⟨.b, .flat⟩
  | ⟨.b, .flat⟩ => ⟨.a, .sharp⟩
  | n => n

/-- **The other name is read as the same pitch class.** -/
theorem Note.pitchClass?_enharmonic (n : Note) : n.enharmonic.pitchClass? = n.pitchClass? := by
  obtain ⟨letter, accidental⟩ := n
  cases letter <;> cases accidental <;> decide

theorem Note.accidental_enharmonic_iff (n : Note) :
    n.enharmonic.accidental = .natural ↔ n.accidental = .natural := by
  obtain ⟨letter, accidental⟩ := n
  cases letter <;> cases accidental <;> decide

/-- A move into a key makes no difference between the two names. -/
theorem Note.moved_enharmonic (steps : Steps) (key : Key) (n : Note) :
    n.enharmonic.moved ⟨steps, some key⟩ = n.moved ⟨steps, some key⟩ := by
  cases h : n.pitchClass? with
  | some p =>
    rw [moved_of_canonical _ h, moved_of_canonical _ (n.pitchClass?_enharmonic.trans h)]
    rfl
  | none =>
    have hsame : n.enharmonic = n := by
      obtain ⟨letter, accidental⟩ := n
      cases letter <;> cases accidental <;> first | rfl | exact absurd h (by decide)
    rw [hsame]

/-! ## 2. Respelled lines -/

/-- A part with the same quality, and its root as it was or under its other name. -/
structure Part.Respelled (p q : Part) : Prop where
  quality : q.quality = p.quality
  root : q.root = p.root ∨ q.root = p.root.enharmonic

/-- A chord in which the main root, the root of the bass, both or none have their other name. -/
structure Chord.Respelled (c d : Chord) : Prop where
  main : c.main.Respelled d.main
  bass : Option.Rel Part.Respelled c.bass d.bass

/-- A piece of a line: only chords are respelled. -/
inductive Piece.Respelled : Piece → Piece → Prop where
  | copied (copy : List Char) : Respelled (.copied copy) (.copied copy)
  | chord {c d : Chord} (symbol : c.Respelled d) : Respelled (.chord c) (.chord d)

/-- A line with any of the canonical roots of its chords under their other names. -/
def Line.Respelled (line line' : List Char) : Prop :=
  ∃ ps, List.Forall₂ Piece.Respelled (pieces line) ps ∧ line' = ps.flatMap Piece.text

theorem Part.Respelled.replaces {p q : Part} (h : p.Respelled q) (behind : List Char) :
    q.Replaces behind p := by
  refine ⟨h.quality, fun hn => Or.inl ?_⟩
  rcases h.root with hroot | hroot
  · rwa [hroot] at hn
  · rw [hroot] at hn
    exact p.root.accidental_enharmonic_iff.mp hn

theorem Chord.Respelled.replaces {c d : Chord} (h : c.Respelled d) (behind : List Char) :
    d.Replaces behind c := by
  obtain ⟨p, b⟩ := c
  obtain ⟨q, e⟩ := d
  obtain ⟨hmain, hbass⟩ := h
  cases hbass with
  | none => exact .plain (hmain.replaces behind)
  | some hb => exact .slash (hmain.replaces _) (hb.replaces behind)

theorem Line.replaced_of_respelled {ps qs : List Piece}
    (h : List.Forall₂ Piece.Respelled ps qs) : Replaced ps qs := by
  induction h with
  | nil => exact .nil
  | cons hpiece _ ih =>
    cases hpiece with
    | copied copy => exact .copied copy ih
    | chord symbol => exact .chord (symbol.replaces _) ih

/-- **A respelled line is cut at the same places.** -/
theorem Line.Respelled.pieces {line line' : List Char} (h : Line.Respelled line line') :
    List.Forall₂ Piece.Respelled (Line.pieces line) (Line.pieces line') := by
  obtain ⟨ps, hps, rfl⟩ := h
  have hcut : Line.pieces (ps.flatMap Piece.text) = ps :=
    cut_of_replaced (replaced_of_respelled hps)
  rwa [hcut]

/-! ## 3. Moves between keys -/

section Same

variable {f : Note → Note} (hf : ∀ n : Note, f n.enharmonic = f n)

include hf

theorem Part.Respelled.mapRoot_eq {p q : Part} (h : p.Respelled q) : q.mapRoot f = p.mapRoot f := by
  have hroot : f q.root = f p.root := by
    rcases h.root with hroot | hroot
    · rw [hroot]
    · rw [hroot, hf]
  rw [Part.mapRoot, Part.mapRoot, hroot, h.quality]

theorem Chord.Respelled.mapRoots_eq {c d : Chord} (h : c.Respelled d) :
    d.mapRoots f = c.mapRoots f := by
  obtain ⟨p, b⟩ := c
  obtain ⟨q, e⟩ := d
  obtain ⟨hmain, hbass⟩ := h
  have hp : q.mapRoot f = p.mapRoot f := hmain.mapRoot_eq hf
  cases hbass with
  | none => rw [Chord.mapRoots, Chord.mapRoots, hp, Option.map_none]
  | some hb =>
    rw [Chord.mapRoots, Chord.mapRoots, hp, Option.map_some, Option.map_some, hb.mapRoot_eq hf]

theorem Line.map_mapRoots_eq {ps qs : List Piece} (h : List.Forall₂ Piece.Respelled ps qs) :
    qs.map (Piece.mapRoots f) = ps.map (Piece.mapRoots f) := by
  induction h with
  | nil => rfl
  | cons hpiece _ ih =>
    rw [List.map_cons, List.map_cons, ih]
    cases hpiece with
    | copied copy => rfl
    | chord symbol => rw [Piece.mapRoots, Piece.mapRoots, symbol.mapRoots_eq hf]

/-- Two respelled lines are the same once a function that does not tell the names apart has
    replaced their roots. -/
theorem Line.Respelled.withRoots_eq {line line' : List Char} (h : Line.Respelled line line') :
    Line.withRoots f line' = Line.withRoots f line := by
  rw [Line.withRoots, Line.withRoots, Line.map_mapRoots_eq hf h.pieces]

end Same

namespace Transposition

/-- **Between keys it does not matter which names the black keys had**: a line and one in which any
    of the canonical roots and bass roots of its chords have their other names are moved to the
    same text. -/
theorem apply_keys_respelled {line line' : List Char} (h : Line.Respelled line line')
    {x y : String} {source target : Key} (hx : Key.ofName x = .ok source)
    (hy : Key.ofName y = .ok target) :
    (apply (keys x y) line).value = (apply (keys x y) line').value := by
  rw [value_apply, value_apply, movedNote_of_resolve_ok (resolve_keys hx hy)]
  exact (h.withRoots_eq (Note.moved_enharmonic _ target)).symm

/-- A flat that becomes a sharp before an alteration, and a bass that becomes a flat behind a
    candidate that is passed over. -/
theorem respelled_flatAndBass :
    Line.Respelled "Dbb5 F#C#/A#".toList "C#b5 F#C#/Bb".toList := by
  have hpieces : Line.pieces "Dbb5 F#C#/A#".toList
      = [.chord ⟨⟨⟨.d, .flat⟩, ['b', '5']⟩, none⟩, .copied [' '], .copied ['F', '#'],
          .chord ⟨⟨⟨.c, .sharp⟩, []⟩, some ⟨⟨.a, .sharp⟩, []⟩⟩] := by decide +kernel
  refine ⟨[.chord ⟨⟨⟨.c, .sharp⟩, ['b', '5']⟩, none⟩, .copied [' '], .copied ['F', '#'],
    .chord ⟨⟨⟨.c, .sharp⟩, []⟩, some ⟨⟨.b, .flat⟩, []⟩⟩], ?_, by decide⟩
  rw [hpieces]
  exact .cons (.chord ⟨⟨rfl, Or.inr rfl⟩, .none⟩) <| .cons (.copied _) <| .cons (.copied _) <|
    .cons (.chord ⟨⟨rfl, Or.inl rfl⟩, .some ⟨rfl, Or.inr rfl⟩⟩) .nil

theorem apply_keys_respelled_flatAndBass :
    Line.Respelled "Dbb5 F#C#/A#".toList "C#b5 F#C#/Bb".toList ∧
    Key.ofName "C" = .ok ⟨.c, .major⟩ ∧ Key.ofName " ebMIN" = .ok ⟨.eFlat, .minor⟩ ∧
    (apply (keys "C" " ebMIN") "Dbb5 F#C#/A#".toList).value
      = (apply (keys "C" " ebMIN") "C#b5 F#C#/Bb".toList).value :=
  have hx : Key.ofName "C" = .ok ⟨.c, .major⟩ := by decide +kernel
  have hy : Key.ofName " ebMIN" = .ok ⟨.eFlat, .minor⟩ := by decide +kernel
  ⟨respelled_flatAndBass, hx, hy, apply_keys_respelled respelled_flatAndBass hx hy⟩

end Transposition

end ChordChart
