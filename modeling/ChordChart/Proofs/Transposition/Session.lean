/-
  File:      ChordChart/Proofs/Transposition/Session.lean
  Subject:   A line after any number of requests.

  A settled line has no chord directly before a sharp and no root with a sign directly before
  another sign (`Line.Settled`).  On such a line requests of all kinds may follow each other:

  * `Line.Settled.withRoots_comp`: replacing roots twice is replacing them once;
  * `Transposition.apply_withRoots`, `Transposition.applyAll_withRoots`: the step and the run
    lemma -- what a session has made of the line is the line with its roots moved by the sum of
    the distances;
  * **`Transposition.session_carried`**: so at every step of a session the same chords stand
    between the same texts, with the same qualities, and their canonical roots are moved by the
    sum of the distances so far.
-/
import ChordChart.Proofs.Transposition.Requests
import Mathlib.Data.List.Forall2

namespace ChordChart

/-! ## 1. Settled lines -/

/-- No chord stands directly before a sharp, and no root with a sign before another sign. -/
structure Line.Settled (line : List Char) : Prop where
  noSharpBehind : ∀ o ∈ occurrences (pieces line), o.2.head? ≠ some '#'
  noSecondSign : ∀ p ∈ parts line, p.root.accidental ≠ .natural →
    Quality.opensWithSign p.quality = false

namespace Line

variable {line : List Char}

/-- A settled line is cut at the same places whatever its roots become. -/
theorem Settled.pieces_withRoots (h : Settled line) (f : Note → Note) :
    pieces (withRoots f line) = (pieces line).map (Piece.mapRoots f) := by
  refine Line.pieces_withRoots h.noSharpBehind fun p hp _ => ?_
  by_cases hn : p.root.accidental = .natural
  · exact Or.inl hn
  · exact Or.inr (h.noSecondSign p hp hn)

/-- Replacing the roots of a line twice is replacing them once, if it is cut at the same places
    in between. -/
theorem withRoots_comp {f : Note → Note} (g : Note → Note)
    (h : pieces (withRoots f line) = (pieces line).map (Piece.mapRoots f)) :
    withRoots g (withRoots f line) = withRoots (g ∘ f) line := by
  have hcomp : Piece.mapRoots g ∘ Piece.mapRoots f = Piece.mapRoots (g ∘ f) :=
    funext (Piece.mapRoots_comp g f)
  rw [withRoots, h, List.map_map, hcomp, withRoots]

theorem Settled.withRoots_comp (h : Settled line) (g f : Note → Note) :
    withRoots g (withRoots f line) = withRoots (g ∘ f) line :=
  Line.withRoots_comp g (h.pieces_withRoots f)

end Line

/-! ## 2. Runs -/

namespace Transposition

/-- The line when all requests have been carried out in turn. -/
def applyAll (line : List Char) (ts : List Transposition) : List Char :=
  ts.foldl (fun current t => (t.apply current).value) line

theorem length_session (line : List Char) (ts : List Transposition) :
    (session line ts).value.length = ts.length := by
  induction ts generalizing line with
  | nil => rfl
  | cons t ts ih => exact congrArg (· + 1) (ih (t.apply line).value)

/-- The lines of a session are what its beginnings make of the line. -/
theorem getElem?_session (line : List Char) {ts : List Transposition} {i : Nat}
    (hi : i < ts.length) :
    (session line ts).value[i]? = some (applyAll line (ts.take (i + 1))) := by
  induction ts generalizing line i with
  | nil => cases hi
  | cons t ts ih =>
    cases i with
    | zero => rfl
    | succ i => exact ih (t.apply line).value (Nat.lt_of_succ_lt_succ hi)

/-- **The step lemma**: a request on a settled line whose roots have been moved by a distance gives
    the line with its roots moved by the sum. -/
theorem apply_withRoots {line : List Char} (h : Line.Settled line) {n : Int} {f : Note → Note}
    (hf : Note.MovesBy n f) (t : Transposition) :
    ∃ g, Note.MovesBy (n + t.shift) g ∧
      (t.apply (Line.withRoots f line)).value = Line.withRoots g line := by
  refine ⟨t.movedNote ∘ f, (movesBy_movedNote t).comp hf, ?_⟩
  rw [value_apply, h.withRoots_comp]

/-- **The run lemma**: so does a session, by the sum of all its distances. -/
theorem applyAll_withRoots {line : List Char} (h : Line.Settled line) {n : Int} {f : Note → Note}
    (hf : Note.MovesBy n f) (ts : List Transposition) :
    ∃ g, Note.MovesBy (n + (ts.map shift).sum) g ∧
      applyAll (Line.withRoots f line) ts = Line.withRoots g line := by
  induction ts generalizing n f with
  | nil =>
    refine ⟨f, ?_, rfl⟩
    rwa [List.map_nil, List.sum_nil, Int.add_zero]
  | cons t ts ih =>
    obtain ⟨f', hf', hstep⟩ := apply_withRoots h hf t
    obtain ⟨g, hg, hall⟩ := ih hf'
    refine ⟨g, ?_, ?_⟩
    · rwa [List.map_cons, List.sum_cons, ← Int.add_assoc]
    · show applyAll (t.apply (Line.withRoots f line)).value ts = _
      rw [hstep, hall]

theorem applyAll_eq_withRoots {line : List Char} (h : Line.Settled line)
    (ts : List Transposition) :
    ∃ g, Note.MovesBy (ts.map shift).sum g ∧ applyAll line ts = Line.withRoots g line := by
  obtain ⟨g, hg, hall⟩ := applyAll_withRoots h Note.movesBy_id ts
  rw [Int.zero_add] at hg
  rw [Line.withRoots_id] at hall
  exact ⟨g, hg, hall⟩

end Transposition

/-! ## 3. What a session carries along -/

/-- A part moved by a distance: a canonical root sounds that much higher, another root and the
    quality are as before. -/
structure Part.Moved (n : Int) (p q : Part) : Prop where
  quality : q.quality = p.quality
  canonical : ∀ k : PitchClass, p.root.pitchClass? = some k →
    ∃ l : PitchClass, q.root.pitchClass? = some l ∧ (l.index.val : Int) = (k.index.val + n) % 12
  foreign : p.root.pitchClass? = none → q.root = p.root

/-- A chord moved by a distance; it has a bass exactly if it had one. -/
structure Chord.Moved (n : Int) (c d : Chord) : Prop where
  main : c.main.Moved n d.main
  bass : Option.Rel (Part.Moved n) c.bass d.bass

/-- A line whose chords are moved by a distance, as many as there were and in the same order, and
    whose other text is as it was. -/
structure Line.Carried (n : Int) (before after : List Char) : Prop where
  gaps : gaps after = gaps before
  chords : List.Forall₂ (Chord.Moved n) (chords before) (chords after)

theorem Part.moved_mapRoot {n : Int} {f : Note → Note} (hf : Note.MovesBy n f) (p : Part) :
    p.Moved n (p.mapRoot f) where
  quality := rfl
  canonical _ h := hf.canonical h
  foreign h := hf.foreign h

theorem Chord.moved_mapRoots {n : Int} {f : Note → Note} (hf : Note.MovesBy n f) (c : Chord) :
    c.Moved n (c.mapRoots f) := by
  obtain ⟨main, bass⟩ := c
  refine ⟨main.moved_mapRoot hf, ?_⟩
  cases bass with
  | none => exact .none
  | some bass => exact .some (bass.moved_mapRoot hf)

theorem Line.Settled.carried_withRoots {line : List Char} (h : Line.Settled line) {n : Int}
    {f : Note → Note} (hf : Note.MovesBy n f) : Line.Carried n line (Line.withRoots f line) where
  gaps := by rw [Line.gaps, h.pieces_withRoots, Line.gapsFrom_mapRoots, Line.gaps]
  chords := by
    rw [Line.chords, Line.chords, h.pieces_withRoots, Line.chords_mapRoots,
      List.forall₂_map_right_iff, List.forall₂_same]
    exact fun c _ => c.moved_mapRoots hf

/-- **The session invariant**: a session on a settled line gives a line for every request, and
    after each of them the same chords stand between the same texts, moved by the sum of the
    distances so far. -/
theorem Transposition.session_carried {line : List Char} (h : Line.Settled line)
    (ts : List Transposition) :
    (session line ts).value.length = ts.length ∧
    ∀ (i : Nat) (out : List Char), (session line ts).value[i]? = some out →
      Line.Carried ((ts.take (i + 1)).map shift).sum line out := by
  refine ⟨length_session line ts, fun i out hout => ?_⟩
  have hi : i < ts.length := by
    rw [← length_session line ts]
    exact (List.getElem?_eq_some_iff.mp hout).1
  obtain ⟨g, hg, hall⟩ := applyAll_eq_withRoots h (ts.take (i + 1))
  rw [getElem?_session line hi, hall] at hout
  cases hout
  exact h.carried_withRoots hg

/-- A line with a passed over candidate, a bass, a root that is not canonical and alterations. -/
def passedOverLine : List Char := "♪ Cmaj7  F#m7b5/C# | E#/Bb F#C x/Dm!".toList

/-- Requests of all three kinds, one of which cannot be resolved. -/
def unresolvedKeySession : List Transposition :=
  [.steps (-7), .keys "c" "Ebmin", .keys "H" "C", .interval "Tritone"]

theorem settled_passedOverLine : Line.Settled passedOverLine where
  noSharpBehind := by decide +kernel
  noSecondSign := by decide +kernel

theorem Transposition.session_carried_unresolvedKey :
    Line.Settled passedOverLine ∧ (session passedOverLine unresolvedKeySession).value.length = 4 ∧
    ∀ (i : Nat) (out : List Char),
      (session passedOverLine unresolvedKeySession).value[i]? = some out →
      Line.Carried ((unresolvedKeySession.take (i + 1)).map shift).sum passedOverLine out :=
  ⟨settled_passedOverLine, session_carried settled_passedOverLine unresolvedKeySession⟩

end ChordChart
