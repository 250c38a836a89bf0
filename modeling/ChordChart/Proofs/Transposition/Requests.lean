/-
  File:      ChordChart/Proofs/Transposition/Requests.lean
  Subject:   What each kind of request does to the roots of a line.

  * `Transposition.value_apply`: the line that a request gives is the old one with the roots
    moved by `movedNote`; a request that cannot be resolved moves nothing.
  * `Transposition.movesBy_movedNote`: `movedNote` goes by the distance that is asked for
    (`shift`), up to whole octaves.
  * `Transposition.value_apply_keys`, `Transposition.value_apply_steps`,
    `Transposition.value_apply_interval`: the same for each kind of request by itself.
-/
import ChordChart.Transposition
import ChordChart.Proofs.Transposition.Rewriting

namespace ChordChart

/-! ## 1. The distance between keys -/

/-- The distance between keys is that of their tonics as plain integers. -/
theorem Key.toInt_stepsTo (source target : Key) :
    (source.stepsTo target).toInt = target.root.index.val - source.root.index.val := by
  have hsource := source.root.index.isLt
  have htarget := target.root.index.isLt
  rw [stepsTo, Int32.toInt_sub, PitchClass.toInt_steps, PitchClass.toInt_steps,
    Int.bmod_eq_of_le] <;> omega

theorem Key.toInt_stepsTo_of_root_eq {source target : Key} (h : source.root = target.root) :
    (source.stepsTo target).toInt ≡ 0 [ZMOD 12] := by
  rw [toInt_stepsTo, h, Int.sub_self]

namespace Transposition

/-! ## 2. Requests as functions on notes -/

/-- What a request does to notes: nothing if it cannot be resolved. -/
def movedNote (t : Transposition) (n : Note) : Note :=
  match t.resolve with
  | .ok move => n.moved move.value
  | .error _ => n

theorem movedNote_of_resolve_ok {t : Transposition} {move : Logged Move}
    (h : t.resolve = .ok move) : t.movedNote = Note.moved move.value := by
  funext n
  simp only [movedNote, h]

theorem movedNote_of_resolve_error {t : Transposition} {cause : Failure}
    (h : t.resolve = .error cause) : t.movedNote = id := by
  funext n
  simp only [movedNote, h, id]

theorem apply_of_resolve_ok {t : Transposition} {move : Logged Move}
    (h : t.resolve = .ok move) (line : List Char) :
    t.apply line = ⟨(Line.transposed move.value line).value,
      move.events ++ (Line.transposed move.value line).events⟩ := by
  rw [apply, attempt, h]
  rfl

theorem apply_of_resolve_error {t : Transposition} {cause : Failure}
    (h : t.resolve = .error cause) (line : List Char) :
    t.apply line = ⟨line, [.lineKept cause]⟩ := by
  rw [apply, attempt, h]
  rfl

/-- **The text that a request gives is the line with the roots it moves.** -/
theorem value_apply (t : Transposition) (line : List Char) :
    (t.apply line).value = Line.withRoots t.movedNote line := by
  cases h : t.resolve with
  | ok move =>
    rw [movedNote_of_resolve_ok h, ← Line.value_transposed, apply_of_resolve_ok h]
  | error cause =>
    rw [movedNote_of_resolve_error h, Line.withRoots_id, apply_of_resolve_error h]

/-! ## 3. Distances -/

/-- The distance that a request moves a line, as a plain integer; nothing if it cannot be
    resolved. -/
def shift : Transposition → Int
  | .keys source target =>
    match Key.ofName source, Key.ofName target with
    | .ok source, .ok target => (source.stepsTo target).toInt
    | _, _ => 0
  | .steps count => count.toInt
  | .interval name =>
    match Interval.ofName? name with
    | some found => found.steps.toInt
    | none => 0

theorem toInt_nearest_modEq (n : Steps) : n.nearest.toInt ≡ n.toInt [ZMOD 12] := by
  show n.nearest.toInt % 12 = n.toInt % 12
  rw [Steps.toInt_nearest]
  split <;> omega

theorem resolve_keys {source target : String} {s t : Key} (hs : Key.ofName source = .ok s)
    (ht : Key.ofName target = .ok t) :
    resolve (.keys source target)
      = .ok ⟨moveBetween s t, [.changingKey s t (s.stepsTo t)]⟩ := by
  rw [resolve, key?, key?, hs, ht]
  rfl

/-- The distance of a request is that of the move it is resolved to, up to whole octaves. -/
theorem shift_modEq_resolve (t : Transposition) :
    t.shift ≡ (match t.resolve with
      | .ok move => move.value.steps.toInt
      | .error _ => 0) [ZMOD 12] := by
  cases t with
  | steps count => exact (toInt_nearest_modEq count).symm
  | interval name =>
    cases hname : Interval.ofName? name with
    | none =>
      simp only [shift, resolve, hname]
      exact Int.ModEq.refl _
    | some found =>
      simp only [shift, resolve, hname]
      exact (toInt_nearest_modEq found.steps).symm
  | keys source target =>
    cases hs : Key.ofName source with
    | error cause =>
      simp only [shift, resolve, key?, hs]
      exact Int.ModEq.refl _
    | ok s =>
      cases ht : Key.ofName target with
      | error cause =>
        simp only [shift, resolve, key?, hs, ht]
        exact Int.ModEq.refl _
      | ok k =>
        simp only [shift, hs, ht, resolve_keys hs ht]
        exact Int.ModEq.refl _

/-- **A request moves notes by its distance**, up to whole octaves. -/
theorem movesBy_movedNote (t : Transposition) : Note.MovesBy t.shift t.movedNote := by
  have hshift := t.shift_modEq_resolve
  cases h : t.resolve with
  | ok move =>
    rw [h] at hshift
    rw [movedNote_of_resolve_ok h]
    exact (Note.movesBy_moved move.value).congr hshift.symm
  | error cause =>
    rw [h] at hshift
    rw [movedNote_of_resolve_error h]
    exact Note.movesBy_id.congr hshift.symm

/-! ## 4. Each kind of request -/

theorem movedNote_keys {x y : String} {source target : Key} (hx : Key.ofName x = .ok source)
    (hy : Key.ofName y = .ok target) :
    movedNote (keys x y) = Note.moved (moveBetween source target) := by
  rw [movedNote_of_resolve_ok (resolve_keys hx hy)]

theorem shift_keys {x y : String} {source target : Key} (hx : Key.ofName x = .ok source)
    (hy : Key.ofName y = .ok target) : shift (keys x y) = (source.stepsTo target).toInt := by
  simp only [shift, hx, hy]

theorem value_apply_keys {x y : String} {source target : Key} (hx : Key.ofName x = .ok source)
    (hy : Key.ofName y = .ok target) (line : List Char) :
    (apply (keys x y) line).value
      = Line.withRoots (Note.moved (moveBetween source target)) line := by
  rw [value_apply, movedNote_keys hx hy]

theorem value_apply_steps (n : Steps) (line : List Char) :
    (apply (steps n) line).value = Line.withRoots (Note.moved (moveBy n)) line := by
  rw [value_apply]
  rfl

/-- An interval is moved as its size in steps. -/
theorem value_apply_interval {name : String} {i : Interval} (h : Interval.ofName? name = some i)
    (line : List Char) :
    (apply (interval name) line).value = (apply (steps i.steps) line).value := by
  have hresolve : resolve (interval name) = .ok (pure (moveBy i.steps)) := by
    simp only [resolve, h]
  rw [value_apply, movedNote_of_resolve_ok hresolve, value_apply_steps]
  rfl

end Transposition

end ChordChart
