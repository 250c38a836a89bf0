/-
  File:      ChordChart/Proofs/Transposition/Composition.lean
  Subject:   Requests after each other as one request.

  * **`Transposition.session_ends_in_key`**: after a change between keys nothing is left of what
    came before but its distance; the line is the first one moved into the last key.
  * **`Transposition.steps_act`**: without keys the steps act on lines without flats as the
    integers modulo twelve, text for text.
-/
import ChordChart.Proofs.Transposition.Session

namespace ChordChart

namespace Transposition

/-! ## 1. The last key -/

/-- The last line of a session is what its last request makes of the line before. -/
theorem getLast?_session (line : List Char) (ts : List Transposition) (t : Transposition) :
    (session line (ts ++ [t])).value.getLast? = some (t.apply (applyAll line ts)).value := by
  have hlength := length_session line (ts ++ [t])
  rw [List.length_append, List.length_singleton] at hlength
  have hlast : ts.length < (ts ++ [t]).length := by
    rw [List.length_append, List.length_singleton]
    exact Nat.lt_succ_self _
  have htake : (ts ++ [t]).take (ts.length + 1) = ts ++ [t] := by
    rw [List.take_of_length_le]
    exact Nat.le_of_eq (List.length_append ..)
  rw [List.getLast?_eq_getElem?, hlength, Nat.add_sub_cancel, getElem?_session line hlast, htake,
    applyAll, List.foldl_append]
  rfl

/-- A change between keys on a line whose roots were moved is a move of the line itself. -/
theorem apply_keys_withRoots {line : List Char} (h : Line.Settled line) {a : Int}
    {f : Note → Note} (hf : Note.MovesBy a f) {x y : String} {source target : Key}
    (hx : Key.ofName x = .ok source) (hy : Key.ofName y = .ok target) {n : Steps}
    (hn : n.toInt ≡ a + (source.stepsTo target).toInt [ZMOD 12]) :
    (apply (keys x y) (Line.withRoots f line)).value
      = (Line.transposed ⟨n, some target⟩ line).value := by
  rw [value_apply, h.withRoots_comp, movedNote_keys hx hy, Line.value_transposed]
  exact Line.withRoots_congr fun p _ => Note.moved_target hf target hn p.root

/-- Two changes between keys, the second from where the first led, are one. -/
theorem apply_keys_keys {line : List Char} (h : Line.Settled line) {x y z : String}
    {a b c : Key} (hx : Key.ofName x = .ok a) (hy : Key.ofName y = .ok b)
    (hz : Key.ofName z = .ok c) :
    (apply (keys y z) (apply (keys x y) line).value).value = (apply (keys x z) line).value := by
  have hsum : (a.stepsTo c).toInt ≡ (a.stepsTo b).toInt + (b.stepsTo c).toInt [ZMOD 12] := by
    rw [Key.toInt_stepsTo, Key.toInt_stepsTo, Key.toInt_stepsTo]
    have heq : (c.root.index.val : Int) - a.root.index.val
        = (b.root.index.val - a.root.index.val) + (c.root.index.val - b.root.index.val) := by
      omega
    rw [heq]
  have hfirst := movesBy_movedNote (keys x y)
  rw [shift_keys hx hy] at hfirst
  rw [value_apply (keys x y), apply_keys_withRoots h hfirst hy hz hsum, value_apply,
    movedNote_keys hx hz, Line.value_transposed, moveBetween]

/-- **The last key wins**: a session on a settled line that ends in a change between two keys
    gives the line with every chord moved once into the last key, by the sum of all distances.
    In particular two changes of key by way of a third are one, and there and back is a change
    from a key to itself. -/
theorem session_ends_in_key {line : List Char} (h : Line.Settled line) :
    (∀ (ts : List Transposition) (x y : String) (source target : Key) (n : Steps),
      Key.ofName x = .ok source → Key.ofName y = .ok target →
      n.toInt ≡ ((ts ++ [keys x y]).map shift).sum [ZMOD 12] →
      (session line (ts ++ [keys x y])).value.getLast?
        = some (Line.transposed ⟨n, some target⟩ line).value) ∧
    (∀ (x y z : String) (a b c : Key),
      Key.ofName x = .ok a → Key.ofName y = .ok b → Key.ofName z = .ok c →
      (apply (keys y z) (apply (keys x y) line).value).value
        = (apply (keys x z) line).value) ∧
    (∀ (x y : String) (a b : Key), Key.ofName x = .ok a → Key.ofName y = .ok b →
      (apply (keys y x) (apply (keys x y) line).value).value
        = (apply (keys x x) line).value) := by
  refine ⟨?_, ?_, ?_⟩
  · intro ts x y source target n hx hy hn
    obtain ⟨f, hf, hall⟩ := applyAll_eq_withRoots h ts
    rw [List.map_append, List.sum_append, List.map_singleton, List.sum_singleton,
      shift_keys hx hy] at hn
    rw [getLast?_session, hall, apply_keys_withRoots h hf hx hy hn]
  · intro x y z a b c hx hy hz
    exact apply_keys_keys h hx hy hz
  · intro x y a b hx hy
    exact apply_keys_keys h hx hy hx

theorem session_ends_in_key_minorKeys :
    Line.Settled passedOverLine ∧
    Key.ofName "am" = .ok ⟨.a, .minor⟩ ∧ Key.ofName " Bbmin" = .ok ⟨.bFlat, .minor⟩ ∧
    Key.ofName "c" = .ok ⟨.c, .major⟩ ∧
    (-9 : Steps).toInt ≡ ((unresolvedKeySession ++ [keys "am" " Bbmin"]).map shift).sum [ZMOD 12] ∧
    (session passedOverLine (unresolvedKeySession ++ [keys "am" " Bbmin"])).value.getLast?
      = some (Line.transposed ⟨-9, some ⟨.bFlat, .minor⟩⟩ passedOverLine).value ∧
    (apply (keys " Bbmin" "c") (apply (keys "am" " Bbmin") passedOverLine).value).value
      = (apply (keys "am" "c") passedOverLine).value ∧
    (apply (keys " Bbmin" "am") (apply (keys "am" " Bbmin") passedOverLine).value).value
      = (apply (keys "am" "am") passedOverLine).value :=
  have hx : Key.ofName "am" = .ok ⟨.a, .minor⟩ := by decide +kernel
  have hy : Key.ofName " Bbmin" = .ok ⟨.bFlat, .minor⟩ := by decide +kernel
  have hz : Key.ofName "c" = .ok ⟨.c, .major⟩ := by decide +kernel
  have hn : (-9 : Steps).toInt
      ≡ ((unresolvedKeySession ++ [keys "am" " Bbmin"]).map shift).sum [ZMOD 12] := by
    decide +kernel
  have hends := session_ends_in_key settled_passedOverLine
  ⟨settled_passedOverLine, hx, hy, hz, hn, hends.1 _ _ _ _ _ _ hx hy hn,
    hends.2.1 _ _ _ _ _ _ hx hy hz, hends.2.2 _ _ _ _ hx hy⟩

/-! ## 2. Steps without a key -/

/-- **Steps act as the integers modulo twelve** on a line that has no canonical flat, no chord
    directly before a sharp and no sharp root directly before another sign: a step after a step is
    any step congruent to their sum, and a step back restores the line. -/
theorem steps_act {line : List Char}
    (hflat : ∀ p ∈ Line.parts line, p.root.pitchClass?.isSome → p.root.accidental ≠ .flat)
    (hbehind : ∀ o ∈ Line.occurrences (Line.pieces line), o.2.head? ≠ some '#')
    (hsecond : ∀ p ∈ Line.parts line, p.root.accidental = .sharp →
      Quality.opensWithSign p.quality = false) :
    (∀ a b c : Steps, c.toInt ≡ a.toInt + b.toInt [ZMOD 12] →
      (apply (steps b) (apply (steps a) line).value).value = (apply (steps c) line).value) ∧
    (∀ n k : Steps, k.toInt ≡ -n.toInt [ZMOD 12] →
      (apply (steps k) (apply (steps n) line).value).value = line) := by
  have hpieces (a : Steps) : Line.pieces (Line.withRoots (Note.moved (moveBy a)) line)
      = (Line.pieces line).map (Piece.mapRoots (Note.moved (moveBy a))) := by
    refine Line.pieces_withRoots hbehind fun p hp hmoved => ?_
    cases hacc : p.root.accidental with
    | natural => exact Or.inl rfl
    | sharp => exact Or.inr (hsecond p hp hacc)
    | flat =>
      -- a flat that is not canonical keeps its sign
      cases hk : p.root.pitchClass? with
      | some k => exact absurd hacc (hflat p hp (by rw [hk]; rfl))
      | none =>
        rw [Note.moved_of_foreign _ hk, hacc] at hmoved
        cases hmoved
  have hsum (a b c : Steps) (h : c.toInt ≡ a.toInt + b.toInt [ZMOD 12]) :
      (apply (steps b) (apply (steps a) line).value).value
        = Line.withRoots (Note.moved (moveBy c)) line := by
    rw [value_apply_steps, value_apply_steps, Line.withRoots_comp _ (hpieces a)]
    refine Line.withRoots_congr fun p hp => Note.moved_moved ?_ (hflat p hp)
    calc c.nearest.toInt ≡ c.toInt [ZMOD 12] := toInt_nearest_modEq c
      _ ≡ a.toInt + b.toInt [ZMOD 12] := h
      _ ≡ a.nearest.toInt + b.nearest.toInt [ZMOD 12] :=
        ((toInt_nearest_modEq a).add (toInt_nearest_modEq b)).symm
  constructor
  · intro a b c h
    rw [hsum a b c h, value_apply_steps]
  · intro n k h
    have hzero : (0 : Steps).toInt ≡ n.toInt + k.toInt [ZMOD 12] := by
      have := h.add_left n.toInt
      rw [Int.add_right_neg] at this
      exact this.symm
    have hid : Note.moved (moveBy 0) = id :=
      funext fun x => Note.moved_octaves (toInt_nearest_modEq 0) x
    rw [hsum n k 0 hzero, hid, Line.withRoots_id]

/-- A line with sharps, with a flat that is not canonical before an alteration, and with a
    natural in a bass. -/
def sharpLine : List Char := "(F#m7 | Cbb5 E/G#) B#/D, Bridge: G#m7b5".toList

theorem steps_act_sharpLine :
    (∀ p ∈ Line.parts sharpLine, p.root.pitchClass?.isSome → p.root.accidental ≠ .flat) ∧
    (∀ o ∈ Line.occurrences (Line.pieces sharpLine), o.2.head? ≠ some '#') ∧
    (∀ p ∈ Line.parts sharpLine, p.root.accidental = .sharp →
      Quality.opensWithSign p.quality = false) ∧
    (-2147483648 : Steps).toInt ≡ (7 : Steps).toInt + (-3 : Steps).toInt [ZMOD 12] ∧
    (apply (steps (-3)) (apply (steps 7) sharpLine).value).value
      = (apply (steps (-2147483648)) sharpLine).value ∧
    (apply (steps 5) (apply (steps 7) sharpLine).value).value = sharpLine :=
  have hflat : ∀ p ∈ Line.parts sharpLine, p.root.pitchClass?.isSome →
      p.root.accidental ≠ .flat := by decide +kernel
  have hbehind : ∀ o ∈ Line.occurrences (Line.pieces sharpLine), o.2.head? ≠ some '#' := by
    decide +kernel
  have hsecond : ∀ p ∈ Line.parts sharpLine, p.root.accidental = .sharp →
      Quality.opensWithSign p.quality = false := by decide +kernel
  have hsum : (-2147483648 : Steps).toInt ≡ (7 : Steps).toInt + (-3 : Steps).toInt [ZMOD 12] := by
    decide
  have hact := steps_act hflat hbehind hsecond
  ⟨hflat, hbehind, hsecond, hsum, hact.1 7 (-3) (-2147483648) hsum, hact.2 7 5 (by decide)⟩

end Transposition

end ChordChart
