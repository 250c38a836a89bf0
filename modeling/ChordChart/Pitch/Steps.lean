/-
  File:      ChordChart/Pitch/Steps.lean
  Subject:   Distances in semitones and their reduction to one octave.

  A distance is a signed 32-bit word.  Two reductions are used: the
  remainder in the octave, `0 .. 11`, and the nearest equivalent distance,
  `-5 .. 6`.  Both stay far inside the word, whatever the argument.
-/

namespace ChordChart

/-- A signed number of semitones; upwards is positive. -/
abbrev Steps := Int32

namespace Steps

/-- The distance left when whole octaves are taken away, `0 .. 11`. -/
def inOctave (n : Steps) : Steps :=
  let remainder := n % 12
  if remainder < 0 then remainder + 12 else remainder

/-- The shortest distance to the same pitch class, `-5 .. 6`; a tritone goes up. -/
def nearest (n : Steps) : Steps :=
  if 6 < n.inOctave then n.inOctave - 12 else n.inOctave

/-- The distance in decimal with its sign always written; zero is `+0`. -/
def signed (n : Steps) : String :=
  (if n < 0 then "-" else "+") ++ Nat.repr n.toInt.natAbs

/-! ## 1. The reductions as integers -/

theorem toInt_remainder (n : Steps) : (n % 12).toInt = n.toInt.tmod 12 := by
  rw [Int32.toInt_mod]
  rfl

/-- A remainder is raised by an octave inside the word. -/
theorem toInt_remainder_add (n : Steps) : (n % 12 + 12).toInt = n.toInt.tmod 12 + 12 := by
  have htwelve : (12 : Int32).toInt = 12 := by decide
  have htmod := Int.tmod_eq_emod (a := n.toInt) (b := 12)
  rw [Int32.toInt_add, htwelve, toInt_remainder, Int.bmod_eq_of_le] <;>
    split at htmod <;> omega

theorem toInt_inOctave (n : Steps) : n.inOctave.toInt = n.toInt % 12 := by
  have hzero : (0 : Int32).toInt = 0 := by decide
  have htmod := Int.tmod_eq_emod (a := n.toInt) (b := 12)
  unfold inOctave
  simp only [Int32.lt_iff_toInt_lt, hzero, toInt_remainder]
  split
  · rw [toInt_remainder_add]
    split at htmod <;> omega
  · rw [toInt_remainder]
    split at htmod <;> omega

/-- A distance in the octave is lowered by an octave inside the word. -/
theorem toInt_inOctave_sub (n : Steps) : (n.inOctave - 12).toInt = n.toInt % 12 - 12 := by
  have htwelve : (12 : Int32).toInt = 12 := by decide
  rw [Int32.toInt_sub, htwelve, toInt_inOctave, Int.bmod_eq_of_le] <;> omega

theorem toInt_nearest (n : Steps) :
    n.nearest.toInt = if 6 < n.toInt % 12 then n.toInt % 12 - 12 else n.toInt % 12 := by
  have hsix : (6 : Int32).toInt = 6 := by decide
  unfold nearest
  simp only [Int32.lt_iff_toInt_lt, hsix, toInt_inOctave]
  split
  · rw [toInt_inOctave_sub]
  · rw [toInt_inOctave]

end Steps

end ChordChart
