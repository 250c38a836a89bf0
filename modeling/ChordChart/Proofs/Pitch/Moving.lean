/-
  File:      ChordChart/Proofs/Pitch/Moving.lean
  Subject:   What a move does to notes, as arithmetic modulo twelve.

  * `PitchClass.pitchClass?_spelled`, `PitchClass.spelled_own`: the two scales are read back
    exactly, and a canonical note is the name its own accidental asks for.
  * `Note.MovesBy`: a function on notes shifts every canonical note by the same distance and
    keeps the others.  A single move does (`Note.movesBy_moved`), distances add up when moves
    follow each other (`Note.MovesBy.comp`) and count modulo twelve (`Note.MovesBy.congr`).
  * `Note.sameSigns_moved`, `Note.moved_eq_iff`: moves by congruent distances put a sign to the
    same notes, and differ only where they prefer different names for a black key.
  * `Note.moved_eq_self_iff`, `Note.moved_eq_self_iff_of_octaves`: which moves leave a note as it
    is.
-/
import ChordChart.Transposition.Move
import Mathlib.Data.Int.ModEq

namespace ChordChart

/-! ## 1. Names of pitch classes -/

namespace PitchClass

theorem eq_of_index {p q : PitchClass} (h : (p.index.val : Int) = q.index.val) : p = q := by
  obtain ⟨i⟩ := p
  obtain ⟨j⟩ := q
  exact congrArg mk (Fin.ext (by exact_mod_cast h))

/-- **Every name in the two scales is read back as the pitch class it names.** -/
theorem pitchClass?_spelled (p : PitchClass) (preference : Preference) :
    (p.spelled preference).pitchClass? = some p := by
  obtain ⟨i⟩ := p
  cases preference <;> revert i <;> decide

/-- **A canonical note is the name of its pitch class that its own accidental asks for.** -/
theorem spelled_own {n : Note} {p : PitchClass} (h : n.pitchClass? = some p) :
    p.spelled n.accidental.preference = n := by
  have hall : ∀ letter accidental, ∀ q ∈ (Note.mk letter accidental).pitchClass?,
      q.spelled accidental.preference = ⟨letter, accidental⟩ := by
    intro letter accidental
    cases letter <;> cases accidental <;> decide
  exact hall n.letter n.accidental p h

/-- A name is without a sign exactly on the white keys. -/
theorem accidental_spelled_iff (p : PitchClass) (preference : Preference) :
    (p.spelled preference).accidental = .natural ↔ p.isNatural = true := by
  obtain ⟨i⟩ := p
  cases preference <;> revert i <;> decide

/-- The scale with sharps has no flats. -/
theorem accidental_spelled_sharp (p : PitchClass) :
    (p.spelled .sharp).accidental ≠ .flat := by
  obtain ⟨i⟩ := p
  revert i
  decide

/-- What lies a distance above a pitch class is shifted to where the pitch class itself is shifted
    by the sum, counted modulo twelve. -/
theorem shift_of_modEq {p q : PitchClass} {a : Int} {b c : Steps}
    (hq : (q.index.val : Int) = (p.index.val + a) % 12)
    (h : c.toInt ≡ a + b.toInt [ZMOD 12]) : q.shift b = p.shift c := by
  apply eq_of_index
  rw [index_shift, index_shift, hq, Int.emod_add_emod, Int.add_assoc]
  exact (Int.ModEq.add_left _ h).symm

/-- Two shifts after each other are one by any distance congruent to the sum. -/
theorem shift_shift (p : PitchClass) {a b c : Steps}
    (h : c.toInt ≡ a.toInt + b.toInt [ZMOD 12]) : (p.shift a).shift b = p.shift c :=
  shift_of_modEq (p.index_shift a) h

theorem shift_zero (p : PitchClass) {a : Steps} (h : a.toInt ≡ 0 [ZMOD 12]) :
    p.shift a = p := by
  apply eq_of_index
  have hlt := p.index.isLt
  have hmod : a.toInt % 12 = 0 := h
  rw [index_shift]
  omega

end PitchClass

/-! ## 2. Moved notes -/

namespace Note

/-- The note after a move; one that is not canonical stays. -/
def moved (m : Move) (n : Note) : Note := (n.transposed? m).getD n

theorem moved_of_canonical (m : Move) {n : Note} {p : PitchClass} (h : n.pitchClass? = some p) :
    n.moved m = (p.shift m.steps).spelled (m.preference n) := by
  rw [moved, transposed?, h]
  rfl

theorem moved_of_foreign (m : Move) {n : Note} (h : n.pitchClass? = none) : n.moved m = n := by
  rw [moved, transposed?, h]
  rfl

theorem pitchClass?_moved (m : Move) {n : Note} {p : PitchClass} (h : n.pitchClass? = some p) :
    (n.moved m).pitchClass? = some (p.shift m.steps) := by
  rw [moved_of_canonical m h, PitchClass.pitchClass?_spelled]

/-- A function on notes that shifts the canonical ones by a distance and keeps the others. -/
structure MovesBy (n : Int) (f : Note → Note) : Prop where
  canonical : ∀ {x : Note} {p : PitchClass}, x.pitchClass? = some p →
    ∃ q : PitchClass, (f x).pitchClass? = some q ∧ (q.index.val : Int) = (p.index.val + n) % 12
  foreign : ∀ {x : Note}, x.pitchClass? = none → f x = x

/-- **A move shifts every canonical note by its distance.** -/
theorem movesBy_moved (m : Move) : MovesBy m.steps.toInt (moved m) where
  canonical {_ p} h := ⟨p.shift m.steps, pitchClass?_moved m h, p.index_shift m.steps⟩
  foreign h := moved_of_foreign m h

theorem movesBy_id : MovesBy 0 id where
  canonical {_ p} h := by
    refine ⟨p, h, ?_⟩
    have hlt := p.index.isLt
    omega
  foreign _ := rfl

theorem MovesBy.comp {a b : Int} {f g : Note → Note} (hg : MovesBy b g) (hf : MovesBy a f) :
    MovesBy (a + b) (g ∘ f) where
  canonical {x p} h := by
    obtain ⟨q, hq, hpq⟩ := hf.canonical h
    obtain ⟨r, hr, hqr⟩ := hg.canonical hq
    refine ⟨r, hr, ?_⟩
    rw [hqr, hpq, Int.emod_add_emod, Int.add_assoc]
  foreign {x} h := by
    show g (f x) = x
    rw [hf.foreign h, hg.foreign h]

theorem MovesBy.congr {a b : Int} {f : Note → Note} (hf : MovesBy a f) (h : a ≡ b [ZMOD 12]) :
    MovesBy b f where
  canonical {x p} hx := by
    obtain ⟨q, hq, hpq⟩ := hf.canonical hx
    exact ⟨q, hq, hpq.trans (Int.ModEq.add_left _ h)⟩
  foreign := hf.foreign

/-! ## 3. Moves after each other -/

/-- **With a target key nothing of the way there is left**: a move of what others have moved is
    the move by the whole distance. -/
theorem moved_target {a : Int} {f : Note → Note} (hf : MovesBy a f) {b c : Steps} (key : Key)
    (h : c.toInt ≡ a + b.toInt [ZMOD 12]) (x : Note) :
    (f x).moved ⟨b, some key⟩ = x.moved ⟨c, some key⟩ := by
  cases hx : x.pitchClass? with
  | none => rw [hf.foreign hx, moved_of_foreign _ hx, moved_of_foreign _ hx]
  | some p =>
    obtain ⟨q, hq, hpq⟩ := hf.canonical hx
    have hshift : q.shift b = p.shift c := PitchClass.shift_of_modEq hpq h
    rw [moved_of_canonical _ hq, moved_of_canonical _ hx]
    exact congrArg (PitchClass.spelled · key.preference) hshift

theorem preference_of_ne_flat {x : Note} (hx : x.accidental ≠ .flat) :
    x.accidental.preference = .sharp := by
  cases hacc : x.accidental with
  | flat => exact absurd hacc hx
  | natural => rfl
  | sharp => rfl

/-- **Without a target key sharps stay sharps**, also by way of a natural, so two moves of a note
    that is no canonical flat are one. -/
theorem moved_moved {a b c : Steps} (h : c.toInt ≡ a.toInt + b.toInt [ZMOD 12]) {x : Note}
    (hx : x.pitchClass?.isSome → x.accidental ≠ .flat) :
    (x.moved ⟨a, none⟩).moved ⟨b, none⟩ = x.moved ⟨c, none⟩ := by
  cases hp : x.pitchClass? with
  | none => rw [moved_of_foreign _ hp, moved_of_foreign _ hp, moved_of_foreign _ hp]
  | some p =>
    have hsharp : x.accidental.preference = .sharp :=
      preference_of_ne_flat (hx (Option.isSome_iff_exists.mpr ⟨p, hp⟩))
    have hmoved (n : Steps) : x.moved ⟨n, none⟩ = (p.shift n).spelled .sharp :=
      (moved_of_canonical _ hp).trans (congrArg _ hsharp)
    have hsharp' : (x.moved ⟨a, none⟩).accidental.preference = .sharp := by
      rw [hmoved]
      exact preference_of_ne_flat (PitchClass.accidental_spelled_sharp _)
    calc (x.moved ⟨a, none⟩).moved ⟨b, none⟩
        = ((p.shift a).shift b).spelled .sharp :=
          (moved_of_canonical _ (pitchClass?_moved _ hp)).trans (congrArg _ hsharp')
      _ = (p.shift c).spelled .sharp := congrArg (PitchClass.spelled · .sharp) (p.shift_shift h)
      _ = x.moved ⟨c, none⟩ := (hmoved c).symm

/-- A move by whole octaves without a target key changes no note. -/
theorem moved_octaves {a : Steps} (h : a.toInt ≡ 0 [ZMOD 12]) (x : Note) :
    x.moved ⟨a, none⟩ = x := by
  cases hp : x.pitchClass? with
  | none => exact moved_of_foreign _ hp
  | some p =>
    rw [moved_of_canonical _ hp]
    show (p.shift a).spelled x.accidental.preference = x
    rw [p.shift_zero h, PitchClass.spelled_own hp]

end Note

/-! ## 4. Moves by congruent distances -/

theorem PitchClass.shift_congr (p : PitchClass) {a b : Steps} (h : a.toInt ≡ b.toInt [ZMOD 12]) :
    p.shift a = p.shift b := by
  apply eq_of_index
  rw [index_shift, index_shift]
  exact Int.ModEq.add_left _ h

/-- The two names of a pitch class are different exactly on the black keys. -/
theorem PitchClass.spelled_eq_iff (p : PitchClass) (a b : Preference) :
    p.spelled a = p.spelled b ↔ (p.isNatural = false → a = b) := by
  obtain ⟨i⟩ := p
  cases a <;> cases b <;> revert i <;> decide

namespace Note

/-- Two functions on notes that put a sign to the same notes. -/
def SameSigns (f g : Note → Note) : Prop :=
  ∀ n, (f n).accidental = .natural ↔ (g n).accidental = .natural

/-- **Moves by congruent distances put a sign to the same notes**, whatever key they lead to. -/
theorem sameSigns_moved {m m' : Move} (h : m.steps.toInt ≡ m'.steps.toInt [ZMOD 12]) :
    SameSigns (moved m) (moved m') := by
  intro n
  cases hn : n.pitchClass? with
  | none => rw [moved_of_foreign m hn, moved_of_foreign m' hn]
  | some p =>
    rw [moved_of_canonical m hn, moved_of_canonical m' hn, p.shift_congr h,
      PitchClass.accidental_spelled_iff, PitchClass.accidental_spelled_iff]

/-- **Two moves by congruent distances give a note the same name** unless it is a black key then
    and they prefer different names for it. -/
theorem moved_eq_iff {m m' : Move} (h : m.steps.toInt ≡ m'.steps.toInt [ZMOD 12]) (n : Note) :
    n.moved m = n.moved m' ↔ ∀ p : PitchClass, n.pitchClass? = some p →
      (p.shift m.steps).isNatural = false → m.preference n = m'.preference n := by
  cases hn : n.pitchClass? with
  | none =>
    rw [moved_of_foreign m hn, moved_of_foreign m' hn]
    exact iff_of_true rfl fun _ hp => by cases hp
  | some p =>
    rw [moved_of_canonical m hn, moved_of_canonical m' hn, ← p.shift_congr h,
      PitchClass.spelled_eq_iff]
    constructor
    · intro heq q hq
      cases hq
      exact heq
    · intro hall
      exact hall p rfl

/-! ## 5. Moves that change nothing -/

/-- Without a target key a canonical note stays only if whole octaves are asked for. -/
theorem moved_eq_self_iff (a : Steps) (n : Note) :
    n.moved ⟨a, none⟩ = n ↔ (12 : Int) ∣ a.toInt ∨ n.pitchClass? = none := by
  cases hn : n.pitchClass? with
  | none => exact iff_of_true (moved_of_foreign _ hn) (Or.inr rfl)
  | some p =>
    constructor
    · intro heq
      have hclass := pitchClass?_moved ⟨a, none⟩ hn
      rw [heq, hn] at hclass
      have hindex := p.index_shift a
      rw [← Option.some.inj hclass] at hindex
      left
      omega
    · intro h
      have hdvd : (12 : Int) ∣ a.toInt := h.resolve_right (Option.some_ne_none p)
      exact moved_octaves (Int.modEq_zero_iff_dvd.mpr hdvd) n

section Octaves

variable {m : Move} (h : m.steps.toInt ≡ 0 [ZMOD 12])

include h

/-- A move by whole octaves puts a sign to the notes that had one. -/
theorem sameSigns_moved_id : SameSigns (moved m) id := by
  have hid : moved ⟨0, none⟩ = id := funext fun n => moved_octaves (Int.ModEq.refl 0) n
  have hsame : SameSigns (moved m) (moved ⟨0, none⟩) := sameSigns_moved h
  rwa [hid] at hsame

/-- It keeps the name of a note that is no black key, or has the sign that is preferred. -/
theorem moved_eq_self_iff_of_octaves (n : Note) :
    n.moved m = n ↔ (n.pitchClass?.isSome → n.accidental ≠ .natural →
      n.accidental.preference = m.preference n) := by
  cases hn : n.pitchClass? with
  | none => exact iff_of_true (moved_of_foreign m hn) fun hsome => by cases hsome
  | some p =>
    have hown : p.spelled n.accidental.preference = n := PitchClass.spelled_own hn
    have hwhite : n.accidental = .natural ↔ p.isNatural = true := by
      rw [← p.accidental_spelled_iff n.accidental.preference, hown]
    have hnames := p.spelled_eq_iff n.accidental.preference (m.preference n)
    rw [hown] at hnames
    rw [moved_of_canonical m hn, p.shift_zero h, eq_comm, hnames]
    constructor
    · intro hblack _ hsign
      exact hblack (Bool.eq_false_iff.mpr fun hnatural => hsign (hwhite.mpr hnatural))
    · intro hsign hblack
      refine hsign rfl fun hnatural => ?_
      rw [hwhite.mp hnatural] at hblack
      cases hblack

end Octaves

end Note

end ChordChart
