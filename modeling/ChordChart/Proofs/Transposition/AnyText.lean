/-
  File:      ChordChart/Proofs/Transposition/AnyText.lean
  Subject:   What a move makes of any text, and of which texts it makes nothing.

  Moves are meant for chords, but any text may be given.  All is told on characters: the roots are
  those of the outline, the names are those of two scales written out.

  * `Preference.scale`, `Token.respelled`: a root is looked up in the scales and read off one of
    them so many places further; `Note.text_moved`: this is how a note is moved.
  * **`Token.value_transposed_outline`**: a text that opens with a root letter has its root
    respelled, and the root of its bass if it has one, and everything else is as it was.
  * `Token.transposed?_cases`, **`Token.transposed?_outcome`**: a text cannot be moved if it
    does not open with a root letter, or has no bass and a root that neither scale holds.  The move
    makes no difference to this.
-/
import ChordChart.Proofs.Chord.Outline
import ChordChart.Proofs.Transposition.Agreement

namespace ChordChart

/-! ## 1. The two scales -/

/-- The names of the twelve pitch classes, upwards from C. -/
def Preference.scale : Preference → List (List Char)
  | .sharp => ["C", "C#", "D", "D#", "E", "F", "F#", "G", "G#", "A", "A#", "B"].map String.toList
  | .flat => ["C", "Db", "D", "Eb", "E", "F", "Gb", "G", "Ab", "A", "Bb", "B"].map String.toList

theorem Preference.length_scale (p : Preference) : p.scale.length = 12 := by
  cases p <;> rfl

namespace Token

/-- The place of a name in the scales, which is the same in both if both hold it. -/
def place? (root : List Char) : Option Nat :=
  (Preference.sharp.scale.idxOf? root).or (Preference.flat.scale.idxOf? root)

/-- The scale that a move reads a root off: that of the key if one is known, and otherwise the one
    with flats for a root with a flat. -/
def preferred (m : Move) (root : List Char) : Preference :=
  match m.target with
  | some key => key.preference
  | none => if 'b' ∈ root then .flat else .sharp

/-- A root after a move; what neither scale holds is left. -/
def respelled (m : Move) (root : List Char) : List Char :=
  match place? root with
  | none => root
  | some i =>
    have : ((i + m.steps.toInt) % 12).toNat < (preferred m root).scale.length := by
      rw [Preference.length_scale]
      omega
    (preferred m root).scale[((i + m.steps.toInt) % 12).toNat]

theorem respelled_of_place?_none (m : Move) {root : List Char} (h : place? root = none) :
    respelled m root = root := by
  unfold respelled
  rw [h]

theorem getElem?_scale_of_place? (m : Move) {root : List Char} {i : Nat}
    (h : place? root = some i) :
    (preferred m root).scale[((i + m.steps.toInt) % 12).toNat]? = some (respelled m root) := by
  unfold respelled
  rw [h]
  exact List.getElem?_eq_getElem _

end Token

/-- The scales written out have the names that pitch classes are spelled with. -/
theorem PitchClass.getElem?_scale (p : PitchClass) (preference : Preference) :
    preference.scale[p.index.val]? = some (p.spelled preference).text := by
  obtain ⟨i⟩ := p
  cases preference <;> revert i <;> decide

namespace Note

theorem place?_text (n : Note) : Token.place? n.text = n.pitchClass?.map fun p => p.index.val := by
  obtain ⟨letter, accidental⟩ := n
  cases letter <;> cases accidental <;> decide

theorem preferred_text (m : Move) (n : Note) : Token.preferred m n.text = m.preference n := by
  obtain ⟨steps, target⟩ := m
  cases target with
  | some key => rfl
  | none =>
    obtain ⟨letter, accidental⟩ := n
    cases letter <;> cases accidental <;> rfl

/-- **A moved note is its name respelled.** -/
theorem text_moved (m : Move) (n : Note) : (n.moved m).text = Token.respelled m n.text := by
  have hplace := n.place?_text
  cases hn : n.pitchClass? with
  | none =>
    rw [hn, Option.map_none] at hplace
    rw [moved_of_foreign m hn, Token.respelled_of_place?_none m hplace]
  | some p =>
    rw [hn, Option.map_some] at hplace
    have hname := Token.getElem?_scale_of_place? m hplace
    rw [← p.index_shift, Int.toNat_natCast, n.preferred_text, PitchClass.getElem?_scale] at hname
    rw [moved_of_canonical m hn]
    exact Option.some.inj hname

/-- A note has one sign at most. -/
theorem countP_isSign_text (n : Note) : n.text.countP Quality.isSign ≤ 1 := by
  obtain ⟨letter, accidental⟩ := n
  cases letter <;> cases accidental <;> decide

end Note

namespace Token

/-! ## 2. The effect of a move -/

theorem exists_text_eq_rootText {text : List Char} (h : opensWithLetter text = true) :
    ∃ n : Note, n.text = rootText text := by
  obtain ⟨n, -, hroot⟩ := Note.exists_read? h
  exact ⟨n, hroot⟩

/-- Other roots in the split of a text are their names in the text. -/
theorem exists_split? {text : List Char} (h : opensWithLetter text = true) :
    ∃ c, Chord.split? text = some c ∧
      ∀ (f : Note → Note) (g : List Char → List Char), (∀ n : Note, (f n).text = g n.text) →
        (c.mapRoots f).text = withRootTexts g text := by
  cases hb : bassText? text with
  | none =>
    obtain ⟨root, hroot, hsplit⟩ := Chord.split?_of_bassText?_none h hb
    refine ⟨_, hsplit, fun f g hfg => ?_⟩
    rw [withRootTexts, hb, ← hroot, ← hfg]
    rfl
  | some behind =>
    obtain ⟨root, bass, hroot, hbass, hsplit⟩ := Chord.split?_of_bassText? h hb
    refine ⟨_, hsplit, fun f g hfg => ?_⟩
    rw [withRootTexts, hb]
    dsimp only
    rw [← hroot, ← hbass, ← hfg, ← hfg]
    rfl

/-- **What a move makes of any text that opens with a root letter.**  The text is its root, what
    stands between that and its first slash, and behind the slash the root of its bass with the
    rest; if no root letter stands behind the first slash, it is its root with the rest.  The roots
    are respelled, with one sign at most, and all else is copied, further slashes included. -/
theorem value_transposed_outline (m : Move) {token : List Char}
    (h : opensWithLetter token = true) :
    withRootTexts id token = token ∧
    (Token.transposed m token).value = withRootTexts (respelled m) token ∧
    (respelled m (rootText token)).countP Quality.isSign ≤ 1 ∧
    ∀ bass ∈ bassText? token, (respelled m (rootText bass)).countP Quality.isSign ≤ 1 := by
  have hsign {text : List Char} (htext : opensWithLetter text = true) :
      (respelled m (rootText text)).countP Quality.isSign ≤ 1 := by
    obtain ⟨n, hroot⟩ := exists_text_eq_rootText htext
    rw [← hroot, ← n.text_moved m]
    exact (n.moved m).countP_isSign_text
  obtain ⟨c, hsplit, hroots⟩ := exists_split? h
  refine ⟨?_, ?_, hsign h, fun bass hbass => hsign (Option.filter_eq_some_iff.mp hbass).2⟩
  · rw [← hroots id id fun _ => rfl, Chord.mapRoots_id, Chord.text_of_split? hsplit]
  · rw [value_transposed m hsplit, hroots _ _ (Note.text_moved m)]

/-- Two slashes, of which the second has a root letter behind it as well, a line break and a root
    that neither scale holds. -/
theorem value_transposed_outline_twoSlashes :
    opensWithLetter "E#b9\n/Bb5/Cb".toList = true ∧
    withRootTexts id "E#b9\n/Bb5/Cb".toList = "E#b9\n/Bb5/Cb".toList ∧
    (Token.transposed ⟨-11, none⟩ "E#b9\n/Bb5/Cb".toList).value
      = withRootTexts (respelled ⟨-11, none⟩) "E#b9\n/Bb5/Cb".toList ∧
    withRootTexts (respelled ⟨-11, none⟩) "E#b9\n/Bb5/Cb".toList = "E#b9\n/B5/Cb".toList := by
  have hletter : opensWithLetter "E#b9\n/Bb5/Cb".toList = true := by decide
  obtain ⟨hself, hmoved, -⟩ := value_transposed_outline ⟨-11, none⟩ hletter
  exact ⟨hletter, hself, hmoved, by decide⟩

/-! ## 3. Texts that cannot be moved -/

/-- The four roots that neither scale holds. -/
def foreignRoots : List (List Char) := ["Cb", "Fb", "E#", "B#"].map String.toList

theorem transposed?_root_eq_none_iff (m : Move) (n : Note) :
    n.transposed? m = none ↔ n.text ∈ foreignRoots := by
  rw [Note.transposed?_eq_none_iff]
  obtain ⟨letter, accidental⟩ := n
  cases letter <;> cases accidental <;> decide

theorem transposed?_of_no_letter (m : Move) {token : List Char}
    (h : opensWithLetter token = false) : transposed? m token = .error (.notAChord token) := by
  rw [transposed?, Chord.split?_eq_none_iff.mpr h]

section Outcome

variable (m : Move) {token : List Char} (h : opensWithLetter token = true)

include h

/-- A text with a bass is moved, whatever its roots are. -/
theorem transposed?_of_bassText? {behind : List Char} (hb : bassText? token = some behind) :
    ∃ moved, transposed? m token = .ok moved := by
  obtain ⟨root, bass, -, -, hsplit⟩ := Chord.split?_of_bassText? h hb
  exact ⟨_, by rw [transposed?, hsplit]; rfl⟩

/-- A text without one is moved if one of the scales holds its root. -/
theorem transposed?_of_bassText?_none (hb : bassText? token = none) :
    (rootText token ∈ foreignRoots ∧ transposed? m token = .error (.foreignRoot token)) ∨
      (rootText token ∉ foreignRoots ∧ ∃ moved, transposed? m token = .ok moved) := by
  obtain ⟨root, hroot, hsplit⟩ := Chord.split?_of_bassText?_none h hb
  have htext : Part.text ⟨root, behindRoot token⟩ = token := Chord.text_of_split? hsplit
  have hiff := transposed?_root_eq_none_iff m root
  rw [hroot] at hiff
  cases hmoved : root.transposed? m with
  | none =>
    refine Or.inl ⟨hiff.mp hmoved, ?_⟩
    simp only [transposed?, hsplit, Chord.transposed?, Part.transposed?, hmoved, Except.map, htext]
  | some new =>
    have hnot : rootText token ∉ foreignRoots := fun hmem => by
      rw [hiff.mpr hmem] at hmoved
      cases hmoved
    refine Or.inr ⟨hnot, ?_⟩
    simp [transposed?, hsplit, Chord.transposed?, Part.transposed?, hmoved, Except.map]

end Outcome

/-- The three outcomes of a move, each with the texts that have it. -/
theorem transposed?_cases (m : Move) (token : List Char) :
    (opensWithLetter token = false ∧ transposed? m token = .error (.notAChord token)) ∨
    (opensWithLetter token = true ∧ bassText? token = none ∧ rootText token ∈ foreignRoots ∧
      transposed? m token = .error (.foreignRoot token)) ∨
    (opensWithLetter token = true ∧ ((bassText? token).isSome ∨ rootText token ∉ foreignRoots) ∧
      ∃ moved, transposed? m token = .ok moved) := by
  cases h : opensWithLetter token with
  | false => exact Or.inl ⟨rfl, transposed?_of_no_letter m h⟩
  | true =>
    cases hb : bassText? token with
    | some behind => exact Or.inr (Or.inr ⟨rfl, Or.inl rfl, transposed?_of_bassText? m h hb⟩)
    | none =>
      rcases transposed?_of_bassText?_none m h hb with ⟨hforeign, herror⟩ | ⟨hnot, hok⟩
      · exact Or.inr (Or.inl ⟨rfl, rfl, hforeign, herror⟩)
      · exact Or.inr (Or.inr ⟨rfl, Or.inr hnot, hok⟩)

/-- **When a text cannot be moved, and why.** -/
theorem transposed?_eq_error_iff {m : Move} {token : List Char} {cause : Failure} :
    transposed? m token = .error cause ↔
      (cause = .notAChord token ∧ opensWithLetter token = false) ∨
      (cause = .foreignRoot token ∧ opensWithLetter token = true ∧ bassText? token = none ∧
        rootText token ∈ foreignRoots) := by
  rcases transposed?_cases m token with
    ⟨h, herror⟩ | ⟨h, hb, hroot, herror⟩ | ⟨h, hbassOrRoot, moved, hok⟩
  · rw [herror]
    simp [h, eq_comm]
  · rw [herror]
    simp [h, hb, hroot, eq_comm]
  · rw [hok]
    rcases hbassOrRoot with hbass | hroot
    · simp [h, Option.isSome_iff_ne_none.mp hbass]
    · simp [h, hroot]

/-- When a text can be moved. -/
theorem exists_transposed?_iff {m : Move} {token : List Char} :
    (∃ moved, transposed? m token = .ok moved) ↔
      opensWithLetter token = true ∧
        ((bassText? token).isSome ∨ rootText token ∉ foreignRoots) := by
  rcases transposed?_cases m token with
    ⟨h, herror⟩ | ⟨h, hb, hroot, herror⟩ | ⟨h, hbassOrRoot, moved, hok⟩
  · simp [herror, h]
  · simp [herror, hb, hroot]
  · exact ⟨fun _ => ⟨h, hbassOrRoot⟩, fun _ => ⟨moved, hok⟩⟩

/-- **The outcome of a move for any text.**  It fails as no chord exactly if the text does not open
    with a root letter; it fails for its root exactly if the text opens with one, has no bass and
    has one of the four roots that neither scale holds; and in every other case there is a moved
    text.  Both failures name the text, which then stays as it was, and no move fails where another
    does not. -/
theorem transposed?_outcome (token : List Char) :
    (∀ (m : Move) (text : List Char), transposed? m token = .error (.notAChord text) ↔
      text = token ∧ opensWithLetter token = false) ∧
    (∀ (m : Move) (text : List Char), transposed? m token = .error (.foreignRoot text) ↔
      text = token ∧ opensWithLetter token = true ∧ bassText? token = none ∧
        rootText token ∈ foreignRoots) ∧
    (∀ m : Move, (∃ moved, transposed? m token = .ok moved) ↔
      opensWithLetter token = true ∧
        ((bassText? token).isSome ∨ rootText token ∉ foreignRoots)) ∧
    (∀ (m : Move) (cause : Failure), transposed? m token = .error cause →
      (cause = .notAChord token ∨ cause = .foreignRoot token) ∧
        (Token.transposed m token).value = token) ∧
    ∀ (m m' : Move) (cause : Failure),
      transposed? m token = .error cause ↔ transposed? m' token = .error cause := by
  refine ⟨fun m text => ?_, fun m text => ?_, fun m => ?_, fun m cause herror => ⟨?_, ?_⟩,
    fun m m' cause => ?_⟩
  · rw [transposed?_eq_error_iff]
    simp
  · rw [transposed?_eq_error_iff]
    simp
  · exact exists_transposed?_iff
  · exact (transposed?_eq_error_iff.mp herror).imp And.left And.left
  · rw [Token.transposed, herror]
  · rw [transposed?_eq_error_iff, transposed?_eq_error_iff]

/-- A root that neither scale holds fails where no root letter stands behind the first slash, and
    the text stays; with a bass it does not, though neither scale holds that either. -/
theorem transposed?_outcome_foreignRoot :
    transposed? ⟨-3, none⟩ "Fb9/x/C".toList = .error (.foreignRoot "Fb9/x/C".toList) ∧
    (Token.transposed ⟨-3, none⟩ "Fb9/x/C".toList).value = "Fb9/x/C".toList ∧
    (∃ moved, transposed? ⟨-3, none⟩ "Fb9/E#/C".toList = .ok moved) ∧
    transposed? ⟨-3, none⟩ "♭C".toList = .error (.notAChord "♭C".toList) := by
  obtain ⟨-, hforeign, -, hkept, -⟩ := transposed?_outcome "Fb9/x/C".toList
  obtain ⟨-, -, hmoved, -⟩ := transposed?_outcome "Fb9/E#/C".toList
  obtain ⟨hnone, -⟩ := transposed?_outcome "♭C".toList
  have herror := (hforeign ⟨-3, none⟩ _).mpr ⟨rfl, by decide⟩
  exact ⟨herror, (hkept _ _ herror).2, (hmoved _).mpr (by decide),
    (hnone ⟨-3, none⟩ _).mpr ⟨rfl, by decide⟩⟩

end Token

end ChordChart
