/-
  File:      ChordChart/Pitch/Note.lean
  Subject:   Note names: a letter with at most one accidental.

  Notes are read greedily: a sharp or flat sign right after the letter
  belongs to the note.  Nothing here says what a note sounds like.
-/

namespace ChordChart

/-! ## 1. Letters and accidentals -/

/-- The seven letters of the scale. -/
inductive Letter where
  | c | d | e | f | g | a | b
  deriving DecidableEq, Repr

/-- The character of a letter. -/
def Letter.char : Letter → Char
  | .c => 'C'
  | .d => 'D'
  | .e => 'E'
  | .f => 'F'
  | .g => 'G'
  | .a => 'A'
  | .b => 'B'

/-- The letter that a character stands for; only capitals are letters. -/
def Letter.ofChar? : Char → Option Letter
  | 'C' => some .c
  | 'D' => some .d
  | 'E' => some .e
  | 'F' => some .f
  | 'G' => some .g
  | 'A' => some .a
  | 'B' => some .b
  | _ => none

theorem Letter.char_of_ofChar? {c : Char} {letter : Letter}
    (h : Letter.ofChar? c = some letter) : letter.char = c := by
  unfold Letter.ofChar? at h
  split at h <;> cases h <;> rfl

theorem Letter.ofChar?_char (letter : Letter) : Letter.ofChar? letter.char = some letter := by
  cases letter <;> rfl

/-- What is done to a letter's pitch. -/
inductive Accidental where
  | natural | sharp | flat
  deriving DecidableEq, Repr

/-- The accidental that a character stands for. -/
def Accidental.ofChar? : Char → Option Accidental
  | '#' => some .sharp
  | 'b' => some .flat
  | _ => none

/-- The sign of an accidental; a natural has none. -/
def Accidental.sign : Accidental → List Char
  | .natural => []
  | .sharp => ['#']
  | .flat => ['b']

theorem Accidental.sign_of_ofChar? {c : Char} {accidental : Accidental}
    (h : Accidental.ofChar? c = some accidental) : accidental.sign = [c] := by
  unfold Accidental.ofChar? at h
  split at h <;> cases h <;> rfl

/-! ## 2. Notes -/

/-- A letter with its accidental, such as `C`, `F#` or `Bb`. -/
structure Note where
  letter : Letter
  accidental : Accidental
  deriving DecidableEq, Repr

namespace Note

/-- A note as it is written. -/
def text (n : Note) : List Char := n.letter.char :: n.accidental.sign

/-- The note at the head of a text, with what follows it. -/
def read? : List Char → Option (Note × List Char)
  | [] => none
  | c :: rest =>
    (Letter.ofChar? c).map fun letter =>
      match rest with
      | [] => (⟨letter, .natural⟩, [])
      | s :: after =>
        match Accidental.ofChar? s with
        | some accidental => (⟨letter, accidental⟩, after)
        | none => (⟨letter, .natural⟩, s :: after)

/-- A note read from a text and what follows it make up the text. -/
theorem text_append_of_read? {text rest : List Char} {note : Note}
    (h : read? text = some (note, rest)) : note.text ++ rest = text := by
  match text, h with
  | c :: tail, h =>
    obtain ⟨letter, hletter, heq⟩ := Option.map_eq_some_iff.mp h
    have hchar := Letter.char_of_ofChar? hletter
    match tail, heq with
    | [], heq =>
      obtain ⟨rfl, rfl⟩ := Prod.mk.inj heq
      simp [Note.text, Accidental.sign, hchar]
    | s :: after, heq =>
      dsimp only at heq
      split at heq
      · next accidental hsign =>
        obtain ⟨rfl, rfl⟩ := Prod.mk.inj heq
        simp [Note.text, Accidental.sign_of_ofChar? hsign, hchar]
      · obtain ⟨rfl, rfl⟩ := Prod.mk.inj heq
        simp [Note.text, Accidental.sign, hchar]

/-- The note that a whole text spells. -/
def ofText? (text : List Char) : Option Note :=
  match read? text with
  | some (note, []) => some note
  | _ => none

end Note

/-- The accidental in second place of a text, whatever stands before and after it. -/
def Accidental.ofSecond (text : List Char) : Accidental :=
  match text with
  | _ :: s :: _ => (ofChar? s).getD .natural
  | _ => .natural

end ChordChart
