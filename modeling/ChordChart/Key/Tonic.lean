/-
  File:      ChordChart/Key/Tonic.lean
  Subject:   The eighteen notes that a key can be built on.

  Each black key occurs under both its names, and `Cb` is listed besides
  `B`.  Spellings are exact: a capital letter, then at most one sign.
-/
import ChordChart.Pitch.Class
import ChordChart.Text.Size

namespace ChordChart

/-- The first note of a key's scale. -/
inductive Tonic where
  | c | cSharp | dFlat | d | dSharp | eFlat | e | f | fSharp
  | gFlat | g | gSharp | aFlat | a | aSharp | bFlat | b | cFlat
  deriving DecidableEq, Repr

namespace Tonic

/-- All tonics, upwards from C. -/
def all : List Tonic :=
  [.c, .cSharp, .dFlat, .d, .dSharp, .eFlat, .e, .f, .fSharp,
    .gFlat, .g, .gSharp, .aFlat, .a, .aSharp, .bFlat, .b, .cFlat]

/-- The note of a tonic. -/
def note : Tonic → Note
  | .c => ⟨.c, .natural⟩
  | .cSharp => ⟨.c, .sharp⟩
  | .dFlat => ⟨.d, .flat⟩
  | .d => ⟨.d, .natural⟩
  | .dSharp => ⟨.d, .sharp⟩
  | .eFlat => ⟨.e, .flat⟩
  | .e => ⟨.e, .natural⟩
  | .f => ⟨.f, .natural⟩
  | .fSharp => ⟨.f, .sharp⟩
  | .gFlat => ⟨.g, .flat⟩
  | .g => ⟨.g, .natural⟩
  | .gSharp => ⟨.g, .sharp⟩
  | .aFlat => ⟨.a, .flat⟩
  | .a => ⟨.a, .natural⟩
  | .aSharp => ⟨.a, .sharp⟩
  | .bFlat => ⟨.b, .flat⟩
  | .b => ⟨.b, .natural⟩
  | .cFlat => ⟨.c, .flat⟩

/-- The spelling of a tonic. -/
def spelling (t : Tonic) : List Char := t.note.text

/-- The pitch class of a tonic. -/
def pitchClass (t : Tonic) : PitchClass := t.note.sounding

/-- The tonic that a whole text spells. -/
def ofSpelling? (text : List Char) : Option Tonic := all.find? fun t => t.spelling == text

/-- The longest tonic at the head of a text, with what follows it. -/
def leading? (text : List Char) : Option (Tonic × List Char) :=
  match text with
  | [] => none
  | [first] => (ofSpelling? [first]).map (·, [])
  | first :: second :: rest =>
    match ofSpelling? [first, second] with
    | some tonic => some (tonic, rest)
    | none => (ofSpelling? [first]).map (·, second :: rest)

/-- The longest tonic at the head of a text, with the number of bytes it takes there. -/
def leadingSize? (text : List Char) : Option (Tonic × Nat) :=
  (leading? text).map fun (tonic, rest) => (tonic, Text.byteSize text - Text.byteSize rest)

/-- Why a text is no tonic, with the texts that would be. -/
def refusal (text : String) : String :=
  "Invalid tonic: '" ++ text ++ "'. Expected one of: "
    ++ String.intercalate ", " (all.map fun t => String.ofList t.spelling)

end Tonic

end ChordChart
