/-
  File:      ChordChart/Json/Music.lean
  Subject:   The JSON form of the library's data.

  Choices are written as strings, records as objects.  Names are exact in
  their case.  An offset or a length is an integer of 64 bits without
  sign.
-/
import ChordChart.Json.Basic
import ChordChart.Key.Basic
import ChordChart.Line.Spans
import ChordChart.Pitch.Interval

namespace ChordChart

/-! ## 1. Choices -/

/-- The first of some values that goes by the name a JSON choice gives. -/
def Json.pick? {α : Type} (all : List α) (name : α → String) (json : Json) : Option α :=
  json.choice?.bind fun chosen => all.find? fun a => name a == chosen

instance : Coded Tonic where
  toJson tonic := .str (String.ofList tonic.spelling)
  ofJson? := Json.pick? Tonic.all fun tonic => String.ofList tonic.spelling

/-- The name of a mode. -/
def Mode.name : Mode → String
  | .major => "major"
  | .minor => "minor"

instance : Coded Mode where
  toJson mode := .str mode.name
  ofJson? := Json.pick? [.major, .minor] Mode.name

/-- The name of a preference. -/
def Preference.name : Preference → String
  | .sharp => "sharp"
  | .flat => "flat"

instance : Coded Preference where
  toJson preference := .str preference.name
  ofJson? := Json.pick? [.sharp, .flat] Preference.name

/-- The name of an accidental. -/
def Accidental.name : Accidental → String
  | .natural => "Natural"
  | .sharp => "Sharp"
  | .flat => "Flat"

instance : Coded Accidental where
  toJson accidental := .str accidental.name
  ofJson? := Json.pick? [.natural, .sharp, .flat] Accidental.name

instance : Coded Interval where
  toJson interval := .str interval.name
  ofJson? := Json.pick? Interval.all Interval.name

/-! ## 2. Records -/

instance : Coded Key where
  toJson key := .obj [("tonic", Coded.toJson key.tonic), ("mode", Coded.toJson key.mode)]
  ofJson? json :=
    match json.record? ["tonic", "mode"] with
    | some [tonic, mode] => do
      let tonic ← Coded.ofJson? tonic
      let mode ← Coded.ofJson? mode
      return ⟨tonic, mode⟩
    | _ => none

instance : Coded Span where
  toJson span :=
    .obj [("text", .str span.text), ("offset", .int span.offset), ("length", .int span.length)]
  ofJson? json :=
    match json.record? ["text", "offset", "length"] with
    | some [text, offset, length] => do
      let text ← text.text?
      let offset ← offset.word?
      let length ← length.word?
      return ⟨text, offset, length⟩
    | _ => none

end ChordChart
