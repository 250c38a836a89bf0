/-
  File:      ChordChart/Journal/Event.lean
  Subject:   What a transposition reports while it works.

  An event is recorded as what happened; level and wording are derived
  from it.
-/
import ChordChart.Journal.Failure

namespace ChordChart

/-- How much an event matters to a reader of the journal. -/
inductive Level where
  | debug | info | warn
  deriving DecidableEq, Repr

/-- A single entry of the journal. -/
inductive Event where
  /-- The library was made ready. -/
  | started
  /-- A line is about to be moved between two keys, by an unreduced distance. -/
  | changingKey (source target : Key) (steps : Steps)
  /-- A part of a chord was moved. -/
  | respelled (before : List Char) (steps : Steps) (after : List Char)
  /-- A line was left as it was. -/
  | lineKept (cause : Failure)
  /-- A chord, or one half of it, was left as it was. -/
  | tokenKept (cause : Failure)
  deriving DecidableEq, Repr

/-- The word for a preference in the journal. -/
def Preference.word : Preference → String
  | .sharp => "Sharp"
  | .flat => "Flat"

namespace Event

/-- The level of an event. -/
def level : Event → Level
  | .started => .info
  | .changingKey .. | .respelled .. => .debug
  | .lineKept _ | .tokenKept _ => .warn

/-- The wording of an event. -/
def message : Event → String
  | .started => "Chord transposition WASM module initialized"
  | .changingKey source target steps =>
    "Transposing " ++ String.ofList source.name ++ " → " ++ String.ofList target.name
      ++ " (" ++ steps.signed ++ " steps, " ++ target.preference.word ++ ")"
  | .respelled before steps after =>
    String.ofList before ++ " " ++ steps.signed ++ " → " ++ String.ofList after
  | .lineKept cause => "Leaving line unchanged: " ++ cause.message
  | .tokenKept cause => "Leaving token unchanged: " ++ cause.message

end Event

end ChordChart
