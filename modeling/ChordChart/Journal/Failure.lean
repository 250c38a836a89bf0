/-
  File:      ChordChart/Journal/Failure.lean
  Subject:   Why a line or a chord cannot be transposed.

  A failure names its cause together with the text it concerns.  None of
  them leaves the text damaged: whoever does not ask for the failure gets
  the text back as it was.
-/
import ChordChart.Key.Name

namespace ChordChart

/-- Why a transposition has no result. -/
inductive Failure where
  /-- A key name that names no key. -/
  | unknownKey (cause : Key.NameError)
  /-- An interval name that names no interval. -/
  | unknownInterval (name : String)
  /-- A chord whose root is not a canonical note. -/
  | foreignRoot (token : List Char)
  /-- A text that does not start with a root letter. -/
  | notAChord (token : List Char)
  deriving DecidableEq, Repr

/-- The wording of a failure. -/
def Failure.message : Failure → String
  | .unknownKey cause => "Unresolvable key: " ++ cause.message
  | .unknownInterval name => "Unknown interval: '" ++ name ++ "'"
  | .foreignRoot token => "Unrecognized chord root in '" ++ String.ofList token ++ "'"
  | .notAChord token => "Malformed chord token: '" ++ String.ofList token ++ "'"

end ChordChart
