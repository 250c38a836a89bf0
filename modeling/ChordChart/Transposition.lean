/-
  File:      ChordChart/Transposition.lean
  Subject:   The three ways to ask for a transposition.

  A request names two keys, a number of steps or an interval.  Between
  keys the distance is taken as it is and the target key decides the
  spelling; the other two go the nearest way and know no key.  A request
  that cannot be resolved can be reported, or the line stays as it was.
-/
import ChordChart.Pitch.Interval
import ChordChart.Transposition.Line

namespace ChordChart

/-- What a user asks to be done to a line. -/
inductive Transposition where
  /-- From one named key to another. -/
  | keys (source target : String)
  /-- By a number of semitones. -/
  | steps (count : Steps)
  /-- By a named interval. -/
  | interval (name : String)
  deriving DecidableEq, Repr

namespace Transposition

/-- The move by a number of semitones when no key is known. -/
def moveBy (count : Steps) : Move := ⟨count.nearest, none⟩

/-- The move between two keys. -/
def moveBetween (source target : Key) : Move := ⟨source.stepsTo target, some target⟩

/-- The key that a user's text names, as part of a request. -/
def key? (name : String) : Except Failure Key := (Key.ofName name).mapError .unknownKey

/-- The move that is asked for; the first key is looked up before the second. -/
def resolve : Transposition → Except Failure (Logged Move)
  | .keys source target => do
    let source ← key? source
    let target ← key? target
    return ⟨moveBetween source target, [.changingKey source target (source.stepsTo target)]⟩
  | .steps count => .ok (pure (moveBy count))
  | .interval name =>
    match Interval.ofName? name with
    | some found => .ok (pure (moveBy found.steps))
    | none => .error (.unknownInterval name)

/-- The line after the transposition, or why there is none. -/
def attempt (t : Transposition) (line : List Char) : Except Failure (Logged (List Char)) :=
  t.resolve.map fun move => move >>= (Line.transposed · line)

/-- The line after the transposition, or as it was if that fails. -/
def apply (t : Transposition) (line : List Char) : Logged (List Char) :=
  match t.attempt line with
  | .ok moved => moved
  | .error cause => ⟨line, [.lineKept cause]⟩

/-- The lines that arise one after the other when transpositions are applied in turn. -/
def session (line : List Char) : List Transposition → Logged (List (List Char))
  | [] => pure []
  | t :: rest => do
    let next ← t.apply line
    let later ← session next rest
    return next :: later

end Transposition

end ChordChart
