/-
  File:      ChordChart/Text/CaseRun.lean
  Subject:   Case mappings given by runs of code points.

  A case mapping moves whole alphabets by one distance.  A run says so for
  its members: the code points `first`, `first + stride`, … up to `last`.
  Stride two serves the alphabets in which capitals and small letters
  alternate.  Characters outside every run are mapped to themselves.
-/

namespace ChordChart.Text

/-- Equally spaced code points that a case mapping moves by the same distance. -/
structure CaseRun where
  first : Nat
  last : Nat
  stride : Nat
  distance : Int

/-- The image of a code point under runs whose spans ascend and do not overlap. -/
def CaseRun.image : List CaseRun → Nat → Nat
  | [], code => code
  | run :: rest, code =>
    if code < run.first then code
    else if code ≤ run.last then
      if (code - run.first) % run.stride = 0 then (code + run.distance).toNat else code
    else CaseRun.image rest code

/-- The image of a character. -/
def CaseRun.apply (runs : List CaseRun) (c : Char) : Char :=
  Char.ofNat (CaseRun.image runs c.toNat)

end ChordChart.Text
