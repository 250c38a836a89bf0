/-
  File:      ChordChart/Text/CodeRange.lean
  Subject:   Sets of characters given by ranges of code points.

  A class of characters is a list of inclusive ranges in ascending order.
  The search stops at the first range that starts above the code point, so
  the common characters at the low end are settled in a few steps.
-/

namespace ChordChart.Text

/-- The code points from `first` to `last`, both included. -/
structure CodeRange where
  first : Nat
  last : Nat

/-- Whether one of the ranges, which must ascend, holds the code point. -/
def CodeRange.covers : List CodeRange → Nat → Bool
  | [], _ => false
  | range :: rest, code =>
    if code < range.first then false
    else if code ≤ range.last then true
    else CodeRange.covers rest code

end ChordChart.Text
