/-
  File:      ChordChart/Text/Pattern.lean
  Subject:   Regular patterns, read as a language and as an ordered search.

  `Matches` says which texts a pattern describes.  `rests` says in which
  order a search tries them at the head of a text: the first alternative
  before the second, taking an optional part before leaving it out, and
  more repetitions before fewer.  The search settles on the first of them.
-/

namespace ChordChart.Text

/-- A regular pattern over characters. -/
inductive Pattern where
  /-- A character that passes the test. -/
  | char (accepts : Char → Bool)
  /-- A fixed text. -/
  | word (text : List Char)
  /-- One pattern after the other. -/
  | seq (front back : Pattern)
  /-- One pattern or the other. -/
  | either (preferred other : Pattern)
  /-- A pattern or nothing. -/
  | optional (body : Pattern)
  /-- A pattern any number of times. -/
  | many (body : Pattern)

namespace Pattern

/-- The texts that a pattern describes. -/
inductive Matches : Pattern → List Char → Prop where
  | char {accepts : Char → Bool} {c : Char} (h : accepts c = true) : Matches (.char accepts) [c]
  | word (text : List Char) : Matches (.word text) text
  | seq {p q : Pattern} {s t : List Char} (front : Matches p s) (back : Matches q t) :
      Matches (.seq p q) (s ++ t)
  | preferred {p q : Pattern} {s : List Char} (h : Matches p s) : Matches (.either p q) s
  | other {p q : Pattern} {s : List Char} (h : Matches q s) : Matches (.either p q) s
  | absent (p : Pattern) : Matches (.optional p) []
  | present {p : Pattern} {s : List Char} (h : Matches p s) : Matches (.optional p) s
  | none (p : Pattern) : Matches (.many p) []
  | more {p : Pattern} {s t : List Char} (first : Matches p s) (others : Matches (.many p) t) :
      Matches (.many p) (s ++ t)

/-- What a repeated step can leave of a text, most repetitions first; at most `bound` of them. -/
def repeated (step : List Char → List (List Char)) : Nat → List Char → List (List Char)
  | 0, text => [text]
  | bound + 1, text =>
    ((step text).filter fun rest => rest.length < text.length).flatMap (repeated step bound)
      ++ [text]

/-- What a pattern can leave of a text when it is matched at its head, best match first. -/
def rests : Pattern → List Char → List (List Char)
  | .char _, [] => []
  | .char accepts, c :: rest => if accepts c then [rest] else []
  | .word fixed, text => if fixed.isPrefixOf text then [text.drop fixed.length] else []
  | .seq p q, text => (rests p text).flatMap (rests q)
  | .either p q, text => rests p text ++ rests q text
  | .optional p, text => rests p text ++ [text]
  | .many p, text => repeated (rests p) text.length text

/-- What the search leaves of a text, `none` if the pattern does not match at its head. -/
def search (p : Pattern) (text : List Char) : Option (List Char) := (p.rests text).head?

end Pattern

end ChordChart.Text
