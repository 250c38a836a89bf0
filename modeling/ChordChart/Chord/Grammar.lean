/-
  File:      ChordChart/Chord/Grammar.lean
  Subject:   The grammar of chord symbols.

  A part is a root letter with an optional sign, then an optional marker,
  any number of fragments and any number of alterations.  A chord is a
  part, and optionally a slash and a second part.
-/
import ChordChart.Text.Pattern

namespace ChordChart.Grammar

open ChordChart.Text

/-- One of a few characters. -/
def oneOf (chars : List Char) : Pattern := .char chars.contains

/-- A decimal digit. -/
def digit : Pattern := .char Char.isDigit

/-- Digits, at least one. -/
def number : Pattern := .seq digit (.many digit)

/-- A sharp or a flat sign. -/
def sign : Pattern := oneOf ['b', '#']

/-- A root letter with an optional sign. -/
def root : Pattern := .seq (.char fun c => 'A' ≤ c && c ≤ 'G') (.optional sign)

/-- The letters of a fragment. -/
def stem : Pattern :=
  .either (.word ['a', 'j']) <| .either (.word ['i', 'n']) <|
    .either (.seq (.word ['s', 'u', 's']) (.optional (oneOf ['2', '4']))) <|
      .either (.word ['a', 'u', 'g']) <| .either (.word ['d', 'i', 'm']) (.word ['a', 'd', 'd'])

/-- A stem with optional digits, or a number by itself. -/
def fragment : Pattern := .either (.seq stem (.many digit)) number

/-- A sign with a number. -/
def alteration : Pattern := .seq sign number

/-- What stands behind a root. -/
def quality : Pattern :=
  .seq (.optional (oneOf ['m', 'M'])) (.seq (.many fragment) (.many alteration))

/-- A root with its quality. -/
def part : Pattern := .seq root quality

/-- A chord symbol. -/
def chord : Pattern := .seq part (.optional (.seq (.word ['/']) part))

end ChordChart.Grammar
