/-
  File:      ChordChart/Key/Name.lean
  Subject:   Reading a key from the name a user types.

  A name is tidied first: blanks at the ends go, the first letter becomes
  a capital, and in a minor name the rest becomes small and the marker
  `min` becomes `m`.  A major name keeps its rest as typed.  Of the tidy
  name only the tonic at its head has to be right; what follows is ignored
  except for an `m` at the very end, which makes the key minor.
-/
import ChordChart.Key.Basic
import ChordChart.Text.Blank
import ChordChart.Text.Lowercase
import ChordChart.Text.Uppercase

namespace ChordChart.Key

/-! ## 1. Tidying -/

/-- A lower case name that ends in a minor marker, `m` or `min`. -/
def endsMinor (name : List Char) : Bool :=
  ['m'].isSuffixOf name || ['m', 'i', 'n'].isSuffixOf name

/-- The text with its first `min` cut down to `m`. -/
def shortenMarker : List Char → List Char
  | [] => []
  | 'm' :: 'i' :: 'n' :: rest => 'm' :: rest
  | c :: rest => c :: shortenMarker rest

/-- The name in the form in which a key is looked up. -/
def tidyName (name : List Char) : List Char :=
  match Text.trimmed name with
  | [] => []
  | first :: rest =>
    Text.uppercaseChar first ++
      if endsMinor (Text.lowercase (first :: rest)) then shortenMarker (Text.lowercase rest)
      else rest

/-! ## 2. Look-up -/

/-- Why a name is not that of a key. -/
inductive NameError where
  /-- The name has no characters besides blanks. -/
  | blank
  /-- The name, here as it was typed, does not start with a tonic. -/
  | unknownTonic (name : String)
  deriving DecidableEq, Repr

/-- The wording of a name error. -/
def NameError.message : NameError → String
  | .blank => "Key name is empty"
  | .unknownTonic name => "Unknown key root in '" ++ name ++ "'"

/-- The mode that a tidy name asks for. -/
def modeOfTidy (tidy : List Char) : Mode :=
  if ['m'].isSuffixOf tidy then .minor else .major

/-- The key that a user's text names. -/
def ofName (name : String) : Except NameError Key :=
  let tidy := tidyName name.toList
  if tidy.isEmpty then .error .blank
  else
    match Tonic.leading? tidy with
    | some (tonic, _) => .ok ⟨tonic, modeOfTidy tidy⟩
    | none => .error (.unknownTonic name)

end ChordChart.Key
