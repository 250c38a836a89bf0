/-
  File:      ChordChart/Json/Basic.lean
  Subject:   JSON values and the shapes in which data are looked for.

  Two shapes recur.  A choice is its name as a string, or an object whose
  only field has that name and holds null.  A record is an object with its
  fields by name, each once, in any order and among others, or an array
  with exactly its fields in order.
-/

namespace ChordChart

/-- A JSON value; numbers with a fraction or an exponent are kept as written. -/
inductive Json where
  | null
  | bool (value : Bool)
  | int (value : Int)
  | real (literal : String)
  | str (text : String)
  | arr (items : List Json)
  | obj (fields : List (String × Json))

namespace Json

/-- The text of a string. -/
def text? : Json → Option String
  | .str text => some text
  | _ => none

/-- The value of an integer that is not negative and fits 64 bits. -/
def word? : Json → Option Nat
  | .int (.ofNat value) => if value < UInt64.size then some value else none
  | _ => none

/-- The name of a choice. -/
def choice? : Json → Option String
  | .str name => some name
  | .obj [(name, .null)] => some name
  | _ => none

/-- The value of the field with a name, if no other field has the name. -/
def field? (fields : List (String × Json)) (name : String) : Option Json :=
  match fields.filter fun field => field.1 == name with
  | [(_, value)] => some value
  | _ => none

/-- The values of a record's fields, in the order of their names. -/
def record? (names : List String) : Json → Option (List Json)
  | .obj fields => names.mapM (field? fields)
  | .arr items => if items.length = names.length then some items else none
  | _ => none

end Json

/-- Data that are written to JSON in one shape and read from every shape that is allowed. -/
class Coded (α : Type) where
  toJson : α → Json
  ofJson? : Json → Option α

/-- A JSON value after it was read as data of a type and these were written again. -/
def Coded.recode? (α : Type) [Coded α] (json : Json) : Option Json :=
  (Coded.ofJson? json : Option α).map Coded.toJson

end ChordChart
