/-! # JSON values

A number is either a natural number written with digits only, or any other JSON number, which is
kept as it was written: the readers of this library take natural numbers and refuse the rest.
An object lists its fields in order, and the last field of a name is the one that counts.
-/

namespace KubeSim

inductive Json where
  | null
  | bool (value : Bool)
  | natural (value : Nat)
  | otherNumber (text : String)
  | string (value : String)
  | array (items : List Json)
  | object (fields : List (String × Json))

namespace Json

/-- The value of the last field with this name. -/
def field? (name : String) (fields : List (String × Json)) : Option Json :=
  (fields.reverse.find? fun field => field.1 = name).map (·.2)

def string? : Json → Option String
  | .string value => some value
  | _ => none

def bool? : Json → Option Bool
  | .bool value => some value
  | _ => none

/-- The value of a natural number below `bound`. -/
def naturalBelow? (bound : Nat) : Json → Option Nat
  | .natural value => if value < bound then some value else none
  | _ => none

def uint8? (json : Json) : Option UInt8 := (json.naturalBelow? UInt8.size).map UInt8.ofNat

def uint32? (json : Json) : Option UInt32 := (json.naturalBelow? UInt32.size).map UInt32.ofNat

/-- The items of an array, each read by `item`. -/
def list? {α : Type} (item : Json → Option α) : Json → Option (List α)
  | .array items => items.mapM item
  | _ => none

/-- The values of a record with these field names, in the order of the names. A record is written
as an object, whose further fields are ignored, or as the array of its values. A missing field is
`none`; in an array none is missing. -/
def record? (names : List String) : Json → Option (List (Option Json))
  | .object fields => some (names.map fun name => field? name fields)
  | .array items => if items.length = names.length then some (items.map some) else none
  | _ => none

/-- The name of a variant and its content: a bare string, or an object with one field. -/
def variant? : Json → Option (String × Option Json)
  | .string name => some (name, none)
  | .object [(name, content)] => some (name, some content)
  | _ => none

end Json

end KubeSim
