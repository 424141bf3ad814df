import SheetActions.Number.Binary64

/-! JSON values.

Integers and floating-point numbers are kept apart, since a numeral with a point
or an exponent is never an integer. The fields of an object keep their order, and
a name occurs once. -/
namespace SheetActions

inductive Json where
  | null
  | boolean (b : Bool)
  | integer (n : Int)
  | float (x : Binary64)
  | text (s : String)
  | array (items : List Json)
  | object (fields : List (String × Json))
deriving Inhabited

namespace Json

/-- The value of a field of an object. -/
def field? (name : String) : Json → Option Json
  | .object fields => fields.lookup name
  | _ => none

/-- Gives a name a new value: in its place if the name is there, else at the end. -/
def setField (fields : List (String × Json)) (name : String) (value : Json) :
    List (String × Json) :=
  if fields.any (·.1 == name) then
    fields.map fun f => if f.1 == name then (name, value) else f
  else fields ++ [(name, value)]

/-- An object from fields of which a later one replaces an earlier one of its name. -/
def ofFields (fields : List (String × Json)) : Json :=
  .object (fields.foldl (fun fs f => setField fs f.1 f.2) [])

mutual

/-- Whether all numbers in a value are finite, so that it can be sent as JSON. -/
def isFinite : Json → Bool
  | .float x => x.isFinite
  | .array items => areFinite items
  | .object fields => fieldsAreFinite fields
  | _ => true

def areFinite : List Json → Bool
  | [] => true
  | item :: items => item.isFinite && areFinite items

def fieldsAreFinite : List (String × Json) → Bool
  | [] => true
  | (_, value) :: fields => value.isFinite && fieldsAreFinite fields

end

/-- The text, or null. -/
def ofText? : Option String → Json
  | some s => .text s
  | none => .null

end Json

end SheetActions
