import SheetActions.Json.Shown

/-! Schemas for the arguments of tools.

A schema lists the properties that an object of arguments can have, each with a
kind of value and sometimes a choice of texts, and says which of them are required.
Other properties are allowed. `mismatch?` finds what is wrong with some arguments:
a required property that is missing, or else the property that does not fit whose
name is the last in order. -/
namespace SheetActions

/-- The kinds of values of properties. -/
inductive ValueKind where
  | text
  | truth
  | whole
deriving DecidableEq, Repr

namespace ValueKind

def word : ValueKind → String
  | .text => "string"
  | .truth => "boolean"
  | .whole => "integer"

/-- Whether a value is of the kind; a floating-point number that is an integer is whole. -/
def admits : ValueKind → Json → Bool
  | .text, .text _ => true
  | .truth, .boolean _ => true
  | .whole, .integer _ => true
  | .whole, .float x => x.toInt?.isSome
  | _, _ => false

end ValueKind

/-- A property that an object of arguments can have. -/
structure Property where
  name : String
  kind : ValueKind
  description : Option String := none
  /-- The texts to choose from; without any, every value of the kind fits. -/
  choices : List String := []
  default : Option Json := none

structure Schema where
  properties : List Property
  required : List String

/-- Why arguments do not fit a schema. -/
inductive Mismatch where
  | missing (name : String)
  | wrongKind (value : Json) (kind : ValueKind)
  | notAChoice (value : Json) (choices : List String)

def Mismatch.message : Mismatch → String
  | .missing name => Text.quoted name ++ " is a required property"
  | .wrongKind value kind => value.shown ++ " is not of type " ++ Text.quoted kind.word
  | .notAChoice value choices =>
    value.shown ++ " is not one of " ++ (Json.array (choices.map .text)).shown

namespace Property

/-- Whether a value is one of the choices. -/
def isChoice (p : Property) : Json → Bool
  | .text s => p.choices.contains s
  | _ => false

/-- Why a value does not fit the property. -/
def mismatch? (p : Property) (value : Json) : Option Mismatch :=
  if !p.kind.admits value then some (.wrongKind value p.kind)
  else if !p.choices.isEmpty && !p.isChoice value then some (.notAChoice value p.choices)
  else none

/-- The property as data, with its name. -/
def toJson (p : Property) : String × Json :=
  let description := p.description.toList.map fun s => ("description", Json.text s)
  let choices := if p.choices.isEmpty then [] else [("enum", Json.array (p.choices.map .text))]
  let default := p.default.toList.map fun v => ("default", v)
  (p.name, .object (("type", .text p.kind.word) :: (description ++ choices ++ default)))

end Property

namespace Schema

/-- The first required property that is missing. -/
def missing? (s : Schema) (arguments : Json) : Option Mismatch :=
  (s.required.find? fun name => (arguments.field? name).isNone).map .missing

/-- The properties that do not fit, with the reasons. -/
def misfits (s : Schema) (arguments : Json) : List (String × Mismatch) :=
  s.properties.filterMap fun p => do
    let value ← arguments.field? p.name
    let mismatch ← p.mismatch? value
    return (p.name, mismatch)

/-- The misfit whose name is the last in order. -/
def lastMisfit? (s : Schema) (arguments : Json) : Option (String × Mismatch) :=
  (s.misfits arguments).foldl (fun last? misfit =>
    match last? with
    | none => some misfit
    | some last => some (if last.1 < misfit.1 then misfit else last)) none

/-- Why arguments do not fit the schema. -/
def mismatch? (s : Schema) (arguments : Json) : Option Mismatch :=
  (s.missing? arguments).or ((s.lastMisfit? arguments).map (·.2))

/-- Whether arguments fit the schema. -/
def accepts (s : Schema) (arguments : Json) : Bool :=
  (s.missing? arguments).isNone && (s.misfits arguments).isEmpty

/-- The schema as data. -/
def toJson (s : Schema) : Json :=
  .object [("type", .text "object"), ("properties", .object (s.properties.map Property.toJson)),
    ("required", .array (s.required.map .text))]

end Schema

end SheetActions
